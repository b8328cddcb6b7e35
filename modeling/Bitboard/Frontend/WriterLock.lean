/-
# The writer lock of the tabs

Every tab has a writer lock of its own over one exclusive name of `navigator.locks`. A
call that finds the hold depth of its tab above zero runs its work at once; the others
form a chain of write turns, and the first of them asks for the name. The hold depth
counts the works that were started under the name, not the ones that ran directly during
the hold. So the name is given back when the work that asked for it settles, whatever
else of that tab still runs.
-/

import Bitboard.Lib.Run
import Mathlib.Logic.Function.Basic

namespace Bitboard.Frontend

open Bitboard.Lib

/-- How a work came to run: called directly by `withWriterLock` during a hold, called
directly by `runExclusive` in its write turn, or under the lock by `runWithHoldDepth`. -/
inductive WorkStart
  | withWriterLock
  | runExclusive
  | runWithHoldDepth
  deriving DecidableEq

section WriterLock

variable {Tab Call : Type}

/-- The variables of one tab's lock. `writeTurn` is the call that `sameTabWriteChain` has
let into `runExclusive` and that has not settled, `waitingTurns` are the calls behind it. -/
structure WriterTab (Call : Type) where
  holdDepth : Nat
  writeTurn : Option Call
  waitingTurns : List Call

structure WriterWork (Tab Call : Type) where
  tab : Tab
  call : Call
  start : WorkStart
  deriving DecidableEq

/-- The callback that holds the exclusive name. The name is given back some time after
the promise of the callback has settled. -/
structure LockHolder (Tab : Type) where
  tab : Tab
  settled : Bool

def LockHolder.settle (held : LockHolder Tab) : LockHolder Tab :=
  { held with settled := true }

/-- The tabs, the pending requests for the name, its holder and the works that run. -/
structure WriterSystem (Tab Call : Type) where
  tabs : Tab → WriterTab Call
  requested : List (Tab × Call)
  holder : Option (LockHolder Tab)
  running : List (WriterWork Tab Call)

def initialWriterSystem : WriterSystem Tab Call where
  tabs := fun _ => { holdDepth := 0, writeTurn := none, waitingTurns := [] }
  requested := []
  holder := none
  running := []

/-- What can happen next: a call in a tab, the turn of the first waiting call of a tab, a
grant of the name, the settling of a work, and the return of the name. -/
inductive WriterOp (Tab Call : Type)
  | withWriterLock (tab : Tab) (call : Call)
  | takeTurn (tab : Tab)
  | grant (tab : Tab) (call : Call)
  | settle (work : WriterWork Tab Call)
  | release

variable [DecidableEq Tab]

namespace WriterSystem

variable (system : WriterSystem Tab Call)
variable (tab : Tab)

def setTab (vars : WriterTab Call) : WriterSystem Tab Call :=
  { system with tabs := Function.update system.tabs tab vars }

def startWork (work : WriterWork Tab Call) : WriterSystem Tab Call :=
  { system with running := system.running ++ [work] }

def isWriterLockHeld : Bool :=
  decide (0 < (system.tabs tab).holdDepth)

/-- A call in a tab: the work runs at once during a hold, else it joins the chain. -/
def withWriterLock (call : Call) : WriterSystem Tab Call :=
  if 0 < (system.tabs tab).holdDepth then
    system.startWork { tab := tab, call := call, start := .withWriterLock }
  else
    system.setTab tab
      { system.tabs tab with waitingTurns := (system.tabs tab).waitingTurns ++ [call] }

/-- The turn of a call: its work runs at once during a hold, else the name is asked for. -/
def runExclusive (call : Call) : WriterSystem Tab Call :=
  if 0 < (system.tabs tab).holdDepth then
    system.startWork { tab := tab, call := call, start := .runExclusive }
  else
    { system with requested := system.requested ++ [(tab, call)] }

/-- The chain of a tab moves on once the turn before has settled. -/
def takeTurn : WriterSystem Tab Call :=
  match (system.tabs tab).writeTurn, (system.tabs tab).waitingTurns with
  | none, call :: waitingTurns =>
    (system.setTab tab
      { system.tabs tab with
        writeTurn := some call
        waitingTurns := waitingTurns }).runExclusive tab call
  | _, _ => system

/-- The name is free and is granted to one of the requests, whose callback is
`runWithHoldDepth`. -/
def grant [DecidableEq Call] (call : Call) : WriterSystem Tab Call :=
  if system.holder = none ∧ (tab, call) ∈ system.requested then
    ({ system with
        requested := system.requested.erase (tab, call)
        holder := some { tab := tab, settled := false } }.setTab tab
      { system.tabs tab with holdDepth := (system.tabs tab).holdDepth + 1 }).startWork
      { tab := tab, call := call, start := .runWithHoldDepth }
  else system

/-- The promise of a work settles. A work under the lock takes the hold depth down and
settles the callback; one that ran in its turn settles the turn. -/
def settle [DecidableEq Call] (work : WriterWork Tab Call) : WriterSystem Tab Call :=
  if work ∈ system.running then
    let rest : WriterSystem Tab Call :=
      { system with running := system.running.erase work }
    match work.start with
    | .withWriterLock => rest
    | .runExclusive =>
      rest.setTab work.tab { system.tabs work.tab with writeTurn := none }
    | .runWithHoldDepth =>
      { rest with holder := system.holder.map LockHolder.settle }.setTab work.tab
        { system.tabs work.tab with holdDepth := (system.tabs work.tab).holdDepth - 1 }
  else system

/-- The name is given back after the callback has settled, which settles the write turn. -/
def release : WriterSystem Tab Call :=
  match system.holder with
  | some { tab, settled := true } =>
    { system with holder := none }.setTab tab { system.tabs tab with writeTurn := none }
  | _ => system

end WriterSystem

def writerStep [DecidableEq Call] (system : WriterSystem Tab Call) :
    WriterOp Tab Call → WriterSystem Tab Call
  | .withWriterLock tab call => system.withWriterLock tab call
  | .takeTurn tab => system.takeTurn tab
  | .grant tab call => system.grant tab call
  | .settle work => system.settle work
  | .release => system.release

/-- The secrets store asks whether the lock is held and calls the work itself if so. -/
def withWalletSecretsWriterLock (system : WriterSystem Tab Call) (tab : Tab) (call : Call) :
    WriterSystem Tab Call :=
  if system.isWriterLockHeld tab then
    system.startWork { tab := tab, call := call, start := .withWriterLock }
  else system.withWriterLock tab call

theorem withWalletSecretsWriterLock_eq (system : WriterSystem Tab Call) (tab : Tab)
    (call : Call) :
    withWalletSecretsWriterLock system tab call = system.withWriterLock tab call := by
  unfold withWalletSecretsWriterLock WriterSystem.isWriterLockHeld
    WriterSystem.withWriterLock
  by_cases hheld : 0 < (system.tabs tab).holdDepth
  · simp [hheld]
  · simp [hheld]

/-- The works that run at the same time are all of one tab. -/
def WriterSystem.RunsOneTab (system : WriterSystem Tab Call) : Prop :=
  ∀ first ∈ system.running, ∀ second ∈ system.running, first.tab = second.tab

/-- A work under the lock settles only when nothing else of its tab still runs. -/
def OutlivesDirectWorks [DecidableEq Call] (system : WriterSystem Tab Call) :
    WriterOp Tab Call → Prop
  | .settle work =>
    work.start = .runWithHoldDepth →
      ∀ other ∈ system.running.erase work, other.tab ≠ work.tab
  | _ => True

/-! ## The invariant -/

/-- The tab whose work holds the name and has not settled. -/
def holdingTab : Option (LockHolder Tab) → Option Tab
  | some { tab, settled := false } => some tab
  | _ => none

/-- A tab's hold depth is one while its work holds the name and zero otherwise, and only
the works of that tab run. -/
structure WriterSystem.Excludes (system : WriterSystem Tab Call) : Prop where
  holdDepth : ∀ tab, (system.tabs tab).holdDepth =
    if holdingTab system.holder = some tab then 1 else 0
  running : ∀ work ∈ system.running, holdingTab system.holder = some work.tab

variable {system : WriterSystem Tab Call}

theorem excludes_initial : (initialWriterSystem : WriterSystem Tab Call).Excludes where
  holdDepth := by
    intro tab
    simp [initialWriterSystem, holdingTab]
  running := by
    intro work hwork
    cases hwork

theorem WriterSystem.Excludes.runsOneTab (h : system.Excludes) : system.RunsOneTab := by
  intro first hfirst second hsecond
  have hsame := (h.running first hfirst).symm.trans (h.running second hsecond)
  exact Option.some.inj hsame

theorem WriterSystem.Excludes.holdingTab_of_pos (h : system.Excludes) {tab : Tab}
    (hheld : 0 < (system.tabs tab).holdDepth) : holdingTab system.holder = some tab := by
  rw [h.holdDepth tab] at hheld
  by_contra hother
  simp [hother] at hheld

theorem WriterSystem.Excludes.of_same (h : system.Excludes) {next : WriterSystem Tab Call}
    (hdepth : ∀ tab, (next.tabs tab).holdDepth = (system.tabs tab).holdDepth)
    (hholding : holdingTab next.holder = holdingTab system.holder)
    (hrunning : ∀ work ∈ next.running, work ∈ system.running ∨
      holdingTab system.holder = some work.tab) : next.Excludes where
  holdDepth := by
    intro tab
    rw [hdepth tab, hholding]
    exact h.holdDepth tab
  running := by
    intro work hwork
    rw [hholding]
    cases hrunning work hwork with
    | inl hbefore => exact h.running work hbefore
    | inr hstarted => exact hstarted

theorem holdDepth_update {tabs : Tab → WriterTab Call} {tab : Tab} {vars : WriterTab Call}
    (hsame : vars.holdDepth = (tabs tab).holdDepth) (other : Tab) :
    (Function.update tabs tab vars other).holdDepth = (tabs other).holdDepth := by
  by_cases hother : other = tab
  · subst hother
    simpa using hsame
  · simp [Function.update_of_ne hother]

section

variable (h : system.Excludes)
include h

theorem WriterSystem.Excludes.startWork {work : WriterWork Tab Call}
    (hheld : 0 < (system.tabs work.tab).holdDepth) : (system.startWork work).Excludes := by
  apply h.of_same
  · intro tab
    rfl
  · rfl
  · intro other hother
    rcases List.mem_append.mp hother with hbefore | hnew
    · exact Or.inl hbefore
    · rw [List.mem_singleton.mp hnew]
      exact Or.inr (h.holdingTab_of_pos hheld)

theorem WriterSystem.Excludes.setTab {tab : Tab} {vars : WriterTab Call}
    (hsame : vars.holdDepth = (system.tabs tab).holdDepth) : (system.setTab tab vars).Excludes := by
  apply h.of_same
  · exact holdDepth_update hsame
  · rfl
  · intro work hwork
    exact Or.inl hwork

theorem excludes_withWriterLock (tab : Tab) (call : Call) :
    (system.withWriterLock tab call).Excludes := by
  unfold WriterSystem.withWriterLock
  split
  · rename_i hheld
    exact h.startWork hheld
  · exact h.setTab rfl

theorem excludes_runExclusive (tab : Tab) (call : Call) :
    (system.runExclusive tab call).Excludes := by
  unfold WriterSystem.runExclusive
  split
  · rename_i hheld
    exact h.startWork hheld
  · exact { holdDepth := h.holdDepth, running := h.running }

theorem excludes_takeTurn (tab : Tab) : (system.takeTurn tab).Excludes := by
  unfold WriterSystem.takeTurn
  split
  · apply excludes_runExclusive
    exact h.setTab rfl
  · exact h

theorem WriterSystem.Excludes.idle (hfree : system.holder = none) :
    (∀ tab, (system.tabs tab).holdDepth = 0) ∧ ∀ work, work ∉ system.running := by
  have hnobody : holdingTab system.holder = none := by
    simp [holdingTab, hfree]
  constructor
  · intro tab
    simp [h.holdDepth tab, hnobody]
  · intro work hwork
    have hholding := h.running work hwork
    rw [hnobody] at hholding
    cases hholding

theorem WriterSystem.Excludes.erase [DecidableEq Call] (work : WriterWork Tab Call) :
    ({ system with running := system.running.erase work } : WriterSystem Tab Call).Excludes where
  holdDepth := h.holdDepth
  running := by
    intro other hother
    exact h.running other (List.mem_of_mem_erase hother)

end

omit [DecidableEq Tab] in
theorem holdingTab_settled (holder : Option (LockHolder Tab)) :
    holdingTab (holder.map LockHolder.settle) = none := by
  cases holder with
  | none | some => rfl

variable [DecidableEq Call]

theorem excludes_grant (h : system.Excludes) (tab : Tab) (call : Call) :
    (system.grant tab call).Excludes := by
  unfold WriterSystem.grant
  split
  · rename_i hgranted
    have hidle := h.idle hgranted.1
    constructor
    · intro other
      show (Function.update system.tabs tab _ other).holdDepth =
        if some tab = some other then 1 else 0
      by_cases hother : other = tab
      · subst hother
        simp [hidle.1]
      · simp [Function.update_of_ne hother, hidle.1, Ne.symm hother]
    · intro work hwork
      rcases List.mem_append.mp hwork with hbefore | hnew
      · exact absurd hbefore (hidle.2 work)
      · rw [List.mem_singleton.mp hnew]
        rfl
  · exact h

/-- The settled work was the last of its tab, so nothing runs and no hold is left. -/
theorem excludes_settleHeld (h : system.Excludes) {work : WriterWork Tab Call}
    (hruns : work ∈ system.running)
    (hlast : ∀ other ∈ system.running.erase work, other.tab ≠ work.tab) :
    (({ system with
          running := system.running.erase work
          holder := system.holder.map LockHolder.settle } :
        WriterSystem Tab Call).setTab work.tab
      { system.tabs work.tab with
        holdDepth := (system.tabs work.tab).holdDepth - 1 }).Excludes := by
  have hholding := h.running work hruns
  constructor
  · intro tab
    have hdepth := h.holdDepth tab
    rw [hholding] at hdepth
    show (Function.update system.tabs work.tab _ tab).holdDepth =
      if holdingTab (system.holder.map LockHolder.settle) = some tab then 1 else 0
    rw [holdingTab_settled]
    by_cases htab : tab = work.tab
    · subst htab
      simp [hdepth]
    · simp [Function.update_of_ne htab, hdepth, Ne.symm htab]
  · intro other hother
    have hsame := (h.running other (List.mem_of_mem_erase hother)).symm.trans hholding
    exact absurd (Option.some.inj hsame) (hlast other hother)

theorem excludes_settle (h : system.Excludes) (work : WriterWork Tab Call)
    (hlast : OutlivesDirectWorks system (.settle work)) : (system.settle work).Excludes := by
  unfold WriterSystem.settle
  split
  · rename_i hruns
    cases hstart : work.start with
    | withWriterLock => exact h.erase work
    | runExclusive => exact (h.erase work).setTab rfl
    | runWithHoldDepth => exact excludes_settleHeld h hruns (hlast hstart)
  · exact h

omit [DecidableEq Call] in
theorem excludes_release (h : system.Excludes) : system.release.Excludes := by
  unfold WriterSystem.release
  split
  · rename_i tab hholder
    apply h.of_same
    · exact holdDepth_update rfl
    · show none = holdingTab system.holder
      simp [holdingTab, hholder]
    · intro work hwork
      exact Or.inl hwork
  · exact h

theorem excludes_writerStep (system : WriterSystem Tab Call) (op : WriterOp Tab Call)
    (hlast : OutlivesDirectWorks system op) (h : system.Excludes) :
    (writerStep system op).Excludes := by
  cases op with
  | withWriterLock tab call => exact excludes_withWriterLock h tab call
  | takeTurn tab => exact excludes_takeTurn h tab
  | grant tab call => exact excludes_grant h tab call
  | settle work => exact excludes_settle h work hlast
  | release => exact excludes_release h

/-- As long as no work under the lock settles before the works that ran directly during its
hold, the works of two tabs never run at the same time. -/
theorem runsOneTab_of_outlivesDirectWorks (ops : List (WriterOp Tab Call))
    (hlast : RunMeets writerStep OutlivesDirectWorks initialWriterSystem ops) :
    (run writerStep initialWriterSystem ops).RunsOneTab :=
  (run_invariant_of_runMeets WriterSystem.Excludes excludes_writerStep excludes_initial
    hlast).runsOneTab

end WriterLock

def nestedCall : List (WriterOp Bool Nat) :=
  [.withWriterLock false 0, .takeTurn false, .grant false 0, .withWriterLock false 1]

def nestedSettlesFirst : List (WriterOp Bool Nat) :=
  nestedCall ++
    ([.settle { tab := false, call := 1, start := .withWriterLock },
      .settle { tab := false, call := 0, start := .runWithHoldDepth }, .release,
      .withWriterLock true 2, .takeTurn true, .grant true 2] : List (WriterOp Bool Nat))

theorem runsOneTab_nestedSettlesFirst :
    (run writerStep initialWriterSystem nestedSettlesFirst).RunsOneTab ∧
      (run writerStep initialWriterSystem nestedSettlesFirst).running =
        [{ tab := true, call := 2, start := .runWithHoldDepth }] := by
  refine ⟨runsOneTab_of_outlivesDirectWorks nestedSettlesFirst ?_, by decide⟩
  refine ⟨trivial, trivial, trivial, trivial, ?_, ?_, trivial, trivial, trivial, trivial, trivial⟩
  · intro hstart
    cases hstart
  · intro _ other hother
    cases hother

def holderSettlesFirst : List (WriterOp Bool Nat) :=
  nestedCall ++
    [.settle { tab := false, call := 0, start := .runWithHoldDepth }, .release,
      .withWriterLock true 2, .takeTurn true, .grant true 2]

theorem not_runsOneTab_holderSettlesFirst :
    ¬ (run writerStep initialWriterSystem holderSettlesFirst).RunsOneTab := by
  have hrunning : (run writerStep initialWriterSystem holderSettlesFirst).running =
      [{ tab := false, call := 1, start := .withWriterLock },
        { tab := true, call := 2, start := .runWithHoldDepth }] := by decide
  intro h
  have hsame := h { tab := false, call := 1, start := .withWriterLock } (by simp [hrunning])
    { tab := true, call := 2, start := .runWithHoldDepth } (by simp [hrunning])
  cases hsame

end Bitboard.Frontend
