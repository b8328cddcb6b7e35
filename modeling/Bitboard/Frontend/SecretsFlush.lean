/-
# The flush of the secrets writes

A write of the wallet secrets first asks for the writer lock of its tab. Only once its work
starts does it enter the queue of the critical section, and with it the set of tracked
writes that a flush waits for. A flush returns as soon as it finds that set empty, so it
misses exactly the writes that still wait for the lock.
-/

import Bitboard.Frontend.WriterLock

namespace Bitboard.Frontend

open Bitboard.Lib

section SecretsFlushes

variable {Tab Id : Type}

/-- A work of the critical section of the secrets, or one that takes the writer lock alone. -/
inductive SecretsWriteKind
  | criticalSection
  | writerLockOnly
  deriving DecidableEq

/-- A write waits for the lock, is in the queue or runs, and settles. -/
inductive SecretsWritePhase
  | requested
  | started
  | settled
  deriving DecidableEq

/-- A write, with the number of writes that were requested before it. -/
structure SecretsWrite (Tab : Type) where
  tab : Tab
  kind : SecretsWriteKind
  phase : SecretsWritePhase
  number : Nat

/-- A flush, with the number of writes that had been requested when it started. -/
structure SecretsFlushStart (Tab : Type) where
  tab : Tab
  callsBefore : Nat

inductive SecretsFlush (Tab Id : Type)
  | waiting (start : SecretsFlushStart Tab) (snapshot : List Id)
  | returned
  | deadlineReached

structure SecretsFlushSystem (Tab Id : Type) where
  lock : WriterSystem Tab Id
  writes : Id → Option (SecretsWrite Tab)
  calls : Nat
  pendingWalletSecretsWrites : Tab → List Id
  flushes : Id → Option (SecretsFlush Tab Id)

def initialSecretsFlushSystem : SecretsFlushSystem Tab Id where
  lock := initialWriterSystem
  writes := fun _ => none
  calls := 0
  pendingWalletSecretsWrites := fun _ => []
  flushes := fun _ => none

namespace SecretsFlushSystem

variable (system : SecretsFlushSystem Tab Id)

def inPhase (phase : SecretsWritePhase) (id : Id) : Bool :=
  match system.writes id with
  | some write => decide (write.phase = phase)
  | none => false

variable [DecidableEq Tab] [DecidableEq Id]

omit [DecidableEq Id] in
/-- The write enters the critical section of the tab when its work starts. -/
def startsCriticalSection (tab : Tab) (id : Id) : Bool :=
  match system.writes id with
  | some write =>
    decide (write.phase = .requested ∧ write.kind = .criticalSection ∧ write.tab = tab)
  | none => false

variable (id : Id)
variable (write : SecretsWrite Tab)

omit [DecidableEq Tab] in
def setWrite : SecretsFlushSystem Tab Id :=
  { system with writes := Function.update system.writes id (some write) }

omit [DecidableEq Tab] in
def setFlush (flush : SecretsFlush Tab Id) : SecretsFlushSystem Tab Id :=
  { system with flushes := Function.update system.flushes id (some flush) }

/-- The lock moves. The works that it has started run, and those of the critical section are
tracked from their entry into the queue on: `withWalletSecretsCriticalSection`. -/
def moveLock (lock : WriterSystem Tab Id) : SecretsFlushSystem Tab Id :=
  { system with
    lock := lock
    writes := fun id => (system.writes id).map fun write =>
      if write.phase = .requested ∧ id ∈ lock.running.map WriterWork.call then
        { write with phase := .started }
      else write
    pendingWalletSecretsWrites := fun tab =>
      system.pendingWalletSecretsWrites tab ++
        (lock.running.map WriterWork.call).filter (system.startsCriticalSection tab) }

def request (tab : Tab) (id : Id) (kind : SecretsWriteKind) : SecretsFlushSystem Tab Id :=
  ({ system.setWrite id
        { tab := tab, kind := kind, phase := .requested, number := system.calls } with
      calls := system.calls + 1 }).moveLock (withWalletSecretsWriterLock system.lock tab id)

omit [DecidableEq Tab] in
/-- The queue of a tab lets one work run at a time; a work outside of it runs freely. -/
def hasTurn : Bool :=
  match write.kind with
  | .criticalSection =>
    decide ((system.pendingWalletSecretsWrites write.tab).find? (system.inPhase .started) = some id)
  | .writerLockOnly => true

omit [DecidableEq Tab] in
/-- The work of a write settles. -/
def settleWrite : SecretsFlushSystem Tab Id :=
  if write.phase = .started ∧ system.hasTurn id write = true then
    system.setWrite id { write with phase := .settled }
  else system

/-- The promise of a tracked write removes itself once it has settled. -/
def untrack : SecretsFlushSystem Tab Id :=
  if write.phase = .settled then
    { system with
      pendingWalletSecretsWrites := Function.update system.pendingWalletSecretsWrites write.tab
        ((system.pendingWalletSecretsWrites write.tab).erase id) }
  else system

omit [DecidableEq Tab] in
/-- The head of the loop of `awaitInFlightWalletSecretsWrites`. -/
def look (start : SecretsFlushStart Tab) : SecretsFlushSystem Tab Id :=
  if system.pendingWalletSecretsWrites start.tab = [] then system.setFlush id .returned
  else system.setFlush id (.waiting start (system.pendingWalletSecretsWrites start.tab))

end SecretsFlushSystem

/-- What can happen next: a write or a flush is called, the lock moves, the work of a write
settles, its promise leaves the set, its lock request settles, and a flush goes on since all that
it waits for has settled or its deadline is reached. -/
inductive SecretsFlushOp (Tab Id : Type)
  | request (tab : Tab) (id : Id) (kind : SecretsWriteKind)
  | takeTurn (tab : Tab)
  | grant (tab : Tab) (id : Id)
  | settleWrite (id : Id)
  | untrack (id : Id)
  | settleLock (work : WriterWork Tab Id)
  | release
  | flush (tab : Tab) (id : Id)
  | wake (id : Id)
  | deadline (id : Id)

namespace SecretsFlushSystem

variable (system : SecretsFlushSystem Tab Id)

def looks : SecretsFlushOp Tab Id → Option (Id × SecretsFlushStart Tab)
  | .flush tab id =>
    match system.flushes id with
    | none => some (id, { tab := tab, callsBefore := system.calls })
    | some _ => none
  | .wake id =>
    match system.flushes id with
    | some (.waiting start snapshot) =>
      if snapshot.all (system.inPhase .settled) then some (id, start) else none
    | _ => none
  | _ => none

variable [DecidableEq Id]

/-- The promise that `trackWalletSecretsWrite` returns has settled. -/
def isUntracked (id : Id) : Bool :=
  match system.writes id with
  | some write =>
    decide (write.phase = .settled ∧ id ∉ system.pendingWalletSecretsWrites write.tab)
  | none => false

end SecretsFlushSystem

variable [DecidableEq Tab] [DecidableEq Id]

def secretsFlushStep (system : SecretsFlushSystem Tab Id) (op : SecretsFlushOp Tab Id) :
    SecretsFlushSystem Tab Id :=
  match op with
  | .request tab id kind =>
    match system.writes id with
    | none => system.request tab id kind
    | some _ => system
  | .takeTurn tab => system.moveLock (writerStep system.lock (.takeTurn tab))
  | .grant tab id => system.moveLock (writerStep system.lock (.grant tab id))
  | .settleWrite id =>
    match system.writes id with
    | some write => system.settleWrite id write
    | none => system
  | .untrack id =>
    match system.writes id with
    | some write => system.untrack id write
    | none => system
  | .settleLock work =>
    if system.isUntracked work.call then
      { system with lock := writerStep system.lock (.settle work) }
    else system
  | .release => { system with lock := writerStep system.lock .release }
  | .deadline id =>
    match system.flushes id with
    | some (.waiting _ _) => system.setFlush id .deadlineReached
    | _ => system
  | .flush _ _ | .wake _ =>
    match system.looks op with
    | some (id, start) => system.look id start
    | none => system

namespace SecretsFlushSystem

omit [DecidableEq Tab] [DecidableEq Id]

variable (system : SecretsFlushSystem Tab Id)

/-- A write of the critical section that was requested in the tab of a flush before it started. -/
def RequestedBefore (start : SecretsFlushStart Tab) (id : Id) (write : SecretsWrite Tab) : Prop :=
  system.writes id = some write ∧ write.kind = .criticalSection ∧ write.tab = start.tab ∧
    write.number < start.callsBefore

/-- A flush that returns before its deadline has seen the writes from before it settle. -/
def ReturnsSettled (op : SecretsFlushOp Tab Id) : Prop :=
  ∀ flush start, system.looks op = some (flush, start) →
    system.pendingWalletSecretsWrites start.tab = [] →
      ∀ id write, system.RequestedBefore start id write → write.phase = .settled

/-- When a flush finds the set empty, no write from before it waits for the lock. -/
def LooksInOrder (op : SecretsFlushOp Tab Id) : Prop :=
  ∀ flush start, system.looks op = some (flush, start) →
    system.pendingWalletSecretsWrites start.tab = [] →
      ∀ id write, system.RequestedBefore start id write → write.phase ≠ .requested

end SecretsFlushSystem

/-- Every work of the critical section that has started is tracked until it settles. -/
def SecretsFlushSystem.Tracks (system : SecretsFlushSystem Tab Id) : Prop :=
  ∀ id write, system.writes id = some write → write.kind = .criticalSection →
    write.phase = .started → id ∈ system.pendingWalletSecretsWrites write.tab

variable {system : SecretsFlushSystem Tab Id}

omit [DecidableEq Tab] [DecidableEq Id] in
theorem tracks_initial : (initialSecretsFlushSystem : SecretsFlushSystem Tab Id).Tracks := by
  intro id write hwrite
  cases hwrite

theorem SecretsFlushSystem.Tracks.moveLock (h : system.Tracks) (lock : WriterSystem Tab Id) :
    (system.moveLock lock).Tracks := by
  intro id moved hmoved hkind hstarted
  obtain ⟨write, hwrite, hmap⟩ := Option.map_eq_some_iff.mp hmoved
  split at hmap
  · rename_i hstarts
    subst hmap
    apply List.mem_append_right
    apply List.mem_filter.mpr
    refine ⟨hstarts.2, ?_⟩
    rw [SecretsFlushSystem.startsCriticalSection, hwrite]
    exact decide_eq_true ⟨hstarts.1, hkind, rfl⟩
  · subst hmap
    apply List.mem_append_left
    exact h id write hwrite hkind hstarted

omit [DecidableEq Tab] in
/-- A write that has not started, or has settled, is asked for nothing. -/
theorem SecretsFlushSystem.Tracks.setWrite (h : system.Tracks) {id : Id}
    {write : SecretsWrite Tab} (hphase : write.phase ≠ .started) :
    (system.setWrite id write).Tracks := by
  intro other found hfound hkind hstarted
  by_cases hother : other = id
  · subst hother
    cases (Function.update_self _ _ _).symm.trans hfound
    exact absurd hstarted hphase
  · exact h other found ((Function.update_of_ne hother _ _).symm.trans hfound) hkind hstarted

theorem SecretsFlushSystem.Tracks.request (h : system.Tracks) (tab : Tab) (id : Id)
    (kind : SecretsWriteKind) : (system.request tab id kind).Tracks := by
  apply SecretsFlushSystem.Tracks.moveLock
  intro other found hfound hkind hstarted
  have hset : (system.setWrite id
      { tab := tab, kind := kind, phase := .requested, number := system.calls }).Tracks :=
    h.setWrite (by simp)
  exact hset other found hfound hkind hstarted

/-- A promise leaves the set only once it has settled. -/
theorem SecretsFlushSystem.Tracks.untrack (h : system.Tracks) {id : Id}
    {write : SecretsWrite Tab} (hwrite : system.writes id = some write) :
    (system.untrack id write).Tracks := by
  unfold SecretsFlushSystem.untrack
  split
  · rename_i hsettled
    intro other found hfound hkind hstarted
    have hne : other ≠ id := by
      intro hsame
      subst hsame
      cases hwrite.symm.trans hfound
      rw [hsettled] at hstarted
      cases hstarted
    have htracked := h other found hfound hkind hstarted
    by_cases htab : found.tab = write.tab
    · dsimp only
      rw [htab] at htracked ⊢
      rw [Function.update_self]
      exact (List.mem_erase_of_ne hne).mpr htracked
    · dsimp only
      rw [Function.update_of_ne htab]
      exact htracked
  · exact h

theorem tracks_step (system : SecretsFlushSystem Tab Id) (op : SecretsFlushOp Tab Id)
    (h : system.Tracks) : (secretsFlushStep system op).Tracks := by
  have hlook (id : Id) (start : SecretsFlushStart Tab) : (system.look id start).Tracks := by
    unfold SecretsFlushSystem.look
    split
    · exact h
    · exact h
  cases op with
  | request tab id kind =>
    simp only [secretsFlushStep]
    split
    · exact h.request tab id kind
    · exact h
  | takeTurn | grant => exact h.moveLock _
  | settleWrite id =>
    simp only [secretsFlushStep, SecretsFlushSystem.settleWrite]
    split
    · split
      · apply h.setWrite
        simp
      · exact h
    · exact h
  | untrack id =>
    simp only [secretsFlushStep]
    split
    · rename_i write hwrite
      exact h.untrack hwrite
    · exact h
  | settleLock | deadline =>
    simp only [secretsFlushStep]
    split
    · exact h
    · exact h
  | release => exact h
  | flush | wake =>
    simp only [secretsFlushStep]
    split
    · exact hlook _ _
    · exact h

omit [DecidableEq Tab] [DecidableEq Id] in
/-- A write that a flush misses has not been tracked yet, so it still waits for the lock. -/
theorem returnsSettled_iff_looksInOrder (h : system.Tracks) (op : SecretsFlushOp Tab Id) :
    system.ReturnsSettled op ↔ system.LooksInOrder op := by
  constructor
  · intro hsettled flush start hlooks hempty id write hbefore hrequested
    have hphase := hsettled flush start hlooks hempty id write hbefore
    rw [hrequested] at hphase
    cases hphase
  · intro horder flush start hlooks hempty id write hbefore
    have hwaits := horder flush start hlooks hempty id write hbefore
    obtain ⟨hwrite, hkind, htab, -⟩ := hbefore
    cases hphase : write.phase with
    | requested => exact absurd hphase hwaits
    | started =>
      have htracked := h id write hwrite hkind hphase
      rw [htab, hempty] at htracked
      cases htracked
    | settled => rfl

/-- In a run, no flush returns early if and only if no write from before a flush waits for the
lock when the flush finds the set empty. -/
theorem flushes_wait_iff_in_order (ops : List (SecretsFlushOp Tab Id)) :
    RunMeets secretsFlushStep SecretsFlushSystem.ReturnsSettled initialSecretsFlushSystem ops ↔
      RunMeets secretsFlushStep SecretsFlushSystem.LooksInOrder initialSecretsFlushSystem ops :=
  runMeets_iff_of_invariant SecretsFlushSystem.Tracks
    (fun _ op h => returnsSettled_iff_looksInOrder h op)
    (fun system op _ h => tracks_step system op h) tracks_initial ops

end SecretsFlushes

def updateThenFlush : List (SecretsFlushOp Unit Nat) :=
  [.request () 0 .criticalSection, .flush () 0]

theorem flush_misses_update :
    ¬ RunMeets secretsFlushStep SecretsFlushSystem.ReturnsSettled
      (initialSecretsFlushSystem : SecretsFlushSystem Unit Nat) updateThenFlush := by
  intro hmeets
  have hsettled := hmeets.2.1 0 { tab := (), callsBefore := 1 } rfl rfl 0
    { tab := (), kind := .criticalSection, phase := .requested, number := 0 }
    ⟨rfl, rfl, rfl, Nat.zero_lt_one⟩
  cases hsettled

end Bitboard.Frontend
