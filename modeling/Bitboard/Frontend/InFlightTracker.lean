/-
# The tracker of lifecycle work in flight

An orchestrator keeps its work in flight in one slot, under a key. A call that begins
work under the key in the slot joins it; any other call puts its own work into the slot
and starts it. Some orchestrators wait for work under another key before they begin,
but they look at the slot once before and once after the wait, and what they have seen
may be over when they go on. `awaitQuiescence` waits for the work in the slot alone.

Work is never started beside other work exactly in the runs in which no call begins
while work under another key is in flight, and in these runs a caller of
`awaitQuiescence` is right to believe that all earlier work has settled.
-/

import Bitboard.Lib.Run
import Mathlib.Order.Basic

namespace Bitboard.Frontend

open Bitboard.Lib

inductive PromiseStatus where
  | pending
  | resolved
  | rejected
  deriving DecidableEq

section Tracker

variable {Key : Type} [DecidableEq Key]

/-- A work in the slot, with its promise. The work runs while its promise is pending. -/
structure InFlightLifecycleWork (Key : Type) where
  key : Key
  promise : Nat

/-- A caller that begins its work after `awaitDifferentInFlightWork`. -/
inductive DifferentWorkWait (Key : Type) where
  /-- It waits until the promise of the other work has settled. -/
  | waiting (key : Key) (promise : Nat)
  /-- The call returns a promise or none. An `await` of the call goes on to await the promise. -/
  | returned (key : Key) (coalesced : Option Nat)

/-- A call of `awaitQuiescence` that waits for a promise, with the number of works that had
begun before the call. -/
structure QuiescenceWait where
  promise : Nat
  begun : Nat

/-- A tracker, the promises of all works it has begun in their order, the callers under way
by name, and for every `awaitQuiescence` that has resolved how many works had begun before
it was called. -/
structure InFlightTracker (Key : Type) where
  inFlight : Option (InFlightLifecycleWork Key)
  promises : List PromiseStatus
  waits : Nat → Option (DifferentWorkWait Key)
  quiescenceWaits : Nat → Option QuiescenceWait
  quiescent : List Nat

namespace InFlightTracker

variable (tracker : InFlightTracker Key)

def coalescedInFlightPromise (key : Key) : Option Nat :=
  match tracker.inFlight with
  | none => none
  | some current => if current.key = key then some current.promise else none

def begin (key : Key) : InFlightTracker Key :=
  match tracker.coalescedInFlightPromise key with
  | some _ => tracker
  | none =>
    { tracker with
      inFlight := some { key, promise := tracker.promises.length }
      promises := tracker.promises ++ [.pending] }

/-- The work of that promise has run: the promise settles and `clearCompletedWork` runs. -/
def settle (promise : Nat) (status : PromiseStatus) : InFlightTracker Key :=
  { tracker with
    inFlight := tracker.inFlight.filter fun current => current.promise ≠ promise
    promises := tracker.promises.set promise status }

def setWait (caller : Nat) (wait : Option (DifferentWorkWait Key)) : InFlightTracker Key :=
  { tracker with waits := Function.update tracker.waits caller wait }

/-- An orchestrator up to its wait: it joins work under its key at once, and waits for work
under another one. -/
def request (caller : Nat) (key : Key) : InFlightTracker Key :=
  match tracker.inFlight with
  | none => tracker.setWait caller (some (.returned key none))
  | some current =>
    if current.key = key then tracker
    else tracker.setWait caller (some (.waiting key current.promise))

end InFlightTracker

inductive TrackerOp (Key : Type) where
  /-- A direct call of `begin`. -/
  | begin (key : Key)
  | request (caller : Nat) (key : Key)
  /-- The awaited promise has settled, and `awaitDifferentInFlightWork` returns. -/
  | wake (caller : Nat)
  /-- The caller begins its own work, or fails with the promise that was returned to it. -/
  | proceed (caller : Nat)
  /-- A work ends, with or without an error. -/
  | settle (promise : Nat) (failed : Bool)
  | awaitQuiescence (caller : Nat)
  /-- The promise that `awaitQuiescence` awaits has settled. -/
  | quiescence (caller : Nat)

def trackerStep (tracker : InFlightTracker Key) : TrackerOp Key → InFlightTracker Key
  | .begin key => tracker.begin key
  | .request caller key =>
    match tracker.waits caller with
    | some _ => tracker
    | none => tracker.request caller key
  | .wake caller =>
    match tracker.waits caller with
    | some (.waiting key promise) =>
      if tracker.promises[promise]? = some .pending then tracker
      else tracker.setWait caller
        (some (.returned key (tracker.coalescedInFlightPromise key)))
    | _ => tracker
  | .proceed caller =>
    match tracker.waits caller with
    | some (.returned key none) => (tracker.setWait caller none).begin key
    | some (.returned key (some promise)) =>
      -- What the `await` of the call comes to is the result of the promise, which is none.
      match tracker.promises[promise]? with
      | some .resolved => (tracker.setWait caller none).begin key
      | some .rejected => tracker.setWait caller none
      | _ => tracker
    | _ => tracker
  | .settle promise failed =>
    if tracker.promises[promise]? = some .pending then
      tracker.settle promise (if failed then .rejected else .resolved)
    else tracker
  | .awaitQuiescence caller =>
    match tracker.quiescenceWaits caller with
    | some _ => tracker
    | none =>
      match tracker.inFlight with
      | none => { tracker with quiescent := tracker.promises.length :: tracker.quiescent }
      | some current =>
        { tracker with
          quiescenceWaits := Function.update tracker.quiescenceWaits caller
            (some { promise := current.promise, begun := tracker.promises.length }) }
  | .quiescence caller =>
    match tracker.quiescenceWaits caller with
    | none => tracker
    | some wait =>
      let quiescenceWaits := Function.update tracker.quiescenceWaits caller none
      match tracker.promises[wait.promise]? with
      | some .resolved =>
        { tracker with quiescenceWaits, quiescent := wait.begun :: tracker.quiescent }
      | some .rejected => { tracker with quiescenceWaits }
      | _ => tracker

def trackerRun (tracker : InFlightTracker Key) (ops : List (TrackerOp Key)) : InFlightTracker Key :=
  run trackerStep tracker ops

/-- `createInFlightLifecycleTracker`, before any call. -/
def createInFlightLifecycleTracker (Key : Type) : InFlightTracker Key where
  inFlight := none
  promises := []
  waits := fun _ => none
  quiescenceWaits := fun _ => none
  quiescent := []

/-! ## What a run should keep -/

variable (tracker : InFlightTracker Key)

def InFlightTracker.Runs (promise : Nat) : Prop :=
  tracker.promises[promise]? = some .pending

def InFlightTracker.Exclusive : Prop :=
  ∀ first second, tracker.Runs first → tracker.Runs second → first = second

/-- A call of `awaitQuiescence` has resolved only if all works that had begun before the call
have settled. -/
def InFlightTracker.HonestQuiescence : Prop :=
  ∀ begun ∈ tracker.quiescent, ∀ promise < begun, ¬ tracker.Runs promise

/-- The key under which the caller is about to begin its own work, if it is. -/
def InFlightTracker.proceedKey (caller : Nat) : Option Key :=
  match tracker.waits caller with
  | some (.returned key none) => some key
  | some (.returned key (some promise)) =>
    if tracker.promises[promise]? = some .resolved then some key else none
  | _ => none

/-- Work is begun only while the slot is empty, or under the key in the slot, where the call
joins. -/
def BeginsAlone : TrackerOp Key → Prop
  | .begin key => ∀ current, tracker.inFlight = some current → current.key = key
  | .proceed caller => ∀ key, tracker.proceedKey caller = some key →
      ∀ current, tracker.inFlight = some current → current.key = key
  | _ => True

/-- The slot holds the one work that runs, and a call of `awaitQuiescence` waits for it if it
had begun before. -/
structure InFlightTracker.Sound : Prop where
  slot : ∀ current, tracker.inFlight = some current → tracker.Runs current.promise
  alone : ∀ promise, tracker.Runs promise →
    ∃ current, tracker.inFlight = some current ∧ current.promise = promise
  waited : ∀ caller wait, tracker.quiescenceWaits caller = some wait →
    wait.begun ≤ tracker.promises.length ∧
      ∀ promise < wait.begun, tracker.Runs promise → promise = wait.promise
  quiet : ∀ begun ∈ tracker.quiescent, begun ≤ tracker.promises.length ∧
    ∀ promise < begun, ¬ tracker.Runs promise

variable {tracker : InFlightTracker Key} {key : Key} {promise : Nat}

namespace InFlightTracker

theorem coalescedInFlightPromise_eq_none :
    tracker.coalescedInFlightPromise key = none ↔
      ∀ current, tracker.inFlight = some current → current.key ≠ key := by
  unfold coalescedInFlightPromise
  cases tracker.inFlight with
  | none | some => simp

theorem exists_of_coalesced (h : tracker.coalescedInFlightPromise key = some promise) :
    ∃ current, tracker.inFlight = some current ∧ current.key = key ∧
      current.promise = promise := by
  unfold coalescedInFlightPromise at h
  cases hslot : tracker.inFlight with
  | none =>
    rw [hslot] at h
    cases h
  | some current =>
    rw [hslot] at h
    dsimp only at h
    split at h
    · rename_i hkey
      exact ⟨current, rfl, hkey, Option.some.inj h⟩
    · cases h

section

variable (h : tracker.coalescedInFlightPromise key = none)
include h

theorem begin_of_not_coalesced :
    tracker.begin key =
      { tracker with
        inFlight := some { key, promise := tracker.promises.length }
        promises := tracker.promises ++ [.pending] } := by
  simp only [InFlightTracker.begin, h]

theorem promises_begin_of_lt (hlt : promise < tracker.promises.length) :
    (tracker.begin key).promises[promise]? = tracker.promises[promise]? := by
  rw [begin_of_not_coalesced h]
  exact List.getElem?_append_left hlt

theorem promises_begin_self :
    (tracker.begin key).promises[tracker.promises.length]? = some .pending := by
  rw [begin_of_not_coalesced h]
  exact List.getElem?_concat_length

end

omit [DecidableEq Key] in
theorem promises_settle_of_ne {settled : Nat} (hne : promise ≠ settled) (status : PromiseStatus) :
    (tracker.settle settled status).promises[promise]? = tracker.promises[promise]? :=
  List.getElem?_set_ne (Ne.symm hne)

omit [DecidableEq Key] in
theorem promises_settle_self (h : promise < tracker.promises.length) (status : PromiseStatus) :
    (tracker.settle promise status).promises[promise]? = some status :=
  List.getElem?_set_self h

theorem begin_of_coalesced {coalesced : Nat}
    (h : tracker.coalescedInFlightPromise key = some coalesced) :
    tracker.begin key = tracker := by
  rw [begin, h]

theorem runs_begin (h : tracker.coalescedInFlightPromise key = none) :
    (tracker.begin key).Runs promise ↔
      promise = tracker.promises.length ∨ tracker.Runs promise := by
  simp only [Runs, begin, h, List.getElem?_append]
  split
  · rename_i hlt
    simp [Nat.ne_of_lt hlt]
  · rename_i hle
    rw [List.getElem?_eq_none (by omega : tracker.promises.length ≤ promise)]
    simp [List.getElem?_singleton]
    omega

omit [DecidableEq Key] in
theorem runs_settle {settled : Nat} {status : PromiseStatus} (hstatus : status ≠ .pending) :
    (tracker.settle settled status).Runs promise ↔ promise ≠ settled ∧ tracker.Runs promise := by
  simp only [Runs, settle, List.getElem?_set]
  by_cases hsettled : settled = promise
  · subst hsettled
    by_cases hlt : settled < tracker.promises.length
    · simp [hlt, hstatus]
    · simp [hlt]
  · simp [hsettled, Ne.symm hsettled]

omit [DecidableEq Key] in
theorem Sound.exclusive (hsound : tracker.Sound) : tracker.Exclusive := by
  intro first second hfirst hsecond
  obtain ⟨current, hcurrent, rfl⟩ := hsound.alone first hfirst
  obtain ⟨other, hother, rfl⟩ := hsound.alone second hsecond
  rw [Option.some.inj (hcurrent.symm.trans hother)]

omit [DecidableEq Key] in
theorem Sound.honestQuiescence (hsound : tracker.Sound) : tracker.HonestQuiescence := by
  intro begun hbegun
  exact (hsound.quiet begun hbegun).2

omit [DecidableEq Key] in
theorem Sound.create : (createInFlightLifecycleTracker Key).Sound where
  slot := by intro current h; cases h
  alone := by intro promise h; cases h
  waited := by intro caller wait h; cases h
  quiet := by intro begun h; cases h

omit [DecidableEq Key] in
theorem Sound.setWait (hsound : tracker.Sound) {caller : Nat}
    {wait : Option (DifferentWorkWait Key)} : (tracker.setWait caller wait).Sound :=
  { hsound with }

/-- Work that begins alone is the one work that runs. -/
theorem Sound.begin (hsound : tracker.Sound)
    (halone : ∀ current, tracker.inFlight = some current → current.key = key) :
    (tracker.begin key).Sound := by
  cases hcoalesced : tracker.coalescedInFlightPromise key with
  | some coalesced =>
    rw [begin_of_coalesced hcoalesced]
    exact hsound
  | none =>
    have hempty : tracker.inFlight = none := by
      cases hslot : tracker.inFlight with
      | none => rfl
      | some current =>
        exact absurd (halone current hslot)
          (coalescedInFlightPromise_eq_none.mp hcoalesced current hslot)
    have hidle : ∀ promise, ¬ tracker.Runs promise := by
      intro promise hruns
      obtain ⟨current, hcurrent, -⟩ := hsound.alone promise hruns
      rw [hempty] at hcurrent
      cases hcurrent
    have hbegun := begin_of_not_coalesced hcoalesced
    have hruns : ∀ promise, (tracker.begin key).Runs promise →
        promise = tracker.promises.length := by
      intro promise hrun
      exact ((runs_begin hcoalesced).mp hrun).resolve_right (hidle promise)
    exact {
      slot := by
        intro current hcurrent
        rw [hbegun] at hcurrent
        cases hcurrent
        exact (runs_begin hcoalesced).mpr (.inl rfl)
      alone := by
        intro promise hrun
        rw [hbegun]
        exact ⟨_, rfl, (hruns promise hrun).symm⟩
      waited := by
        intro caller wait hwait
        rw [hbegun] at hwait
        have hbound := (hsound.waited caller wait hwait).1
        constructor
        · rw [hbegun, List.length_append]
          exact Nat.le_add_right_of_le hbound
        · intro promise hlt hrun
          have := hruns promise hrun
          omega
      quiet := by
        intro begun hmem
        rw [hbegun] at hmem
        have hbound := (hsound.quiet begun hmem).1
        constructor
        · rw [hbegun, List.length_append]
          exact Nat.le_add_right_of_le hbound
        · intro promise hlt hrun
          have := hruns promise hrun
          omega }

omit [DecidableEq Key] in
theorem Sound.settle (hsound : tracker.Sound) {settled : Nat} {status : PromiseStatus}
    (hstatus : status ≠ .pending) : (tracker.settle settled status).Sound where
  slot := by
    intro current hcurrent
    obtain ⟨hslot, hne⟩ := Option.filter_eq_some_iff.mp hcurrent
    exact (runs_settle hstatus).mpr ⟨of_decide_eq_true hne, hsound.slot current hslot⟩
  alone := by
    intro promise hrun
    obtain ⟨hne, hruns⟩ := (runs_settle hstatus).mp hrun
    obtain ⟨current, hslot, rfl⟩ := hsound.alone promise hruns
    exact ⟨current, Option.filter_eq_some_iff.mpr ⟨hslot, decide_eq_true hne⟩, rfl⟩
  waited := by
    intro caller wait hwait
    obtain ⟨hbound, hwaited⟩ := hsound.waited caller wait hwait
    constructor
    · exact le_of_le_of_eq hbound (List.length_set ..).symm
    · intro promise hlt hrun
      exact hwaited promise hlt ((runs_settle hstatus).mp hrun).2
  quiet := by
    intro begun hmem
    obtain ⟨hbound, hquiet⟩ := hsound.quiet begun hmem
    constructor
    · exact le_of_le_of_eq hbound (List.length_set ..).symm
    · intro promise hlt hrun
      exact hquiet promise hlt ((runs_settle hstatus).mp hrun).2

/-- The call waits for the one work that runs. -/
theorem Sound.awaitQuiescence (hsound : tracker.Sound) (caller : Nat) :
    (trackerStep tracker (.awaitQuiescence caller)).Sound := by
  rw [trackerStep]
  split
  · exact hsound
  · split
    · rename_i hslot
      have hidle : ∀ promise, ¬ tracker.Runs promise := by
        intro promise hruns
        obtain ⟨current, hcurrent, -⟩ := hsound.alone promise hruns
        rw [hslot] at hcurrent
        cases hcurrent
      exact { hsound with
        quiet := by
          intro begun hmem
          cases List.mem_cons.mp hmem with
          | inl hbegun =>
            subst hbegun
            exact ⟨Nat.le_refl _, fun promise _ => hidle promise⟩
          | inr hearlier => exact hsound.quiet begun hearlier }
    · rename_i current hslot
      exact { hsound with
        waited := by
          intro other wait hwait
          dsimp only at hwait
          obtain ⟨rfl, rfl⟩ | ⟨-, hwait⟩ := update_some_cases hwait
          · refine ⟨Nat.le_refl _, ?_⟩
            intro promise _ hruns
            exact hsound.exclusive promise current.promise hruns (hsound.slot current hslot)
          · exact hsound.waited other wait hwait }

/-- Once the awaited work has settled, none of the earlier works runs. -/
theorem Sound.quiescence (hsound : tracker.Sound) (caller : Nat) :
    (trackerStep tracker (.quiescence caller)).Sound := by
  have hwaits : ∀ other wait,
      Function.update tracker.quiescenceWaits caller none other = some wait →
        tracker.quiescenceWaits other = some wait :=
    fun _ _ hother => (of_update_none hother).2
  rw [trackerStep]
  split
  · exact hsound
  · rename_i wait hwait
    obtain ⟨hbound, hwaited⟩ := hsound.waited caller wait hwait
    dsimp only
    split
    · rename_i hresolved
      exact {
        slot := hsound.slot
        alone := hsound.alone
        waited := by
          intro other found hfound
          exact hsound.waited other found (hwaits other found hfound)
        quiet := by
          intro begun hmem
          cases List.mem_cons.mp hmem with
          | inl hbegun =>
            subst hbegun
            refine ⟨hbound, ?_⟩
            intro promise hlt hruns
            have hpromise : promise = wait.promise := hwaited promise hlt hruns
            subst hpromise
            cases hruns.symm.trans hresolved
          | inr hearlier => exact hsound.quiet begun hearlier }
    · exact { hsound with
        waited := by
          intro other found hfound
          exact hsound.waited other found (hwaits other found hfound) }
    · exact hsound

theorem trackerStep_proceed {caller : Nat} (hproceed : tracker.proceedKey caller = some key) :
    trackerStep tracker (.proceed caller) = (tracker.setWait caller none).begin key := by
  simp only [proceedKey] at hproceed
  split at hproceed
  · rename_i hwait
    cases hproceed
    simp only [trackerStep, hwait]
  · rename_i promise hwait
    split at hproceed
    · rename_i hresolved
      cases hproceed
      simp only [trackerStep, hwait, hresolved]
    · cases hproceed
  · cases hproceed

theorem trackerStep_of_not_proceed {caller : Nat} (hproceed : tracker.proceedKey caller = none) :
    trackerStep tracker (.proceed caller) = tracker.setWait caller none ∨
      trackerStep tracker (.proceed caller) = tracker := by
  rw [trackerStep]
  split
  · rename_i key hwait
    simp [proceedKey, hwait] at hproceed
  · rename_i key promise hwait
    split
    · rename_i hresolved
      simp [proceedKey, hwait, hresolved] at hproceed
    · exact .inl rfl
    · exact .inr rfl
  · exact .inr rfl

/-- A step that begins no work beside another one. -/
theorem Sound.step (hsound : tracker.Sound) (op : TrackerOp Key)
    (hop : BeginsAlone tracker op) : (trackerStep tracker op).Sound := by
  cases op with
  | begin key => exact hsound.begin hop
  | request caller key =>
    rw [trackerStep]
    split
    · exact hsound
    · rw [InFlightTracker.request]
      split
      · exact hsound.setWait
      · split
        · exact hsound
        · exact hsound.setWait
  | wake caller =>
    rw [trackerStep]
    split
    · split
      · exact hsound
      · exact hsound.setWait
    · exact hsound
  | proceed caller =>
    cases hproceed : tracker.proceedKey caller with
    | some key =>
      rw [trackerStep_proceed hproceed]
      exact hsound.setWait.begin (hop key hproceed)
    | none =>
      cases trackerStep_of_not_proceed hproceed with
      | inl hthrough =>
        rw [hthrough]
        exact hsound.setWait
      | inr hsame =>
        rw [hsame]
        exact hsound
  | settle promise failed =>
    rw [trackerStep]
    split
    · apply hsound.settle
      cases failed with
      | true | false => exact PromiseStatus.noConfusion
    · exact hsound
  | awaitQuiescence caller => exact hsound.awaitQuiescence caller
  | quiescence caller => exact hsound.quiescence caller

theorem Sound.not_exclusive_begin (hsound : tracker.Sound)
    {current : InFlightLifecycleWork Key} (hslot : tracker.inFlight = some current)
    (hkey : current.key ≠ key) : ¬ (tracker.begin key).Exclusive := by
  intro hexclusive
  have hcoalesced : tracker.coalescedInFlightPromise key = none := by
    rw [coalescedInFlightPromise_eq_none, hslot]
    intro found hfound
    cases hfound
    exact hkey
  have hruns := hsound.slot current hslot
  have hlt : current.promise < tracker.promises.length :=
    (List.getElem?_eq_some_iff.mp hruns).choose
  have heq := hexclusive current.promise tracker.promises.length
    ((runs_begin hcoalesced).mpr (.inr hruns)) ((runs_begin hcoalesced).mpr (.inl rfl))
  omega

theorem Sound.not_exclusive_step (hsound : tracker.Sound) (op : TrackerOp Key)
    (hop : ¬ BeginsAlone tracker op) : ¬ (trackerStep tracker op).Exclusive := by
  cases op with
  | begin key =>
    simp only [BeginsAlone, not_forall] at hop
    obtain ⟨current, hslot, hkey⟩ := hop
    exact hsound.not_exclusive_begin hslot hkey
  | proceed caller =>
    simp only [BeginsAlone, not_forall] at hop
    obtain ⟨key, hproceed, current, hslot, hkey⟩ := hop
    rw [trackerStep_proceed hproceed]
    exact hsound.setWait.not_exclusive_begin hslot hkey
  | request | wake | settle | awaitQuiescence | quiescence => exact absurd trivial hop

end InFlightTracker

/-- However calls interleave, at every point of the run at most one tracked work runs and
every call of `awaitQuiescence` that has resolved has waited for all earlier work, exactly if
no work begins beside work under another key. -/
theorem one_work_runs_iff_beginsAlone (ops : List (TrackerOp Key)) :
    (∀ first, first <+: ops →
      (trackerRun (createInFlightLifecycleTracker Key) first).Exclusive ∧
        (trackerRun (createInFlightLifecycleTracker Key) first).HonestQuiescence) ↔
      RunMeets trackerStep BeginsAlone (createInFlightLifecycleTracker Key) ops := by
  symm
  apply runMeets_iff_forall_prefix InFlightTracker.Sound
    (fun tracker => tracker.Exclusive ∧ tracker.HonestQuiescence)
  · intro tracker hsound
    exact ⟨hsound.exclusive, hsound.honestQuiescence⟩
  · intro tracker op hop hsound
    exact hsound.step op hop
  · intro tracker op hsound hop hgood
    exact hsound.not_exclusive_step op hop hgood.1
  · exact InFlightTracker.Sound.create

/-- Two saves under different keys run at the same time, and so do the works of two callers
that have waited for a third one. A call of `awaitQuiescence` waits for the later save only. -/
theorem works_run_side_by_side :
    ¬ (trackerRun (createInFlightLifecycleTracker Nat) [.begin 1, .begin 2]).Exclusive ∧
      ¬ (trackerRun (createInFlightLifecycleTracker Nat)
        [.begin 1, .request 0 2, .request 1 3, .settle 0 false, .wake 0, .wake 1, .proceed 0,
          .proceed 1]).Exclusive ∧
      ¬ (trackerRun (createInFlightLifecycleTracker Nat)
        [.begin 1, .begin 2, .awaitQuiescence 0, .settle 1 false,
          .quiescence 0]).HonestQuiescence := by
  refine ⟨?_, ?_, ?_⟩
  · intro hexclusive
    exact absurd (hexclusive 0 1 rfl rfl) (by decide)
  · intro hexclusive
    exact absurd (hexclusive 1 2 rfl rfl) (by decide)
  · intro hquiet
    exact hquiet 2 List.mem_cons_self 0 (by decide) rfl

end Tracker

end Bitboard.Frontend
