/-
# One lifecycle work at a time

A caller begins its own work without looking whether another caller that waited beside it
has just begun one. If the work in the slot never runs when a caller begins its own, there
is never a second one; and if moreover a lock joins another one only before the purge of
that one, no load that started before the purge is still running when the lock resolves.
-/

import Bitboard.Frontend.LockLifecycle

namespace Bitboard.Frontend

open Bitboard.Lib

def LockWorkPhase.Running : LockWorkPhase → Prop
  | .done _ | .settled _ => False
  | .starting | .purging | .openingSession | .loading _ | .endingSession _ => True

def LockWorkPhase.Succeeded : LockWorkPhase → Prop
  | .done outcome | .settled outcome => outcome = .ok ()
  | .starting | .purging | .openingSession | .loading _ | .endingSession _ => False

namespace LockSystem

variable {Id : Type} (system : LockSystem Id)

def Runs (number : Nat) : Prop :=
  ∃ work, system.works number = some work ∧ work.phase.Running

def Exclusive : Prop :=
  ∀ first second, system.Runs first → system.Runs second → first = second

/-- A purge has run after the given number of them, and no load that started before it is still
running. -/
def PurgedSince (purgesBefore : Nat) : Prop :=
  ∃ purge, purgesBefore < purge ∧ purge ≤ system.purges ∧
    ∀ number work purgesBeforeLoad, system.works number = some work →
      work.phase = .loading purgesBeforeLoad → purge ≤ purgesBeforeLoad

/-- A lock resolves only after a purge, or without an active wallet. -/
def LocksPurged : LockOp Id → Prop
  | .call id .lock =>
    system.callers id = none → system.snapshot.phase = .noLock →
      system.store.activeWalletId = none
  | .finish id => ∀ number purgesBefore,
      system.callers id = some (.joined .lock number purgesBefore) →
        system.outcome number = some (.ok ()) → system.PurgedSince purgesBefore
  | _ => True

def BeginsOwn (id : Id) : Prop :=
  ∃ request work purgesBefore, system.callers id = some (.waiting request work purgesBefore) ∧
    system.waited work = some (.ok ()) ∧ system.nothingToUnlock request = false ∧
    system.joinable request = none

/-- A caller begins its own work only while that in the slot does not run. A lock joins another
one only before that one has purged, and is called in the phase without a lock only if no wallet
is active. -/
def StepInOrder : LockOp Id → Prop
  | .wake id => system.BeginsOwn id →
      ∀ current, system.inFlightWork = some current → ¬ system.Runs current.promise
  | .call id .lock => system.callers id = none →
      (system.snapshot.phase = .noLock → system.store.activeWalletId = none) ∧
      ∀ number work, system.joinable .lock = some number →
        system.works number = some work → work.purge = none
  | _ => True

end LockSystem

/-- The works still exclude each other after the step, and the step resolves no lock too
early. -/
def LockSystem.Serializes {Id : Type} [DecidableEq Id] (system : LockSystem Id)
    (op : LockOp Id) : Prop :=
  (lockStep system op).Exclusive ∧ system.LocksPurged op

/-- A part of a work leaves the purges alone and starts loads as they are then, or it is the
purge. -/
structure LockWork.Moves (work next : LockWork) (purges purgesAfter : Nat) : Prop where
  request : next.request = work.request
  running : next.phase.Running → work.phase.Running
  part : (purgesAfter = purges ∧ next.purge = work.purge ∧
      (∀ purgesBefore, next.phase = .loading purgesBefore →
        purgesBefore = purges ∨ work.phase = .loading purgesBefore) ∧
      (work.request = .lock → next.phase.Succeeded → work.phase.Succeeded)) ∨
    (work.phase = .purging ∧ purgesAfter = purges + 1 ∧ next.purge = some (purges + 1) ∧
      next.phase = .done (.ok ()))

theorem lockRequestWorkStep_moves (snapshot : LockLifecycleSnapshot) (store : LockStore)
    (purges : Nat) (work : LockWork) (input : LockWorkInput) :
    work.Moves (lockRequestWorkStep snapshot store purges work input).work purges
      (lockRequestWorkStep snapshot store purges work input).purges := by
  obtain ⟨request, phase, purge⟩ := work
  cases request with
  | lock =>
    cases input <;> cases phase <;> constructor <;>
      simp [lockRequestWorkStep, lockWorkStep, LockWorkPhase.Running, LockWorkPhase.Succeeded]
  | manualUnlock params =>
    cases input <;> cases phase <;>
      simp only [lockRequestWorkStep, manualUnlockWorkStep] <;>
      (try split) <;> constructor <;>
      simp [LockWorkPhase.Running, LockWorkPhase.Succeeded]
  | bootstrapUnlock params =>
    cases input <;> cases phase <;>
      simp only [lockRequestWorkStep, bootstrapUnlockWorkStep] <;>
      (try split) <;> (try split) <;> constructor <;>
      simp [LockWorkPhase.Running, LockWorkPhase.Succeeded]

theorem LockWork.moves_settled {work : LockWork} {outcome : Except String Unit} (purges : Nat)
    (hdone : work.phase = .done outcome) :
    work.Moves { work with phase := .settled outcome } purges purges where
  request := rfl
  running := by
    intro hrunning
    cases hrunning
  part := by
    left
    refine ⟨rfl, rfl, ?_, ?_⟩
    · intro purgesBefore hloading
      cases hloading
    · intro _ hsucceeded
      rw [hdone]
      exact hsucceeded

structure LockInv {Id : Type} (system : LockSystem Id) : Prop where
  /-- A work that runs is in the slot. -/
  running : ∀ number, system.Runs number →
    ∃ current, system.inFlightWork = some current ∧ current.promise = number
  numbered : ∀ number work, system.works number = some work → number < system.begun
  slot : ∀ current, system.inFlightWork = some current →
    ∃ work, system.works current.promise = some work ∧ work.request = current.key
  waiting : ∀ id other purgesBefore,
    system.callers id = some (.waiting .lock other purgesBefore) →
      purgesBefore ≤ system.purges ∧
      ∀ number work purge, system.joinable .lock = some number →
        system.works number = some work → work.purge = some purge → purgesBefore < purge
  joined : ∀ id number purgesBefore,
    system.callers id = some (.joined .lock number purgesBefore) →
      purgesBefore ≤ system.purges ∧
      ∃ work, system.works number = some work ∧ work.request = .lock ∧
        ∀ purge, work.purge = some purge → purgesBefore < purge
  succeeded : ∀ number work, system.works number = some work → work.request = .lock →
    work.phase.Succeeded → ∃ purge, work.purge = some purge
  purged : ∀ number work purge, system.works number = some work → work.purge = some purge →
    purge ≤ system.purges ∧
      ∀ other otherWork purgesBefore, system.works other = some otherWork →
        otherWork.phase = .loading purgesBefore → purge ≤ purgesBefore

section Steps

variable {Id : Type} {system : LockSystem Id}

theorem lockInv_initial (store : LockStore) :
    LockInv (initialLockSystem store : LockSystem Id) where
  running := by
    intro number hruns
    obtain ⟨work, hwork, -⟩ := hruns
    cases hwork
  numbered := by
    intro number work hwork
    cases hwork
  slot := by
    intro current hcurrent
    cases hcurrent
  waiting := by
    intro id other purgesBefore hcaller
    cases hcaller
  joined := by
    intro id number purgesBefore hcaller
    cases hcaller
  succeeded := by
    intro number work hwork
    cases hwork
  purged := by
    intro number work purge hwork
    cases hwork

theorem LockSystem.outcome_eq_some {number : Nat} {result : Except String Unit}
    (h : system.outcome number = some result) :
    ∃ work, system.works number = some work ∧ work.phase = .settled result := by
  unfold LockSystem.outcome at h
  split at h
  · rename_i request outcome purge hwork
    cases h
    exact ⟨_, hwork, rfl⟩
  · cases h

theorem LockSystem.joinable_eq_some {request : LockRequest} {number : Nat}
    (h : system.joinable request = some number) :
    ∃ current, system.inFlightWork = some current ∧ current.key = request ∧
      current.promise = number := by
  unfold LockSystem.joinable at h
  split at h
  · cases h
  · rename_i current hcurrent
    split at h
    · rename_i hkey
      exact ⟨current, hcurrent, hkey, Option.some.inj h⟩
    · cases h

theorem LockInv.exclusive (h : LockInv system) : system.Exclusive := by
  intro first second hfirst hsecond
  obtain ⟨current, hcurrent, hpromise⟩ := h.running first hfirst
  obtain ⟨other, hother, hotherPromise⟩ := h.running second hsecond
  cases hcurrent.symm.trans hother
  exact hpromise.symm.trans hotherPromise

theorem LockInv.purgedSince (h : LockInv system) {id : Id} {number purgesBefore : Nat}
    (hcaller : system.callers id = some (.joined .lock number purgesBefore))
    (houtcome : system.outcome number = some (.ok ())) : system.PurgedSince purgesBefore := by
  obtain ⟨work, hwork, hphase⟩ := LockSystem.outcome_eq_some houtcome
  obtain ⟨-, joinedWork, hjoinedWork, hrequest, hafter⟩ :=
    h.joined id number purgesBefore hcaller
  cases hwork.symm.trans hjoinedWork
  have hsucceeded : work.phase.Succeeded := by
    rw [hphase]
    rfl
  obtain ⟨purge, hpurge⟩ := h.succeeded number work hwork hrequest hsucceeded
  obtain ⟨hran, hloads⟩ := h.purged number work purge hwork hpurge
  exact ⟨purge, hafter purge hpurge, hran, hloads⟩

variable [DecidableEq Id]

section

variable (h : LockInv system)
include h

/-- A caller moves, and nothing else does. -/
theorem LockInv.setCaller {id : Id} {caller : LockCaller}
    (hwaiting : ∀ other purgesBefore, caller = .waiting .lock other purgesBefore →
      purgesBefore ≤ system.purges ∧
      ∀ number work purge, system.joinable .lock = some number →
      system.works number = some work → work.purge = some purge → purgesBefore < purge)
    (hjoined : ∀ number purgesBefore, caller = .joined .lock number purgesBefore →
      purgesBefore ≤ system.purges ∧
      ∃ work, system.works number = some work ∧ work.request = .lock ∧
      ∀ purge, work.purge = some purge → purgesBefore < purge) :
    LockInv (system.setCaller id caller) := { h with
  waiting := by
    intro other work purgesBefore hcaller
    obtain ⟨-, hnew⟩ | ⟨-, hbefore⟩ := update_some_cases hcaller
    · exact hwaiting work purgesBefore hnew.symm
    · exact h.waiting other work purgesBefore hbefore
  joined := by
    intro other number purgesBefore hcaller
    obtain ⟨-, hnew⟩ | ⟨-, hbefore⟩ := update_some_cases hcaller
    · exact hjoined number purgesBefore hnew.symm
    · exact h.joined other number purgesBefore hbefore }

theorem LockInv.settleCaller {id : Id} {caller : LockCaller}
    (hcaller : caller = .returned ∨ ∃ message, caller = .threw message) :
    LockInv (system.setCaller id caller) := by
  apply h.setCaller
  · intro other purgesBefore hwaiting
    subst hwaiting
    rcases hcaller with hcaller | ⟨message, hcaller⟩ <;> cases hcaller
  · intro number purgesBefore hjoined
    subst hjoined
    rcases hcaller with hcaller | ⟨message, hcaller⟩ <;> cases hcaller

theorem LockInv.join {id : Id} {request : LockRequest} {number purgesBefore : Nat}
    (hjoinable : system.joinable request = some number)
    (hbefore : request = .lock → purgesBefore ≤ system.purges ∧
      ∀ work purge, system.works number = some work → work.purge = some purge →
      purgesBefore < purge) :
    LockInv (system.setCaller id (.joined request number purgesBefore)) := by
  obtain ⟨current, hcurrent, hkey, hnumber⟩ := LockSystem.joinable_eq_some hjoinable
  obtain ⟨work, hwork, hrequest⟩ := h.slot current hcurrent
  rw [hnumber] at hwork
  rw [hkey] at hrequest
  apply h.setCaller
  · intro other before hwaiting
    cases hwaiting
  · intro joinedNumber before hjoined
    cases hjoined
    obtain ⟨hle, hpurge⟩ := hbefore rfl
    exact ⟨hle, work, hwork, hrequest, fun purge => hpurge work purge hwork⟩

/-- A call up to its wait. -/
theorem LockInv.request {id : Id} {request : LockRequest}
    (horder : request = .lock → ∀ number work, system.joinable .lock = some number →
      system.works number = some work → work.purge = none) :
    LockInv (system.request id request) := by
  unfold LockSystem.request
  split
  · rename_i number hjoinable
    apply h.join hjoinable
    intro hlock
    subst hlock
    refine ⟨Nat.le_refl _, ?_⟩
    intro work purge hwork hpurge
    rw [horder rfl number work hjoinable hwork] at hpurge
    cases hpurge
  · rename_i hnone
    apply h.setCaller
    · intro other purgesBefore hwaiting
      cases hwaiting
      refine ⟨Nat.le_refl _, ?_⟩
      intro number work purge hjoinable
      rw [hnone] at hjoinable
      cases hjoinable
    · intro number purgesBefore hjoined
      cases hjoined

/-- A caller begins its own work while that in the slot does not run. -/
theorem LockInv.begin {id : Id} {request : LockRequest} {purgesBefore : Nat}
    (hidle : ∀ current, system.inFlightWork = some current → ¬ system.Runs current.promise)
    (hbefore : request = .lock → purgesBefore ≤ system.purges) :
    LockInv (system.begin id request purgesBefore) := by
  have hnew : (system.begin id request purgesBefore).works system.begun =
      some { request := request, phase := .starting, purge := none } :=
    Function.update_self _ _ _
  have hold {number : Nat} {work : LockWork} (hwork : system.works number = some work) :
      (system.begin id request purgesBefore).works number = some work :=
    (Function.update_of_ne (Nat.ne_of_lt (h.numbered number work hwork)) _ _).trans hwork
  constructor
  · intro number hruns
    obtain ⟨work, hwork, hphase⟩ := hruns
    rcases update_some_cases hwork with ⟨rfl, -⟩ | ⟨-, hearlier⟩
    · exact ⟨_, rfl, rfl⟩
    · obtain ⟨current, hcurrent, rfl⟩ := h.running number ⟨work, hearlier, hphase⟩
      exact absurd ⟨work, hearlier, hphase⟩ (hidle current hcurrent)
  · intro number work hwork
    show number < system.begun + 1
    rcases update_some_cases hwork with ⟨rfl, -⟩ | ⟨-, hearlier⟩
    · exact Nat.lt_succ_self _
    · exact Nat.lt_succ_of_lt (h.numbered number work hearlier)
  · intro current hcurrent
    cases hcurrent
    exact ⟨_, hnew, rfl⟩
  · intro other waitsFor before hcaller
    obtain ⟨-, hnew⟩ | ⟨-, hearlier⟩ := update_some_cases hcaller
    · cases hnew
    · refine ⟨(h.waiting other waitsFor before hearlier).1, ?_⟩
      intro number work purge hjoinable hwork hpurge
      obtain ⟨current, hcurrent, -, rfl⟩ := LockSystem.joinable_eq_some hjoinable
      cases hcurrent
      cases hnew.symm.trans hwork
      cases hpurge
  · intro other number before hcaller
    obtain ⟨-, hnewCaller⟩ | ⟨-, hearlier⟩ := update_some_cases hcaller
    · cases hnewCaller
      refine ⟨hbefore rfl, _, hnew, rfl, ?_⟩
      intro purge hpurge
      cases hpurge
    · obtain ⟨hle, work, hwork, hrest⟩ := h.joined other number before hearlier
      exact ⟨hle, work, hold hwork, hrest⟩
  · intro number work hwork hlock hsucceeded
    rcases update_some_cases hwork with ⟨-, rfl⟩ | ⟨-, hearlier⟩
    · cases hsucceeded
    · exact h.succeeded number work hearlier hlock hsucceeded
  · intro number work purge hwork hpurge
    rcases update_some_cases hwork with ⟨-, rfl⟩ | ⟨-, hearlier⟩
    · cases hpurge
    · refine ⟨(h.purged number work purge hearlier hpurge).1, ?_⟩
      intro other otherWork before hother hloading
      rcases update_some_cases hother with ⟨-, rfl⟩ | ⟨-, hotherEarlier⟩
      · cases hloading
      · exact (h.purged number work purge hearlier hpurge).2 other otherWork before
          hotherEarlier hloading

end

section Move

omit [DecidableEq Id]

variable {number purgesAfter : Nat} {work next : LockWork} {other : Nat} {found : LockWork}
variable (hwork : system.works number = some work)
  (hmoves : work.Moves next system.purges purgesAfter)

include hmoves in
theorem LockWork.Moves.le_purges : system.purges ≤ purgesAfter := by
  rcases hmoves.part with ⟨hsame, -⟩ | ⟨-, hpurges, -⟩ <;> omega

include hwork hmoves

section

variable (hfound : Function.update system.works number (some next) other = some found)
include hfound

theorem LockSystem.runs_of_moved (hphase : found.phase.Running) : system.Runs other := by
  rcases update_some_cases hfound with ⟨rfl, rfl⟩ | ⟨-, hbefore⟩
  · exact ⟨work, hwork, hmoves.running hphase⟩
  · exact ⟨found, hbefore, hphase⟩

/-- A purge of the state after the move is one from before or the one that has just run. -/
theorem LockSystem.purge_of_moved {purge : Nat} (hpurge : found.purge = some purge) :
    (∃ before, system.works other = some before ∧ before.purge = some purge) ∨
      (work.phase = .purging ∧ purge = system.purges + 1 ∧ purgesAfter = system.purges + 1 ∧
        next.phase = .done (.ok ())) := by
  rcases update_some_cases hfound with ⟨rfl, rfl⟩ | ⟨-, hbefore⟩
  · rcases hmoves.part with ⟨-, hsame, -⟩ | ⟨hpurging, hafter, hnew, hdone⟩
    · rw [hsame] at hpurge
      exact Or.inl ⟨work, hwork, hpurge⟩
    · rw [hnew] at hpurge
      exact Or.inr ⟨hpurging, (Option.some.inj hpurge).symm, hafter, hdone⟩
  · exact Or.inl ⟨found, hbefore, hpurge⟩

end

variable (h : LockInv system)
include h

theorem LockInv.joined_moved {id : Id} {purgesBefore : Nat}
    (hcaller : system.callers id = some (.joined .lock other purgesBefore)) :
    ∃ found, Function.update system.works number (some next) other = some found ∧
      found.request = .lock ∧ ∀ purge, found.purge = some purge → purgesBefore < purge := by
  obtain ⟨hbefore, found, hfound, hrequest, hafter⟩ := h.joined id other purgesBefore hcaller
  by_cases hother : other = number
  · subst hother
    cases hwork.symm.trans hfound
    refine ⟨next, Function.update_self _ _ _, hmoves.request.trans hrequest, ?_⟩
    intro purge hpurge
    rcases hmoves.part with ⟨-, hsame, -⟩ | ⟨-, -, hnew, -⟩
    · rw [hsame] at hpurge
      exact hafter purge hpurge
    · cases hnew.symm.trans hpurge
      exact Nat.lt_succ_of_le hbefore
  · exact ⟨found, (Function.update_of_ne hother _ _).trans hfound, hrequest, hafter⟩

/-- No load that started before a purge runs after the move, nor beside the purge. -/
theorem LockInv.purged_moved {purge : Nat}
    (hfound : Function.update system.works number (some next) other = some found)
    (hpurge : found.purge = some purge) :
    purge ≤ purgesAfter ∧ ∀ loader loading purgesBefore,
      Function.update system.works number (some next) loader = some loading →
        loading.phase = .loading purgesBefore → purge ≤ purgesBefore := by
  rcases LockSystem.purge_of_moved hwork hmoves hfound hpurge with
    ⟨before, hother, hearlier⟩ | ⟨hpurging, rfl, hafter, hdone⟩
  · obtain ⟨hran, hloads⟩ := h.purged other before purge hother hearlier
    refine ⟨Nat.le_trans hran hmoves.le_purges, ?_⟩
    intro loader loading purgesBefore hloader hloading
    rcases update_some_cases hloader with ⟨rfl, rfl⟩ | ⟨-, hloaderBefore⟩
    · rcases hmoves.part with ⟨-, -, hstarted, -⟩ | ⟨-, -, -, hdone⟩
      · rcases hstarted purgesBefore hloading with rfl | hstill
        · exact hran
        · exact hloads loader work purgesBefore hwork hstill
      · rw [hdone] at hloading
        cases hloading
    · exact hloads loader loading purgesBefore hloaderBefore hloading
  · refine ⟨Nat.le_of_eq hafter.symm, ?_⟩
    intro loader loading purgesBefore hloader hloading
    have hloads : system.Runs loader :=
      LockSystem.runs_of_moved hwork hmoves hloader (by rw [hloading]; trivial)
    have hpurges : system.Runs number := ⟨work, hwork, by rw [hpurging]; trivial⟩
    cases h.exclusive loader number hloads hpurges
    cases (Function.update_self _ _ _).symm.trans hloader
    rw [hdone] at hloading
    cases hloading

/-- A work moves; the slot keeps it or is empty. -/
theorem LockInv.moveWork (snapshot : LockLifecycleSnapshot)
    {slot : Option (InFlightLifecycleWork LockRequest)}
    (hslot : ∀ current, slot = some current → system.inFlightWork = some current)
    (hkept : ∀ current, system.inFlightWork = some current →
      slot = some current ∨ current.promise = number ∧ ¬ next.phase.Running) :
    LockInv { system with
      works := Function.update system.works number (some next)
      snapshot := snapshot
      inFlightWork := slot
      purges := purgesAfter } where
  running := by
    intro other hruns
    obtain ⟨found, hfound, hphase⟩ := hruns
    obtain ⟨current, hcurrent, rfl⟩ :=
      h.running other (LockSystem.runs_of_moved hwork hmoves hfound hphase)
    rcases hkept current hcurrent with hslotKeeps | ⟨hmoved, hstopped⟩
    · exact ⟨current, hslotKeeps, rfl⟩
    · rcases update_some_cases hfound with ⟨-, rfl⟩ | ⟨hother, -⟩
      · exact absurd hphase hstopped
      · exact absurd hmoved hother
  numbered := by
    intro other found hfound
    rcases update_some_cases hfound with ⟨rfl, -⟩ | ⟨-, hbefore⟩
    · exact h.numbered other work hwork
    · exact h.numbered other found hbefore
  slot := by
    intro current hcurrent
    obtain ⟨found, hfound, hrequest⟩ := h.slot current (hslot current hcurrent)
    by_cases hother : current.promise = number
    · rw [hother] at hfound ⊢
      cases hwork.symm.trans hfound
      exact ⟨next, Function.update_self _ _ _, hmoves.request.trans hrequest⟩
    · exact ⟨found, (Function.update_of_ne hother _ _).trans hfound, hrequest⟩
  waiting := by
    intro id waitsFor purgesBefore hcaller
    obtain ⟨hbefore, hinFlight⟩ := h.waiting id waitsFor purgesBefore hcaller
    refine ⟨Nat.le_trans hbefore hmoves.le_purges, ?_⟩
    intro other found purge hjoinable hfound hpurge
    rcases LockSystem.purge_of_moved hwork hmoves hfound hpurge with
      ⟨before, hother, hearlier⟩ | ⟨-, rfl, -⟩
    · apply hinFlight other before purge _ hother hearlier
      obtain ⟨current, hcurrent, hkey, hpromise⟩ := LockSystem.joinable_eq_some hjoinable
      unfold LockSystem.joinable
      rw [hslot current hcurrent, ← hpromise]
      exact if_pos hkey
    · exact Nat.lt_succ_of_le hbefore
  joined := by
    intro id joinedNumber purgesBefore hcaller
    exact ⟨Nat.le_trans (h.joined id joinedNumber purgesBefore hcaller).1 hmoves.le_purges,
      h.joined_moved hwork hmoves hcaller⟩
  succeeded := by
    intro other found hfound hlock hsucceeded
    rcases update_some_cases hfound with ⟨rfl, rfl⟩ | ⟨-, hbefore⟩
    · rw [hmoves.request] at hlock
      rcases hmoves.part with ⟨-, hsame, -, houtcome⟩ | ⟨-, -, hnew, -⟩
      · rw [hsame]
        exact h.succeeded other work hwork hlock (houtcome hlock hsucceeded)
      · exact ⟨_, hnew⟩
    · exact h.succeeded other found hbefore hlock hsucceeded
  purged := fun _ _ _ => h.purged_moved hwork hmoves

end Move

omit [DecidableEq Id] in
theorem LockInv.stepWork (h : LockInv system) {number : Nat} {work : LockWork}
    (hwork : system.works number = some work) (input : LockWorkInput) :
    LockInv (system.stepWork number work input) := by
  unfold LockSystem.stepWork
  split
  · rename_i outcome hdone
    apply h.moveWork hwork (LockWork.moves_settled system.purges hdone) system.snapshot
    · intro current hcurrent
      exact (Option.filter_eq_some_iff.mp hcurrent).1
    · intro current hcurrent
      by_cases hpromise : current.promise = number
      · exact Or.inr ⟨hpromise, not_false⟩
      · exact Or.inl (Option.filter_eq_some_iff.mpr ⟨hcurrent, decide_eq_true hpromise⟩)
  · apply h.moveWork hwork (lockRequestWorkStep_moves _ _ _ _ _)
    · intro current hcurrent
      exact hcurrent
    · intro current hcurrent
      exact Or.inl hcurrent

/-! ## Runs -/

/-- A step in order keeps the invariant. -/
theorem lockInv_step (system : LockSystem Id) (op : LockOp Id) (horder : system.StepInOrder op)
    (h : LockInv system) : LockInv (lockStep system op) := by
  cases op with
  | setStore store =>
    exact ⟨h.running, h.numbered, h.slot, h.waiting, h.joined, h.succeeded, h.purged⟩
  | syncWithActiveWallet activeWalletId =>
    simp only [lockStep, LockSystem.syncWithActiveWallet]
    repeat' split
    all_goals
      exact ⟨h.running, h.numbered, h.slot, h.waiting, h.joined, h.succeeded, h.purged⟩
  | syncFromWalletStore =>
    simp only [lockStep, LockSystem.syncFromWalletStore]
    repeat' split
    all_goals
      exact ⟨h.running, h.numbered, h.slot, h.waiting, h.joined, h.succeeded, h.purged⟩
  | call id request =>
    simp only [lockStep]
    split
    · rename_i hcaller
      cases request with
      | lock =>
        obtain ⟨-, hjoin⟩ := horder hcaller
        simp only [LockSystem.call]
        split
        · exact h.settleCaller (Or.inl rfl)
        · exact h.request (fun _ => hjoin)
      | manualUnlock params =>
        simp only [LockSystem.call]
        split
        · exact h.settleCaller (Or.inr ⟨_, rfl⟩)
        · apply h.request
          intro hlock
          cases hlock
      | bootstrapUnlock params =>
        apply h.request
        intro hlock
        cases hlock
    · exact h
  | wake id =>
    simp only [lockStep]
    split
    · rename_i request work purgesBefore hcaller
      split
      · rename_i hwaited
        have hlock : request = .lock → purgesBefore ≤ system.purges ∧
            ∀ number work purge, system.joinable .lock = some number →
              system.works number = some work → work.purge = some purge →
                purgesBefore < purge := by
          intro hrequest
          subst hrequest
          exact h.waiting id _ purgesBefore hcaller
        unfold LockSystem.proceed
        split
        · exact h.settleCaller (Or.inl rfl)
        · rename_i hunlock
          split
          · rename_i number hjoinable
            apply h.join hjoinable
            intro hrequest
            subst hrequest
            exact ⟨(hlock rfl).1, fun work purge => (hlock rfl).2 number work purge hjoinable⟩
          · rename_i hjoinable
            apply h.begin
            · apply horder
              exact ⟨request, _, purgesBefore, hcaller, hwaited, Bool.eq_false_iff.mpr hunlock,
                hjoinable⟩
            · exact fun hrequest => (hlock hrequest).1
      · exact h.settleCaller (Or.inr ⟨_, rfl⟩)
      · exact h
    · exact h
  | finish id =>
    simp only [lockStep]
    split
    · split
      · exact h.settleCaller (Or.inl rfl)
      · exact h.settleCaller (Or.inr ⟨_, rfl⟩)
      · exact h
    · exact h
  | work number input =>
    simp only [lockStep]
    split
    · rename_i work hwork
      exact h.stepWork hwork input
    · exact h

/-- In a run in order the works exclude each other, and every lock resolves after a purge that
no running load has been started before. -/
theorem lock_lifecycle_serializes (store : LockStore) (ops : List (LockOp Id))
    (horder : RunMeets lockStep LockSystem.StepInOrder (initialLockSystem store) ops) :
    RunMeets lockStep LockSystem.Serializes (initialLockSystem store) ops := by
  apply horder.imp_of_invariant LockInv _ lockInv_step (lockInv_initial store)
  intro system op h hstep
  refine ⟨(lockInv_step system op hstep h).exclusive, ?_⟩
  cases op with
  | call id request =>
      cases request with
      | lock => exact fun hcaller => (hstep hcaller).1
      | manualUnlock | bootstrapUnlock => trivial
  | finish id =>
      intro number purgesBefore hcaller houtcome
      exact h.purgedSince hcaller houtcome
  | setStore | syncWithActiveWallet | syncFromWalletStore | wake | work => trivial

end Steps

def lockedStore : LockStore where
  activeWalletId := some 1
  walletStatus := .locked
  anyRailSyncing := false

def unlockFirstWallet : UnlockLoadParams where
  walletId := some 1
  networkMode := .signet
  addressType := .segwit
  accountId := 0

def lockBesideUnlock : List (LockOp Bool) :=
  [.syncFromWalletStore, .call false (.manualUnlock unlockFirstWallet), .call true .lock,
    .wake false, .wake true, .work 0 .advance, .work 0 .advance, .work 1 .advance,
    .work 1 .advance, .work 1 .advance, .finish true]

theorem lock_resolves_during_unlock :
    ¬ RunMeets lockStep LockSystem.Serializes (initialLockSystem lockedStore)
      lockBesideUnlock := by
  intro hmeets
  have hfinish := hmeets.2.2.2.2.2.2.2.2.2.2.1
  obtain ⟨purge, hafter, -, hloads⟩ := hfinish.2 1 0 rfl rfl
  have hload := hloads 0 _ 0 rfl rfl
  omega

def lockAfterUnlock : List (LockOp Bool) :=
  [.syncFromWalletStore, .call false (.manualUnlock unlockFirstWallet), .wake false,
    .work 0 .advance, .call true .lock, .work 0 .advance,
    .setStore { lockedStore with walletStatus := .unlocked }, .work 0 .advance,
    .work 0 .advance, .finish false, .wake true, .work 1 .advance, .work 1 .advance,
    .work 1 .advance, .finish true]

theorem lock_lifecycle_serializes_lockAfterUnlock :
    RunMeets lockStep LockSystem.Serializes (initialLockSystem lockedStore)
      lockAfterUnlock := by
  apply lock_lifecycle_serializes
  refine ⟨trivial, trivial, ?_, trivial, ?_, trivial, trivial, trivial, trivial, trivial, ?_,
    trivial, trivial, trivial, trivial, trivial⟩
  · intro _ current hcurrent
    cases hcurrent
  · intro _
    constructor
    · intro hphase
      cases hphase
    · intro number work hjoinable
      cases hjoinable
  · intro _ current hcurrent
    cases hcurrent

end Bitboard.Frontend
