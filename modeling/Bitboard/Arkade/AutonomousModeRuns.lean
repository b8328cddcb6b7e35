/-
# What the switch promises

Two promises go with the switch. While autonomous mode is on, no operator request is
started, nothing is committed, and the client works from the accepted record. And when an
enter or exit has settled, the stored flag is that of the session, unless the flush failed.

A sync that is under way when the mode is entered breaks the first one, since it asks only
at its start. If the mode is entered with no sync under way, it stays quiet: there is no
call that could go on, and none can start. An exit whose sync fails breaks the second one:
it has reset the flag and never comes to its flush.
-/

import Bitboard.Arkade.AutonomousMode
import Bitboard.Arkade.OperatorTrustRuns

namespace Bitboard.Arkade

open Bitboard.Lib
open TrustSession

/-- Nothing was requested or committed in autonomous mode, and in that mode the client's info
is the accepted record. -/
def QuietWhileAutonomous (worker : AutonomyWorker) : Prop :=
  (∀ event ∈ worker.events, event.autonomousMode = false) ∧
    (worker.session.autonomousMode = true →
      worker.session.cachedOperatorInfo = some worker.session.serverInfo)

/-- Every enter or exit left the stored flag equal to the session's, unless its own flush
failed. -/
def FlagsPersisted (worker : AutonomyWorker) : Prop :=
  ∀ call persisted active, worker.calls call = some (.settled false persisted active) →
    persisted = active

/-- Autonomous mode is entered only while no call of the session is under way. -/
def EntersIdle (worker : AutonomyWorker) : AutonomyOp → Prop
  | .enterAutonomousMode _ _ => ∀ name, worker.session.calls name = none
  | _ => True

def AutonomyCall.Settled : AutonomyCall → Prop
  | .settled _ _ _ => True
  | _ => False

def ThrowsAtOnce (worker : AutonomyWorker) : AutonomyOp → Prop
  | .enterAutonomousMode _ installs =>
    worker.session.cachedOperatorInfo = none ∨ installs = false
  | .exitAutonomousMode _ _ =>
    worker.session.autonomousMode = true ∧ worker.session.operatorTrustPending = true
  | _ => False

/-- An enter or exit begins only when the last one has settled, and one that throws at once
only if the last flush of such a call did not fail. -/
def SwitchesInTurn (worker : AutonomyWorker) (op : AutonomyOp) : Prop :=
  match op with
  | .enterAutonomousMode _ _ | .exitAutonomousMode _ _ =>
    (∀ call stage, worker.calls call = some stage → stage.Settled) ∧
      (ThrowsAtOnce worker op → worker.lastFlushFailed = false)
  | _ => True

def EndsInError (worker : AutonomyWorker) (name : Nat) : AutonomyOp → Prop
  | .failed sync => sync = name
  | .refreshed sync answer => sync = name ∧
      ∃ call, worker.session.calls name = some call ∧ worker.refreshThrows call answer = true
  | _ => False

def ExitsSync (worker : AutonomyWorker) (op : AutonomyOp) : Prop :=
  ∀ call name, worker.calls call = some (.exiting name) → ¬ EndsInError worker name op

section SessionSteps

variable {session : TrustSession} {name : Nat}

/-- The flag changes only when autonomous mode is entered or left. -/
def TrustOp.KeepsMode : TrustOp → Prop
  | .syncWithOperator _ => True
  | .reconcileFullOffchainVtxoList _ => True
  | .refreshed _ _ => True
  | .infoRefreshHook _ => True
  | .settled _ => True
  | .failed _ => True
  | _ => False

@[simp]
theorem autonomousMode_syncWithOperator :
    (session.syncWithOperator name).autonomousMode = session.autonomousMode := by
  unfold syncWithOperator
  split
  · rfl
  · rfl

@[simp]
theorem autonomousMode_unlessBlocked {info : CachedOperatorInfoRecord} {passed : TrustSession}
    (h : passed.autonomousMode = session.autonomousMode) :
    (session.unlessBlocked name info passed).autonomousMode = session.autonomousMode := by
  unfold unlessBlocked
  split
  · rfl
  · exact h

theorem autonomousMode_resume (info : CachedOperatorInfoRecord) (call : TrustCall) :
    (session.resume name info call).autonomousMode = session.autonomousMode := by
  cases call with
  | starting | fetching | stamping => exact autonomousMode_unlessBlocked rfl
  | settling write => rfl
  | leaving cause =>
    cases cause with
    | exitAutonomousMode => exact autonomousMode_syncWithOperator
    | trustAccept pending => rfl
  | accepting pending =>
    simp only [resume]
    split
    · rfl
    · exact autonomousMode_syncWithOperator

theorem autonomousMode_refreshFailed (call : TrustCall) :
    (session.refreshFailed name call).autonomousMode = session.autonomousMode := by
  cases call with
  | leaving cause =>
    cases cause with
    | exitAutonomousMode => exact autonomousMode_syncWithOperator
    | trustAccept pending => rfl
  | _ => rfl

theorem autonomousMode_trustStep {op : TrustOp} (h : op.KeepsMode) :
    (trustStep session op).autonomousMode = session.autonomousMode := by
  cases op with
  | syncWithOperator name =>
    simp only [trustStep, startCall]
    split
    · rfl
    · exact autonomousMode_syncWithOperator
  | reconcileFullOffchainVtxoList name =>
    simp only [trustStep, startCall, reconcileFullOffchainVtxoList]
    split
    · rfl
    · split
      · rfl
      · rfl
  | refreshed name answer =>
    simp only [trustStep]
    split
    · rfl
    · rfl
    · exact autonomousMode_resume _ _
    · exact autonomousMode_refreshFailed _
  | infoRefreshHook | failed => rfl
  | settled name =>
    simp only [trustStep]
    split
    · next write _ =>
        cases write with
        | userSync | fullList | catchUp => rfl
    · rfl
  | openSession | acceptPendingOperatorConfig | enterAutonomousMode | exitAutonomousMode =>
    exact h.elim

end SessionSteps

/-- In autonomous mode no call of the session is under way. -/
structure QuietInv (worker : AutonomyWorker) : Prop where
  idle : worker.session.autonomousMode = true → ∀ name, worker.session.calls name = none
  quiet : QuietWhileAutonomous worker

section QuietSteps

variable {worker after : AutonomyWorker} {name : Nat}

theorem QuietInv.of_session_eq (h : QuietInv worker) (hsession : after.session = worker.session)
    (hevents : after.events = worker.events) : QuietInv after := by
  constructor
  · rw [hsession]
    exact h.idle
  · constructor
    · rw [hevents]
      exact h.quiet.1
    · rw [hsession]
      exact h.quiet.2

theorem QuietInv.of_left (hleft : after.session.autonomousMode = false)
    (hevents : ∀ event ∈ after.events, event.autonomousMode = false) : QuietInv after := by
  have hnot : ¬ after.session.autonomousMode = true := by
    rw [hleft]
    exact Bool.false_ne_true
  exact ⟨fun hon => absurd hon hnot, hevents, fun hon => absurd hon hnot⟩

variable {event : SyncEvent}

theorem mem_events_log {action : SyncAction} (h : event ∈ (worker.log action).events) :
    event ∈ worker.events ∨ event.autonomousMode = worker.session.autonomousMode := by
  rcases List.mem_append.mp h with hold | hnew
  · exact Or.inl hold
  · rw [List.mem_singleton] at hnew
    rw [hnew]
    exact Or.inr rfl

theorem mem_events_logRequest {request : Option OperatorRequest}
    (h : event ∈ (worker.logRequest request).events) :
    event ∈ worker.events ∨ event.autonomousMode = worker.session.autonomousMode := by
  cases request with
  | none => exact Or.inl h
  | some request => exact mem_events_log h

theorem session_logRequest (request : Option OperatorRequest) :
    (worker.logRequest request).session = worker.session := by
  cases request with
  | none | some => rfl

theorem session_advance (op : TrustOp) :
    (worker.advance name op).session = trustStep worker.session op := by
  unfold AutonomyWorker.advance
  simp only
  split
  · exact session_logRequest _
  · exact session_logRequest _

variable {op : TrustOp}

theorem mem_events_advance (h : event ∈ (worker.advance name op).events) :
    event ∈ worker.events ∨
      event.autonomousMode = (trustStep worker.session op).autonomousMode := by
  unfold AutonomyWorker.advance at h
  simp only at h
  split at h
  · exact mem_events_logRequest h
  · rcases mem_events_log h with hlogged | hflag
    · exact mem_events_logRequest hlogged
    · rw [session_logRequest] at hflag
      exact Or.inr hflag

theorem QuietInv.advance_left (h : QuietInv worker)
    (hleft : (trustStep worker.session op).autonomousMode = false) :
    QuietInv (worker.advance name op) := by
  apply QuietInv.of_left
  · rw [session_advance]
    exact hleft
  · intro event hevent
    rcases mem_events_advance hevent with hold | hflag
    · exact h.quiet.1 event hold
    · rw [hflag, hleft]

theorem QuietInv.off_of_call (h : QuietInv worker) {call : TrustCall}
    (hcall : worker.session.calls name = some call) : worker.session.autonomousMode = false := by
  cases hmode : worker.session.autonomousMode with
  | false => rfl
  | true =>
    rw [h.idle hmode name] at hcall
    cases hcall

theorem QuietInv.advance (h : QuietInv worker) (hkeeps : op.KeepsMode)
    {call : TrustCall} (hcall : worker.session.calls name = some call) :
    QuietInv (worker.advance name op) := by
  apply h.advance_left
  rw [autonomousMode_trustStep hkeeps]
  exact h.off_of_call hcall

theorem session_goOn (next : FetchAwait) : (worker.goOn name next).session = worker.session := by
  unfold AutonomyWorker.goOn
  split
  · split
    · rfl
    · exact session_logRequest _
  · rfl

section

variable (h : QuietInv worker)
include h

theorem QuietInv.goOn (next : FetchAwait) : QuietInv (worker.goOn name next) := by
  unfold AutonomyWorker.goOn
  split
  · next write hcall =>
      split
      · exact h
      · have hoff := h.off_of_call hcall
        apply QuietInv.of_left
        · rw [session_logRequest]
          exact hoff
        · intro event hevent
          rcases mem_events_logRequest hevent with hold | hflag
          · exact h.quiet.1 event hold
          · rw [hflag]
            exact hoff
  · exact h

theorem QuietInv.returnExit (threw : Bool) : QuietInv (worker.returnExit name threw) := by
  unfold AutonomyWorker.returnExit
  split
  · exact h
  · exact h.of_session_eq rfl rfl

theorem QuietInv.refused (hon : worker.session.autonomousMode = true)
    (hrefused : trustStep worker.session op = worker.session.setCall name none) :
    QuietInv (worker.advance name op) := by
  have hsession : trustStep worker.session op = worker.session := by
    rw [hrefused, setCall, ← h.idle hon name, Function.update_eq_self]
  have hstarted : startedRequest (worker.session.calls name) = none := by
    rw [h.idle hon name]
    rfl
  apply h.of_session_eq
  · rw [session_advance, hsession]
  · unfold AutonomyWorker.advance
    simp only [hsession, hstarted, AutonomyWorker.logRequest, if_true]

theorem QuietInv.begin (hkeeps : op.KeepsMode) (hrefused : worker.session.autonomousMode = true →
      trustStep worker.session op = worker.session.setCall name none) :
    QuietInv (worker.advance name op) := by
  cases hmode : worker.session.autonomousMode with
  | false =>
    apply h.advance_left
    rw [autonomousMode_trustStep hkeeps]
    exact hmode
  | true => exact h.refused hmode (hrefused hmode)

theorem QuietInv.enter (call : Nat) (installs : Bool)
    (hidle : ∀ name, worker.session.calls name = none) :
    QuietInv (worker.step (.enterAutonomousMode call installs)) := by
  simp only [AutonomyWorker.step]
  split
  · exact h
  · split
    · next hinstalls =>
        rw [Bool.and_eq_true, Option.isSome_iff_exists] at hinstalls
        obtain ⟨⟨cached, hcached⟩, -⟩ := hinstalls
        have hsession : trustStep worker.session .enterAutonomousMode =
            { worker.session with serverInfo := cached, autonomousMode := true } := by
          simp only [trustStep, enterAutonomousMode, hcached]
        constructor
        · intro _ name
          simp only [AutonomyWorker.setCall, hsession]
          exact hidle name
        · constructor
          · exact h.quiet.1
          · intro _
            simp only [AutonomyWorker.setCall, hsession]
            exact hcached
    · exact h.of_session_eq rfl rfl

theorem QuietInv.exit (call sync : Nat) :
    QuietInv (worker.step (.exitAutonomousMode call sync)) := by
  simp only [AutonomyWorker.step]
  split
  · next hcall hsync =>
      split
      · exact h.of_session_eq rfl rfl
      · next hon =>
          split
          · exact h.of_session_eq rfl rfl
          · next htrust =>
              have hleft : (trustStep worker.session
                  (.exitAutonomousMode sync)).autonomousMode = false := by
                simp only [Bool.not_eq_true', Bool.not_eq_false] at hon
                simp [trustStep, startCall, hsync, exitAutonomousMode, hon, htrust, setCall]
              have hadvanced : QuietInv (worker.advance sync (.exitAutonomousMode sync)) :=
                h.advance_left hleft
              exact hadvanced.of_session_eq rfl rfl
  · exact h

/-- Every step keeps the session quiet, if the mode is entered while no call is under way. -/
theorem QuietInv.step {op : AutonomyOp} (hguard : EntersIdle worker op) :
    QuietInv (worker.step op) := by
  cases op with
  | syncWithOperator name =>
    simp only [AutonomyWorker.step]
    split
    · exact h
    · next hfree =>
        apply h.begin (show TrustOp.KeepsMode (.syncWithOperator name) from trivial)
        intro hon
        simp [trustStep, startCall, hfree, syncWithOperator, hon]
  | reconcileFullOffchainVtxoList name =>
    simp only [AutonomyWorker.step]
    split
    · exact h
    · next hfree =>
        apply h.begin (show TrustOp.KeepsMode (.reconcileFullOffchainVtxoList name) from trivial)
        intro hon
        simp [trustStep, startCall, hfree, reconcileFullOffchainVtxoList, hon]
  | refreshed name answer =>
    have hkeeps : TrustOp.KeepsMode (.refreshed name answer) := trivial
    simp only [AutonomyWorker.step]
    split
    · exact h
    · exact h
    · next write hcall =>
        split
        · exact (h.advance hkeeps hcall).returnExit _
        · exact h
    · next call _ _ hcall => exact (h.advance hkeeps hcall).returnExit _
  | fetchGoesOn name next => exact h.goOn next
  | settled name next =>
    have hkeeps : TrustOp.KeepsMode (.settled name) := trivial
    simp only [AutonomyWorker.step]
    split
    · next write hcall => exact ((h.advance hkeeps hcall).goOn next).returnExit _
    · exact h
  | failed name =>
    have hkeeps : TrustOp.KeepsMode (.failed name) := trivial
    simp only [AutonomyWorker.step]
    split
    · exact h
    · next call hcall => exact (h.advance hkeeps hcall).returnExit _
  | infoRefreshHook name info =>
    simp only [AutonomyWorker.step]
    split
    · exact h
    · next call hcall => exact QuietInv.of_left (h.off_of_call hcall) h.quiet.1
  | enterAutonomousMode call installs => exact h.enter call installs hguard
  | exitAutonomousMode call sync => exact h.exit call sync
  | exportFlag owner =>
    simp only [AutonomyWorker.step]
    split
    · exact h
    · split
      · exact h.of_session_eq rfl rfl
      · exact h
  | writeFlag ok =>
    simp only [AutonomyWorker.step]
    split
    · exact h
    · split
      · exact h.of_session_eq rfl rfl
      · exact h.of_session_eq rfl rfl
  | flushThrows call =>
    simp only [AutonomyWorker.step]
    split
    · split
      · exact h
      · exact h.of_session_eq rfl rfl
    · exact h

end

end QuietSteps

/-! ## The stored flag -/

def AllSettled (worker : AutonomyWorker) : Prop :=
  ∀ call stage, worker.calls call = some stage → stage.Settled

/-- At rest the stored flag is the session's, unless the last flush failed. -/
structure FlagInv (worker : AutonomyWorker) : Prop where
  resting : AllSettled worker → worker.lastFlushFailed = true ∨
    worker.persistedFlag = worker.session.autonomousMode
  /-- A flush of another call may have exported the flag before it was changed, but not at rest. -/
  exported : ∀ flush, worker.inFlightPersist = some flush → AllSettled worker →
    worker.lastFlushFailed = true ∨ flush.exported = worker.session.autonomousMode
  own : ∀ flush call, worker.inFlightPersist = some flush → flush.owner = some call →
    worker.calls call = some .flushing ∧ flush.exported = worker.session.autonomousMode
  settled : FlagsPersisted worker

variable {call : Nat}

section FlagSteps

variable {worker after : AutonomyWorker} {name : Nat}

structure SameFlushes (before after : AutonomyWorker) : Prop where
  calls : after.calls = before.calls
  persistedFlag : after.persistedFlag = before.persistedFlag
  inFlightPersist : after.inFlightPersist = before.inFlightPersist
  lastFlushFailed : after.lastFlushFailed = before.lastFlushFailed

theorem SameFlushes.trans {first second third : AutonomyWorker} (h : SameFlushes first second)
    (hnext : SameFlushes second third) : SameFlushes first third where
  calls := hnext.calls.trans h.calls
  persistedFlag := hnext.persistedFlag.trans h.persistedFlag
  inFlightPersist := hnext.inFlightPersist.trans h.inFlightPersist
  lastFlushFailed := hnext.lastFlushFailed.trans h.lastFlushFailed

theorem sameFlushes_logRequest (request : Option OperatorRequest) :
    SameFlushes worker (worker.logRequest request) := by
  cases request with
  | none | some => exact ⟨rfl, rfl, rfl, rfl⟩

theorem sameFlushes_advance (op : TrustOp) : SameFlushes worker (worker.advance name op) := by
  have hstep : SameFlushes worker
      { worker with
        session := trustStep worker.session op
        fetchAwaits := Function.update worker.fetchAwaits name
          ((startedRequest ((trustStep worker.session op).calls name)).elim .esplora
            FetchAwait.operator) } :=
    ⟨rfl, rfl, rfl, rfl⟩
  unfold AutonomyWorker.advance
  simp only
  split
  · exact hstep.trans (sameFlushes_logRequest _)
  · exact (hstep.trans (sameFlushes_logRequest _)).trans ⟨rfl, rfl, rfl, rfl⟩

theorem sameFlushes_goOn (next : FetchAwait) : SameFlushes worker (worker.goOn name next) := by
  unfold AutonomyWorker.goOn
  split
  · split
    · exact ⟨rfl, rfl, rfl, rfl⟩
    · next write _ _ =>
        have hstep : SameFlushes worker
            { worker with fetchAwaits := Function.update worker.fetchAwaits name next } :=
          ⟨rfl, rfl, rfl, rfl⟩
        exact hstep.trans (sameFlushes_logRequest _)
  · exact ⟨rfl, rfl, rfl, rfl⟩

section

variable (h : FlagInv worker)
include h

/-- The flag stays, and at most an exit comes to its flush. -/
theorem FlagInv.sessionMove (hmode : after.session.autonomousMode = worker.session.autonomousMode)
    (hcalls : ∀ call, after.calls call = worker.calls call ∨
      ((∃ sync, worker.calls call = some (.exiting sync)) ∧ after.calls call = some .flushing))
    (hpersisted : after.persistedFlag = worker.persistedFlag)
    (hinFlight : after.inFlightPersist = worker.inFlightPersist)
    (hfailed : after.lastFlushFailed = worker.lastFlushFailed) : FlagInv after := by
  have hbefore : AllSettled after → AllSettled worker := by
    intro hsettled call stage hstage
    rcases hcalls call with hsame | ⟨-, hflushing⟩
    · rw [hstage] at hsame
      exact hsettled call stage hsame
    · exact (hsettled call .flushing hflushing).elim
  constructor
  case resting =>
    intro hsettled
    rw [hfailed, hpersisted, hmode]
    exact h.resting (hbefore hsettled)
  case exported =>
    intro flush hflush hsettled
    rw [hinFlight] at hflush
    rw [hfailed, hmode]
    exact h.exported flush hflush (hbefore hsettled)
  case own =>
    intro flush call hflush howner
    rw [hinFlight] at hflush
    obtain ⟨hflushing, hexported⟩ := h.own flush call hflush howner
    rw [hmode]
    refine ⟨?_, hexported⟩
    rcases hcalls call with hsame | ⟨-, hsame⟩
    · rw [hsame]
      exact hflushing
    · exact hsame
  case settled =>
    intro call persisted active hstage
    rcases hcalls call with hsame | ⟨-, hflushing⟩
    · rw [hsame] at hstage
      exact h.settled call persisted active hstage
    · rw [hflushing] at hstage
      cases hstage

theorem FlagInv.of_sameFlushes (hsame : SameFlushes worker after)
    (hmode : after.session.autonomousMode = worker.session.autonomousMode) : FlagInv after :=
  h.sessionMove hmode (fun call => Or.inl (congrFun hsame.calls call)) hsame.persistedFlag
    hsame.inFlightPersist hsame.lastFlushFailed

theorem FlagInv.advance {op : TrustOp} (hkeeps : op.KeepsMode) :
    FlagInv (worker.advance name op) := by
  apply h.of_sameFlushes (sameFlushes_advance op)
  rw [session_advance]
  exact autonomousMode_trustStep hkeeps

theorem FlagInv.goOn (next : FetchAwait) : FlagInv (worker.goOn name next) := by
  apply h.of_sameFlushes (sameFlushes_goOn next)
  rw [session_goOn]

theorem FlagInv.returnExit {threw : Bool}
    (hsync : threw = true → ∀ call, worker.calls call ≠ some (.exiting name)) :
    FlagInv (worker.returnExit name threw) := by
  unfold AutonomyWorker.returnExit
  split
  · exact h
  · refine h.sessionMove rfl ?_ rfl rfl rfl
    intro call
    dsimp only
    split
    · next sync hexiting =>
        split
        · next heq =>
            cases threw with
            | false => exact Or.inr ⟨⟨sync, hexiting⟩, rfl⟩
            | true =>
              rw [heq] at hexiting
              exact absurd hexiting (hsync rfl call)
        · exact Or.inl hexiting.symm
    · exact Or.inl rfl

/-- At rest a call that throws at once finds the flags equal. -/
theorem FlagInv.settleAtOnce (hsettled : AllSettled worker)
    (hfailed : worker.lastFlushFailed = false) (call : Nat) :
    FlagInv (worker.settleCall call false) := by
  have hflag : worker.persistedFlag = worker.session.autonomousMode := by
    rcases h.resting hsettled with hlast | hflag
    · rw [hfailed] at hlast
      cases hlast
    · exact hflag
  constructor
  case resting =>
    intro _
    exact Or.inr hflag
  case exported =>
    intro flush hflush _
    exact h.exported flush hflush hsettled
  case own =>
    intro flush other hflush howner
    have hown := h.own flush other hflush howner
    exact (hsettled other .flushing hown.1).elim
  case settled =>
    intro other persisted active hstage
    simp only [AutonomyWorker.settleCall, AutonomyWorker.setCall, Function.update_apply] at hstage
    split at hstage
    · cases hstage
      exact hflag
    · exact h.settled other persisted active hstage

/-- At rest a call begins that does not settle at once; it may change the flag. -/
theorem FlagInv.beginCall (hsettled : AllSettled worker) (hsame : SameFlushes worker after)
    {stage : AutonomyCall} (hstage : ¬ stage.Settled) : FlagInv (after.setCall call stage) := by
  have hnot : ¬ AllSettled (after.setCall call stage) := by
    intro hall
    exact hstage (hall call stage (Function.update_self ..))
  constructor
  case resting =>
    intro hall
    exact absurd hall hnot
  case exported =>
    intro flush _ hall
    exact absurd hall hnot
  case own =>
    intro flush other hflush howner
    have hflush : after.inFlightPersist = some flush := hflush
    rw [hsame.inFlightPersist] at hflush
    have hown := h.own flush other hflush howner
    exact (hsettled other .flushing hown.1).elim
  case settled =>
    intro other persisted active hfound
    simp only [AutonomyWorker.setCall, Function.update_apply] at hfound
    split at hfound
    · cases hfound
      exact absurd trivial hstage
    · rw [hsame.calls] at hfound
      exact h.settled other persisted active hfound

end

theorem not_settled_flushing : ¬ AutonomyCall.flushing.Settled := fun hstage => hstage

theorem not_settled_exiting (sync : Nat) : ¬ (AutonomyCall.exiting sync).Settled :=
  fun hstage => hstage

section

variable (h : FlagInv worker)
include h

theorem FlagInv.enter {installs : Bool}
    (hguard : SwitchesInTurn worker (.enterAutonomousMode call installs)) :
    FlagInv (worker.step (.enterAutonomousMode call installs)) := by
  obtain ⟨hsettled, hthrows⟩ := hguard
  simp only [AutonomyWorker.step]
  split
  · exact h
  · split
    · have hsame : SameFlushes worker
          { worker with session := trustStep worker.session .enterAutonomousMode } :=
        ⟨rfl, rfl, rfl, rfl⟩
      exact h.beginCall hsettled hsame not_settled_flushing
    · next hfails =>
        apply h.settleAtOnce hsettled
        apply hthrows
        cases hcached : worker.session.cachedOperatorInfo with
        | none => exact Or.inl hcached
        | some cached =>
          right
          simpa [hcached] using hfails

theorem FlagInv.exit {sync : Nat} (hguard : SwitchesInTurn worker (.exitAutonomousMode call sync)) :
    FlagInv (worker.step (.exitAutonomousMode call sync)) := by
  obtain ⟨hsettled, hthrows⟩ := hguard
  simp only [AutonomyWorker.step]
  split
  · split
    · exact h.beginCall hsettled ⟨rfl, rfl, rfl, rfl⟩ not_settled_flushing
    · next hon =>
        split
        · next htrust =>
            apply h.settleAtOnce hsettled
            apply hthrows
            refine ⟨?_, htrust⟩
            simpa using hon
        · exact h.beginCall hsettled (sameFlushes_advance _) (not_settled_exiting sync)
  · exact h

theorem FlagInv.exportFlag (owner : Option Nat) : FlagInv (worker.step (.exportFlag owner)) := by
  simp only [AutonomyWorker.step]
  split
  · exact h
  · split
    · next howns =>
        constructor
        case resting => exact h.resting
        case exported =>
          intro flush hflush _
          cases hflush
          exact Or.inr rfl
        case own =>
          intro flush call hflush howner
          cases hflush
          have howner : owner = some call := howner
          rw [howner, Option.all_some, decide_eq_true_eq] at howns
          exact ⟨howns, rfl⟩
        case settled => exact h.settled
    · exact h

/-- A call that settles with a flush of its own that failed. -/
theorem FlagInv.settleFailed (hfailed : worker.lastFlushFailed = true)
    (hnotOwn : ∀ flush, worker.inFlightPersist = some flush → flush.owner ≠ some call) :
    FlagInv (worker.settleCall call true) := by
  constructor
  case resting =>
    intro _
    exact Or.inl hfailed
  case exported =>
    intro flush _ _
    exact Or.inl hfailed
  case own =>
    intro flush other hflush howner
    obtain ⟨hflushing, hexported⟩ := h.own flush other hflush howner
    have hne : other ≠ call := by
      intro heq
      rw [heq] at howner
      exact hnotOwn flush hflush howner
    exact ⟨(Function.update_of_ne hne ..).trans hflushing, hexported⟩
  case settled =>
    intro other persisted active hstage
    simp only [AutonomyWorker.settleCall, AutonomyWorker.setCall, Function.update_apply] at hstage
    split at hstage
    · cases hstage
    · exact h.settled other persisted active hstage

/-- The promise is given up, and the exported flag is stored or not. -/
theorem FlagInv.writeFlag (ok : Bool) : FlagInv (worker.step (.writeFlag ok)) := by
  simp only [AutonomyWorker.step]
  split
  · exact h
  · next owner exported hflush =>
      split
      · constructor
        case resting =>
          intro hsettled
          cases ok with
          | false => exact h.resting hsettled
          | true => exact h.exported _ hflush hsettled
        case exported =>
          intro flush hnone
          cases hnone
        case own =>
          intro flush call hnone
          cases hnone
        case settled => exact h.settled
      · next call =>
          obtain ⟨-, hexported⟩ := h.own _ call hflush rfl
          have hexported : exported = worker.session.autonomousMode := hexported
          constructor
          case resting =>
            intro _
            cases ok with
            | false => exact Or.inl rfl
            | true => exact Or.inr hexported
          case exported =>
            intro flush hnone
            cases hnone
          case own =>
            intro flush other hnone
            cases hnone
          case settled =>
            intro other persisted active hstage
            simp only [AutonomyWorker.settleCall, AutonomyWorker.setCall,
              Function.update_apply] at hstage
            split at hstage
            · cases ok with
              | false => cases hstage
              | true =>
                cases hstage
                exact hexported
            · exact h.settled other persisted active hstage

theorem FlagInv.flushThrows (call : Nat) : FlagInv (worker.step (.flushThrows call)) := by
  simp only [AutonomyWorker.step]
  split
  · split
    · exact h
    · next hnotOwn =>
        have hfailed : FlagInv { worker with lastFlushFailed := true } := by
          constructor
          case resting =>
            intro _
            exact Or.inl rfl
          case exported =>
            intro flush _ _
            exact Or.inl rfl
          case own => exact h.own
          case settled => exact h.settled
        apply hfailed.settleFailed rfl
        intro flush hflush howner
        have hflush : worker.inFlightPersist = some flush := hflush
        simp [hflush, howner] at hnotOwn
  · exact h

theorem FlagInv.step {op : AutonomyOp} (hturn : SwitchesInTurn worker op)
    (hexits : ExitsSync worker op) : FlagInv (worker.step op) := by
  cases op with
  | syncWithOperator name =>
    have hkeeps : TrustOp.KeepsMode (.syncWithOperator name) := trivial
    simp only [AutonomyWorker.step]
    split
    · exact h
    · exact h.advance hkeeps
  | reconcileFullOffchainVtxoList name =>
    have hkeeps : TrustOp.KeepsMode (.reconcileFullOffchainVtxoList name) := trivial
    simp only [AutonomyWorker.step]
    split
    · exact h
    · exact h.advance hkeeps
  | refreshed name answer =>
    have hkeeps : TrustOp.KeepsMode (.refreshed name answer) := trivial
    have hreturn : ∀ call, worker.session.calls name = some call →
        FlagInv ((worker.advance name (.refreshed name answer)).returnExit name
          (worker.refreshThrows call answer)) := by
      intro running hrunning
      apply (h.advance hkeeps).returnExit
      intro hthrew call hexiting
      rw [(sameFlushes_advance _).calls] at hexiting
      exact hexits call name hexiting ⟨rfl, running, hrunning, hthrew⟩
    simp only [AutonomyWorker.step]
    split
    · exact h
    · exact h
    · next write hcall =>
        split
        · exact hreturn _ hcall
        · exact h
    · next call _ _ hcall => exact hreturn call hcall
  | fetchGoesOn name next => exact h.goOn next
  | settled name next =>
    have hkeeps : TrustOp.KeepsMode (.settled name) := trivial
    simp only [AutonomyWorker.step]
    split
    · apply ((h.advance hkeeps).goOn next).returnExit
      intro hthrew
      cases hthrew
    · exact h
  | failed name =>
    have hkeeps : TrustOp.KeepsMode (.failed name) := trivial
    simp only [AutonomyWorker.step]
    split
    · exact h
    · apply (h.advance hkeeps).returnExit
      intro _ call hexiting
      rw [(sameFlushes_advance _).calls] at hexiting
      exact hexits call name hexiting rfl
  | infoRefreshHook name info =>
    simp only [AutonomyWorker.step]
    split
    · exact h
    · exact h.of_sameFlushes ⟨rfl, rfl, rfl, rfl⟩ rfl
  | enterAutonomousMode call installs => exact h.enter hturn
  | exitAutonomousMode call sync => exact h.exit hturn
  | exportFlag owner => exact h.exportFlag owner
  | writeFlag ok => exact h.writeFlag ok
  | flushThrows call => exact h.flushThrows call

end

end FlagSteps

/-! ## Runs -/

theorem AtOpen.quietInv {worker : AutonomyWorker} (hopen : AtOpen worker) : QuietInv worker where
  idle := fun _ => hopen.calls
  quiet := ⟨by simp [hopen.events], hopen.serverInfo⟩

theorem AtOpen.flagInv {worker : AutonomyWorker} (hopen : AtOpen worker) : FlagInv worker where
  resting := fun _ => Or.inr hopen.persistedFlag
  exported := by simp [hopen.inFlightPersist]
  own := by simp [hopen.inFlightPersist]
  settled := by simp [FlagsPersisted, hopen.workerCalls]

/-- What the steps of a run have to meet for the stored flag to follow the session's. -/
def SwitchesAndSyncs (worker : AutonomyWorker) (op : AutonomyOp) : Prop :=
  SwitchesInTurn worker op ∧ ExitsSync worker op

/-- If autonomous mode is entered only while no sync is under way, the session is quiet in
that mode. If enters and exits come in turn and no exit fails in its sync, each of them
leaves the flag stored, unless its flush failed. -/
theorem quiet_and_persisted {worker : AutonomyWorker} (hopen : AtOpen worker)
    (ops : List AutonomyOp) :
    (RunMeets AutonomyWorker.step EntersIdle worker ops →
      QuietWhileAutonomous (worker.run ops)) ∧
    (RunMeets AutonomyWorker.step SwitchesAndSyncs worker ops →
      FlagsPersisted (worker.run ops)) := by
  constructor
  · intro hmeets
    have hinv : QuietInv (worker.run ops) :=
      run_invariant_of_runMeets QuietInv (fun _ _ hguard h => h.step hguard) hopen.quietInv hmeets
    exact hinv.quiet
  · intro hmeets
    have hinv : FlagInv (worker.run ops) :=
      run_invariant_of_runMeets FlagInv (fun _ _ hguard h => h.step hguard.1 hguard.2)
        hopen.flagInv hmeets
    exact hinv.settled

def sampleAutonomyWorker : AutonomyWorker where
  session := sampleTrustSession
  fetchAwaits := fun _ => .esplora
  events := []
  persistedFlag := false
  inFlightPersist := none
  calls := fun _ => none
  lastFlushFailed := false

theorem atOpen_sampleAutonomyWorker : AtOpen sampleAutonomyWorker where
  calls := fun _ => rfl
  workerCalls := fun _ => rfl
  events := rfl
  inFlightPersist := rfl
  persistedFlag := rfl
  serverInfo := by decide

def enteredAfterSync : List AutonomyOp :=
  [.syncWithOperator 0, .failed 0, .enterAutonomousMode 1 true, .exportFlag (some 1),
    .writeFlag true]

theorem quiet_and_persisted_enteredAfterSync :
    QuietWhileAutonomous (sampleAutonomyWorker.run enteredAfterSync) ∧
      FlagsPersisted (sampleAutonomyWorker.run enteredAfterSync) ∧
      (sampleAutonomyWorker.run enteredAfterSync).calls 1 = some (.settled false true true) := by
  have hrun := quiet_and_persisted atOpen_sampleAutonomyWorker enteredAfterSync
  have hidle : ∀ name : Nat,
      (sampleAutonomyWorker.run [.syncWithOperator 0, .failed 0]).session.calls name = none := by
    intro name
    simp [sampleAutonomyWorker, AutonomyWorker.run, Lib.run, AutonomyWorker.step,
      AutonomyWorker.advance, AutonomyWorker.returnExit, trustStep, startCall,
      syncWithOperator, setCall, sampleTrustSession, startedRequest,
      AutonomyWorker.logRequest, AutonomyWorker.log]
  have hbefore : ∀ (worker : AutonomyWorker) (op : AutonomyOp),
      worker.calls = (fun _ => none) → ExitsSync worker op := by
    intro worker op hnone call name hexiting
    rw [hnone] at hexiting
    cases hexiting
  have hafter : ∀ (worker : AutonomyWorker) (op : AutonomyOp),
      worker.calls = Function.update (fun _ => none) 1 (some .flushing) →
        ExitsSync worker op := by
    intro worker op hcalls call name hexiting
    rw [hcalls, Function.update_apply] at hexiting
    split at hexiting
    · cases hexiting
    · cases hexiting
  have hmeets : RunMeets AutonomyWorker.step SwitchesAndSyncs sampleAutonomyWorker
      enteredAfterSync := by
    refine ⟨⟨trivial, hbefore _ _ rfl⟩, ⟨trivial, hbefore _ _ rfl⟩, ⟨⟨?_, fun _ => rfl⟩,
      hbefore _ _ rfl⟩, ⟨trivial, hafter _ _ rfl⟩, ⟨trivial, hafter _ _ rfl⟩, trivial⟩
    intro call stage hstage
    cases hstage
  refine ⟨hrun.1 ⟨trivial, trivial, hidle, trivial, trivial, trivial⟩, hrun.2 hmeets, ?_⟩
  decide +kernel

def enteredDuringSync : List AutonomyOp :=
  [.syncWithOperator 0, .enterAutonomousMode 1 true, .refreshed 0 (some (sampleOperatorInfo "a")),
    .fetchGoesOn 0 (.operator .listVtxos), .fetchGoesOn 0 .gate,
    .refreshed 0 (some (sampleOperatorInfo "a"))]

def infoReplaced : List AutonomyOp :=
  [.syncWithOperator 0, .enterAutonomousMode 1 true, .refreshed 0 (some (sampleOperatorInfo "b"))]

def exitWithoutOperator : List AutonomyOp :=
  [.enterAutonomousMode 0 true, .exportFlag (some 0), .writeFlag true, .exitAutonomousMode 1 0,
    .refreshed 0 none, .refreshed 0 none]

/-- A sync under way starts requests and commits in autonomous mode, and its refresh replaces
the client's info. An exit that fails in its sync leaves the flag stored that it has reset. -/
theorem not_quiet_and_not_persisted :
    { action := .request .discoverKeys, autonomousMode := true } ∈
        (sampleAutonomyWorker.run enteredDuringSync).events ∧
      { action := .commit, autonomousMode := true } ∈
        (sampleAutonomyWorker.run enteredDuringSync).events ∧
      ¬ QuietWhileAutonomous (sampleAutonomyWorker.run enteredDuringSync) ∧
      ¬ QuietWhileAutonomous (sampleAutonomyWorker.run infoReplaced) ∧
      ¬ FlagsPersisted (sampleAutonomyWorker.run exitWithoutOperator) := by
  have hrequest : { action := .request .discoverKeys, autonomousMode := true } ∈
      (sampleAutonomyWorker.run enteredDuringSync).events := by
    decide +kernel
  have hcommit : { action := .commit, autonomousMode := true } ∈
      (sampleAutonomyWorker.run enteredDuringSync).events := by
    decide +kernel
  refine ⟨hrequest, hcommit, ?_, ?_, ?_⟩
  · intro hquiet
    have hoff := hquiet.1 _ hcommit
    cases hoff
  · intro hquiet
    have hmode : (sampleAutonomyWorker.run infoReplaced).session.autonomousMode = true := by
      decide +kernel
    have hinstalled := hquiet.2 hmode
    have hreplaced : (sampleAutonomyWorker.run infoReplaced).session.cachedOperatorInfo ≠
        some (sampleAutonomyWorker.run infoReplaced).session.serverInfo := by
      decide +kernel
    exact hreplaced hinstalled
  · intro hflags
    have hsettled : (sampleAutonomyWorker.run exitWithoutOperator).calls 1 =
        some (.settled false true false) := by
      decide +kernel
    have hequal := hflags 1 true false hsettled
    cases hequal

end Bitboard.Arkade
