/-
# Who drives the exit machine

A step is broadcast because the user asked for it or because the automation drives the
job. What a move does to the fields this depends on, the fee, the standing request, the
automation and the pause, is said once, in `DriveMove`: the user requests a step, the
automation is switched, the job ends, a policy evaluation gives a fee, or everything is
carried on. Only what is carried on leads to `ensuringBroadcast`, and the guards under
which it does are part of the statement.
-/

import Bitboard.Frontend.ExitJobMoves

namespace Bitboard.Frontend

open Bitboard.Lib

namespace UnilateralExitMachineState

def inFlight : UnilateralExitMachineState → Bool
  | .taggingPlan | .checkingProgress | .loadingProgress | .evaluatingPolicy | .proceeding
  | .ensuringBroadcast => true
  | _ => false

/-- A step is broadcast here, or its fee is evaluated. -/
def broadcasts : UnilateralExitMachineState → Bool
  | .evaluatingPolicy | .proceeding | .ensuringBroadcast => true
  | _ => false

/-- The states that accept a `PROCEED_MANUAL`. -/
def takesProceed : UnilateralExitMachineState → Bool
  | .idle | .checkingProgress | .loadingProgress | .waitingConfirm | .waitingForParentData
  | .paused | .error => true
  | _ => false

/-- The states that accept an `AUTOMATION_PREFS_CHANGED`. -/
def takesPrefs : UnilateralExitMachineState → Bool
  | .notConfigured | .complete | .terminated | .aborted | .error => false
  | _ => true

end UnilateralExitMachineState

/-- The fee of a step that the user asks for, where the machine takes the event. -/
def manualRequest (config : ExitConfig) : UnilateralExitMachineEvent → Option Rat
  | .startManual _ _ feeRateSatPerVb =>
    if config.value = .idle then some feeRateSatPerVb else none
  | .proceedManual feeRateSatPerVb =>
    if config.value.takesProceed then some feeRateSatPerVb else none
  | _ => none

/-- How the automation is switched, where the machine takes the event. -/
def automationSwitch (config : ExitConfig) : UnilateralExitMachineEvent → Option Bool
  | .startAutomatic .. => if config.value = .idle then some true else none
  | .hydrateOrStart _ _ automationEnabled _ _ _ =>
    if config.value = .idle then some (automationEnabled.getD false) else none
  | .automationPrefsChanged automationEnabled =>
    if config.value.takesPrefs then some automationEnabled else none
  | .arkadeSessionReset => some false
  | _ => none

def shownStepIndex (config : ExitConfig) : Option Nat :=
  config.context.progress.map (·.stepIndex)

section Kinds

variable (before : ExitConfig) (event : UnilateralExitMachineEvent) (move : ExitMove)

/-- The user asks for a step: the one shown, or whichever a new job begins with. -/
structure Requests (feeRateSatPerVb : Rat) : Prop where
  request : manualRequest before event = some feeRateSatPerVb
  noSwitch : automationSwitch before event = none
  value : move.config.value = .taggingPlan ∨ move.config.value = .checkingProgress ∨
    move.config.value = .loadingProgress
  feeRate : move.config.context.feeRateSatPerVb = some feeRateSatPerVb
  automation : move.config.context.automationEnabled = before.context.automationEnabled
  unpaused : move.config.context.pausedReason = none
  target : move.config.context.proceedTargetStepIndex = shownStepIndex before ∨
    move.config.context.proceedTargetStepIndex = none ∧
      ∃ walletScope outpoints, event = .startManual walletScope outpoints feeRateSatPerVb

/-- The automation is switched on, without a fee, or off, without a request. -/
structure Switches (enabled : Bool) : Prop where
  switch : automationSwitch before event = some enabled
  noRequest : manualRequest before event = none
  value : event = .automationPrefsChanged enabled ∧ move.entered = none ∧
      move.config.value = before.value ∨
    move.config.value = .idle ∨ move.config.value = .taggingPlan ∨
    move.config.value = .checkingProgress ∨ move.config.value = .notConfigured
  automation : move.config.context.automationEnabled = enabled
  unpaused : move.config.context.pausedReason = none
  feeRate : enabled = true → move.config.context.feeRateSatPerVb = none
  proceed : enabled = false → move.config.context.proceedRequested = false

structure Ends : Prop where
  noRequest : manualRequest before event = none
  noSwitch : automationSwitch before event = none
  value : move.config.value = .idle
  automation : move.config.context.automationEnabled = before.context.automationEnabled
  unpaused : move.config.context.pausedReason = none
  feeRate : move.config.context.feeRateSatPerVb = none
  proceed : move.config.context.proceedRequested = false

/-- A policy evaluation that did not pause gives the fee to proceed with. -/
structure Evaluates (output : UnilateralExitPolicyEvaluation) : Prop where
  value : before.value = .evaluatingPolicy
  event : event = .evaluateAutomationPolicyDone output
  unpausedOutput : output.pausedReason = none
  valueAfter : move.config.value = .proceeding
  entered : move.entered = some .proceeding
  automation : move.config.context.automationEnabled = before.context.automationEnabled
  paused : move.config.context.pausedReason = before.context.pausedReason
  feeRate : move.config.context.feeRateSatPerVb = some output.feeRateSatPerVb

/-- A fetched report makes the machine ensure the broadcast of its step. -/
structure FetchEnsures (output : ArkadeUnilateralExitProgress) : Prop where
  value : before.value = .loadingProgress
  event : event = .fetchProgressDone output
  refresh : before.context.progressRefreshRequested = false
  policyFirst : needsBroadcastBeforeEnsureBroadcast output before.context = false
  needs : needsBroadcastFromFetchEvent output before.context = true

/-- A fetched report makes the machine proceed without a policy evaluation. -/
structure FetchProceeds (output : ArkadeUnilateralExitProgress) : Prop where
  value : before.value = .loadingProgress
  event : event = .fetchProgressDone output
  refresh : before.context.progressRefreshRequested = false
  mismatch : manualProceedTargetMismatch output before.context = false
  waits : isWaitingForRelayedStepConfirmation output = false
  policyFirst : shouldRunAutomationPolicyFromEvent output before.context = false
  proceeds : shouldProceedNowFromEvent output before.context = true

/-- A request that stands in flight afterwards stood there before, unless the automation
makes it. Where it is carried out, it is not kept for another broadcast. -/
def KeepsRequest : Prop :=
  move.config.value.inFlight = true → move.config.context.proceedRequested = true →
    before.context.automationEnabled = true ∨
      before.value.inFlight = true ∧ before.context.proceedRequested = true ∧
        move.config.context.proceedTargetStepIndex = before.context.proceedTargetStepIndex ∧
        (before.value.broadcasts = true → move.config.value.broadcasts = true)

/-- A pause is found in `paused` and `aborted`, or it was there before elsewhere. -/
def KeepsPause : Prop :=
  move.config.context.pausedReason.isSome → move.config.value = .paused ∨
    move.config.value = .aborted ∨ before.context.pausedReason.isSome ∧
      before.value ≠ .paused ∧ before.value ≠ .aborted

structure CarriesOn : Prop where
  noRequest : manualRequest before event = none
  noSwitch : automationSwitch before event = none
  automation : move.config.context.automationEnabled = before.context.automationEnabled
  feeRate : move.config.context.feeRateSatPerVb = before.context.feeRateSatPerVb
  request : KeepsRequest before move
  pause : KeepsPause before move
  stays : move.entered = none → move.config.value = before.value
  ensures : move.entered.isSome → move.config.value = .ensuringBroadcast →
    before.value = .proceeding ∨ ∃ output, FetchEnsures before event output
  proceeds : move.entered.isSome → move.config.value = .proceeding →
    ∃ output, FetchProceeds before event output
  evaluates : move.entered.isSome → move.config.value = .evaluatingPolicy →
    before.value = .loadingProgress ∧ before.context.automationEnabled = true

/-- Everything a move can do to the fields that a broadcast depends on. -/
inductive DriveMove : Prop where
  | requests (feeRateSatPerVb : Rat) (move : Requests before event move feeRateSatPerVb)
  | switches (enabled : Bool) (move : Switches before event move enabled)
  | ends (move : Ends before event move)
  | evaluates (output : UnilateralExitPolicyEvaluation) (move : Evaluates before event move output)
  | carriesOn (move : CarriesOn before event move)

abbrev DriveTakes (transition : ExitTransition) : Prop :=
  DriveMove before event (unilateralExitMachine.take before event transition)

end Kinds

/-! ## The moves of every state -/

section Moves

variable {context : MachineContext} {event : UnilateralExitMachineEvent}
variable {transition : ExitTransition} {value : UnilateralExitMachineState}
variable {state : UnilateralExitMachineState} {entered : Option UnilateralExitMachineState}
variable {after : MachineContext}

theorem keepsRequest_of_same (hflight : value.inFlight = true)
    (hbroadcasts : value.broadcasts = false ∨ state.broadcasts = true)
    (hproceed : after.proceedRequested = context.proceedRequested)
    (htarget : after.proceedTargetStepIndex = context.proceedTargetStepIndex) :
    KeepsRequest { value, context } ⟨⟨state, after⟩, entered⟩ := by
  intro _ hafter
  refine .inr ⟨hflight, hproceed ▸ hafter, htarget, ?_⟩
  intro hvalue
  rcases hbroadcasts with hnot | hstate
  · rw [hnot] at hvalue
    cases hvalue
  · exact hstate

variable {before : ExitConfig}

theorem keepsRequest_of_rests (hrests : state.inFlight = false) :
    KeepsRequest before ⟨⟨state, after⟩, entered⟩ := by
  intro hflight
  rw [hrests] at hflight
  cases hflight

theorem keepsRequest_of_dropped (hdropped : after.proceedRequested = false) :
    KeepsRequest before ⟨⟨state, after⟩, entered⟩ := by
  intro _ hproceed
  rw [hdropped] at hproceed
  cases hproceed

theorem keepsPause_of_same (hsame : after.pausedReason = context.pausedReason)
    (hvalue : value ≠ .paused ∧ value ≠ .aborted) :
    KeepsPause { value, context } ⟨⟨state, after⟩, entered⟩ :=
  fun hafter => .inr (.inr ⟨hsame ▸ hafter, hvalue⟩)

theorem keepsPause_of_unpaused (hunpaused : after.pausedReason = none) :
    KeepsPause before ⟨⟨state, after⟩, entered⟩ := by
  intro hpaused
  rw [hunpaused] at hpaused
  cases hpaused

section

variable (hrequest : manualRequest { value, context } event = none)
include hrequest

section

variable (hswitch : automationSwitch { value, context } event = none)
include hswitch

theorem driveMove_enters (hautomation : after.automationEnabled = context.automationEnabled)
    (hfee : after.feeRateSatPerVb = context.feeRateSatPerVb)
    (hkeeps : KeepsRequest { value, context } ⟨⟨state, after⟩, some state⟩)
    (hpause : KeepsPause { value, context } ⟨⟨state, after⟩, some state⟩)
    (hensures : state = .ensuringBroadcast →
      value = .proceeding ∨ ∃ output, FetchEnsures { value, context } event output)
    (hproceeds : state = .proceeding → ∃ output, FetchProceeds { value, context } event output)
    (hevaluates : state = .evaluatingPolicy →
      value = .loadingProgress ∧ context.automationEnabled = true) :
    DriveMove { value, context } event ⟨⟨state, after⟩, some state⟩ := by
  apply DriveMove.carriesOn
  refine ⟨hrequest, hswitch, hautomation, hfee, hkeeps, hpause, ?_, fun _ => hensures,
    fun _ => hproceeds, fun _ => hevaluates⟩
  intro hentered
  cases hentered

theorem driveMove_goes (hstate : state.broadcasts = false)
    (hautomation : after.automationEnabled = context.automationEnabled)
    (hfee : after.feeRateSatPerVb = context.feeRateSatPerVb)
    (hkeeps : KeepsRequest { value, context } ⟨⟨state, after⟩, some state⟩)
    (hpause : KeepsPause { value, context } ⟨⟨state, after⟩, some state⟩) :
    DriveMove { value, context } event ⟨⟨state, after⟩, some state⟩ := by
  apply driveMove_enters hrequest hswitch hautomation hfee hkeeps hpause
  all_goals
    rintro rfl
    cases hstate

theorem driveMove_rests (hrests : state.inFlight = false)
    (hautomation : after.automationEnabled = context.automationEnabled)
    (hfee : after.feeRateSatPerVb = context.feeRateSatPerVb) (hpause : KeepsPause { value, context }
      ⟨⟨state, after⟩, some state⟩) :
    DriveMove { value, context } event ⟨⟨state, after⟩, some state⟩ := by
  apply driveMove_enters hrequest hswitch hautomation hfee (keepsRequest_of_rests hrests) hpause
  all_goals
    rintro rfl
    cases hrests

end

end

theorem driveMove_abort (resolvedJobOutpoints : List ArkadeVtxoOutpoint)
    (hmem : transition ∈ [abortOrchestrationTransition]) :
    DriveTakes { value, context } (.abortOrchestration resolvedJobOutpoints) transition := by
  cases List.mem_singleton.mp hmem
  exact driveMove_rests rfl rfl rfl rfl rfl (fun _ => .inr (.inl rfl))

theorem driveMove_proceed (feeRateSatPerVb : Rat) (hvalue : value.takesProceed = true)
    (hmem : transition ∈ [proceedManualTransition feeRateSatPerVb]) :
    DriveTakes { value, context } (.proceedManual feeRateSatPerVb) transition := by
  cases List.mem_singleton.mp hmem
  exact .requests feeRateSatPerVb ⟨if_pos hvalue, rfl, .inr (.inl rfl), rfl, rfl, rfl, .inl rfl⟩

theorem driveMove_clear (hmem : transition ∈ [clearJobTransition]) :
    DriveTakes { value, context } .clearJob transition := by
  cases List.mem_singleton.mp hmem
  exact .ends ⟨rfl, rfl, rfl, rfl, rfl, rfl, rfl⟩

theorem driveMove_resume (hmem : transition ∈ [resumeTransition]) :
    DriveTakes { value, context } .resume transition := by
  cases List.mem_singleton.mp hmem
  exact driveMove_goes rfl rfl rfl rfl rfl (fun _ hproceed => .inl hproceed)
    (keepsPause_of_unpaused rfl)

theorem driveMove_prefs {automationEnabled : Bool} {target : Option UnilateralExitMachineState}
    {guard : MachineContext → Bool} (hvalue : value.takesPrefs = true)
    (htarget : target = none ∨ target = some .idle ∨ target = some .checkingProgress) :
    DriveTakes { value, context } (.automationPrefsChanged automationEnabled)
      { guard, target, actions := [assignAutomationPrefs automationEnabled] } := by
  apply DriveMove.switches automationEnabled
  rcases htarget with rfl | rfl | rfl
  · exact ⟨if_pos hvalue, rfl, .inl ⟨rfl, rfl, rfl⟩, rfl, rfl, by rintro rfl; rfl,
      by rintro rfl; rfl⟩
  · exact ⟨if_pos hvalue, rfl, .inr (.inl rfl), rfl, rfl, by rintro rfl; rfl, by rintro rfl; rfl⟩
  · exact ⟨if_pos hvalue, rfl, .inr (.inr (.inr (.inl rfl))), rfl, rfl, by rintro rfl; rfl,
      by rintro rfl; rfl⟩

theorem driveMove_inFlight (hvalue : value.takesPrefs = true)
    (hmem : transition ∈ inFlightAbortAndPrefs event) :
    DriveTakes { value, context } event transition := by
  cases event with
  | abortOrchestration resolvedJobOutpoints => exact driveMove_abort resolvedJobOutpoints hmem
  | automationPrefsChanged automationEnabled =>
    cases List.mem_singleton.mp hmem
    exact driveMove_prefs hvalue (.inl rfl)
  | _ => cases hmem

theorem driveMove_inFlightProceed (hvalue : value = .checkingProgress ∨ value = .loadingProgress)
    (hmem : transition ∈ inFlightAbortPrefsAndProceed event) :
    DriveTakes { value, context } event transition := by
  unfold inFlightAbortPrefsAndProceed at hmem
  split at hmem
  · cases List.mem_singleton.mp hmem
    rcases hvalue with rfl | rfl
    · exact .requests _ ⟨rfl, rfl, .inr (.inl rfl), rfl, rfl, rfl, .inl rfl⟩
    · exact .requests _ ⟨rfl, rfl, .inr (.inr rfl), rfl, rfl, rfl, .inl rfl⟩
  · rcases hvalue with rfl | rfl
    all_goals exact driveMove_inFlight rfl hmem

theorem driveMove_onIdle (hfirst : IsFirst context (onIdle event) transition) :
    DriveTakes { value := .idle, context } event transition := by
  cases event with
  | startManual walletScope outpoints feeRateSatPerVb =>
    cases List.mem_singleton.mp hfirst.mem
    exact .requests feeRateSatPerVb
      ⟨rfl, rfl, .inl rfl, rfl, rfl, rfl, .inr ⟨rfl, _, _, rfl⟩⟩
  | startAutomatic walletScope outpoints =>
    cases List.mem_singleton.mp hfirst.mem
    exact .switches true
      ⟨rfl, rfl, .inr (.inr (.inl rfl)), rfl, rfl, fun _ => rfl, (by simp)⟩
  | hydrateOrStart walletScope outpoints automationEnabled resumeAutomation sats inProgress =>
    cases List.mem_singleton.mp hfirst.mem
    apply DriveMove.switches (automationEnabled.getD false)
    refine ⟨rfl, rfl, .inr (.inr (.inl rfl)), rfl, rfl, fun henabled => if_pos henabled, ?_⟩
    intro hdisabled
    show (resumeAutomation.getD false && automationEnabled.getD false) = false
    simp [hdisabled]
  | proceedManual feeRateSatPerVb => exact driveMove_proceed feeRateSatPerVb rfl hfirst.mem
  | pollTick =>
    rcases hfirst with ⟨hactive, rfl⟩ | ⟨_, ⟨_, rfl⟩ | ⟨_, hfalse⟩⟩
    · have hautomation : context.automationEnabled = true := by
        simp only [hasActiveAutomaticJob, Bool.and_eq_true] at hactive
        exact hactive.1.1.1
      exact driveMove_goes rfl rfl rfl rfl rfl (fun _ _ => .inl hautomation)
        (keepsPause_of_same rfl (by simp))
    · exact driveMove_goes rfl rfl rfl rfl rfl (keepsRequest_of_dropped rfl)
        (keepsPause_of_same rfl (by simp))
    · exact hfalse.elim
  | abortOrchestration resolvedJobOutpoints => exact driveMove_abort resolvedJobOutpoints hfirst.mem
  | clearJob =>
    cases List.mem_singleton.mp hfirst.mem
    exact .ends ⟨rfl, rfl, rfl, rfl, rfl, rfl, rfl⟩
  | automationPrefsChanged automationEnabled =>
    rcases hfirst with ⟨_, rfl⟩ | ⟨_, ⟨_, rfl⟩ | ⟨_, hfalse⟩⟩
    · exact driveMove_prefs rfl (.inr (.inr rfl))
    · exact driveMove_prefs rfl (.inl rfl)
    · exact hfalse.elim
  | _ => exact hfirst.elim

theorem driveMove_onTaggingPlan (hmem : transition ∈ onTaggingPlan event) :
    DriveTakes { value := .taggingPlan, context } event transition := by
  cases event with
  | tagPlanDone now =>
    rcases List.mem_pair.mp hmem with rfl | rfl
    all_goals
      exact driveMove_goes rfl rfl rfl rfl rfl (keepsRequest_of_same rfl (.inl rfl) rfl rfl)
        (keepsPause_of_same rfl (by simp))
  | tagPlanError error =>
    cases List.mem_singleton.mp hmem
    exact driveMove_rests rfl rfl rfl rfl rfl (keepsPause_of_same rfl (by simp))
  | _ => exact driveMove_inFlight rfl hmem

theorem driveMove_onCheckingProgress (hmem : transition ∈ onCheckingProgress event) :
    DriveTakes { value := .checkingProgress, context } event transition := by
  cases event with
  | evaluateJobViabilityDone output =>
    rcases List.mem_pair.mp hmem with rfl | rfl
    · exact .ends ⟨rfl, rfl, rfl, rfl, rfl, rfl, rfl⟩
    · exact driveMove_goes rfl rfl rfl rfl rfl (keepsRequest_of_same rfl (.inl rfl) rfl rfl)
        (keepsPause_of_same rfl (by simp))
  | evaluateJobViabilityError error =>
    cases List.mem_singleton.mp hmem
    exact driveMove_rests rfl rfl rfl rfl rfl (keepsPause_of_same rfl (by simp))
  | _ => exact driveMove_inFlightProceed (.inl rfl) hmem

/-- What a fetched report leads to, with the guards it passed. -/
theorem driveMove_checkingProgressOnDone {output : ArkadeUnilateralExitProgress}
    (hfirst : IsFirst context (checkingProgressOnDone output) transition) :
    DriveTakes { value := .loadingProgress, context } (.fetchProgressDone output) transition := by
  rcases hfirst with ⟨_, rfl⟩ | ⟨_, ⟨_, rfl⟩ | ⟨_, ⟨_, rfl⟩ | ⟨hrefresh, ⟨_, rfl⟩ |
    ⟨hmismatch, ⟨hbefore, rfl⟩ | ⟨hnotBefore, ⟨hneeds, rfl⟩ | ⟨_, ⟨_, rfl⟩ | ⟨_, ⟨_, rfl⟩ |
    ⟨hwaits, ⟨hpolicy, rfl⟩ | ⟨hnotPolicy, ⟨hproceeds, rfl⟩ | ⟨_, ⟨_, rfl⟩ |
    ⟨_, hfalse⟩⟩⟩⟩⟩⟩⟩⟩⟩⟩⟩
  · exact .ends ⟨rfl, rfl, rfl, rfl, rfl, rfl, rfl⟩
  · exact driveMove_rests rfl rfl rfl rfl rfl (keepsPause_of_same rfl (by simp))
  · exact driveMove_rests rfl rfl rfl rfl rfl (keepsPause_of_same rfl (by simp))
  · exact driveMove_rests rfl rfl rfl rfl rfl (keepsPause_of_same rfl (by simp))
  · have hautomation : context.automationEnabled = true := by
      simp only [needsBroadcastBeforeEnsureBroadcast, Bool.and_eq_true] at hbefore
      exact hbefore.1.2
    exact driveMove_enters rfl rfl rfl rfl (keepsRequest_of_same rfl (.inl rfl) rfl rfl)
      (keepsPause_of_same rfl (by simp)) (by simp) (by simp) (fun _ => ⟨rfl, hautomation⟩)
  · have hensures : FetchEnsures { value := .loadingProgress, context }
        (.fetchProgressDone output) output := ⟨rfl, rfl, hrefresh, hnotBefore, hneeds⟩
    exact driveMove_enters rfl rfl rfl rfl (keepsRequest_of_same rfl (.inl rfl) rfl rfl)
      (keepsPause_of_same rfl (by simp)) (fun _ => .inr ⟨output, hensures⟩) (by simp) (by simp)
  · exact driveMove_rests rfl rfl rfl rfl rfl (keepsPause_of_same rfl (by simp))
  · exact driveMove_rests rfl rfl rfl rfl rfl (keepsPause_of_same rfl (by simp))
  · have hautomation : context.automationEnabled = true := by
      simp only [shouldRunAutomationPolicyFromEvent, Bool.and_eq_true] at hpolicy
      exact hpolicy.1.1.1.1
    exact driveMove_enters rfl rfl rfl rfl (keepsRequest_of_same rfl (.inl rfl) rfl rfl)
      (keepsPause_of_same rfl (by simp)) (by simp) (by simp) (fun _ => ⟨rfl, hautomation⟩)
  · have hproceed : FetchProceeds { value := .loadingProgress, context }
        (.fetchProgressDone output) output :=
      ⟨rfl, rfl, hrefresh, hmismatch, hwaits, hnotPolicy, hproceeds⟩
    exact driveMove_enters rfl rfl rfl rfl (keepsRequest_of_same rfl (.inl rfl) rfl rfl)
      (keepsPause_of_same rfl (by simp)) (by simp) (fun _ => ⟨output, hproceed⟩) (by simp)
  · exact driveMove_rests rfl rfl rfl rfl rfl (keepsPause_of_same rfl (by simp))
  · exact hfalse.elim

theorem driveMove_onLoadingProgress
    (hfirst : IsFirst context (onLoadingProgress event) transition) :
    DriveTakes { value := .loadingProgress, context } event transition := by
  cases event with
  | fetchProgressDone output => exact driveMove_checkingProgressOnDone hfirst
  | fetchProgressError error =>
    cases List.mem_singleton.mp hfirst.mem
    exact driveMove_rests rfl rfl rfl rfl rfl (keepsPause_of_same rfl (by simp))
  | _ => exact driveMove_inFlightProceed (.inr rfl) hfirst.mem

theorem driveMove_onEvaluatingPolicy
    (hfirst : IsFirst context (onEvaluatingPolicy event) transition) :
    DriveTakes { value := .evaluatingPolicy, context } event transition := by
  cases event with
  | evaluateAutomationPolicyDone output =>
    rcases hfirst with ⟨_, rfl⟩ | ⟨_, ⟨hunpaused, rfl⟩ | ⟨_, ⟨_, rfl⟩ | ⟨_, hfalse⟩⟩⟩
    · exact driveMove_rests rfl rfl rfl rfl rfl (fun _ => .inl rfl)
    · exact .evaluates output
        ⟨rfl, rfl, Option.isNone_iff_eq_none.mp hunpaused, rfl, rfl, rfl, rfl, rfl⟩
    · exact driveMove_rests rfl rfl rfl rfl rfl (fun _ => .inl rfl)
    · exact hfalse.elim
  | evaluateAutomationPolicyError error =>
    cases List.mem_singleton.mp hfirst.mem
    exact driveMove_rests rfl rfl rfl rfl rfl (fun _ => .inl rfl)
  | _ => exact driveMove_inFlight rfl hfirst.mem

theorem driveMove_broadcastOnError {error : ActorError} {fallback : String}
    (hvalue : value ≠ .paused ∧ value ≠ .aborted)
    (hrequest : manualRequest { value, context } event = none)
    (hswitch : automationSwitch { value, context } event = none)
    (hmem : transition ∈ broadcastOnError error (assignErrorFromBroadcast fallback)) :
    DriveTakes { value, context } event transition := by
  simp only [broadcastOnError, List.mem_cons, List.not_mem_nil, or_false] at hmem
  rcases hmem with rfl | rfl | rfl
  · exact driveMove_rests hrequest hswitch rfl rfl rfl (keepsPause_of_same rfl hvalue)
  · exact driveMove_rests hrequest hswitch rfl rfl rfl (fun _ => .inl rfl)
  · exact driveMove_rests hrequest hswitch rfl rfl rfl (keepsPause_of_same rfl hvalue)

theorem driveMove_onProceeding (hmem : transition ∈ onProceeding event) :
    DriveTakes { value := .proceeding, context } event transition := by
  cases event with
  | proceedStepDone output =>
    rcases List.mem_pair.mp hmem with rfl | rfl
    · exact .ends ⟨rfl, rfl, rfl, rfl, rfl, rfl, rfl⟩
    · exact driveMove_enters rfl rfl rfl rfl (keepsRequest_of_same rfl (.inr rfl) rfl rfl)
        (keepsPause_of_same rfl (by simp)) (fun _ => .inl rfl) (by simp) (by simp)
  | proceedStepError error =>
    exact driveMove_broadcastOnError (by simp) rfl rfl hmem
  | _ => exact driveMove_inFlight rfl hmem

theorem driveMove_onEnsuringBroadcast
    (hfirst : IsFirst context (onEnsuringBroadcast event) transition) :
    DriveTakes { value := .ensuringBroadcast, context } event transition := by
  cases event with
  | ensureBroadcastDone output =>
    rcases hfirst with ⟨_, rfl⟩ | ⟨_, ⟨_, rfl⟩ | ⟨_, ⟨hcontinues, rfl⟩ | ⟨_, ⟨_, rfl⟩ |
      ⟨_, hfalse⟩⟩⟩⟩
    · exact .ends ⟨rfl, rfl, rfl, rfl, rfl, rfl, rfl⟩
    · exact driveMove_rests rfl rfl rfl rfl rfl (keepsPause_of_same rfl (by simp))
    · have hautomation : context.automationEnabled = true := by
        simp only [shouldContinueAutomationAfterEnsureBroadcast, Bool.and_eq_true] at hcontinues
        exact hcontinues.1.1.1
      exact driveMove_goes rfl rfl rfl rfl rfl (fun _ _ => .inl hautomation)
        (keepsPause_of_same rfl (by simp))
    · exact driveMove_rests rfl rfl rfl rfl rfl (keepsPause_of_same rfl (by simp))
    · exact hfalse.elim
  | ensureBroadcastError error =>
    exact driveMove_broadcastOnError (by simp) rfl rfl hfirst.mem
  | _ => exact driveMove_inFlight rfl hfirst.mem

theorem automationEnabled_of_resumeAutomationProceed
    (h : (resumeAutomationProceed context).proceedRequested = true) :
    context.automationEnabled = true := by
  simp only [resumeAutomationProceed] at h
  split at h
  · cases h
  · exact h

theorem driveMove_onWaitingConfirm (hmem : transition ∈ onWaitingConfirm event) :
    DriveTakes { value := .waitingConfirm, context } event transition := by
  cases event with
  | abortOrchestration resolvedJobOutpoints => exact driveMove_abort resolvedJobOutpoints hmem
  | pollTick =>
    cases List.mem_singleton.mp hmem
    exact driveMove_goes rfl rfl rfl rfl rfl
      (fun _ hproceed => .inl (automationEnabled_of_resumeAutomationProceed hproceed))
      (keepsPause_of_same rfl (by simp))
  | proceedManual feeRateSatPerVb => exact driveMove_proceed feeRateSatPerVb rfl hmem
  | resume => exact driveMove_resume hmem
  | automationPrefsChanged automationEnabled =>
    rcases List.mem_pair.mp hmem with rfl | rfl
    · exact driveMove_prefs rfl (.inr (.inr rfl))
    · exact driveMove_prefs rfl (.inl rfl)
  | clearJob => exact driveMove_clear hmem
  | _ => cases hmem

theorem driveMove_onWaitingForParentData
    (hmem : transition ∈ onWaitingForParentData event) (hguard : transition.guard context = true) :
    DriveTakes { value := .waitingForParentData, context } event transition := by
  cases event with
  | pollTick =>
    rcases List.mem_pair.mp hmem with rfl | rfl
    · exact driveMove_goes rfl rfl rfl rfl rfl (fun _ _ => .inl hguard)
        (keepsPause_of_same rfl (by simp))
    · exact driveMove_goes rfl rfl rfl rfl rfl (keepsRequest_of_dropped rfl)
        (keepsPause_of_same rfl (by simp))
  | proceedManual feeRateSatPerVb => exact driveMove_proceed feeRateSatPerVb rfl hmem
  | clearJob => exact driveMove_clear hmem
  | _ => exact driveMove_inFlight rfl hmem

theorem driveMove_onPaused (hmem : transition ∈ onPaused event) :
    DriveTakes { value := .paused, context } event transition := by
  cases event with
  | abortOrchestration resolvedJobOutpoints => exact driveMove_abort resolvedJobOutpoints hmem
  | resume => exact driveMove_resume hmem
  | automationPrefsChanged automationEnabled =>
    rcases List.mem_pair.mp hmem with rfl | rfl
    · exact driveMove_prefs rfl (.inr (.inr rfl))
    · exact driveMove_prefs rfl (.inr (.inl rfl))
  | clearJob => exact driveMove_clear hmem
  | proceedManual feeRateSatPerVb => exact driveMove_proceed feeRateSatPerVb rfl hmem
  | _ => cases hmem

theorem driveMove_onAborted (hmem : transition ∈ onAborted event) :
    DriveTakes { value := .aborted, context } event transition := by
  cases event with
  | resolveAbortVtxoIdsDone | resolveAbortVtxoIdsError =>
    cases List.mem_singleton.mp hmem
    exact .ends ⟨rfl, rfl, rfl, rfl, rfl, rfl, rfl⟩
  | _ => cases hmem

theorem driveMove_onError (hmem : transition ∈ onError event) :
    DriveTakes { value := .error, context } event transition := by
  cases event with
  | abortOrchestration resolvedJobOutpoints => exact driveMove_abort resolvedJobOutpoints hmem
  | clearJob => exact driveMove_clear hmem
  | proceedManual feeRateSatPerVb => exact driveMove_proceed feeRateSatPerVb rfl hmem
  | resume => exact driveMove_resume hmem
  | _ => cases hmem

theorem driveMove_stateTransitions
    (hfirst : IsFirst context (stateTransitions value event) transition) :
    DriveTakes { value, context } event transition := by
  cases value with
  | notConfigured =>
    cases event with
    | walletConfigured walletScope =>
      cases List.mem_singleton.mp hfirst.mem
      exact driveMove_rests rfl rfl rfl rfl rfl (keepsPause_of_same rfl (by simp))
    | _ => exact hfirst.elim
  | idle => exact driveMove_onIdle hfirst
  | taggingPlan => exact driveMove_onTaggingPlan hfirst.mem
  | checkingProgress => exact driveMove_onCheckingProgress hfirst.mem
  | loadingProgress => exact driveMove_onLoadingProgress hfirst
  | evaluatingPolicy => exact driveMove_onEvaluatingPolicy hfirst
  | proceeding => exact driveMove_onProceeding hfirst.mem
  | ensuringBroadcast => exact driveMove_onEnsuringBroadcast hfirst
  | waitingConfirm => exact driveMove_onWaitingConfirm hfirst.mem
  | waitingForParentData => exact driveMove_onWaitingForParentData hfirst.mem hfirst.guard
  | paused => exact driveMove_onPaused hfirst.mem
  | complete | terminated => exact hfirst.elim
  | aborted => exact driveMove_onAborted hfirst.mem
  | error => exact driveMove_onError hfirst.mem

variable {config : ExitConfig}

section

variable (hignored : ∀ transition ∈ unilateralExitMachine.on config.value event, transition.guard
  config.context = false)
include hignored

theorem manualRequest_eq_none_of_ignored : manualRequest config event = none := by
  obtain ⟨value, context⟩ := config
  cases event with
  | startManual walletScope outpoints feeRateSatPerVb =>
    apply if_neg
    rintro rfl
    exact Bool.noConfusion (hignored _ List.mem_cons_self)
  | proceedManual feeRateSatPerVb =>
    apply if_neg
    intro htakes
    cases value with
    | idle | checkingProgress | loadingProgress | waitingConfirm | waitingForParentData
    | paused | error => exact Bool.noConfusion (hignored _ List.mem_cons_self)
    | _ => cases htakes
  | _ => rfl

/-- Nor is a switch of the automation. -/
theorem automationSwitch_eq_none_of_ignored : automationSwitch config event = none := by
  obtain ⟨value, context⟩ := config
  cases event with
  | startAutomatic | hydrateOrStart =>
    apply if_neg
    rintro rfl
    exact Bool.noConfusion (hignored _ List.mem_cons_self)
  | automationPrefsChanged automationEnabled =>
    apply if_neg
    intro htakes
    cases value with
    | idle | waitingConfirm | paused =>
      exact Bool.noConfusion (hignored _ (List.mem_cons_of_mem _ List.mem_cons_self))
    | taggingPlan | checkingProgress | loadingProgress | evaluatingPolicy | proceeding
    | ensuringBroadcast | waitingForParentData =>
      exact Bool.noConfusion (hignored _ List.mem_cons_self)
    | _ => cases htakes
  | arkadeSessionReset =>
    exact Bool.noConfusion (hignored _ (List.mem_append_right _ List.mem_cons_self))
  | _ => rfl

end

theorem carriesOn_self (hrequest : manualRequest config event = none)
    (hswitch : automationSwitch config event = none) :
    CarriesOn config event { config, entered := none } := by
  refine ⟨hrequest, hswitch, rfl, rfl,
    fun hflight hproceed => .inr ⟨hflight, hproceed, rfl, id⟩, ?_,
    fun _ => rfl, (by simp), (by simp), (by simp)⟩
  intro hpaused
  by_cases hvalue : config.value = .paused
  · exact .inl hvalue
  · by_cases haborted : config.value = .aborted
    · exact .inr (.inl haborted)
    · exact .inr (.inr ⟨hpaused, hvalue, haborted⟩)

theorem driveMove_move (config : ExitConfig) (event : UnilateralExitMachineEvent) :
    DriveMove config event (unilateralExitMachine.move config event) := by
  apply Statechart.move_rule
  · intro hignored
    exact .carriesOn (carriesOn_self (manualRequest_eq_none_of_ignored hignored)
      (automationSwitch_eq_none_of_ignored hignored))
  · intro transition hfirst
    rcases hfirst.of_append with hstate | hmachine
    · exact driveMove_stateTransitions hstate
    · cases event with
      | arkadeSessionReset =>
        cases List.mem_singleton.mp hmachine.mem
        exact .switches false
          ⟨rfl, rfl, .inr (.inr (.inr (.inr rfl))), rfl, rfl, (by simp), fun _ => rfl⟩
      | hydrateVtxoRecords =>
        cases List.mem_singleton.mp hmachine.mem
        exact .carriesOn (carriesOn_self rfl rfl)
      | _ => exact hmachine.elim

end Moves

section Entries

variable {before : ExitConfig} {event : UnilateralExitMachineEvent} {move : ExitMove}

section

variable (hmove : DriveMove before event move)
include hmove

/-- A machine that broadcasts was there before, evaluates the policy, or carries on. -/
theorem DriveMove.broadcasts_cases (hbroadcasts : move.config.value.broadcasts = true) :
    (move.entered = none ∧ move.config.value = before.value) ∨
      (∃ output, Evaluates before event move output) ∨
      move.entered.isSome ∧ CarriesOn before event move := by
  cases hmove with
  | requests feeRateSatPerVb requests =>
    rcases requests.value with hvalue | hvalue | hvalue
    all_goals
      rw [hvalue] at hbroadcasts
      cases hbroadcasts
  | switches enabled switches =>
    rcases switches.value with ⟨_, hstays⟩ | hvalue | hvalue | hvalue | hvalue
    · exact .inl hstays
    all_goals
      rw [hvalue] at hbroadcasts
      cases hbroadcasts
  | ends ends =>
    rw [ends.value] at hbroadcasts
    cases hbroadcasts
  | evaluates output evaluates => exact .inr (.inl ⟨output, evaluates⟩)
  | carriesOn carries =>
    cases hentered : move.entered with
    | none => exact .inl ⟨rfl, carries.stays hentered⟩
    | some state => exact .inr (.inr ⟨rfl, carries⟩)

theorem DriveMove.evaluatingPolicy_cases (hvalue : move.config.value = .evaluatingPolicy) :
    (move.entered = none ∧ before.value = .evaluatingPolicy) ∨
      move.entered.isSome ∧ CarriesOn before event move ∧ before.value = .loadingProgress ∧
        before.context.automationEnabled = true := by
  rcases hmove.broadcasts_cases (by rw [hvalue]; rfl) with
    ⟨hentered, hstays⟩ | ⟨output, evaluates⟩ | ⟨hentered, carries⟩
  · exact .inl ⟨hentered, hstays.symm.trans hvalue⟩
  · rw [evaluates.valueAfter] at hvalue
    cases hvalue
  · exact .inr ⟨hentered, carries, carries.evaluates hentered hvalue⟩

theorem DriveMove.proceeding_cases (hvalue : move.config.value = .proceeding) :
    (move.entered = none ∧ before.value = .proceeding) ∨
      (∃ output, Evaluates before event move output) ∨
      CarriesOn before event move ∧ ∃ output, FetchProceeds before event output := by
  rcases hmove.broadcasts_cases (by rw [hvalue]; rfl) with
    ⟨hentered, hstays⟩ | hevaluates | ⟨hentered, carries⟩
  · exact .inl ⟨hentered, hstays.symm.trans hvalue⟩
  · exact .inr (.inl hevaluates)
  · exact .inr (.inr ⟨carries, carries.proceeds hentered hvalue⟩)

end

end Entries

end Bitboard.Frontend
