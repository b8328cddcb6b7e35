/-
# The exit machine

The lifecycle of an exit job is one state machine. User events start a job, proceed with
it, switch its automation and abort it; the machine invokes actors that tag the plan,
judge the job, fetch its progress, evaluate the fee policy and broadcast a step, and it
moves on their results. This module is the chart of the machine, with the guards and the
actions it names.

The context is that of the machine together with the job stores its actions write. A
delayed transition is a poll tick that comes at any time. Notifications, cache
invalidations and the failure banner are left out: no guard and no input reads them.
-/

import Bitboard.Lib.Statechart
import Bitboard.Frontend.ExitProgress
import Bitboard.Frontend.JobPersistence

namespace Bitboard.Frontend

open Bitboard.Lib

inductive NetworkMode where
  | lab
  | regtest
  | signet
  | mutinynet
  | testnet
  | mainnet
deriving DecidableEq

/-- The stores are keyed by the text of all three fields, which determines them. -/
structure ArkadeWalletScope where
  walletId : Nat
  networkMode : NetworkMode
  arkadeAccountId : String
deriving DecidableEq

inductive UnilateralExitAutomationPausedReason where
  | feeCapExceeded
  | bumperInsufficient
  | error
  | userDisabled
deriving DecidableEq

inductive UnilateralExitSettleResult where
  | branchComplete
  | waitingConfirm
  | paused
  | error
  | terminated
deriving DecidableEq

structure UnilateralExitPolicyEvaluation where
  feeRateSatPerVb : Rat
  pausedReason : Option UnilateralExitAutomationPausedReason
deriving DecidableEq

inductive ArkadeUnilateralExitJobViabilityStatus where
  | ok
  | aspSweptTargets
  | branchFundingLost
deriving DecidableEq

structure ArkadeUnilateralExitJobViability where
  status : ArkadeUnilateralExitJobViabilityStatus
  detailMessage : Option String

def isTerminalViabilityStatus (viability : ArkadeUnilateralExitJobViability) : Bool :=
  decide (viability.status = .aspSweptTargets) || decide (viability.status = .branchFundingLost)

structure UnilateralExitMachineContext where
  walletScope : Option ArkadeWalletScope
  jobOutpoints : List ArkadeVtxoOutpoint
  progress : Option ArkadeUnilateralExitProgress
  automationEnabled : Bool
  pausedReason : Option UnilateralExitAutomationPausedReason
  lastErrorMessage : Option String
  lastSettleResult : Option UnilateralExitSettleResult
  feeRateSatPerVb : Option Rat
  proceedRequested : Bool
  proceedTargetStepIndex : Option Nat
  progressRefreshRequested : Bool
  unconfirmedParentRetry : Option UnconfirmedParentRetry
  reconcileInProgressSats : Nat
  reconcileInProgressOutpoints : List ArkadeVtxoOutpoint

def createInitialUnilateralExitContext : UnilateralExitMachineContext where
  walletScope := none
  jobOutpoints := []
  progress := none
  automationEnabled := false
  pausedReason := none
  lastErrorMessage := none
  lastSettleResult := none
  feeRateSatPerVb := none
  proceedRequested := false
  proceedTargetStepIndex := none
  progressRefreshRequested := false
  unconfirmedParentRetry := none
  reconcileInProgressSats := 0
  reconcileInProgressOutpoints := []

/-- The context of the machine and the job store of every scope. -/
structure MachineContext extends UnilateralExitMachineContext where
  jobs : ArkadeWalletScope → JobStore

inductive UnilateralExitMachineState where
  | notConfigured
  | idle
  | taggingPlan
  | checkingProgress
  | loadingProgress
  | evaluatingPolicy
  | proceeding
  | ensuringBroadcast
  | waitingConfirm
  | waitingForParentData
  | paused
  | complete
  | terminated
  | aborted
  | error
deriving DecidableEq

/-- The events of the user, and the results of the actors. -/
inductive UnilateralExitMachineEvent where
  | walletConfigured (walletScope : ArkadeWalletScope)
  | hydrateOrStart (walletScope : ArkadeWalletScope) (outpoints : List ArkadeVtxoOutpoint)
      (automationEnabled resumeAutomation : Option Bool) (reconcileInProgressSats : Option Nat)
      (reconcileInProgressOutpoints : Option (List ArkadeVtxoOutpoint))
  | startManual (walletScope : ArkadeWalletScope) (outpoints : List ArkadeVtxoOutpoint)
      (feeRateSatPerVb : Rat)
  | startAutomatic (walletScope : ArkadeWalletScope) (outpoints : List ArkadeVtxoOutpoint)
  | proceedManual (feeRateSatPerVb : Rat)
  /-- Also the end of a delay. -/
  | pollTick
  | resume
  | clearJob
  | abortOrchestration (resolvedJobOutpoints : List ArkadeVtxoOutpoint)
  | arkadeSessionReset
  | automationPrefsChanged (automationEnabled : Bool)
  | hydrateVtxoRecords
  /-- It comes at the time `now`. -/
  | tagPlanDone (now : Int)
  | tagPlanError (error : ActorError)
  | evaluateJobViabilityDone (output : ArkadeUnilateralExitJobViability)
  | evaluateJobViabilityError (error : ActorError)
  | fetchProgressDone (output : ArkadeUnilateralExitProgress)
  | fetchProgressError (error : ActorError)
  | evaluateAutomationPolicyDone (output : UnilateralExitPolicyEvaluation)
  | evaluateAutomationPolicyError (error : ActorError)
  | proceedStepDone (output : ArkadeUnilateralExitProgress)
  | proceedStepError (error : ActorError)
  | ensureBroadcastDone (output : ArkadeUnilateralExitProgress)
  | ensureBroadcastError (error : ActorError)
  | resolveAbortVtxoIdsDone (vtxoIds : List String)
  | resolveAbortVtxoIdsError (error : ActorError)

inductive ActorInput where
  | tagPlan (walletScope : ArkadeWalletScope) (outpoints : List ArkadeVtxoOutpoint)
  | evaluateJobViability (outpoints : List ArkadeVtxoOutpoint)
  | fetchProgress (walletScope : Option ArkadeWalletScope) (outpoints : List ArkadeVtxoOutpoint)
  | evaluateAutomationPolicy (walletScope : ArkadeWalletScope)
      (outpoints : List ArkadeVtxoOutpoint)
  | proceedStep (walletScope : ArkadeWalletScope) (outpoints : List ArkadeVtxoOutpoint)
      (feeRateSatPerVb : Rat)
  | ensureBroadcast (walletScope : ArkadeWalletScope) (outpoints : List ArkadeVtxoOutpoint)
      (feeRateSatPerVb : Option Rat) (automationEnabled : Bool)
  | resolveAbortVtxoIds (outpoints : List ArkadeVtxoOutpoint)

section Guards

variable (output : ArkadeUnilateralExitProgress) (context : MachineContext)

def needsBroadcastFromFetchEvent : Bool :=
  if !needsBroadcastEnsurance output then false
  else if context.automationEnabled then true
  else if !context.proceedRequested || context.feeRateSatPerVb.isNone then false
  else
    match context.proceedTargetStepIndex with
    | none => true
    | some target => decide (output.stepIndex = target)

def needsBroadcastBeforeEnsureBroadcast : Bool :=
  needsBroadcastEnsurance output && context.automationEnabled && context.feeRateSatPerVb.isNone

def isUnconfirmedParentRetryProgressRefresh : Bool :=
  context.unconfirmedParentRetry.isSome && context.progressRefreshRequested

def manualProceedTargetMismatch : Bool :=
  !context.automationEnabled && context.proceedRequested &&
    match context.proceedTargetStepIndex with
    | none => false
    | some target => decide (output.stepIndex ≠ target)

def manualFetchStepIndexAdvanced : Bool :=
  !context.automationEnabled && !context.proceedRequested &&
    stepIndexAdvancedPastContext context.progress output

def hasActiveManualJob : Bool :=
  !context.automationEnabled && !context.jobOutpoints.isEmpty && context.progress.isSome

def hasActiveAutomaticJob : Bool :=
  context.automationEnabled && context.pausedReason.isNone && !context.jobOutpoints.isEmpty &&
    match context.progress with
    | none => false
    | some progress => !isUnilateralExitJobComplete progress

def shouldWaitAfterEnsureBroadcast : Bool :=
  isWaitingForRelayedStepConfirmation output &&
    (context.automationEnabled || !stepIndexAdvancedPastContext context.progress output)

def shouldContinueAutomationAfterEnsureBroadcast : Bool :=
  context.automationEnabled && context.pausedReason.isNone &&
    !isUnilateralExitJobComplete output && !isWaitingForRelayedStepConfirmation output

def shouldRunAutomationPolicyFromEvent : Bool :=
  context.automationEnabled && context.proceedRequested && context.pausedReason.isNone &&
    decide (output.phase = .idle) && !needsBroadcastEnsurance output

def shouldProceedNowFromEvent : Bool :=
  context.proceedRequested && context.feeRateSatPerVb.isSome &&
    decide (output.phase = .idle) && !needsBroadcastEnsurance output

def prefsEnabledWithJob (automationEnabled : Bool) : Bool :=
  automationEnabled && !context.jobOutpoints.isEmpty

def persistedJobMatchesContextOutpoints : Bool :=
  match context.walletScope with
  | none => false
  | some walletScope =>
    !context.jobOutpoints.isEmpty &&
      arkadeVtxoOutpointListsEqual (context.jobs walletScope).getJob.selectedLeafOutpoints
        context.jobOutpoints

end Guards

/-- A call on the store of the present scope; without a scope nothing is called. -/
def updateJobStore (call : JobStore → JobStore) (context : MachineContext) : MachineContext :=
  { context with
    jobs :=
      match context.walletScope with
      | none => context.jobs
      | some walletScope =>
        Function.update context.jobs walletScope (call (context.jobs walletScope)) }

def persistActiveJobFromContext (now : Int) (context : MachineContext) : MachineContext :=
  updateJobStore (·.persistActiveUnilateralExitJob context.jobOutpoints now) context

def ensurePersistedJobFromContext (now : Int) (context : MachineContext) : MachineContext :=
  updateJobStore (·.ensurePersistedUnilateralExitJob context.jobOutpoints now) context

def clearPersistedJob : MachineContext → MachineContext :=
  updateJobStore JobStore.clearPersistedUnilateralExitJob

def syncPersistedRelayWait (progress : ArkadeUnilateralExitProgress) :
    MachineContext → MachineContext :=
  updateJobStore (·.updatePersistedUnilateralExitRelayWait (relayWaitUnixFromProgress progress))

def syncPersistedRelayWaitFromFetch := syncPersistedRelayWait

def syncPersistedRelayWaitFromProceed := syncPersistedRelayWait

def syncPersistedRelayWaitFromEnsureBroadcast := syncPersistedRelayWait

variable (walletScope : ArkadeWalletScope)

def assignWalletScope (context : MachineContext) : MachineContext :=
  { context with walletScope := some walletScope }

variable (outpoints : List ArkadeVtxoOutpoint)

def assignStartManual (feeRateSatPerVb : Rat) (context : MachineContext) : MachineContext :=
  { context with
    walletScope := some walletScope
    jobOutpoints := sortArkadeVtxoOutpoints outpoints
    proceedRequested := true
    proceedTargetStepIndex := none
    progressRefreshRequested := false
    unconfirmedParentRetry := none
    feeRateSatPerVb := some feeRateSatPerVb
    pausedReason := none
    lastErrorMessage := none
    lastSettleResult := none
    progress := none }

def assignStartAutomatic (context : MachineContext) : MachineContext :=
  { context with
    walletScope := some walletScope
    jobOutpoints := sortArkadeVtxoOutpoints outpoints
    automationEnabled := true
    proceedRequested := true
    proceedTargetStepIndex := none
    progressRefreshRequested := false
    unconfirmedParentRetry := none
    feeRateSatPerVb := none
    pausedReason := none
    lastErrorMessage := none
    lastSettleResult := none
    progress := none }

def assignHydrate (eventOutpoints : List ArkadeVtxoOutpoint)
    (eventAutomationEnabled eventResumeAutomation : Option Bool)
    (reconcileInProgressSats : Option Nat)
    (reconcileInProgressOutpoints : Option (List ArkadeVtxoOutpoint)) (context : MachineContext) :
    MachineContext :=
  let outpoints := sortArkadeVtxoOutpoints eventOutpoints
  let automationEnabled := eventAutomationEnabled.getD false
  let resumeAutomation := eventResumeAutomation.getD false
  let keepExistingProgress :=
    context.progress.isSome && arkadeVtxoOutpointListsEqual context.jobOutpoints outpoints
  { context with
    walletScope := some walletScope
    jobOutpoints := outpoints
    automationEnabled
    proceedRequested := resumeAutomation && automationEnabled
    proceedTargetStepIndex := none
    progressRefreshRequested := false
    unconfirmedParentRetry := none
    feeRateSatPerVb := if automationEnabled then none else context.feeRateSatPerVb
    progress := if keepExistingProgress then context.progress else none
    pausedReason := none
    lastErrorMessage := none
    lastSettleResult := none
    reconcileInProgressSats := reconcileInProgressSats.getD 0
    reconcileInProgressOutpoints := reconcileInProgressOutpoints.getD [] }

variable (error : ActorError)

def assignErrorFromTagPlan (context : MachineContext) : MachineContext :=
  { context with
    lastErrorMessage := some (actorErrorMessage error "Failed to lock VTXOs for unilateral exit.")
    proceedRequested := false }

/-- The step shown at this moment becomes the target. -/
def assignProceedManual (feeRateSatPerVb : Rat) (context : MachineContext) : MachineContext :=
  { context with
    proceedRequested := true
    proceedTargetStepIndex := context.progress.map (·.stepIndex)
    progressRefreshRequested := false
    feeRateSatPerVb := some feeRateSatPerVb
    pausedReason := none
    lastErrorMessage := none
    lastSettleResult := none }

/-- A retry is kept while the report is about its step. -/
def assignProgressFromFetch (output : ArkadeUnilateralExitProgress) (context : MachineContext) :
    MachineContext :=
  { context with
    progress := some output
    unconfirmedParentRetry := context.unconfirmedParentRetry.filter fun retry =>
      decide (output.stepIndex = retry.stepIndex) }

/-- The body of `assignProgressFromProceed` and `assignProgressFromEnsureBroadcast`. -/
def assignProgressFromBroadcast (output : ArkadeUnilateralExitProgress)
    (context : MachineContext) : MachineContext :=
  { context with progress := some output, unconfirmedParentRetry := none }

def assignProgressFromProceed := assignProgressFromBroadcast

def assignProgressFromEnsureBroadcast := assignProgressFromBroadcast

def assignFeeFromPolicy (output : UnilateralExitPolicyEvaluation) (context : MachineContext) :
    MachineContext :=
  { context with feeRateSatPerVb := some output.feeRateSatPerVb }

def assignPausedFromPolicy (output : UnilateralExitPolicyEvaluation) (context : MachineContext) :
    MachineContext :=
  { context with pausedReason := output.pausedReason, proceedRequested := false }

def assignPausedUnknownPolicy (context : MachineContext) : MachineContext :=
  { context with
    pausedReason := some .error
    lastErrorMessage := some "Policy check failed."
    proceedRequested := false }

def assignAutomationPrefs (automationEnabled : Bool) (context : MachineContext) : MachineContext :=
  { context with
    automationEnabled
    pausedReason := none
    lastErrorMessage := none
    feeRateSatPerVb := if automationEnabled then none else context.feeRateSatPerVb
    proceedRequested := if automationEnabled then !context.jobOutpoints.isEmpty else false }

def assignResume (context : MachineContext) : MachineContext :=
  { context with
    pausedReason := none
    lastErrorMessage := none
    lastSettleResult := none
    proceedRequested := context.automationEnabled }

def resumeAutomationProceed (context : MachineContext) : MachineContext :=
  { context with
    proceedRequested :=
      if context.unconfirmedParentRetry.isSome then false else context.automationEnabled
    proceedTargetStepIndex :=
      if context.unconfirmedParentRetry.isSome then context.proceedTargetStepIndex
      else if context.automationEnabled then context.proceedTargetStepIndex else none
    progressRefreshRequested := false }

def assignProceedForUnconfirmedParentRetry (context : MachineContext) : MachineContext :=
  { context with
    proceedRequested := true
    proceedTargetStepIndex :=
      (context.unconfirmedParentRetry.map (·.stepIndex)).or (context.progress.map (·.stepIndex)) }

def assignProgressRefresh (context : MachineContext) : MachineContext :=
  { context with
    progressRefreshRequested := true
    proceedRequested := false
    proceedTargetStepIndex := none }

def clearProgressRefresh (context : MachineContext) : MachineContext :=
  { context with progressRefreshRequested := false }

def clearProceedRequested (context : MachineContext) : MachineContext :=
  { context with
    proceedRequested := false
    proceedTargetStepIndex := none
    progressRefreshRequested := false }

/-- The scope, the automation and the settle result stay. -/
def clearJobActorContext (context : MachineContext) : MachineContext :=
  { context with
    jobOutpoints := []
    progress := none
    proceedRequested := false
    proceedTargetStepIndex := none
    progressRefreshRequested := false
    unconfirmedParentRetry := none
    feeRateSatPerVb := none
    pausedReason := none
    lastErrorMessage := none
    reconcileInProgressSats := 0
    reconcileInProgressOutpoints := [] }

/-- The four `assignSettleResult` actions without an event. -/
def assignSettleResult (result : UnilateralExitSettleResult) (context : MachineContext) :
    MachineContext :=
  { context with lastSettleResult := some result }

def assignSettleResultBranchComplete := assignSettleResult .branchComplete

def assignSettleResultWaitingConfirm := assignSettleResult .waitingConfirm

def assignSettleResultPaused := assignSettleResult .paused

def assignSettleResultError := assignSettleResult .error

def assignSettleResultTerminated (output : ArkadeUnilateralExitJobViability)
    (context : MachineContext) : MachineContext :=
  let detailMessage := output.detailMessage.getD ""
  { context with
    lastSettleResult := some .terminated
    lastErrorMessage := some
      (if detailMessage = "" then "Unilateral exit was terminated." else detailMessage) }

/-- The body of `assignErrorFromProceed` and `assignErrorFromEnsureBroadcast`. -/
def assignErrorFromBroadcast (fallback : String) (error : ActorError)
    (context : MachineContext) : MachineContext :=
  { context with
    lastErrorMessage := some (actorErrorMessage error fallback)
    proceedRequested := false
    progress := (rewoundProgressFromPackageError error).or context.progress }

def assignErrorFromProceed := assignErrorFromBroadcast "Unroll step failed."

def assignErrorFromEnsureBroadcast :=
  assignErrorFromBroadcast "Failed to broadcast unilateral exit step."

def assignUnconfirmedParentRetry (context : MachineContext) : MachineContext :=
  let progress := (rewoundProgressFromPackageError error).or context.progress
  { context with
    lastErrorMessage := none
    proceedRequested := false
    progress
    unconfirmedParentRetry := unconfirmedParentRetryFromProgress progress }

def assignErrorFromFetch (context : MachineContext) : MachineContext :=
  { context with
    lastErrorMessage := some (actorErrorMessage error "Failed to load unilateral exit progress.") }

/-- The body of `assignPolicyError` and `assignAutomationBroadcastFailure`. -/
def assignPausedError (fallback : String) (error : ActorError) (context : MachineContext) :
    MachineContext :=
  { context with
    pausedReason := some .error
    lastErrorMessage := some (actorErrorMessage error fallback)
    proceedRequested := false }

def assignPolicyError := assignPausedError "Policy check failed."

def assignAutomationBroadcastFailure := assignPausedError "Unroll step failed."

def assignErrorFromViability (context : MachineContext) : MachineContext :=
  { context with
    lastErrorMessage := some
      (actorErrorMessage error "Failed to evaluate unilateral exit job viability.")
    proceedRequested := false }

def stageAbortedJobOutpoints (resolvedJobOutpoints : List ArkadeVtxoOutpoint)
    (context : MachineContext) : MachineContext :=
  { context with
    jobOutpoints :=
      if !context.jobOutpoints.isEmpty || resolvedJobOutpoints.isEmpty then context.jobOutpoints
      else sortArkadeVtxoOutpoints resolvedJobOutpoints }

def clearTerminatedProceedRequested (context : MachineContext) : MachineContext :=
  { context with proceedRequested := false }

def resetToNotConfigured (context : MachineContext) : MachineContext :=
  { createInitialUnilateralExitContext with jobs := context.jobs }

/-! ## Transitions -/

abbrev ExitTransition := Transition UnilateralExitMachineState MachineContext

def checkingProgressOnDone (output : ArkadeUnilateralExitProgress) : List ExitTransition :=
  [{ guard := fun _ => isUnilateralExitJobComplete output
     target := some .complete
     actions := [assignProgressFromFetch output] },
   { guard := isUnconfirmedParentRetryProgressRefresh
     target := some .waitingForParentData
     actions := [assignProgressFromFetch output, syncPersistedRelayWaitFromFetch output,
       clearProgressRefresh] },
   { guard := (·.progressRefreshRequested)
     target := some .idle
     actions := [assignProgressFromFetch output, syncPersistedRelayWaitFromFetch output,
       clearProgressRefresh] },
   { guard := manualProceedTargetMismatch output
     target := some .idle
     actions := [assignProgressFromFetch output, syncPersistedRelayWaitFromFetch output,
       clearProceedRequested] },
   { guard := needsBroadcastBeforeEnsureBroadcast output
     target := some .evaluatingPolicy
     actions := [assignProgressFromFetch output, syncPersistedRelayWaitFromFetch output] },
   { guard := needsBroadcastFromFetchEvent output
     target := some .ensuringBroadcast
     actions := [assignProgressFromFetch output, syncPersistedRelayWaitFromFetch output] },
   { guard := manualFetchStepIndexAdvanced output
     target := some .idle
     actions := [assignProgressFromFetch output, syncPersistedRelayWaitFromFetch output,
       clearProceedRequested] },
   { guard := fun _ => isWaitingForRelayedStepConfirmation output
     target := some .waitingConfirm
     actions := [assignProgressFromFetch output, syncPersistedRelayWaitFromFetch output,
       clearProceedRequested] },
   { guard := shouldRunAutomationPolicyFromEvent output
     target := some .evaluatingPolicy
     actions := [assignProgressFromFetch output, syncPersistedRelayWaitFromFetch output] },
   { guard := shouldProceedNowFromEvent output
     target := some .proceeding
     actions := [assignProgressFromFetch output, syncPersistedRelayWaitFromFetch output] },
   { target := some .idle
     actions := [assignProgressFromFetch output, syncPersistedRelayWaitFromFetch output] }]

def ensuringBroadcastOnDone (output : ArkadeUnilateralExitProgress) : List ExitTransition :=
  [{ guard := fun _ => isUnilateralExitJobComplete output
     target := some .complete
     actions := [assignProgressFromEnsureBroadcast output] },
   { guard := shouldWaitAfterEnsureBroadcast output
     target := some .waitingConfirm
     actions := [assignProgressFromEnsureBroadcast output,
       syncPersistedRelayWaitFromEnsureBroadcast output, clearProceedRequested] },
   { guard := shouldContinueAutomationAfterEnsureBroadcast output
     target := some .checkingProgress
     actions := [assignProgressFromEnsureBroadcast output,
       syncPersistedRelayWaitFromEnsureBroadcast output, resumeAutomationProceed] },
   { target := some .idle
     actions := [assignProgressFromEnsureBroadcast output,
       syncPersistedRelayWaitFromEnsureBroadcast output, clearProceedRequested] }]

def abortOrchestrationTransition : ExitTransition where
  target := some .aborted

def idlePollTransitions : List ExitTransition :=
  [{ guard := hasActiveAutomaticJob
     target := some .checkingProgress
     actions := [resumeAutomationProceed] },
   { guard := hasActiveManualJob
     target := some .checkingProgress
     actions := [assignProgressRefresh] }]

def parentDataWaitTransitions : List ExitTransition :=
  [{ guard := (·.automationEnabled)
     target := some .checkingProgress
     actions := [assignProceedForUnconfirmedParentRetry] },
   { target := some .checkingProgress
     actions := [assignProgressRefresh] }]

def broadcastOnError (assignError : ActorError → MachineContext → MachineContext) :
    List ExitTransition :=
  [{ guard := fun _ => isRetryableUnconfirmedParentPackageError error
     target := some .waitingForParentData
     actions := [assignUnconfirmedParentRetry error] },
   { guard := (·.automationEnabled)
     target := some .paused
     actions := [assignAutomationBroadcastFailure error] },
   { target := some .error
     actions := [assignError error] }]

/-- `PROCEED_MANUAL` where it is not only noted. -/
def proceedManualTransition (feeRateSatPerVb : Rat) : ExitTransition where
  target := some .checkingProgress
  actions := [assignProceedManual feeRateSatPerVb]

def resumeTransition : ExitTransition where
  target := some .checkingProgress
  actions := [assignResume]

/-- `CLEAR_JOB` outside `idle`. -/
def clearJobTransition : ExitTransition where
  target := some .idle
  actions := [clearPersistedJob, clearJobActorContext]

def inFlightAbortAndPrefs : UnilateralExitMachineEvent → List ExitTransition
  | .abortOrchestration _ => [abortOrchestrationTransition]
  | .automationPrefsChanged automationEnabled =>
    [{ actions := [assignAutomationPrefs automationEnabled] }]
  | _ => []

def inFlightAbortPrefsAndProceed : UnilateralExitMachineEvent → List ExitTransition
  | .proceedManual feeRateSatPerVb => [{ actions := [assignProceedManual feeRateSatPerVb] }]
  | event => inFlightAbortAndPrefs event

def onNotConfigured : UnilateralExitMachineEvent → List ExitTransition
  | .walletConfigured walletScope =>
    [{ target := some .idle, actions := [assignWalletScope walletScope] }]
  | _ => []

def onIdle : UnilateralExitMachineEvent → List ExitTransition
  | .startManual walletScope outpoints feeRateSatPerVb =>
    [{ target := some .taggingPlan
       actions := [assignStartManual walletScope outpoints feeRateSatPerVb] }]
  | .startAutomatic walletScope outpoints =>
    [{ target := some .taggingPlan, actions := [assignStartAutomatic walletScope outpoints] }]
  | .hydrateOrStart walletScope outpoints automationEnabled resumeAutomation sats inProgress =>
    [{ target := some .taggingPlan
       actions := [assignHydrate walletScope outpoints automationEnabled resumeAutomation sats
         inProgress] }]
  | .proceedManual feeRateSatPerVb => [proceedManualTransition feeRateSatPerVb]
  | .pollTick => idlePollTransitions
  | .abortOrchestration _ => [abortOrchestrationTransition]
  | .clearJob => [{ actions := [clearPersistedJob, clearJobActorContext] }]
  | .automationPrefsChanged automationEnabled =>
    [{ guard := fun context => prefsEnabledWithJob context automationEnabled
       target := some .checkingProgress
       actions := [assignAutomationPrefs automationEnabled] },
     { actions := [assignAutomationPrefs automationEnabled] }]
  | _ => []

def onTaggingPlan : UnilateralExitMachineEvent → List ExitTransition
  | .tagPlanDone now =>
    [{ guard := persistedJobMatchesContextOutpoints
       target := some .checkingProgress
       actions := [ensurePersistedJobFromContext now] },
     { target := some .checkingProgress, actions := [persistActiveJobFromContext now] }]
  | .tagPlanError error =>
    [{ target := some .error, actions := [assignErrorFromTagPlan error] }]
  | event => inFlightAbortAndPrefs event

def onCheckingProgress : UnilateralExitMachineEvent → List ExitTransition
  | .evaluateJobViabilityDone output =>
    [{ guard := fun _ => isTerminalViabilityStatus output, target := some .terminated },
     { target := some .loadingProgress }]
  | .evaluateJobViabilityError error =>
    [{ target := some .error, actions := [assignErrorFromViability error] }]
  | event => inFlightAbortPrefsAndProceed event

def onLoadingProgress : UnilateralExitMachineEvent → List ExitTransition
  | .fetchProgressDone output => checkingProgressOnDone output
  | .fetchProgressError error =>
    [{ target := some .error, actions := [assignErrorFromFetch error] }]
  | event => inFlightAbortPrefsAndProceed event

/-- The third transition on a result is never taken: the first two guards are opposite. -/
def onEvaluatingPolicy : UnilateralExitMachineEvent → List ExitTransition
  | .evaluateAutomationPolicyDone output =>
    [{ guard := fun _ => output.pausedReason.isSome
       target := some .paused
       actions := [assignPausedFromPolicy output] },
     { guard := fun _ => output.pausedReason.isNone
       target := some .proceeding
       actions := [assignFeeFromPolicy output] },
     { target := some .paused, actions := [assignPausedUnknownPolicy] }]
  | .evaluateAutomationPolicyError error =>
    [{ target := some .paused, actions := [assignPolicyError error] }]
  | event => inFlightAbortAndPrefs event

def onProceeding : UnilateralExitMachineEvent → List ExitTransition
  | .proceedStepDone output =>
    [{ guard := fun _ => isUnilateralExitJobComplete output
       target := some .complete
       actions := [assignProgressFromProceed output] },
     { target := some .ensuringBroadcast
       actions := [assignProgressFromProceed output, syncPersistedRelayWaitFromProceed output] }]
  | .proceedStepError error => broadcastOnError error assignErrorFromProceed
  | event => inFlightAbortAndPrefs event

def onEnsuringBroadcast : UnilateralExitMachineEvent → List ExitTransition
  | .ensureBroadcastDone output => ensuringBroadcastOnDone output
  | .ensureBroadcastError error => broadcastOnError error assignErrorFromEnsureBroadcast
  | event => inFlightAbortAndPrefs event

def onWaitingConfirm : UnilateralExitMachineEvent → List ExitTransition
  | .abortOrchestration _ => [abortOrchestrationTransition]
  | .pollTick => [{ target := some .checkingProgress, actions := [resumeAutomationProceed] }]
  | .proceedManual feeRateSatPerVb => [proceedManualTransition feeRateSatPerVb]
  | .resume => [resumeTransition]
  | .automationPrefsChanged automationEnabled =>
    [{ guard := fun _ => automationEnabled
       target := some .checkingProgress
       actions := [assignAutomationPrefs automationEnabled] },
     { actions := [assignAutomationPrefs automationEnabled] }]
  | .clearJob => [clearJobTransition]
  | _ => []

def onWaitingForParentData : UnilateralExitMachineEvent → List ExitTransition
  | .pollTick => parentDataWaitTransitions
  | .proceedManual feeRateSatPerVb => [proceedManualTransition feeRateSatPerVb]
  | .clearJob => [clearJobTransition]
  | event => inFlightAbortAndPrefs event

def onPaused : UnilateralExitMachineEvent → List ExitTransition
  | .abortOrchestration _ => [abortOrchestrationTransition]
  | .resume => [resumeTransition]
  | .automationPrefsChanged automationEnabled =>
    [{ guard := fun _ => automationEnabled
       target := some .checkingProgress
       actions := [assignAutomationPrefs automationEnabled] },
     { target := some .idle, actions := [assignAutomationPrefs automationEnabled] }]
  | .clearJob => [clearJobTransition]
  | .proceedManual feeRateSatPerVb => [proceedManualTransition feeRateSatPerVb]
  | _ => []

def onAborted : UnilateralExitMachineEvent → List ExitTransition
  | .resolveAbortVtxoIdsDone _ => [{ target := some .idle, actions := [clearJobActorContext] }]
  | .resolveAbortVtxoIdsError _ => [{ target := some .idle, actions := [clearJobActorContext] }]
  | _ => []

def onError : UnilateralExitMachineEvent → List ExitTransition
  | .abortOrchestration _ => [abortOrchestrationTransition]
  | .clearJob => [clearJobTransition]
  | .proceedManual feeRateSatPerVb => [proceedManualTransition feeRateSatPerVb]
  | .resume => [resumeTransition]
  | _ => []

def stateTransitions : UnilateralExitMachineState → UnilateralExitMachineEvent →
    List ExitTransition
  | .notConfigured => onNotConfigured
  | .idle => onIdle
  | .taggingPlan => onTaggingPlan
  | .checkingProgress => onCheckingProgress
  | .loadingProgress => onLoadingProgress
  | .evaluatingPolicy => onEvaluatingPolicy
  | .proceeding => onProceeding
  | .ensuringBroadcast => onEnsuringBroadcast
  | .waitingConfirm => onWaitingConfirm
  | .waitingForParentData => onWaitingForParentData
  | .paused => onPaused
  | .complete | .terminated => fun _ => []
  | .aborted => onAborted
  | .error => onError

/-- The transitions of the machine itself, which every state falls back to. -/
def machineTransitions : UnilateralExitMachineEvent → List ExitTransition
  | .arkadeSessionReset => [{ target := some .notConfigured, actions := [resetToNotConfigured] }]
  | .hydrateVtxoRecords => [{}]
  | _ => []

def entryActions : UnilateralExitMachineState → UnilateralExitMachineEvent →
    List (MachineContext → MachineContext)
  | .waitingConfirm, _ => [assignSettleResultWaitingConfirm]
  | .paused, _ => [assignSettleResultPaused]
  | .error, _ => [assignSettleResultError]
  | .complete, _ => [clearPersistedJob, assignSettleResultBranchComplete]
  | .terminated, .evaluateJobViabilityDone output =>
    [clearPersistedJob, assignSettleResultTerminated output, clearTerminatedProceedRequested]
  | .aborted, .abortOrchestration resolvedJobOutpoints =>
    [stageAbortedJobOutpoints resolvedJobOutpoints, clearPersistedJob,
      clearTerminatedProceedRequested]
  | _, _ => []

def requireUnilateralExitWalletScope : Option ArkadeWalletScope → Except String ArkadeWalletScope
  | none => .error "Unilateral exit requires a configured wallet scope"
  | some walletScope => .ok walletScope

def requireUnilateralExitFeeRateSatPerVb : Option Rat → Except String Rat
  | none => .error "Fee rate is required to proceed with a unilateral exit step"
  | some feeRateSatPerVb => .ok feeRateSatPerVb

def invokedActor (state : UnilateralExitMachineState) (event : UnilateralExitMachineEvent)
    (context : MachineContext) : Except String (Option ActorInput) :=
  match state with
  | .taggingPlan => do
      let walletScope ← requireUnilateralExitWalletScope context.walletScope
      return some (.tagPlan walletScope context.jobOutpoints)
  | .checkingProgress => return some (.evaluateJobViability context.jobOutpoints)
  | .loadingProgress => return some (.fetchProgress context.walletScope context.jobOutpoints)
  | .evaluatingPolicy => do
      let walletScope ← requireUnilateralExitWalletScope context.walletScope
      return some (.evaluateAutomationPolicy walletScope context.jobOutpoints)
  | .proceeding => do
      let walletScope ← requireUnilateralExitWalletScope context.walletScope
      let feeRateSatPerVb ← requireUnilateralExitFeeRateSatPerVb context.feeRateSatPerVb
      return some (.proceedStep walletScope context.jobOutpoints feeRateSatPerVb)
  | .ensuringBroadcast => do
      let walletScope ← requireUnilateralExitWalletScope context.walletScope
      return some (.ensureBroadcast walletScope context.jobOutpoints context.feeRateSatPerVb
        context.automationEnabled)
  | .aborted =>
    return some (.resolveAbortVtxoIds
      (match event with
      | .abortOrchestration resolvedJobOutpoints =>
        if resolvedJobOutpoints.isEmpty then context.jobOutpoints
        else sortArkadeVtxoOutpoints resolvedJobOutpoints
      | _ => context.jobOutpoints))
  | _ => return none

def unilateralExitMachine :
    Statechart UnilateralExitMachineState UnilateralExitMachineEvent MachineContext ActorInput where
  on state event := stateTransitions state event ++ machineTransitions event
  entry := entryActions
  always
    | .complete | .terminated => some (.idle, [clearJobActorContext])
    | _ => none
  invoke := invokedActor

abbrev ExitConfig := Config UnilateralExitMachineState MachineContext

/-- The machine before the wallet is configured, over the stores it finds. -/
def initialExitConfig (jobs : ArkadeWalletScope → JobStore) : ExitConfig where
  value := .notConfigured
  context := { createInitialUnilateralExitContext with jobs }

end Bitboard.Frontend
