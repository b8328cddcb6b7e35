/-
# Moves of the exit machine

What a move of the machine can do to its job is said once, in `JobMove`: the job stays as
it is, is assigned, tagged, ended or aborted, or the machine is configured or reset. The
persisted job follows. Every state has a lemma of its own, and `jobMove_move` joins them.
From it follows that the machine never throws: outside `notConfigured` it has a scope, and
it enters `proceeding` with a fee.
-/

import Bitboard.Frontend.UnilateralExitMachine

namespace Bitboard.Frontend

open Bitboard.Lib

/-- The outpoints of the job that is persisted for a scope. -/
def persistedOutpoints (walletScope : Option ArkadeWalletScope)
    (jobs : ArkadeWalletScope → JobStore) : List ArkadeVtxoOutpoint :=
  match walletScope with
  | none => []
  | some walletScope => (jobs walletScope).getJob.selectedLeafOutpoints

def MachineContext.persistedOutpoints (context : MachineContext) : List ArkadeVtxoOutpoint :=
  Frontend.persistedOutpoints context.walletScope context.jobs

section JobStore

variable (store : JobStore) (outpoints : List ArkadeVtxoOutpoint)

theorem selectedLeafOutpoints_persistActive (now : Int) :
    (store.persistActiveUnilateralExitJob outpoints now).getJob.selectedLeafOutpoints =
      sortArkadeVtxoOutpoints outpoints := rfl

theorem selectedLeafOutpoints_updateRelayWait (sinceUnix : Option Int) :
    (store.updatePersistedUnilateralExitRelayWait sinceUnix).getJob.selectedLeafOutpoints =
      store.getJob.selectedLeafOutpoints := by
  simp only [JobStore.updatePersistedUnilateralExitRelayWait]
  split <;> rfl

theorem selectedLeafOutpoints_clear :
    store.clearPersistedUnilateralExitJob.getJob.selectedLeafOutpoints = [] := rfl

theorem selectedLeafOutpoints_ensure {outpoints : List ArkadeVtxoOutpoint} (now : Int)
    (hsame : store.getJob.selectedLeafOutpoints = outpoints)
    (hsorted : sortArkadeVtxoOutpoints outpoints = outpoints) :
    (store.ensurePersistedUnilateralExitJob outpoints now).getJob.selectedLeafOutpoints =
      outpoints := by
  simp only [JobStore.ensurePersistedUnilateralExitJob, hsorted]
  split
  · exact hsame
  · split <;> rfl

end JobStore

theorem ArkadeVtxoOutpoint.le_eq_isLE (left right : ArkadeVtxoOutpoint) :
    left.le right = (compareLex (compareOn (·.txid)) (compareOn (·.vout)) left right).isLE := by
  simp only [ArkadeVtxoOutpoint.le, compareLex, compareOn]
  cases compare left.txid right.txid with
  | lt => rfl
  | gt => rfl
  | eq => simp [← Nat.isLE_compare]

theorem ArkadeVtxoOutpoint.le_trans (first second third : ArkadeVtxoOutpoint)
    (hfirst : first.le second) (hsecond : second.le third) : first.le third := by
  rw [le_eq_isLE] at hfirst hsecond ⊢
  exact Std.TransCmp.isLE_trans hfirst hsecond

theorem ArkadeVtxoOutpoint.le_total (left right : ArkadeVtxoOutpoint) :
    left.le right || right.le left := by
  have hswap : compareLex (compareOn (·.txid)) (compareOn (·.vout)) right left =
      (compareLex (compareOn (·.txid)) (compareOn (·.vout)) left right).swap :=
    Std.OrientedCmp.eq_swap
  rw [le_eq_isLE, le_eq_isLE, hswap]
  cases compareLex (compareOn (·.txid)) (compareOn (·.vout)) left right <;> rfl

theorem sortArkadeVtxoOutpoints_idem (outpoints : List ArkadeVtxoOutpoint) :
    sortArkadeVtxoOutpoints (sortArkadeVtxoOutpoints outpoints) =
      sortArkadeVtxoOutpoints outpoints :=
  List.mergeSort_of_pairwise
    (List.pairwise_mergeSort ArkadeVtxoOutpoint.le_trans ArkadeVtxoOutpoint.le_total outpoints)

abbrev ExitMove := Move UnilateralExitMachineState MachineContext

/-- The events that assign outpoints to the job, where they are accepted. -/
def assignsOutpoints (value : UnilateralExitMachineState) (event : UnilateralExitMachineEvent) :
    Bool :=
  match event with
  | .startManual .. | .startAutomatic .. | .hydrateOrStart .. => decide (value = .idle)
  | _ => false

/-- The states in which the machine may hold a job that has been tagged. -/
def UnilateralExitMachineState.holdsJob : UnilateralExitMachineState → Bool
  | .notConfigured | .taggingPlan | .complete | .terminated | .aborted => false
  | _ => true

/-- The job is the same, in the context and persisted. -/
structure SameJob (before after : MachineContext) : Prop where
  walletScope : after.walletScope = before.walletScope
  jobOutpoints : after.jobOutpoints = before.jobOutpoints
  persisted : after.persistedOutpoints = before.persistedOutpoints

structure JobGone (before after : MachineContext) : Prop where
  walletScope : after.walletScope = before.walletScope
  jobOutpoints : after.jobOutpoints = []
  persisted : after.persistedOutpoints = []

/-- The states in which the machine is busy with a job, or waits to go on with it. -/
def UnilateralExitMachineState.worksOnJob : UnilateralExitMachineState → Bool
  | .idle | .error => false
  | state => state.holdsJob

/-- The states that accept a `CLEAR_JOB`. -/
def UnilateralExitMachineState.clearsJob : UnilateralExitMachineState → Bool
  | .idle | .waitingConfirm | .waitingForParentData | .paused | .error => true
  | _ => false

/-- The machine goes on with its job in another state. Only a request of the user makes it
go on from `idle` without a job, and only the user makes it go on from `error`. -/
structure GoesOn (before : ExitConfig) (event : UnilateralExitMachineEvent)
    (state : UnilateralExitMachineState) (context : MachineContext) : Prop where
  same : SameJob before.context context
  holds : before.value.holdsJob = true
  holdsAfter : state.holdsJob = true
  notAssigned : assignsOutpoints before.value event = false
  notCleared : event ≠ .clearJob
  feeRate : state = .proceeding → context.feeRateSatPerVb.isSome
  leavesIdle : before.value = .idle → before.context.jobOutpoints ≠ [] ∨
    ∃ fee, event = .proceedManual fee
  leavesError : before.value = .error → event = .resume ∨ ∃ fee, event = .proceedManual fee

inductive JobMove (before : ExitConfig) : UnilateralExitMachineEvent → ExitMove → Prop where
  | stays {event : UnilateralExitMachineEvent} {context : MachineContext}
      (same : SameJob before.context context)
      (notAssigned : assignsOutpoints before.value event = false)
      (notCleared : event = .clearJob → before.value.clearsJob = false) :
      JobMove before event { config := { before with context }, entered := none }
  | goesOn {event : UnilateralExitMachineEvent} {state : UnilateralExitMachineState}
      {context : MachineContext} (on : GoesOn before event state context) :
      JobMove before event { config := { value := state, context }, entered := some state }
  | assigns {event : UnilateralExitMachineEvent} {context : MachineContext}
      (idle : before.value = .idle) (assigned : assignsOutpoints before.value event = true)
      (notCleared : event ≠ .clearJob) (scope : context.walletScope.isSome)
      (sorted : sortArkadeVtxoOutpoints context.jobOutpoints = context.jobOutpoints) :
      JobMove before event
        { config := { value := .taggingPlan, context }, entered := some .taggingPlan }
  | tags {now : Int} {context : MachineContext} (tagging : before.value = .taggingPlan)
      (walletScope : context.walletScope = before.context.walletScope)
      (jobOutpoints : context.jobOutpoints = before.context.jobOutpoints)
      (persisted : before.context.walletScope.isSome →
        sortArkadeVtxoOutpoints context.jobOutpoints = context.jobOutpoints →
        context.persistedOutpoints = context.jobOutpoints) :
      JobMove before (.tagPlanDone now)
        { config := { value := .checkingProgress, context }, entered := some .checkingProgress }
  | failsToTag {error : ActorError} {context : MachineContext}
      (tagging : before.value = .taggingPlan) (same : SameJob before.context context) :
      JobMove before (.tagPlanError error)
        { config := { value := .error, context }, entered := some .error }
  | ends {event : UnilateralExitMachineEvent} {context : MachineContext}
      {entered : Option UnilateralExitMachineState} (holds : before.value.holdsJob)
      (gone : JobGone before.context context) :
      JobMove before event { config := { value := .idle, context }, entered }
  | aborts {event : UnilateralExitMachineEvent} {context : MachineContext}
      (running : before.value.holdsJob = true ∨ before.value = .taggingPlan)
      (notCleared : event ≠ .clearJob)
      (walletScope : context.walletScope = before.context.walletScope)
      (persisted : context.persistedOutpoints = []) :
      JobMove before event { config := { value := .aborted, context }, entered := some .aborted }
  | leavesAborted {event : UnilateralExitMachineEvent} {context : MachineContext}
      (aborted : before.value = .aborted) (notCleared : event ≠ .clearJob)
      (walletScope : context.walletScope = before.context.walletScope)
      (jobOutpoints : context.jobOutpoints = [])
      (persisted : context.persistedOutpoints = before.context.persistedOutpoints) :
      JobMove before event { config := { value := .idle, context }, entered := some .idle }
  | configures {walletScope : ArkadeWalletScope} {context : MachineContext}
      (notConfigured : before.value = .notConfigured)
      (scope : context.walletScope = some walletScope)
      (jobOutpoints : context.jobOutpoints = before.context.jobOutpoints) :
      JobMove before (.walletConfigured walletScope)
        { config := { value := .idle, context }, entered := some .idle }
  | resets :
      JobMove before .arkadeSessionReset
        { config := { value := .notConfigured, context := resetToNotConfigured before.context }
          entered := some .notConfigured }

abbrev JobTakes (before : ExitConfig) (event : UnilateralExitMachineEvent)
    (transition : ExitTransition) : Prop :=
  JobMove before event (unilateralExitMachine.take before event transition)

section Moves

variable {context : MachineContext} {event : UnilateralExitMachineEvent}
variable {transition : ExitTransition}

section

attribute [local simp] MachineContext.persistedOutpoints persistedOutpoints updateJobStore

theorem persistedOutpoints_syncPersistedRelayWait (progress : ArkadeUnilateralExitProgress)
    (context : MachineContext) :
    (syncPersistedRelayWait progress context).persistedOutpoints = context.persistedOutpoints := by
  cases hscope : context.walletScope with
  | none => simp [syncPersistedRelayWait, hscope]
  | some walletScope =>
    simp [syncPersistedRelayWait, hscope, selectedLeafOutpoints_updateRelayWait]

theorem persistedOutpoints_clearPersistedJob (context : MachineContext) :
    (clearPersistedJob context).persistedOutpoints = [] := by
  cases hscope : context.walletScope with
  | none => simp [clearPersistedJob, hscope]
  | some walletScope => simp [clearPersistedJob, hscope, selectedLeafOutpoints_clear]

theorem persistedOutpoints_persistActiveJobFromContext (now : Int)
    (hscope : context.walletScope.isSome)
    (hsorted : sortArkadeVtxoOutpoints context.jobOutpoints = context.jobOutpoints) :
    (persistActiveJobFromContext now context).persistedOutpoints = context.jobOutpoints := by
  obtain ⟨walletScope, hwalletScope⟩ := Option.isSome_iff_exists.mp hscope
  simpa [persistActiveJobFromContext, hwalletScope, selectedLeafOutpoints_persistActive]
    using hsorted

theorem persistedOutpoints_ensurePersistedJobFromContext (now : Int)
    (hscope : context.walletScope.isSome)
    (hsorted : sortArkadeVtxoOutpoints context.jobOutpoints = context.jobOutpoints)
    (hmatches : persistedJobMatchesContextOutpoints context = true) :
    (ensurePersistedJobFromContext now context).persistedOutpoints = context.jobOutpoints := by
  obtain ⟨walletScope, hwalletScope⟩ := Option.isSome_iff_exists.mp hscope
  have hsame : (context.jobs walletScope).getJob.selectedLeafOutpoints = context.jobOutpoints := by
    simp only [persistedJobMatchesContextOutpoints, hwalletScope, arkadeVtxoOutpointListsEqual,
      Bool.and_eq_true, beq_iff_eq] at hmatches
    exact hmatches.2
  simpa [ensurePersistedJobFromContext, hwalletScope] using
    selectedLeafOutpoints_ensure (context.jobs walletScope) now hsame hsorted

end

variable {after : MachineContext}

theorem jobMove_goesOn {value state : UnilateralExitMachineState}
    (hsame : SameJob context after) (hworks : value.worksOnJob = true)
    (hafter : state.holdsJob = true) (hassigned : assignsOutpoints value event = false)
    (hcleared : event ≠ .clearJob)
    (hfee : state = .proceeding → after.feeRateSatPerVb.isSome) :
    JobMove { value, context } event ⟨⟨state, after⟩, some state⟩ := by
  apply JobMove.goesOn
  constructor
  · exact hsame
  · cases value <;> first | rfl | cases hworks
  · exact hafter
  · exact hassigned
  · exact hcleared
  · exact hfee
  · rintro rfl
    cases hworks
  · rintro rfl
    cases hworks

theorem jobMove_leavesIdle (hsame : SameJob context after)
    (hassigned : assignsOutpoints .idle event = false) (hcleared : event ≠ .clearJob)
    (hleaves : context.jobOutpoints ≠ [] ∨ ∃ fee, event = .proceedManual fee) :
    JobMove { value := .idle, context } event
      { config := { value := .checkingProgress, context := after }
        entered := some .checkingProgress } :=
  .goesOn ⟨hsame, rfl, rfl, hassigned, hcleared, (by simp), fun _ => hleaves, (by simp)⟩

theorem jobMove_leavesError (hsame : SameJob context after)
    (hassigned : assignsOutpoints .error event = false) (hcleared : event ≠ .clearJob)
    (hleaves : event = .resume ∨ ∃ fee, event = .proceedManual fee) :
    JobMove { value := .error, context } event
      { config := { value := .checkingProgress, context := after }
        entered := some .checkingProgress } :=
  .goesOn ⟨hsame, rfl, rfl, hassigned, hcleared, (by simp), (by simp), fun _ => hleaves⟩

variable {value : UnilateralExitMachineState}

theorem jobMove_abort {resolvedJobOutpoints : List ArkadeVtxoOutpoint}
    (hvalue : value.holdsJob = true ∨ value = .taggingPlan)
    (hmem : transition ∈ [abortOrchestrationTransition]) :
    JobTakes { value, context } (.abortOrchestration resolvedJobOutpoints) transition := by
  cases List.mem_singleton.mp hmem
  exact .aborts hvalue (by simp) rfl (persistedOutpoints_clearPersistedJob _)

theorem jobMove_clear (hholds : value.holdsJob = true) (hmem : transition ∈ [clearJobTransition]) :
    JobTakes { value, context } .clearJob transition := by
  cases List.mem_singleton.mp hmem
  exact .ends hholds ⟨rfl, rfl, persistedOutpoints_clearPersistedJob _⟩

theorem jobMove_inFlight (hvalue : value.holdsJob = true ∨ value = .taggingPlan)
    (hmem : transition ∈ inFlightAbortAndPrefs event) :
    JobTakes { value, context } event transition := by
  cases event with
  | abortOrchestration resolvedJobOutpoints => exact jobMove_abort hvalue hmem
  | automationPrefsChanged automationEnabled =>
    cases List.mem_singleton.mp hmem
    exact .stays ⟨rfl, rfl, rfl⟩ rfl (by simp)
  | _ => cases hmem

theorem jobMove_inFlightProceed (hvalue : value.holdsJob = true)
    (hmem : transition ∈ inFlightAbortPrefsAndProceed event) :
    JobTakes { value, context } event transition := by
  unfold inFlightAbortPrefsAndProceed at hmem
  split at hmem
  · cases List.mem_singleton.mp hmem
    exact .stays ⟨rfl, rfl, rfl⟩ rfl (by simp)
  · exact jobMove_inFlight (.inl hvalue) hmem

theorem jobMove_onIdle (hmem : transition ∈ onIdle event)
    (hguard : transition.guard context = true) :
    JobTakes { value := .idle, context } event transition := by
  cases event with
  | startManual | startAutomatic | hydrateOrStart =>
    cases List.mem_singleton.mp hmem
    exact .assigns rfl rfl (by simp) rfl (sortArkadeVtxoOutpoints_idem _)
  | proceedManual feeRateSatPerVb =>
    cases List.mem_singleton.mp hmem
    exact jobMove_leavesIdle ⟨rfl, rfl, rfl⟩ rfl (by simp) (.inr ⟨_, rfl⟩)
  | pollTick =>
    have hmem := List.mem_pair.mp hmem
    -- Both guards ask for a job.
    have hjob : context.jobOutpoints ≠ [] := by
      intro hnil
      rcases hmem with rfl | rfl
      · simp [hasActiveAutomaticJob, hnil] at hguard
      · simp [hasActiveManualJob, hnil] at hguard
    rcases hmem with rfl | rfl
    all_goals exact jobMove_leavesIdle ⟨rfl, rfl, rfl⟩ rfl (by simp) (.inl hjob)
  | abortOrchestration resolvedJobOutpoints => exact jobMove_abort (.inl rfl) hmem
  | clearJob =>
    cases List.mem_singleton.mp hmem
    exact .ends rfl ⟨rfl, rfl, persistedOutpoints_clearPersistedJob _⟩
  | automationPrefsChanged automationEnabled =>
    rcases List.mem_pair.mp hmem with rfl | rfl
    · have hjob : context.jobOutpoints ≠ [] := by
        intro hnil
        simp [prefsEnabledWithJob, hnil] at hguard
      exact jobMove_leavesIdle ⟨rfl, rfl, rfl⟩ rfl (by simp) (.inl hjob)
    · exact .stays ⟨rfl, rfl, rfl⟩ rfl (by simp)
  | _ => cases hmem

theorem jobMove_onTaggingPlan (hmem : transition ∈ onTaggingPlan event)
    (hguard : transition.guard context = true) :
    JobTakes { value := .taggingPlan, context } event transition := by
  cases event with
  | tagPlanDone now =>
    rcases List.mem_pair.mp hmem with rfl | rfl
    · exact .tags rfl rfl rfl (persistedOutpoints_ensurePersistedJobFromContext now · · hguard)
    · exact .tags rfl rfl rfl (persistedOutpoints_persistActiveJobFromContext now)
  | tagPlanError error =>
    cases List.mem_singleton.mp hmem
    exact .failsToTag rfl ⟨rfl, rfl, rfl⟩
  | _ => exact jobMove_inFlight (.inr rfl) hmem

theorem jobMove_onCheckingProgress (hmem : transition ∈ onCheckingProgress event) :
    JobTakes { value := .checkingProgress, context } event transition := by
  cases event with
  | evaluateJobViabilityDone output =>
    rcases List.mem_pair.mp hmem with rfl | rfl
    · exact .ends rfl ⟨rfl, rfl, persistedOutpoints_clearPersistedJob _⟩
    · exact jobMove_goesOn ⟨rfl, rfl, rfl⟩ rfl rfl rfl (by simp) (by simp)
  | evaluateJobViabilityError error =>
    cases List.mem_singleton.mp hmem
    exact jobMove_goesOn ⟨rfl, rfl, rfl⟩ rfl rfl rfl (by simp) (by simp)
  | _ => exact jobMove_inFlightProceed rfl hmem

/-- Whatever a fetch answers, the job goes on or is complete. -/
theorem jobMove_onLoadingProgress (hmem : transition ∈ onLoadingProgress event)
    (hguard : transition.guard context = true) :
    JobTakes { value := .loadingProgress, context } event transition := by
  cases event with
  | fetchProgressDone output =>
    simp only [onLoadingProgress, checkingProgressOnDone, List.mem_cons, List.not_mem_nil,
      or_false] at hmem
    rcases hmem with rfl | hmem
    · exact .ends rfl ⟨rfl, rfl, persistedOutpoints_clearPersistedJob _⟩
    · have hsync := persistedOutpoints_syncPersistedRelayWait output
        (assignProgressFromFetch output context)
      have hfee : transition.target = some .proceeding → context.feeRateSatPerVb.isSome := by
        intro htarget
        rcases hmem with rfl | rfl | rfl | rfl | rfl | rfl | rfl | rfl | rfl | rfl <;>
          simp_all [shouldProceedNowFromEvent]
      rcases hmem with rfl | rfl | rfl | rfl | rfl | rfl | rfl | rfl | rfl | rfl
      all_goals
        exact jobMove_goesOn ⟨rfl, rfl, hsync⟩ rfl rfl rfl (by simp)
          (fun hstate => hfee (congrArg some hstate))
  | fetchProgressError error =>
    cases List.mem_singleton.mp hmem
    exact jobMove_goesOn ⟨rfl, rfl, rfl⟩ rfl rfl rfl (by simp) (by simp)
  | _ => exact jobMove_inFlightProceed rfl hmem

theorem jobMove_onEvaluatingPolicy (hmem : transition ∈ onEvaluatingPolicy event) :
    JobTakes { value := .evaluatingPolicy, context } event transition := by
  cases event with
  | evaluateAutomationPolicyDone output =>
    simp only [onEvaluatingPolicy, List.mem_cons, List.not_mem_nil, or_false] at hmem
    rcases hmem with rfl | rfl | rfl
    · exact jobMove_goesOn ⟨rfl, rfl, rfl⟩ rfl rfl rfl (by simp) (by simp)
    · exact jobMove_goesOn ⟨rfl, rfl, rfl⟩ rfl rfl rfl (by simp) (fun _ => rfl)
    · exact jobMove_goesOn ⟨rfl, rfl, rfl⟩ rfl rfl rfl (by simp) (by simp)
  | evaluateAutomationPolicyError error =>
    cases List.mem_singleton.mp hmem
    exact jobMove_goesOn ⟨rfl, rfl, rfl⟩ rfl rfl rfl (by simp) (by simp)
  | _ => exact jobMove_inFlight (.inl rfl) hmem

theorem jobMove_broadcastOnError {error : ActorError}
    {assignError : ActorError → MachineContext → MachineContext}
    (hworks : value.worksOnJob = true) (hassigned : assignsOutpoints value event = false)
    (hcleared : event ≠ .clearJob) (hsame : SameJob context (assignError error context))
    (hmem : transition ∈ broadcastOnError error assignError) :
    JobTakes { value, context } event transition := by
  simp only [broadcastOnError, List.mem_cons, List.not_mem_nil, or_false] at hmem
  rcases hmem with rfl | rfl | rfl
  · exact jobMove_goesOn ⟨rfl, rfl, rfl⟩ hworks rfl hassigned hcleared (by simp)
  · exact jobMove_goesOn ⟨rfl, rfl, rfl⟩ hworks rfl hassigned hcleared (by simp)
  · exact jobMove_goesOn ⟨hsame.walletScope, hsame.jobOutpoints, hsame.persisted⟩ hworks rfl
      hassigned hcleared (by simp)

theorem jobMove_onProceeding (hmem : transition ∈ onProceeding event) :
    JobTakes { value := .proceeding, context } event transition := by
  cases event with
  | proceedStepDone output =>
    rcases List.mem_pair.mp hmem with rfl | rfl
    · exact .ends rfl ⟨rfl, rfl, persistedOutpoints_clearPersistedJob _⟩
    · have hsync := persistedOutpoints_syncPersistedRelayWait output
        (assignProgressFromProceed output context)
      exact jobMove_goesOn ⟨rfl, rfl, hsync⟩ rfl rfl rfl (by simp) (by simp)
  | proceedStepError error =>
    exact jobMove_broadcastOnError rfl rfl (by simp) ⟨rfl, rfl, rfl⟩ hmem
  | _ => exact jobMove_inFlight (.inl rfl) hmem

theorem jobMove_onEnsuringBroadcast (hmem : transition ∈ onEnsuringBroadcast event) :
    JobTakes { value := .ensuringBroadcast, context } event transition := by
  cases event with
  | ensureBroadcastDone output =>
    simp only [onEnsuringBroadcast, ensuringBroadcastOnDone, List.mem_cons, List.not_mem_nil,
      or_false] at hmem
    rcases hmem with rfl | hmem
    · exact .ends rfl ⟨rfl, rfl, persistedOutpoints_clearPersistedJob _⟩
    · have hsync := persistedOutpoints_syncPersistedRelayWait output
        (assignProgressFromEnsureBroadcast output context)
      rcases hmem with rfl | rfl | rfl
      all_goals exact jobMove_goesOn ⟨rfl, rfl, hsync⟩ rfl rfl rfl (by simp) (by simp)
  | ensureBroadcastError error =>
    exact jobMove_broadcastOnError rfl rfl (by simp) ⟨rfl, rfl, rfl⟩ hmem
  | _ => exact jobMove_inFlight (.inl rfl) hmem

theorem jobMove_onWaitingConfirm (hmem : transition ∈ onWaitingConfirm event) :
    JobTakes { value := .waitingConfirm, context } event transition := by
  cases event with
  | abortOrchestration resolvedJobOutpoints => exact jobMove_abort (.inl rfl) hmem
  | pollTick | proceedManual | resume =>
    cases List.mem_singleton.mp hmem
    exact jobMove_goesOn ⟨rfl, rfl, rfl⟩ rfl rfl rfl (by simp) (by simp)
  | automationPrefsChanged automationEnabled =>
    rcases List.mem_pair.mp hmem with rfl | rfl
    · exact jobMove_goesOn ⟨rfl, rfl, rfl⟩ rfl rfl rfl (by simp) (by simp)
    · exact .stays ⟨rfl, rfl, rfl⟩ rfl (by simp)
  | clearJob => exact jobMove_clear rfl hmem
  | _ => cases hmem

theorem jobMove_onWaitingForParentData (hmem : transition ∈ onWaitingForParentData event) :
    JobTakes { value := .waitingForParentData, context } event transition := by
  cases event with
  | pollTick =>
    rcases List.mem_pair.mp hmem with rfl | rfl
    all_goals exact jobMove_goesOn ⟨rfl, rfl, rfl⟩ rfl rfl rfl (by simp) (by simp)
  | proceedManual feeRateSatPerVb =>
    cases List.mem_singleton.mp hmem
    exact jobMove_goesOn ⟨rfl, rfl, rfl⟩ rfl rfl rfl (by simp) (by simp)
  | clearJob => exact jobMove_clear rfl hmem
  | _ => exact jobMove_inFlight (.inl rfl) hmem

theorem jobMove_onPaused (hmem : transition ∈ onPaused event) :
    JobTakes { value := .paused, context } event transition := by
  cases event with
  | abortOrchestration resolvedJobOutpoints => exact jobMove_abort (.inl rfl) hmem
  | resume | proceedManual =>
    cases List.mem_singleton.mp hmem
    exact jobMove_goesOn ⟨rfl, rfl, rfl⟩ rfl rfl rfl (by simp) (by simp)
  | automationPrefsChanged automationEnabled =>
    rcases List.mem_pair.mp hmem with rfl | rfl
    all_goals exact jobMove_goesOn ⟨rfl, rfl, rfl⟩ rfl rfl rfl (by simp) (by simp)
  | clearJob => exact jobMove_clear rfl hmem
  | _ => cases hmem

theorem jobMove_onAborted (hmem : transition ∈ onAborted event) :
    JobTakes { value := .aborted, context } event transition := by
  cases event with
  | resolveAbortVtxoIdsDone | resolveAbortVtxoIdsError =>
    cases List.mem_singleton.mp hmem
    exact .leavesAborted rfl (by simp) rfl rfl rfl
  | _ => cases hmem

theorem jobMove_onError (hmem : transition ∈ onError event) :
    JobTakes { value := .error, context } event transition := by
  cases event with
  | abortOrchestration resolvedJobOutpoints => exact jobMove_abort (.inl rfl) hmem
  | clearJob => exact jobMove_clear rfl hmem
  | proceedManual feeRateSatPerVb =>
    cases List.mem_singleton.mp hmem
    exact jobMove_leavesError ⟨rfl, rfl, rfl⟩ rfl (by simp) (.inr ⟨_, rfl⟩)
  | resume =>
    cases List.mem_singleton.mp hmem
    exact jobMove_leavesError ⟨rfl, rfl, rfl⟩ rfl (by simp) (.inl rfl)
  | _ => cases hmem

theorem jobMove_stateTransitions
    (hmem : transition ∈ stateTransitions value event) (hguard : transition.guard context = true) :
    JobTakes { value, context } event transition := by
  cases value with
  | notConfigured =>
    cases event with
    | walletConfigured walletScope =>
      cases List.mem_singleton.mp hmem
      exact .configures rfl rfl rfl
    | _ => cases hmem
  | idle => exact jobMove_onIdle hmem hguard
  | taggingPlan => exact jobMove_onTaggingPlan hmem hguard
  | checkingProgress => exact jobMove_onCheckingProgress hmem
  | loadingProgress => exact jobMove_onLoadingProgress hmem hguard
  | evaluatingPolicy => exact jobMove_onEvaluatingPolicy hmem
  | proceeding => exact jobMove_onProceeding hmem
  | ensuringBroadcast => exact jobMove_onEnsuringBroadcast hmem
  | waitingConfirm => exact jobMove_onWaitingConfirm hmem
  | waitingForParentData => exact jobMove_onWaitingForParentData hmem
  | paused => exact jobMove_onPaused hmem
  | complete | terminated => cases hmem
  | aborted => exact jobMove_onAborted hmem
  | error => exact jobMove_onError hmem

theorem assignsOutpoints_eq_false_of_ignored {config : ExitConfig}
    (hignored : ∀ transition ∈ unilateralExitMachine.on config.value event,
      transition.guard config.context = false) : assignsOutpoints config.value event = false := by
  by_contra hassigns
  obtain ⟨value, context⟩ := config
  cases event with
  | startManual | startAutomatic | hydrateOrStart =>
    obtain rfl : value = .idle := by simpa [assignsOutpoints] using hassigns
    exact Bool.noConfusion (hignored _ List.mem_cons_self)
  | _ => exact hassigns rfl

theorem clearsJob_eq_false_of_ignored {config : ExitConfig}
    (hignored : ∀ transition ∈ unilateralExitMachine.on config.value .clearJob,
      transition.guard config.context = false) : config.value.clearsJob = false := by
  obtain ⟨value, context⟩ := config
  cases value with
  | idle | waitingConfirm | waitingForParentData | paused | error =>
    exact Bool.noConfusion (hignored _ List.mem_cons_self)
  | _ => rfl

theorem jobMove_move (config : ExitConfig) (event : UnilateralExitMachineEvent) :
    JobMove config event (unilateralExitMachine.move config event) := by
  apply Statechart.move_rule_of_mem
  · intro hignored
    apply JobMove.stays ⟨rfl, rfl, rfl⟩ (assignsOutpoints_eq_false_of_ignored hignored)
    rintro rfl
    exact clearsJob_eq_false_of_ignored hignored
  · intro transition hmem hguard
    rcases List.mem_append.mp hmem with hstate | hmachine
    · exact jobMove_stateTransitions hstate hguard
    · cases event with
      | arkadeSessionReset =>
        cases List.mem_singleton.mp hmachine
        exact .resets
      | hydrateVtxoRecords =>
        cases List.mem_singleton.mp hmachine
        exact .stays ⟨rfl, rfl, rfl⟩ rfl (by simp)
      | _ => cases hmachine

end Moves

/-! ## The machine never throws -/

def ActorInput.broadcastOutpoints : ActorInput → Option (List ArkadeVtxoOutpoint)
  | .proceedStep _ outpoints _ | .ensureBroadcast _ outpoints _ _ => some outpoints
  | _ => none

/-- Outside `notConfigured` the machine has a scope. -/
def Configured (config : ExitConfig) : Prop :=
  config.value ≠ .notConfigured → config.context.walletScope.isSome

section Throws

variable {config : ExitConfig} {event : UnilateralExitMachineEvent} {move : ExitMove}

theorem ne_of_holdsJob {value other : UnilateralExitMachineState} (h : value.holdsJob = true)
    (hother : other.holdsJob = false) : value ≠ other := by
  rintro rfl
  rw [h] at hother
  cases hother

theorem Configured.of_jobMove (h : Configured config) (hmove : JobMove config event move) :
    Configured move.config := by
  cases hmove with
  | stays same =>
    intro hvalue
    rw [same.walletScope]
    exact h hvalue
  | goesOn on =>
    intro _
    rw [on.same.walletScope]
    exact h (ne_of_holdsJob on.holds rfl)
  | assigns idle assigned notCleared scope =>
    intro _
    exact scope
  | tags tagging walletScope =>
    intro _
    rw [walletScope]
    exact h (by simp [tagging])
  | failsToTag tagging same =>
    intro _
    rw [same.walletScope]
    exact h (by simp [tagging])
  | ends holds gone =>
    intro _
    rw [gone.walletScope]
    exact h (ne_of_holdsJob holds rfl)
  | aborts running notCleared walletScope =>
    intro _
    rw [walletScope]
    rcases running with holds | tagging
    · exact h (ne_of_holdsJob holds rfl)
    · exact h (by simp [tagging])
  | leavesAborted aborted notCleared walletScope =>
    intro _
    rw [walletScope]
    exact h (by simp [aborted])
  | configures notConfigured scope =>
    intro _
    simp [scope]
  | resets =>
    intro hvalue
    exact absurd rfl hvalue

theorem feeRate_of_jobMove (hmove : JobMove config event move) (hentered : move.entered.isSome)
    (hvalue : move.config.value = .proceeding) : move.config.context.feeRateSatPerVb.isSome := by
  cases hmove with
  | stays same => simp at hentered
  | goesOn on => exact on.feeRate hvalue
  | _ => cases hvalue

attribute [local simp] invokedActor requireUnilateralExitWalletScope
  requireUnilateralExitFeeRateSatPerVb bind Except.bind pure Except.pure

theorem exists_invokedActor (hconfigured : Configured config)
    (hfee : config.value = .proceeding → config.context.feeRateSatPerVb.isSome) :
    ∃ started, invokedActor config.value event config.context = .ok started := by
  obtain ⟨value, context⟩ := config
  by_cases hvalue : value = .notConfigured
  · subst hvalue
    exact ⟨none, rfl⟩
  · obtain ⟨walletScope, hscope⟩ := Option.isSome_iff_exists.mp (hconfigured hvalue)
    cases value with
    | proceeding =>
      obtain ⟨feeRate, hfeeRate⟩ := Option.isSome_iff_exists.mp (hfee rfl)
      simp only at hscope hfeeRate
      simp [hscope, hfeeRate]
    | taggingPlan | evaluatingPolicy | ensuringBroadcast =>
      simp only at hscope
      simp [hscope]
    | _ => exact ⟨_, rfl⟩

theorem step_eq_move (hconfigured : Configured config) (event : UnilateralExitMachineEvent) :
    ∃ started, unilateralExitMachine.step config event =
        .ok (unilateralExitMachine.move config event, started) ∧
      ∀ input, started = some input →
        (unilateralExitMachine.move config event).entered.isSome ∧
        invokedActor (unilateralExitMachine.move config event).config.value event
          (unilateralExitMachine.move config event).config.context = .ok (some input) := by
  have hmove := jobMove_move config event
  rcases Statechart.step_cases_of_invoke (fun hentered => exists_invokedActor
    (hconfigured.of_jobMove hmove) (feeRate_of_jobMove hmove hentered)) with
    ⟨_, hstep⟩ | ⟨started, hentered, hinvoke, hstep⟩
  · exact ⟨none, hstep, by simp⟩
  · refine ⟨started, hstep, ?_⟩
    rintro input rfl
    exact ⟨hentered, hinvoke⟩

/-- The broadcasting actors are started in two states only, with what the context holds. -/
theorem broadcastingActor_cases {input : ActorInput}
    (hinvoke : invokedActor config.value event config.context = .ok (some input)) :
    (config.value = .proceeding ∧ ∃ walletScope feeRateSatPerVb,
        config.context.feeRateSatPerVb = some feeRateSatPerVb ∧
        input = .proceedStep walletScope config.context.jobOutpoints feeRateSatPerVb) ∨
      (config.value = .ensuringBroadcast ∧ ∃ walletScope,
        input = .ensureBroadcast walletScope config.context.jobOutpoints
          config.context.feeRateSatPerVb config.context.automationEnabled) ∨
      input.broadcastOutpoints = none := by
  obtain ⟨value, context⟩ := config
  cases value with
  | proceeding =>
    cases hscope : context.walletScope with
    | none => simp [hscope] at hinvoke
    | some walletScope =>
      cases hfee : context.feeRateSatPerVb with
      | none => simp [hscope, hfee] at hinvoke
      | some feeRateSatPerVb =>
        simp [hscope, hfee] at hinvoke
        exact .inl ⟨rfl, walletScope, feeRateSatPerVb, rfl, hinvoke.symm⟩
  | ensuringBroadcast =>
    cases hscope : context.walletScope with
    | none => simp [hscope] at hinvoke
    | some walletScope =>
      simp [hscope] at hinvoke
      exact .inr (.inl ⟨rfl, walletScope, hinvoke.symm⟩)
  | taggingPlan | evaluatingPolicy =>
    simp only [invokedActor, bind, Except.bind] at hinvoke
    split at hinvoke
    · cases hinvoke
    · cases hinvoke
      exact .inr (.inr rfl)
  | _ =>
    cases hinvoke
    try exact .inr (.inr rfl)

end Throws

end Bitboard.Frontend
