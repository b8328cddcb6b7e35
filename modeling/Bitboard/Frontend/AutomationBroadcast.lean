/-
# Automatic broadcasts

While the automation drives a job, every broadcast should use a fee that a policy
evaluation gave for this step under the present preferences, and nothing should be
started after the preferences have switched the automation off. The machine evaluates
the policy when it needs a fee and has none. It keeps the fee for the steps that follow,
and it takes changed preferences while an evaluation or a broadcast is under way, where
its guards no longer ask for them.
-/

import Bitboard.Frontend.BroadcastRuns
import Bitboard.Frontend.ExitJobRuns

namespace Bitboard.Frontend

open Bitboard.Lib
open BroadcastSystem

/-- The evaluation was made for this step under these preferences, and gave this fee. -/
structure PolicyRecord.Approves (record : PolicyRecord) (stepIndex : Option Nat)
    (prefsChanges : Nat) (feeRateSatPerVb : Rat) : Prop where
  stepIndex : record.stepIndex = stepIndex
  prefsChanges : record.prefsChanges = prefsChanges
  unpaused : record.evaluation.pausedReason = none
  feeRate : record.evaluation.feeRateSatPerVb = feeRateSatPerVb

/-- Every broadcast for the automation uses a fee that was evaluated for its step since the
preferences were last changed, and no run is started where nobody drives the job. -/
structure BroadcastSystem.FollowsPolicy (system : BroadcastSystem) : Prop where
  evaluated : ∀ broadcast ∈ system.broadcasts, broadcast.origin.driver = .automation →
    ∃ record ∈ system.ledger.evaluations, record.Approves (some broadcast.stepIndex)
      broadcast.prefsChanges broadcast.feeRateSatPerVb
  driven : ∀ number run, system.runs number = some run → run.origin.driver ≠ .nobody

/-- The preferences are changed while no automatic run is under way and, if the automation
is on, neither in `evaluatingPolicy` nor in `error`, nor are they switched off in
`proceeding`. Where the automation needs a broadcast and has a fee, the fetch reports the
step that the fee was evaluated for. Evaluated fees are not below the minimum of the worker.
And for an automatic run, the worker broadcasts the step that its fee was meant for. -/
def KeepsToEvaluatedStep (system : BroadcastSystem) : BroadcastOp → Prop
  | .send (.automationPrefsChanged automationEnabled) =>
    (∀ number run, system.runs number = some run → run.origin.driver = .automation →
        run.phase = .ended) ∧
      (system.config.context.automationEnabled = true →
        system.config.value ≠ .evaluatingPolicy ∧ system.config.value ≠ .error ∧
          (automationEnabled = false → system.config.value ≠ .proceeding))
  | .send (.fetchProgressDone output) =>
    system.config.value = .loadingProgress → system.ledger.driver = .automation →
      system.config.context.progressRefreshRequested = false →
      system.config.context.feeRateSatPerVb.isSome → needsBroadcastEnsurance output = true →
      system.ledger.approvedStepIndex = some output.stepIndex
  | .send (.evaluateAutomationPolicyDone output) =>
    output.pausedReason = none → minFeeRateSatPerVb ≤ output.feeRateSatPerVb
  | .evaluatePolicy _ evaluation =>
    evaluation.pausedReason = none → minFeeRateSatPerVb ≤ evaluation.feeRateSatPerVb
  | .broadcast number stepIndex =>
    ∀ run feeRateSatPerVb intended, system.runs number = some run →
      run.origin.driver = .automation → run.phase = .calling feeRateSatPerVb intended →
      intended = some stepIndex
  | _ => True

/-- The machine rests and has no job, or is about to drop it. -/
def RestsWithoutJob (config : ExitConfig) : Prop :=
  config.value = .aborted ∨
    (config.value = .idle ∨ config.value = .notConfigured) ∧ config.context.jobOutpoints = []

section WithoutJob

variable {config : ExitConfig} {event : UnilateralExitMachineEvent} {move : ExitMove}

theorem RestsWithoutJob.rests (h : RestsWithoutJob config) : config.value.inFlight = false := by
  rcases h with hvalue | ⟨hvalue | hvalue, _⟩
  all_goals
    rw [hvalue]
    rfl

theorem not_restsWithoutJob (hflight : config.value.inFlight = true) :
    ¬ RestsWithoutJob config := by
  intro h
  rw [h.rests] at hflight
  cases hflight

/-- Only a request of the user or a switch of the automation gives it a job. -/
theorem RestsWithoutJob.of_jobMove (h : RestsWithoutJob config)
    (hrequest : manualRequest config event = none)
    (hswitch : automationSwitch config event = none) (hmove : JobMove config event move) :
    RestsWithoutJob move.config := by
  cases hmove with
  | stays same notAssigned notCleared =>
    rcases h with hvalue | ⟨hvalue, hnil⟩
    · exact .inl hvalue
    · exact .inr ⟨hvalue, same.jobOutpoints.trans hnil⟩
  | goesOn on =>
    rcases h with hvalue | ⟨hvalue | hvalue, hnil⟩
    · exact absurd hvalue (ne_of_holdsJob on.holds rfl)
    · rcases on.leavesIdle hvalue with hjob | ⟨feeRateSatPerVb, rfl⟩
      · exact absurd hnil hjob
      · simp [manualRequest, hvalue, UnilateralExitMachineState.takesProceed] at hrequest
    · exact absurd hvalue (ne_of_holdsJob on.holds rfl)
  | assigns idle assigned notCleared scope sorted =>
    cases event with
    | startManual => simp [manualRequest, idle] at hrequest
    | startAutomatic | hydrateOrStart => simp [automationSwitch, idle] at hswitch
    | _ => cases assigned
  | tags tagging walletScope jobOutpoints persisted =>
    exact absurd h (not_restsWithoutJob (by rw [tagging]; rfl))
  | failsToTag tagging same =>
    exact absurd h (not_restsWithoutJob (by rw [tagging]; rfl))
  | ends holds gone => exact .inr ⟨.inl rfl, gone.jobOutpoints⟩
  | aborts running notCleared walletScope persisted => exact .inl rfl
  | leavesAborted aborted notCleared walletScope jobOutpoints persisted =>
    exact .inr ⟨.inl rfl, jobOutpoints⟩
  | configures notConfigured scope jobOutpoints =>
    rcases h with hvalue | ⟨_, hnil⟩
    · rw [notConfigured] at hvalue
      cases hvalue
    · exact .inr ⟨.inl rfl, jobOutpoints.trans hnil⟩
  | resets => cases hswitch

/-- The machine settles in no final state, and before it is configured it has no job. -/
structure SettlesWithoutJob (config : ExitConfig) : Prop where
  fresh : config.value = .notConfigured → config.context.jobOutpoints = []
  notComplete : config.value ≠ .complete
  notTerminated : config.value ≠ .terminated

theorem SettlesWithoutJob.of_jobMove (h : SettlesWithoutJob config)
    (hmove : JobMove config event move) : SettlesWithoutJob move.config := by
  cases hmove with
  | stays same notAssigned notCleared =>
    exact ⟨fun hvalue => same.jobOutpoints.trans (h.fresh hvalue), h.notComplete, h.notTerminated⟩
  | goesOn on =>
    refine ⟨?_, ne_of_holdsJob on.holdsAfter rfl, ne_of_holdsJob on.holdsAfter rfl⟩
    intro hvalue
    exact absurd hvalue (ne_of_holdsJob on.holdsAfter rfl)
  | resets => exact ⟨fun _ => rfl, by simp, by simp⟩
  | _ => exact ⟨by simp, by simp, by simp⟩

theorem SettlesWithoutJob.of_ignored (h : SettlesWithoutJob config)
    (hignored : config.value.takesPrefs = false) :
    RestsWithoutJob config ∨ config.value = .error := by
  cases hvalue : config.value with
  | notConfigured => exact .inl (.inr ⟨.inr hvalue, h.fresh hvalue⟩)
  | aborted => exact .inl (.inl hvalue)
  | error => exact .inr rfl
  | complete => exact absurd hvalue h.notComplete
  | terminated => exact absurd hvalue h.notTerminated
  | _ =>
    rw [hvalue] at hignored
    cases hignored

end WithoutJob

variable {feeRateSatPerVb : Rat}

section Driver

variable {before : ExitConfig} {event : UnilateralExitMachineEvent} {move : ExitMove}
variable (driver : Driver)

theorem driverAfter_of_request (hrequest : manualRequest before event = some feeRateSatPerVb) :
    driverAfter before event driver = .user := by
  simp [driverAfter, hrequest]

theorem driverAfter_of_switch {enabled : Bool} (hrequest : manualRequest before event = none)
    (hswitch : automationSwitch before event = some enabled) :
    enabled = true ∧ driverAfter before event driver = .automation ∨
      enabled = false ∧ (driverAfter before event driver = .nobody ∨
        before.context.automationEnabled = false ∧
          driverAfter before event driver = driver) := by
  unfold driverAfter
  rw [hrequest]
  simp only
  split
  · obtain ⟨_, rfl⟩ : before.value.takesPrefs = true ∧ false = enabled := by
      simpa [automationSwitch] using hswitch
    right
    cases before.context.automationEnabled with
    | true => exact ⟨rfl, .inl rfl⟩
    | false => exact ⟨rfl, .inr ⟨rfl, rfl⟩⟩
  · rw [hswitch]
    cases enabled with
    | true => exact .inl ⟨rfl, rfl⟩
    | false => exact .inr ⟨rfl, .inl rfl⟩

theorem driverAfter_of_none (hrequest : manualRequest before event = none)
    (hswitch : automationSwitch before event = none) :
    driverAfter before event driver = driver ∨
      event = .automationPrefsChanged false ∧ before.context.automationEnabled = true ∧
        before.value.takesPrefs = false ∧ driverAfter before event driver = .nobody := by
  unfold driverAfter
  rw [hrequest]
  simp only
  split
  · have hignored : before.value.takesPrefs = false := by
      simpa [automationSwitch] using hswitch
    cases before.context.automationEnabled with
    | true => exact .inr ⟨rfl, rfl, hignored, rfl⟩
    | false => exact .inl rfl
  · rw [hswitch]
    exact .inl rfl

end Driver

/-- A policy evaluation under the present preferences gave this fee for this step. -/
structure Approved (ledger : Ledger) (stepIndex : Option Nat) (feeRateSatPerVb : Rat) : Prop where
  feeRate : minFeeRateSatPerVb ≤ feeRateSatPerVb
  record : ∃ record ∈ ledger.evaluations,
    record.Approves stepIndex ledger.prefsChanges feeRateSatPerVb

/-- What has been evaluated for a run, and for which step. -/
def RunApproved (ledger : Ledger) (run : BroadcastRun) : Prop :=
  match run.phase with
  | .reading (some feeRateSatPerVb) _ =>
    Approved ledger run.origin.fetchedStepIndex feeRateSatPerVb
  | .evaluating _ prefsChanges => prefsChanges = ledger.prefsChanges
  | .calling feeRateSatPerVb intended => Approved ledger intended feeRateSatPerVb
  | _ => True

variable {ledger : Ledger}

theorem runApproved_of_ended {run : BroadcastRun} (hended : run.phase = .ended) :
    RunApproved ledger run := by
  simp [RunApproved, hended]

structure Extends (before after : Ledger) : Prop where
  prefsChanges : after.prefsChanges = before.prefsChanges
  evaluations : ∀ record ∈ before.evaluations, record ∈ after.evaluations

theorem Approved.of_extends {before after : Ledger} {stepIndex : Option Nat}
    (h : Approved before stepIndex feeRateSatPerVb) (hextends : Extends before after) :
    Approved after stepIndex feeRateSatPerVb := by
  obtain ⟨record, hmem, happroves⟩ := h.record
  rw [← hextends.prefsChanges] at happroves
  exact ⟨h.feeRate, record, hextends.evaluations record hmem, happroves⟩

theorem RunApproved.of_extends {before after : Ledger} {run : BroadcastRun}
    (h : RunApproved before run) (hextends : Extends before after) : RunApproved after run := by
  obtain ⟨phase, origin⟩ := run
  cases phase with
  | reading feeRateSatPerVb automationEnabled =>
    cases feeRateSatPerVb with
    | none => trivial
    | some feeRateSatPerVb => exact Approved.of_extends h hextends
  | evaluating stepIndex prefsChanges => exact h.trans hextends.prefsChanges.symm
  | calling feeRateSatPerVb intended => exact Approved.of_extends h hextends
  | ended => trivial

variable {event : UnilateralExitMachineEvent}

theorem mem_evaluations_observe {before : ExitConfig} {move : ExitMove} {record : PolicyRecord}
    (hmem : record ∈ ledger.evaluations) :
    record ∈ (ledger.observe before event move).evaluations := by
  simp only [Ledger.observe]
  split
  · exact hmem
  · exact List.mem_cons_of_mem _ hmem

theorem extends_observe (ledger : Ledger) {before : ExitConfig} {move : ExitMove}
    (hprefs : ∀ automationEnabled, event ≠ .automationPrefsChanged automationEnabled) :
    Extends ledger (ledger.observe before event move) where
  prefsChanges := by
    show prefsChangesAfter event ledger.prefsChanges = ledger.prefsChanges
    unfold prefsChangesAfter
    split
    · exact absurd rfl (hprefs _)
    · rfl
  evaluations := fun _ hmem => mem_evaluations_observe hmem

/-- Nothing is under way that could lead to a broadcast. -/
structure Undriven (config : ExitConfig) : Prop where
  off : config.context.automationEnabled = false
  unrequested : config.value.inFlight = true → config.context.proceedRequested = false
  notEvaluating : config.value ≠ .evaluatingPolicy
  notProceeding : config.value ≠ .proceeding

structure AutomationInv (system : BroadcastSystem) : Prop where
  configured : Configured system.config
  settles : SettlesWithoutJob system.config
  enabled : system.ledger.driver = .automation → system.config.context.automationEnabled = true
  undriven : system.ledger.driver = .nobody →
    RestsWithoutJob system.config ∨ Undriven system.config
  paused : system.config.context.pausedReason.isSome →
    system.config.value = .paused ∨ system.config.value = .aborted
  approved : system.ledger.driver = .automation → ¬ RestsWithoutJob system.config →
    ∀ feeRateSatPerVb, system.config.context.feeRateSatPerVb = some feeRateSatPerVb →
      Approved system.ledger system.ledger.approvedStepIndex feeRateSatPerVb
  evaluating : system.config.value = .evaluatingPolicy →
    system.config.context.automationEnabled = true ∧
      system.ledger.evaluationPrefs = system.ledger.prefsChanges
  proceeding : system.ledger.driver = .automation → system.config.value = .proceeding →
    system.config.context.feeRateSatPerVb.isSome →
    system.ledger.approvedStepIndex = system.ledger.fetchedStepIndex
  runs : ∀ number run, system.runs number = some run → run.origin.driver = .automation →
    RunApproved system.ledger run
  follows : system.FollowsPolicy

variable (jobs : ArkadeWalletScope → JobStore)

attribute [local simp] initialBroadcastSystem initialExitConfig initialLedger in
theorem automationInv_initialBroadcastSystem : AutomationInv (initialBroadcastSystem jobs) where
  configured := fun hvalue => absurd rfl hvalue
  settles := ⟨fun _ => rfl, by simp, by simp⟩
  enabled := by simp
  undriven := fun _ => .inl (.inr ⟨.inr rfl, rfl⟩)
  paused := by
    intro hpaused
    cases hpaused
  approved := by simp
  evaluating := by simp
  proceeding := by simp
  runs := by simp
  follows := ⟨by simp, by simp⟩

/-! ## Events -/

section Events

variable {system : BroadcastSystem} {event : UnilateralExitMachineEvent} {move : ExitMove}
variable {started : Option ActorInput} {run : BroadcastRun}

theorem AutomationInv.undriven_of_none (h : AutomationInv system)
    (hkeeps : KeepsToEvaluatedStep system (.send event))
    (hrequest : manualRequest system.config event = none)
    (hswitch : automationSwitch system.config event = none)
    (hdriver : driverAfter system.config event system.ledger.driver = .nobody) :
    RestsWithoutJob system.config ∨ Undriven system.config := by
  rcases driverAfter_of_none system.ledger.driver hrequest hswitch with
    hsame | ⟨rfl, henabled, hignored, _⟩
  · exact h.undriven (hsame.symm.trans hdriver)
  · rcases h.settles.of_ignored hignored with hrests | herror
    · exact .inl hrests
    · exact absurd herror (hkeeps.2 henabled).2.1

/-- A machine that nobody drives does not carry on to a broadcast. -/
theorem Undriven.of_carriesOn {config : ExitConfig} (h : Undriven config)
    (hmove : DriveMove config event move) (carries : CarriesOn config event move) :
    Undriven move.config where
  off := carries.automation.trans h.off
  unrequested := by
    intro hflight
    by_contra hproceed
    rcases carries.request hflight (by simpa using hproceed) with hon | ⟨hflown, hproceeded, _⟩
    · rw [h.off] at hon
      cases hon
    · rw [h.unrequested hflown] at hproceeded
      cases hproceeded
  notEvaluating := by
    intro hvalue
    rcases hmove.evaluatingPolicy_cases hvalue with ⟨_, hstayed⟩ | ⟨_, _, _, hon⟩
    · exact h.notEvaluating hstayed
    · rw [h.off] at hon
      cases hon
  notProceeding := by
    intro hvalue
    rcases hmove.proceeding_cases hvalue with
      ⟨_, hstayed⟩ | ⟨output, evaluates⟩ | ⟨_, output, fetch⟩
    · exact h.notProceeding hstayed
    · exact h.notEvaluating evaluates.value
    · have hproceeds := fetch.proceeds
      have hunrequested := h.unrequested (by rw [fetch.value]; rfl)
      simp [shouldProceedNowFromEvent, hunrequested] at hproceeds

theorem AutomationInv.noted_of_switch {enabled : Bool} (h : AutomationInv system)
    (hkeeps : KeepsToEvaluatedStep system (.send (.automationPrefsChanged enabled))) :
    system.config.value ≠ .evaluatingPolicy := by
  intro hvalue
  exact (hkeeps.2 (h.evaluating hvalue).1).1 hvalue

theorem AutomationInv.undriven_observe (h : AutomationInv system)
    (hkeeps : KeepsToEvaluatedStep system (.send event))
    (hmove : DriveMove system.config event move) (hjob : JobMove system.config event move)
    (hdriver : driverAfter system.config event system.ledger.driver = .nobody) :
    RestsWithoutJob move.config ∨ Undriven move.config := by
  have hcopy := hmove
  cases hmove with
  | requests feeRateSatPerVb requests =>
    rw [driverAfter_of_request _ requests.request] at hdriver
    cases hdriver
  | switches enabled switches =>
    rcases driverAfter_of_switch system.ledger.driver switches.noRequest
      switches.switch with ⟨_, hon⟩ | ⟨rfl, hoff⟩
    · rw [hon] at hdriver
      cases hdriver
    right
    refine ⟨switches.automation, fun _ => switches.proceed rfl, ?_, ?_⟩
    · intro hvalue
      rcases switches.value with ⟨rfl, _, hstays⟩ | hother | hother | hother | hother
      · exact h.noted_of_switch hkeeps (hstays.symm.trans hvalue)
      all_goals
        rw [hother] at hvalue
        cases hvalue
    · intro hvalue
      rcases switches.value with ⟨rfl, _, hstays⟩ | hother | hother | hother | hother
      · have hproceeding := hstays.symm.trans hvalue
        cases henabled : system.config.context.automationEnabled with
        | true => exact (hkeeps.2 henabled).2.2 rfl hproceeding
        | false =>
          have hsame : system.ledger.driver = .nobody := by
            simpa [driverAfter, henabled, manualRequest] using hdriver
          rcases h.undriven hsame with hrests | hundriven
          · exact not_restsWithoutJob (by rw [hproceeding]; rfl) hrests
          · exact hundriven.notProceeding hproceeding
      all_goals
        rw [hother] at hvalue
        cases hvalue
  | ends ends =>
    rcases h.undriven_of_none hkeeps ends.noRequest ends.noSwitch hdriver with
      hrests | hundriven
    · exact .inl (hrests.of_jobMove ends.noRequest ends.noSwitch hjob)
    · right
      refine ⟨ends.automation.trans hundriven.off, fun _ => ends.proceed, ?_, ?_⟩
      all_goals simp [ends.value]
  | evaluates output evaluates =>
    have hsame : system.ledger.driver = .nobody := by
      simpa [evaluates.event, driverAfter, manualRequest, automationSwitch] using hdriver
    rcases h.undriven hsame with hrests | hundriven
    · exact absurd hrests (not_restsWithoutJob (by rw [evaluates.value]; rfl))
    · exact absurd evaluates.value hundriven.notEvaluating
  | carriesOn carries =>
    rcases h.undriven_of_none hkeeps carries.noRequest carries.noSwitch hdriver with
      hrests | hundriven
    · exact .inl (hrests.of_jobMove carries.noRequest carries.noSwitch hjob)
    · exact .inr (hundriven.of_carriesOn hcopy carries)

theorem driver_of_none (hrequest : manualRequest system.config event = none)
    (hswitch : automationSwitch system.config event = none)
    (hdriver : driverAfter system.config event system.ledger.driver = .automation) :
    system.ledger.driver = .automation := by
  rcases driverAfter_of_none system.ledger.driver hrequest hswitch with
    hsame | ⟨_, _, _, hnobody⟩
  · exact hsame.symm.trans hdriver
  · rw [hnobody] at hdriver
    cases hdriver

theorem AutomationInv.enabled_of_switch {enabled : Bool} (h : AutomationInv system)
    (switches : Switches system.config event move enabled)
    (hdriver : driverAfter system.config event system.ledger.driver = .automation) :
    enabled = true := by
  rcases driverAfter_of_switch system.ledger.driver switches.noRequest switches.switch with
    ⟨hon, _⟩ | ⟨_, hnobody | ⟨hoff, hsame⟩⟩
  · exact hon
  · rw [hnobody] at hdriver
    cases hdriver
  · rw [h.enabled (hsame.symm.trans hdriver)] at hoff
    cases hoff

variable {output : UnilateralExitPolicyEvaluation}

theorem driver_of_evaluates (evaluates : Evaluates system.config event move output) :
    driverAfter system.config event system.ledger.driver = system.ledger.driver := by
  rw [evaluates.event]
  rfl

section

variable (h : AutomationInv system)
include h

theorem AutomationInv.enabled_observe (hmove : DriveMove system.config event move)
    (hdriver : driverAfter system.config event system.ledger.driver = .automation) :
    move.config.context.automationEnabled = true := by
  cases hmove with
  | requests feeRateSatPerVb requests =>
    rw [driverAfter_of_request _ requests.request] at hdriver
    cases hdriver
  | switches enabled switches =>
    exact switches.automation.trans (h.enabled_of_switch switches hdriver)
  | ends ends =>
    exact ends.automation.trans (h.enabled (driver_of_none ends.noRequest ends.noSwitch hdriver))
  | evaluates output evaluates =>
    exact evaluates.automation.trans
      (h.enabled ((driver_of_evaluates evaluates).symm.trans hdriver))
  | carriesOn carries =>
    exact carries.automation.trans
      (h.enabled (driver_of_none carries.noRequest carries.noSwitch hdriver))

theorem AutomationInv.paused_observe (hmove : DriveMove system.config event move)
    (hpaused : move.config.context.pausedReason.isSome) :
    move.config.value = .paused ∨ move.config.value = .aborted := by
  cases hmove with
  | requests feeRateSatPerVb requests =>
    rw [requests.unpaused] at hpaused
    cases hpaused
  | switches enabled switches =>
    rw [switches.unpaused] at hpaused
    cases hpaused
  | ends ends =>
    rw [ends.unpaused] at hpaused
    cases hpaused
  | evaluates output evaluates =>
    rw [evaluates.paused] at hpaused
    simpa [evaluates.value] using h.paused hpaused
  | carriesOn carries =>
    rcases carries.pause hpaused with hvalue | hvalue | ⟨hbefore, hnotPaused, hnotAborted⟩
    · exact .inl hvalue
    · exact .inr hvalue
    · rcases h.paused hbefore with hvalue | hvalue
      · exact absurd hvalue hnotPaused
      · exact absurd hvalue hnotAborted

theorem AutomationInv.evaluating_observe (hkeeps : KeepsToEvaluatedStep system (.send event))
    (hmove : DriveMove system.config event move) (hvalue : move.config.value = .evaluatingPolicy) :
    move.config.context.automationEnabled = true ∧
      (system.ledger.observe system.config event move).evaluationPrefs =
        (system.ledger.observe system.config event move).prefsChanges := by
  rcases hmove.evaluatingPolicy_cases hvalue with
    ⟨hentered, hstayed⟩ | ⟨hentered, carries, _, hon⟩
  · have hprefs (enabled : Bool) : event ≠ .automationPrefsChanged enabled := by
      rintro rfl
      exact h.noted_of_switch hkeeps hstayed
    have hsame : (system.ledger.observe system.config event move).prefsChanges =
        system.ledger.prefsChanges := (extends_observe system.ledger hprefs).prefsChanges
    obtain ⟨henabled, hpresent⟩ := h.evaluating hstayed
    refine ⟨?_, ?_⟩
    · cases hmove with
      | switches enabled switches =>
        rcases switches.value with ⟨hevent, _⟩ | hother | hother | hother | hother
        · exact absurd hevent (hprefs enabled)
        all_goals
          rw [hother] at hvalue
          cases hvalue
      | requests feeRateSatPerVb requests => exact requests.automation.trans henabled
      | ends ends => exact ends.automation.trans henabled
      | evaluates output evaluates => exact evaluates.automation.trans henabled
      | carriesOn carries => exact carries.automation.trans henabled
    · rw [hsame, ← hpresent]
      simp [Ledger.observe, hentered]
  · refine ⟨carries.automation.trans hon, ?_⟩
    simp [Ledger.observe, hentered, hvalue]

theorem AutomationInv.not_prefs_of_none (hkeeps : KeepsToEvaluatedStep system (.send event))
    (hswitch : automationSwitch system.config event = none)
    (hdriver : system.ledger.driver = .automation) (hrests : ¬ RestsWithoutJob system.config)
    (enabled : Bool) : event ≠ .automationPrefsChanged enabled := by
  rintro rfl
  have hignored : system.config.value.takesPrefs = false := by
    simpa [automationSwitch] using hswitch
  rcases h.settles.of_ignored hignored with hwithout | herror
  · exact hrests hwithout
  · exact (hkeeps.2 (h.enabled hdriver)).2.1 herror

end

theorem approvedStepIndex_of_carriesOn (carries : CarriesOn system.config event move) :
    (system.ledger.observe system.config event move).approvedStepIndex =
      system.ledger.approvedStepIndex := by
  apply if_neg
  rintro ⟨hevaluating, hproceeding⟩
  cases hentered : move.entered with
  | none =>
    rw [carries.stays hentered, hevaluating] at hproceeding
    cases hproceeding
  | some state =>
    obtain ⟨output, fetch⟩ := carries.proceeds (by simp [hentered]) hproceeding
    rw [fetch.value] at hevaluating
    cases hevaluating

theorem AutomationInv.approved_of_evaluates
    (h : AutomationInv system) (hkeeps : KeepsToEvaluatedStep system (.send event))
    (evaluates : Evaluates system.config event move output) :
    Approved (system.ledger.observe system.config event move) system.ledger.fetchedStepIndex
      output.feeRateSatPerVb := by
  obtain ⟨_, hpresent⟩ := h.evaluating evaluates.value
  have hevent := evaluates.event
  subst hevent
  refine ⟨hkeeps evaluates.unpausedOutput,
    { stepIndex := system.ledger.fetchedStepIndex
      prefsChanges := system.ledger.evaluationPrefs
      evaluation := output }, ?_, rfl, hpresent, evaluates.unpausedOutput, rfl⟩
  simp [Ledger.observe, policyEvaluated, evaluates.value]

theorem AutomationInv.approved_observe (h : AutomationInv system)
    (hkeeps : KeepsToEvaluatedStep system (.send event))
    (hmove : DriveMove system.config event move) (hjob : JobMove system.config event move)
    (hdriver : driverAfter system.config event system.ledger.driver = .automation)
    (hrests : ¬ RestsWithoutJob move.config)
    (hfee : move.config.context.feeRateSatPerVb = some feeRateSatPerVb) :
    Approved (system.ledger.observe system.config event move)
      (system.ledger.observe system.config event move).approvedStepIndex feeRateSatPerVb := by
  cases hmove with
  | requests feeRateSatPerVb requests =>
    rw [driverAfter_of_request _ requests.request] at hdriver
    cases hdriver
  | switches enabled switches =>
    rw [switches.feeRate (h.enabled_of_switch switches hdriver)] at hfee
    cases hfee
  | ends ends =>
    rw [ends.feeRate] at hfee
    cases hfee
  | evaluates output evaluates =>
    have happroved := h.approved_of_evaluates hkeeps evaluates
    have hstep : (system.ledger.observe system.config event move).approvedStepIndex =
        system.ledger.fetchedStepIndex := if_pos ⟨evaluates.value, evaluates.valueAfter⟩
    obtain rfl := Option.some.inj (evaluates.feeRate.symm.trans hfee)
    rw [hstep]
    exact happroved
  | carriesOn carries =>
    have hbefore := driver_of_none carries.noRequest carries.noSwitch hdriver
    have hjobBefore : ¬ RestsWithoutJob system.config := fun hwithout =>
      hrests (hwithout.of_jobMove carries.noRequest carries.noSwitch hjob)
    rw [carries.feeRate] at hfee
    rw [approvedStepIndex_of_carriesOn carries]
    apply (h.approved hbefore hjobBefore feeRateSatPerVb hfee).of_extends
    exact extends_observe _
      (h.not_prefs_of_none hkeeps carries.noSwitch hbefore hjobBefore)

theorem AutomationInv.not_fetchProceeds {output : ArkadeUnilateralExitProgress}
    (h : AutomationInv system) (hdriver : system.ledger.driver = .automation)
    (fetch : FetchProceeds system.config event output) : False := by
  have hunpaused : system.config.context.pausedReason = none := by
    cases hpaused : system.config.context.pausedReason with
    | none => rfl
    | some reason => simpa [fetch.value] using h.paused (by simp [hpaused])
  have hpolicy := fetch.policyFirst
  have hproceeds := fetch.proceeds
  simp only [shouldProceedNowFromEvent, Bool.and_eq_true] at hproceeds
  obtain ⟨⟨⟨hrequested, _⟩, hidle⟩, hrelayed⟩ := hproceeds
  simp [shouldRunAutomationPolicyFromEvent, h.enabled hdriver, hunpaused, hrequested, hidle,
    hrelayed] at hpolicy

theorem driver_of_fetch {output : ArkadeUnilateralExitProgress}
    (hevent : event = .fetchProgressDone output) :
    driverAfter system.config event system.ledger.driver = system.ledger.driver := by
  rw [hevent]
  rfl

section

variable (h : AutomationInv system)
include h

theorem AutomationInv.proceeding_observe (hmove : DriveMove system.config event move)
    (hdriver : driverAfter system.config event system.ledger.driver = .automation)
    (hvalue : move.config.value = .proceeding) (hfee : move.config.context.feeRateSatPerVb.isSome) :
    (system.ledger.observe system.config event move).approvedStepIndex =
      (system.ledger.observe system.config event move).fetchedStepIndex := by
  cases hmove with
  | requests feeRateSatPerVb requests =>
    rw [driverAfter_of_request _ requests.request] at hdriver
    cases hdriver
  | switches enabled switches =>
    rw [switches.feeRate (h.enabled_of_switch switches hdriver)] at hfee
    cases hfee
  | ends ends =>
    rw [ends.feeRate] at hfee
    cases hfee
  | evaluates output evaluates =>
    rw [Ledger.fetchedStepIndex_observe_of_ne _ (by simp [evaluates.value])]
    exact if_pos ⟨evaluates.value, evaluates.valueAfter⟩
  | carriesOn carries =>
    have hbefore := driver_of_none carries.noRequest carries.noSwitch hdriver
    cases hentered : move.entered with
    | none =>
      have hstayed := (carries.stays hentered).symm.trans hvalue
      rw [carries.feeRate] at hfee
      rw [approvedStepIndex_of_carriesOn carries,
        Ledger.fetchedStepIndex_observe_of_ne _ (by simp [hstayed])]
      exact h.proceeding hbefore hstayed hfee
    | some state =>
      obtain ⟨output, fetch⟩ := carries.proceeds (by simp [hentered]) hvalue
      exact (h.not_fetchProceeds hbefore fetch).elim

section

variable (hkeeps : KeepsToEvaluatedStep system (.send event))
include hkeeps

/-- No run is started where nobody drives the job. -/
theorem AutomationInv.driven_of_starts (hmove : DriveMove system.config event move)
    (hstarts : Starts move (system.ledger.observe system.config event move) run) :
    run.origin.driver ≠ .nobody := by
  have hdriver : run.origin.driver = driverAfter system.config event system.ledger.driver := by
    rw [hstarts.origin]
    rfl
  rw [hdriver]
  intro hnobody
  have hundriven (hflight : system.config.value.inFlight = true)
      (h : RestsWithoutJob system.config ∨ Undriven system.config) : Undriven system.config := by
    rcases h with hrests | hundriven
    · rw [hrests.rests] at hflight
      cases hflight
    · exact hundriven
  cases hstarts.cause hmove with
  | evaluated output evaluates =>
    rw [driver_of_evaluates evaluates] at hnobody
    exact (hundriven (by rw [evaluates.value]; rfl) (h.undriven hnobody)).notEvaluating
      evaluates.value
  | proceeds output carries hvalue fetch =>
    rw [driver_of_fetch fetch.event] at hnobody
    have hflight : system.config.value.inFlight = true := by rw [fetch.value]; rfl
    have hunrequested := (hundriven hflight (h.undriven hnobody)).unrequested hflight
    have hproceeds := fetch.proceeds
    simp [shouldProceedNowFromEvent, hunrequested] at hproceeds
  | ensures output carries hvalue fetch =>
    rw [driver_of_fetch fetch.event] at hnobody
    have hflight : system.config.value.inFlight = true := by rw [fetch.value]; rfl
    have hquiet := hundriven hflight (h.undriven hnobody)
    have hneeds := fetch.needs
    simp [needsBroadcastFromFetchEvent, hquiet.off, hquiet.unrequested hflight] at hneeds
  | continues carries hvalue hproceeding =>
    exact (hundriven (by rw [hproceeding]; rfl) (h.undriven_of_none hkeeps carries.noRequest
      carries.noSwitch hnobody)).notProceeding hproceeding

/-- An automatic run is started with a fee that was evaluated for the reported step, or it
evaluates the policy itself. -/
theorem AutomationInv.runApproved_of_starts (hmove : DriveMove system.config event move)
    (hstarts : Starts move (system.ledger.observe system.config event move) run)
    (hautomation : run.origin.driver = .automation) :
    RunApproved (system.ledger.observe system.config event move) run := by
  have hdriver : driverAfter system.config event system.ledger.driver = .automation := by
    rw [← hautomation, hstarts.origin]
    rfl
  have horigin : run.origin.fetchedStepIndex =
      (system.ledger.observe system.config event move).fetchedStepIndex := by
    rw [hstarts.origin]
    rfl
  -- A run of `ensureBroadcast` needs an approval only if it is given a fee.
  have hreading (hvalue : move.config.value = .ensuringBroadcast)
      (happroved : ∀ feeRateSatPerVb,
        move.config.context.feeRateSatPerVb = some feeRateSatPerVb →
        Approved (system.ledger.observe system.config event move)
          (system.ledger.observe system.config event move).fetchedStepIndex feeRateSatPerVb) :
      RunApproved (system.ledger.observe system.config event move) run := by
    rcases hstarts.ensures hvalue with hended | hphase
    · exact runApproved_of_ended hended
    · unfold RunApproved
      rw [hphase, horigin]
      cases hfee : move.config.context.feeRateSatPerVb with
      | none => trivial
      | some feeRateSatPerVb => exact happroved feeRateSatPerVb hfee
  cases hstarts.cause hmove with
  | evaluated output evaluates =>
    rcases hstarts.proceeds evaluates.valueAfter with hended | ⟨feeRateSatPerVb, hfee, hphase⟩
    · exact runApproved_of_ended hended
    · obtain rfl := Option.some.inj (evaluates.feeRate.symm.trans hfee)
      unfold RunApproved
      rw [hphase, Ledger.fetchedStepIndex_observe_of_ne _ (by simp [evaluates.value])]
      exact h.approved_of_evaluates hkeeps evaluates
  | proceeds output carries hvalue fetch =>
    rw [driver_of_fetch fetch.event] at hdriver
    exact (h.not_fetchProceeds hdriver fetch).elim
  | ensures output carries hvalue fetch =>
    have hbefore := driver_of_none carries.noRequest carries.noSwitch hdriver
    have hneeds : needsBroadcastEnsurance output = true := by
      by_contra hnot
      have hensures := fetch.needs
      simp [needsBroadcastFromFetchEvent, hnot] at hensures
    have hevent := fetch.event
    subst hevent
    apply hreading hvalue
    intro feeRateSatPerVb hfee
    rw [carries.feeRate] at hfee
    have hstep := hkeeps fetch.value hbefore fetch.refresh (by simp [hfee]) hneeds
    have hrests : ¬ RestsWithoutJob system.config :=
      not_restsWithoutJob (by rw [fetch.value]; rfl)
    have happroved := h.approved hbefore hrests feeRateSatPerVb hfee
    rw [hstep] at happroved
    rw [Ledger.fetchedStepIndex_observe_of_fetch _ fetch.value rfl]
    exact happroved.of_extends (extends_observe _ (by simp))
  | continues carries hvalue hproceeding =>
    have hbefore := driver_of_none carries.noRequest carries.noSwitch hdriver
    have hrests : ¬ RestsWithoutJob system.config :=
      not_restsWithoutJob (by rw [hproceeding]; rfl)
    apply hreading hvalue
    intro feeRateSatPerVb hfee
    rw [carries.feeRate] at hfee
    have happroved := h.approved hbefore hrests feeRateSatPerVb hfee
    rw [h.proceeding hbefore hproceeding (by simp [hfee])] at happroved
    rw [Ledger.fetchedStepIndex_observe_of_ne _ (by simp [hproceeding])]
    exact happroved.of_extends
      (extends_observe _ (h.not_prefs_of_none hkeeps carries.noSwitch hbefore hrests))

theorem automationInv_send : AutomationInv (system.send event) := by
  obtain ⟨started, hsend, hstarts⟩ := send_eq_observe h.configured event
  have hmove := driveMove_move system.config event
  have hjob := jobMove_move system.config event
  rw [hsend]
  generalize unilateralExitMachine.move system.config event = move at hstarts hmove hjob ⊢
  constructor
  · exact h.configured.of_jobMove hjob
  · exact h.settles.of_jobMove hjob
  · exact h.enabled_observe hmove
  · exact h.undriven_observe hkeeps hmove hjob
  · exact h.paused_observe hmove
  · intro hdriver hrests feeRateSatPerVb hfee
    exact h.approved_observe hkeeps hmove hjob hdriver hrests hfee
  · exact h.evaluating_observe hkeeps hmove
  · exact h.proceeding_observe hmove
  · intro number run hrun hautomation
    rcases runs_observe hrun with ⟨before, hbefore, rfl | rfl⟩ | ⟨_, hfresh⟩
    · by_cases hprefs : ∃ enabled, event = .automationPrefsChanged enabled
      · obtain ⟨enabled, rfl⟩ := hprefs
        exact runApproved_of_ended (hkeeps.1 number run hbefore hautomation)
      · apply (h.runs number run hbefore hautomation).of_extends
        apply extends_observe
        intro enabled hevent
        exact hprefs ⟨enabled, hevent⟩
    · exact runApproved_of_ended rfl
    · exact h.runApproved_of_starts hkeeps hmove (hstarts run hfresh) hautomation
  · constructor
    · intro broadcast hmem hautomation
      obtain ⟨record, hrecord, happroves⟩ := h.follows.evaluated broadcast hmem hautomation
      exact ⟨record, mem_evaluations_observe hrecord, happroves⟩
    · intro number run hrun
      rcases runs_observe hrun with ⟨before, hbefore, rfl | rfl⟩ | ⟨_, hfresh⟩
      · exact h.follows.driven number run hbefore
      · exact h.follows.driven number before hbefore
      · exact h.driven_of_starts hkeeps hmove (hstarts run hfresh)

end

end

end Events

/-! ## Steps of the runs -/

section Runs

variable {system : BroadcastSystem} {number : Nat}

theorem RunApproved.readProgress {run : BroadcastRun} (h : RunApproved system.ledger run)
    (progress : ArkadeUnilateralExitProgress) :
    RunApproved system.ledger (run.readProgress progress system.ledger.prefsChanges) := by
  obtain ⟨phase, origin⟩ := run
  cases phase with
  | reading feeRateSatPerVb automationEnabled =>
    unfold BroadcastRun.readProgress
    simp only
    split
    · exact runApproved_of_ended rfl
    · cases feeRateSatPerVb with
      | some feeRateSatPerVb => exact h
      | none =>
        cases automationEnabled with
        | true => exact rfl
        | false => exact runApproved_of_ended rfl
  | _ => exact h

theorem RunApproved.evaluatePolicy {run : BroadcastRun} (h : RunApproved system.ledger run)
    {evaluation : UnilateralExitPolicyEvaluation}
    (hfee : evaluation.pausedReason = none → minFeeRateSatPerVb ≤ evaluation.feeRateSatPerVb)
    (hextends : Extends system.ledger ledger)
    (hrecord : ∀ record, run.policyRecord evaluation = some record →
      record ∈ ledger.evaluations) : RunApproved ledger (run.evaluatePolicy evaluation) := by
  obtain ⟨phase, origin⟩ := run
  cases phase with
  | evaluating stepIndex prefsChanges =>
    unfold BroadcastRun.evaluatePolicy
    simp only
    split
    · exact runApproved_of_ended rfl
    · rename_i hpaused
      have hunpaused : evaluation.pausedReason = none := by simpa using hpaused
      exact ⟨hfee hunpaused, _, hrecord _ rfl, rfl, h.trans hextends.prefsChanges.symm,
        hunpaused, rfl⟩
  | _ => exact RunApproved.of_extends h hextends

/-- A step of a run leaves the machine as it is and adds to the evaluations at most. -/
theorem automationInv_updateRun {update : BroadcastRun → BroadcastRun}
    {evaluations : List PolicyRecord} (h : AutomationInv system)
    (hkept : ∀ record ∈ system.ledger.evaluations, record ∈ evaluations)
    (horigin : ∀ run, (update run).origin = run.origin)
    (hupdate : ∀ run, system.runs number = some run → RunApproved system.ledger run →
      RunApproved { system.ledger with evaluations } (update run)) :
    AutomationInv
      { system.updateRun number update with
        ledger := { system.ledger with evaluations } } := by
  have hextends : Extends system.ledger { system.ledger with evaluations } := ⟨rfl, hkept⟩
  refine ⟨h.configured, h.settles, h.enabled, h.undriven, h.paused, ?_, h.evaluating,
    h.proceeding, ?_, ?_, ?_⟩
  · intro hdriver hrests feeRateSatPerVb hfee
    exact (h.approved hdriver hrests feeRateSatPerVb hfee).of_extends hextends
  · intro other run hrun hautomation
    obtain ⟨before, hbefore, ⟨rfl, rfl⟩ | ⟨_, rfl⟩⟩ := runs_updateRun hrun
    · rw [horigin] at hautomation
      exact hupdate before hbefore (h.runs other before hbefore hautomation)
    · exact (h.runs other run hbefore hautomation).of_extends hextends
  · intro broadcast hmem hautomation
    obtain ⟨record, hrecord, happroves⟩ := h.follows.evaluated broadcast hmem hautomation
    exact ⟨record, hkept record hrecord, happroves⟩
  · intro other run hrun
    obtain ⟨before, hbefore, ⟨_, rfl⟩ | ⟨_, rfl⟩⟩ := runs_updateRun hrun
    · rw [horigin]
      exact h.follows.driven other before hbefore
    · exact h.follows.driven other run hbefore

theorem automationInv_broadcast {stepIndex : Nat} (h : AutomationInv system)
    (hkeeps : KeepsToEvaluatedStep system (.broadcast number stepIndex)) :
    AutomationInv (system.step (.broadcast number stepIndex)) := by
  rcases system.step_broadcast_cases number stepIndex with
    hstep | ⟨run, feeRateSatPerVb, intended, hrun, hphase, hstep⟩
  · rw [hstep]
    exact h
  rw [hstep]
  have hended : AutomationInv (system.updateRun number (·.endRun)) :=
    automationInv_updateRun h (fun _ hmem => hmem) (fun _ => rfl)
      (fun _ _ _ => runApproved_of_ended rfl)
  refine ⟨hended.configured, hended.settles, hended.enabled, hended.undriven, hended.paused,
    hended.approved, hended.evaluating, hended.proceeding, hended.runs, ?_,
    hended.follows.driven⟩
  intro broadcast hmem hautomation
  rcases List.mem_cons.mp hmem with rfl | hbefore
  · obtain rfl := hkeeps run feeRateSatPerVb intended hrun hautomation hphase
    have happroved := h.runs number run hrun hautomation
    unfold RunApproved at happroved
    rw [hphase] at happroved
    show ∃ record ∈ system.ledger.evaluations, record.Approves (some stepIndex)
      system.ledger.prefsChanges (workerFeeRateSatPerVb feeRateSatPerVb)
    rw [workerFeeRateSatPerVb_of_le happroved.feeRate]
    exact happroved.record
  · exact h.follows.evaluated broadcast hbefore hautomation

theorem automationInv_step {op : BroadcastOp} (h : AutomationInv system)
    (hkeeps : KeepsToEvaluatedStep system op) : AutomationInv (system.step op) := by
  cases op with
  | send event => exact automationInv_send h hkeeps
  | readProgress number progress =>
    exact automationInv_updateRun h (fun _ hmem => hmem)
      (fun run => BroadcastRun.origin_readProgress run progress system.ledger.prefsChanges)
      (fun _ _ happroved => happroved.readProgress progress)
  | evaluatePolicy number evaluation =>
    apply automationInv_updateRun h
    · intro record hmem
      exact List.mem_append_right _ hmem
    · intro run
      exact BroadcastRun.origin_evaluatePolicy run evaluation
    · intro run hrun happroved
      apply happroved.evaluatePolicy hkeeps
      · exact ⟨rfl, fun _ hmem => List.mem_append_right _ hmem⟩
      · intro record hrecord
        apply List.mem_append_left
        simp [hrun, hrecord]
  | broadcast number stepIndex => exact automationInv_broadcast h hkeeps

end Runs

/-- Every automatic broadcast follows an evaluation for its step under the present
preferences, and nothing is started once the automation is switched off, as long as the
automation is kept to the step it has evaluated. -/
theorem followsPolicy_of_keepsToEvaluatedStep (ops : List BroadcastOp)
    (hkeeps : RunMeets step KeepsToEvaluatedStep (initialBroadcastSystem jobs)
      ops) : (broadcastRun (initialBroadcastSystem jobs) ops).FollowsPolicy := by
  have hinv := run_invariant_of_runMeets AutomationInv
    (fun system op hguard h => automationInv_step h hguard)
    (automationInv_initialBroadcastSystem jobs) hkeeps
  exact hinv.follows

def relayedProgress (stepIndex : Nat) : ArkadeUnilateralExitProgress where
  stepIndex
  totalSteps := 2
  phase := .waiting
  currentStepWaitingSince := some 100
  currentStepTxRelayed := true
  nodeStatuses := []

def evaluateFirstStep : List BroadcastOp :=
  [.send (.walletConfigured sampleScope),
    .send (.startAutomatic sampleScope [⟨"leaf", 0⟩]), .send (.tagPlanDone 100),
    .send (.evaluateJobViabilityDone viableJob),
    .send (.fetchProgressDone (unbroadcastProgress 0)),
    .send (.evaluateAutomationPolicyDone { feeRateSatPerVb := 2, pausedReason := none })]

def evaluateFirstStepRun : BroadcastRun where
  phase := .calling 2 (some 0)
  origin :=
    { request := none
      driver := .automation
      fetched := some (unbroadcastProgress 0) }

theorem followsPolicy_evaluateFirstStep :
    (broadcastRun (initialBroadcastSystem emptyJobs)
        (evaluateFirstStep ++ [.broadcast 0 0])).FollowsPolicy ∧
      (broadcastRun (initialBroadcastSystem emptyJobs)
        (evaluateFirstStep ++ [.broadcast 0 0])).broadcasts.length = 1 := by
  have hfee : minFeeRateSatPerVb ≤ 2 := by decide +kernel
  have hunset : (broadcastRun (initialBroadcastSystem emptyJobs)
      (evaluateFirstStep.take 4)).config.context.feeRateSatPerVb = none := by decide +kernel
  have hcalling : (broadcastRun (initialBroadcastSystem emptyJobs) evaluateFirstStep).runs 0 =
      some evaluateFirstStepRun := by decide +kernel
  refine ⟨followsPolicy_of_keepsToEvaluatedStep emptyJobs _ ?_, by decide +kernel⟩
  refine ⟨trivial, trivial, trivial, trivial, ?_, fun _ => hfee, ?_, trivial⟩
  · intro _ _ _ hsome
    have hsome : (broadcastRun (initialBroadcastSystem emptyJobs)
        (evaluateFirstStep.take 4)).config.context.feeRateSatPerVb.isSome := hsome
    rw [hunset] at hsome
    cases hsome
  · intro run feeRateSatPerVb intended hrun _ hphase
    obtain rfl := Option.some.inj (hcalling.symm.trans hrun)
    cases hphase
    rfl

def broadcastSecondStep : List BroadcastOp :=
  evaluateFirstStep ++
    ([.broadcast 0 0, .send (.proceedStepDone (relayedProgress 0)),
      .readProgress 1 (relayedProgress 0), .send (.ensureBroadcastDone (relayedProgress 0)),
      .send .pollTick, .send (.evaluateJobViabilityDone viableJob),
      .send (.fetchProgressDone (unbroadcastProgress 1)), .readProgress 2 (unbroadcastProgress 1),
      .broadcast 2 1] : List BroadcastOp)

theorem not_followsPolicy_broadcastSecondStep :
    ¬ (broadcastRun (initialBroadcastSystem emptyJobs) broadcastSecondStep).FollowsPolicy := by
  have hbroadcast : ∃ broadcast ∈
      (broadcastRun (initialBroadcastSystem emptyJobs) broadcastSecondStep).broadcasts,
      broadcast.stepIndex = 1 ∧ broadcast.origin.driver = .automation := by decide +kernel
  have hevaluations : ∀ record ∈
      (broadcastRun (initialBroadcastSystem emptyJobs) broadcastSecondStep).ledger.evaluations,
      record.stepIndex = some 0 := by decide +kernel
  intro h
  obtain ⟨broadcast, hmem, hstep, hautomation⟩ := hbroadcast
  obtain ⟨record, hrecord, happroves⟩ := h.evaluated broadcast hmem hautomation
  have hsame := happroves.stepIndex
  rw [hevaluations record hrecord, hstep] at hsame
  cases hsame

end Bitboard.Frontend
