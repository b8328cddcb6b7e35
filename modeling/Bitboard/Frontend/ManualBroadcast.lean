/-
# Manual broadcasts

With the automation off, every broadcast should go back to one request of the user: it
uses the fee of the request, it is the only broadcast made for it, and it broadcasts the
step that was shown to the user. The machine keeps the shown step as a target and
compares it with the report it fetches. The broadcasting actor does not know the target:
between the fetch and its call the cursor of the worker can move on, and then a step that
the user has not seen is broadcast. Where the worker broadcasts the step that the fetch
reported as not yet relayed, the runs are as they should be.
-/

import Bitboard.Frontend.BroadcastRuns
import Bitboard.Frontend.ExitJobRuns

namespace Bitboard.Frontend

open Bitboard.Lib

def AutomationOff : BroadcastOp → Prop
  | .send (.startAutomatic ..) => False
  | .send (.hydrateOrStart _ _ automationEnabled _ _ _) => automationEnabled.getD false = false
  | .send (.automationPrefsChanged automationEnabled) => automationEnabled = false
  | _ => True

/-- Every broadcast goes back to a request, with its fee and the step it was shown, and no
two go back to the same. -/
structure BroadcastSystem.FollowsRequests (system : BroadcastSystem) : Prop where
  requested : ∀ broadcast ∈ system.broadcasts, ∃ request,
    broadcast.origin.request = some request ∧
      broadcast.feeRateSatPerVb = request.feeRateSatPerVb ∧
      ∀ stepIndex, request.shownStepIndex = some stepIndex → broadcast.stepIndex = stepIndex
  once : (system.broadcasts.map (·.origin.request)).Nodup

/-- A job is started where none is shown, fees are not below the minimum of the worker, and
the worker broadcasts the step that the machine was told of: the one that the last fetch
before the run reported as not yet relayed. -/
def KeepsToShownStep (system : BroadcastSystem) : BroadcastOp → Prop
  | .send (.startManual _ _ feeRateSatPerVb) =>
    system.config.value = .idle →
      shownStepIndex system.config = none ∧ minFeeRateSatPerVb ≤ feeRateSatPerVb
  | .send (.proceedManual feeRateSatPerVb) => minFeeRateSatPerVb ≤ feeRateSatPerVb
  | .broadcast number stepIndex =>
    ∀ run feeRateSatPerVb intended, system.runs number = some run →
      run.phase = .calling feeRateSatPerVb intended → ∃ report,
        run.origin.fetched = some report ∧ needsBroadcastEnsurance report = true ∧
          report.stepIndex = stepIndex
  | _ => True

/-- A run that can still broadcast the step it was started for. -/
structure BroadcastRun.Pursues (run : BroadcastRun) : Prop where
  live : run.phase ≠ .ended
  needs : run.origin.fetched.any needsBroadcastEnsurance = true

/-- The run works with the fee of the request, for the step that was shown. -/
structure BroadcastRun.Carries (run : BroadcastRun) (request : ManualRequest) : Prop where
  requested : run.origin.request = some request
  phase : (∃ automationEnabled,
      run.phase = .reading (some request.feeRateSatPerVb) automationEnabled) ∨
    ∃ intended, run.phase = .calling request.feeRateSatPerVb intended
  shown : ∀ stepIndex, request.shownStepIndex = some stepIndex →
    run.origin.fetchedStepIndex = some stepIndex

structure OpenRequest (system : BroadcastSystem) (request : ManualRequest) : Prop where
  below : request.number < system.ledger.requests
  unused : some request ∉ system.broadcasts.map (·.origin.request)
  feeRate : minFeeRateSatPerVb ≤ request.feeRateSatPerVb

/-- The request that stands in the context, for which no run has been started. -/
structure Standing (system : BroadcastSystem) (request : ManualRequest) : Prop where
  requested : system.ledger.request = some request
  isOpen : OpenRequest system request
  feeRate : system.config.context.feeRateSatPerVb = some request.feeRateSatPerVb
  target : system.config.context.proceedTargetStepIndex = request.shownStepIndex
  unpursued : ∀ number run, system.runs number = some run → run.Pursues →
    run.origin.request ≠ some request

structure ManualInv (system : BroadcastSystem) : Prop where
  configured : Configured system.config
  off : system.config.context.automationEnabled = false
  noPolicy : system.config.value ≠ .evaluatingPolicy
  standing : system.config.value.inFlight = true → system.config.value.broadcasts = false →
    system.config.context.proceedRequested = true → ∃ request, Standing system request
  proceeding : system.config.value = .proceeding →
    system.ledger.fetched.any needsBroadcastEnsurance = false
  pursued : ∀ number run, system.runs number = some run → run.Pursues →
    ∃ request, run.Carries request ∧ OpenRequest system request
  distinct : ∀ number other run otherRun, system.runs number = some run →
    system.runs other = some otherRun → run.Pursues → otherRun.Pursues →
    run.origin.request = otherRun.origin.request → number = other
  logged : ∀ broadcast ∈ system.broadcasts, ∀ request,
    broadcast.origin.request = some request → request.number < system.ledger.requests
  follows : system.FollowsRequests

variable (jobs : ArkadeWalletScope → JobStore)

attribute [local simp] initialBroadcastSystem initialExitConfig in
theorem manualInv_initialBroadcastSystem : ManualInv (initialBroadcastSystem jobs) where
  configured := fun hvalue => absurd rfl hvalue
  off := rfl
  noPolicy := by simp
  standing := by
    intro hflight
    cases hflight
  proceeding := by simp
  pursued := by simp
  distinct := by simp
  logged := by simp
  follows := ⟨by simp, by simp⟩

section Events

variable {system : BroadcastSystem} {event : UnilateralExitMachineEvent} {move : ExitMove}
variable {started : Option ActorInput} {run : BroadcastRun} {request : ManualRequest}
variable {number : Nat}

theorem OpenRequest.observe (h : OpenRequest system request) :
    OpenRequest (system.observe event move started) request where
  below := lt_of_lt_of_le h.below (system.ledger.requests_le_observe)
  unused := h.unused
  feeRate := h.feeRate

theorem runs_observe_of_pursues
    (hrun : (system.observe event move started).runs number = some run) (hpursues : run.Pursues) :
    system.runs number = some run ∨ number = system.nextRun ∧
      (system.ledger.observe system.config event move).startedRun started = some run := by
  rcases BroadcastSystem.runs_observe hrun with ⟨before, hbefore, rfl | rfl⟩ | hfresh
  · exact .inl hbefore
  · exact absurd rfl hpursues.live
  · exact .inr hfresh

theorem request_of_needsBroadcastFromFetchEvent {output : ArkadeUnilateralExitProgress}
    {context : MachineContext} (hoff : context.automationEnabled = false)
    (hneeds : needsBroadcastFromFetchEvent output context = true) :
    context.proceedRequested = true ∧
      ∀ target, context.proceedTargetStepIndex = some target → output.stepIndex = target := by
  unfold needsBroadcastFromFetchEvent at hneeds
  rw [hoff] at hneeds
  cases hproceed : context.proceedRequested with
  | false => simp [hproceed] at hneeds
  | true =>
    refine ⟨rfl, ?_⟩
    intro target htarget
    simp [hproceed, htarget] at hneeds
    exact hneeds.2.2

/-- A started run that pursues a broadcast carries the request that stood. -/
theorem ManualInv.carries_of_starts (h : ManualInv system)
    (hmove : DriveMove system.config event move)
    (hstarts : Starts move (system.ledger.observe system.config event move) run)
    (hpursues : run.Pursues) : ∃ request, Standing system request ∧ run.Carries request := by
  have hfetched : run.origin.fetched = fetchedAfter system.config event system.ledger.fetched := by
    rw [hstarts.origin]
    rfl
  have hneeds := hpursues.needs
  cases hstarts.cause hmove with
  | evaluated output evaluates => exact absurd evaluates.value h.noPolicy
  | proceeds output carries hvalue fetch =>
    -- The machine only proceeds with a step that is reported as relayed.
    have hproceeds := fetch.proceeds
    rw [hfetched, fetchedAfter_of_fetch fetch.value fetch.event] at hneeds
    simp only [Option.any_some] at hneeds
    simp [shouldProceedNowFromEvent, hneeds] at hproceeds
  | continues carries hvalue hproceeding =>
    rw [hfetched, fetchedAfter_of_ne (by simp [hproceeding]), h.proceeding hproceeding] at hneeds
    cases hneeds
  | ensures output carries hvalue fetch =>
    obtain ⟨hproceed, htarget⟩ := request_of_needsBroadcastFromFetchEvent h.off fetch.needs
    obtain ⟨request, hstanding⟩ :=
      h.standing (by rw [fetch.value]; rfl) (by rw [fetch.value]; rfl) hproceed
    refine ⟨request, hstanding, ?_, ?_, ?_⟩
    · rw [hstarts.origin]
      show (system.ledger.observe system.config event move).request = some request
      rw [Ledger.request_observe _ carries.noRequest (by rw [hvalue]; rfl)]
      exact hstanding.requested
    · left
      rcases hstarts.ensures hvalue with hended | hreading
      · exact absurd hended hpursues.live
      · rw [carries.feeRate, hstanding.feeRate] at hreading
        exact ⟨_, hreading⟩
    · intro stepIndex hshown
      have hreported := htarget stepIndex (hstanding.target.trans hshown)
      rw [RunOrigin.fetchedStepIndex, hfetched, fetchedAfter_of_fetch fetch.value fetch.event]
      simp [hreported]

/-- What the condition says of a request that the machine takes. -/
theorem KeepsToShownStep.of_request {feeRateSatPerVb : Rat}
    (hkeeps : KeepsToShownStep system (.send event))
    (hrequests : Requests system.config event move feeRateSatPerVb) :
    minFeeRateSatPerVb ≤ feeRateSatPerVb ∧
      move.config.context.proceedTargetStepIndex = shownStepIndex system.config := by
  have hrequest := hrequests.request
  cases event with
  | startManual walletScope outpoints fee =>
    by_cases hidle : system.config.value = .idle
    · obtain ⟨hshown, hfee⟩ := hkeeps hidle
      obtain rfl : fee = feeRateSatPerVb := by simpa [manualRequest, hidle] using hrequest
      refine ⟨hfee, ?_⟩
      rcases hrequests.target with htarget | ⟨hnone, _⟩
      · exact htarget
      · exact hnone.trans hshown.symm
    · simp [manualRequest, hidle] at hrequest
  | proceedManual fee =>
    obtain ⟨_, rfl⟩ : system.config.value.takesProceed = true ∧ fee = feeRateSatPerVb := by
      simpa [manualRequest] using hrequest
    refine ⟨hkeeps, ?_⟩
    rcases hrequests.target with htarget | ⟨_, _, _, hevent⟩
    · exact htarget
    · cases hevent
  | _ => cases hrequest

theorem automationSwitch_of_off {enabled : Bool} {config : ExitConfig}
    (hoff : AutomationOff (.send event)) (hswitch : automationSwitch config event = some enabled) :
    enabled = false := by
  cases event with
  | startAutomatic walletScope outpoints => exact hoff.elim
  | hydrateOrStart walletScope outpoints automationEnabled resumeAutomation sats inProgress =>
    obtain ⟨_, rfl⟩ : config.value = .idle ∧ automationEnabled.getD false = enabled := by
      simpa [automationSwitch] using hswitch
    exact hoff
  | automationPrefsChanged automationEnabled =>
    obtain ⟨_, rfl⟩ : config.value.takesPrefs = true ∧ automationEnabled = enabled := by
      simpa [automationSwitch] using hswitch
    exact hoff
  | arkadeSessionReset => exact (Option.some.inj hswitch).symm
  | _ => cases hswitch

theorem ManualInv.standing_observe (h : ManualInv system)
    (hkeeps : KeepsToShownStep system (.send event)) (hoff : AutomationOff (.send event))
    (hmove : DriveMove system.config event move)
    (hstarts : ∀ run, (system.ledger.observe system.config event move).startedRun started =
      some run → Starts move (system.ledger.observe system.config event move) run)
    (hflight : move.config.value.inFlight = true) (hrests : move.config.value.broadcasts = false)
    (hproceed : move.config.context.proceedRequested = true) :
    ∃ request, Standing (system.observe event move started) request := by
  have hold {number : Nat} {run : BroadcastRun}
      (hrun : (system.observe event move started).runs number = some run)
      (hpursues : run.Pursues) : system.runs number = some run := by
    rcases runs_observe_of_pursues hrun hpursues with hbefore | ⟨_, hfresh⟩
    · exact hbefore
    · rcases (hstarts run hfresh).value with hvalue | hvalue
      all_goals
        rw [hvalue] at hrests
        cases hrests
  cases hmove with
  | requests feeRateSatPerVb requests =>
    obtain ⟨hfee, htarget⟩ := hkeeps.of_request requests
    obtain ⟨hrequest, hcount⟩ :=
      system.ledger.request_observe_of_request requests.request hflight
    refine ⟨_, hrequest, ⟨?_, ?_, hfee⟩, requests.feeRate, htarget, ?_⟩
    · show system.ledger.requests < (system.ledger.observe system.config event move).requests
      rw [hcount]
      exact Nat.lt_succ_self _
    · intro hused
      obtain ⟨broadcast, hmem, hsame⟩ := List.mem_map.mp hused
      exact lt_irrefl _ (h.logged broadcast hmem _ hsame)
    · intro number run hrun hpursues hsame
      obtain ⟨other, hcarries, hopen⟩ := h.pursued number run (hold hrun hpursues) hpursues
      obtain rfl := Option.some.inj (hcarries.requested.symm.trans hsame)
      exact lt_irrefl _ hopen.below
  | switches enabled switches =>
    rw [switches.proceed (automationSwitch_of_off hoff switches.switch)] at hproceed
    cases hproceed
  | ends ends =>
    rw [ends.proceed] at hproceed
    cases hproceed
  | evaluates output evaluates =>
    rw [evaluates.valueAfter] at hrests
    cases hrests
  | carriesOn carries =>
    rcases carries.request hflight hproceed with hon | ⟨hflown, hproceeded, htarget, hleaves⟩
    · rw [h.off] at hon
      cases hon
    · have hrested : system.config.value.broadcasts = false := by
        cases hbroadcasts : system.config.value.broadcasts with
        | false => rfl
        | true =>
          rw [hleaves hbroadcasts] at hrests
          cases hrests
      obtain ⟨request, hstanding⟩ := h.standing hflown hrested hproceeded
      refine ⟨request, ?_, hstanding.isOpen.observe, carries.feeRate.trans hstanding.feeRate,
        htarget.trans hstanding.target, ?_⟩
      · exact (system.ledger.request_observe carries.noRequest hflight).trans
          hstanding.requested
      · intro number run hrun hpursues
        exact hstanding.unpursued number run (hold hrun hpursues) hpursues

theorem ManualInv.off_of_driveMove (h : ManualInv system) (hoff : AutomationOff (.send event))
    (hmove : DriveMove system.config event move) :
    move.config.context.automationEnabled = false := by
  cases hmove with
  | requests feeRateSatPerVb requests => exact requests.automation.trans h.off
  | switches enabled switches =>
    exact switches.automation.trans (automationSwitch_of_off hoff switches.switch)
  | ends ends => exact ends.automation.trans h.off
  | evaluates output evaluates => exact evaluates.automation.trans h.off
  | carriesOn carries => exact carries.automation.trans h.off

theorem ManualInv.proceeding_observe (h : ManualInv system)
    (hmove : DriveMove system.config event move) (hvalue : move.config.value = .proceeding) :
    (fetchedAfter system.config event system.ledger.fetched).any needsBroadcastEnsurance =
      false := by
  rcases hmove.proceeding_cases hvalue with
    ⟨_, hproceeding⟩ | ⟨output, evaluates⟩ | ⟨carries, output, fetch⟩
  · rw [fetchedAfter_of_ne (by simp [hproceeding])]
    exact h.proceeding hproceeding
  · exact absurd evaluates.value h.noPolicy
  · have hproceeds := fetch.proceeds
    simp only [shouldProceedNowFromEvent, Bool.and_eq_true, Bool.not_eq_true'] at hproceeds
    rw [fetchedAfter_of_fetch fetch.value fetch.event]
    exact hproceeds.2

theorem manualInv_send (h : ManualInv system) (hkeeps : KeepsToShownStep system (.send event))
    (hoff : AutomationOff (.send event)) : ManualInv (system.send event) := by
  obtain ⟨started, hsend, hstarts⟩ := BroadcastSystem.send_eq_observe h.configured event
  have hmove := driveMove_move system.config event
  have hjob := jobMove_move system.config event
  rw [hsend]
  generalize unilateralExitMachine.move system.config event = move at hstarts hmove hjob ⊢
  constructor
  · exact h.configured.of_jobMove hjob
  · exact h.off_of_driveMove hoff hmove
  · intro hvalue
    rcases hmove.evaluatingPolicy_cases hvalue with ⟨_, hstayed⟩ | ⟨_, _, _, hon⟩
    · exact h.noPolicy hstayed
    · rw [h.off] at hon
      cases hon
  · exact h.standing_observe hkeeps hoff hmove hstarts
  · exact h.proceeding_observe hmove
  · intro number run hrun hpursues
    rcases runs_observe_of_pursues hrun hpursues with hbefore | ⟨_, hfresh⟩
    · obtain ⟨request, hcarries, hopen⟩ := h.pursued number run hbefore hpursues
      exact ⟨request, hcarries, hopen.observe⟩
    · obtain ⟨request, hstanding, hcarries⟩ :=
        h.carries_of_starts hmove (hstarts run hfresh) hpursues
      exact ⟨request, hcarries, hstanding.isOpen.observe⟩
  · intro number other run otherRun hrun hother hpursues hotherPursues hsame
    rcases runs_observe_of_pursues hrun hpursues with hbefore | ⟨rfl, hfresh⟩
    · rcases runs_observe_of_pursues hother hotherPursues with hotherBefore | ⟨rfl, hotherFresh⟩
      · exact h.distinct number other run otherRun hbefore hotherBefore hpursues hotherPursues hsame
      · obtain ⟨request, hstanding, hcarries⟩ :=
          h.carries_of_starts hmove (hstarts otherRun hotherFresh) hotherPursues
        exact absurd (hsame.trans hcarries.requested)
          (hstanding.unpursued number run hbefore hpursues)
    · rcases runs_observe_of_pursues hother hotherPursues with hotherBefore | ⟨rfl, _⟩
      · obtain ⟨request, hstanding, hcarries⟩ :=
          h.carries_of_starts hmove (hstarts run hfresh) hpursues
        exact absurd (hsame.symm.trans hcarries.requested)
          (hstanding.unpursued other otherRun hotherBefore hotherPursues)
      · rfl
  · intro broadcast hmem request hrequest
    exact lt_of_lt_of_le (h.logged broadcast hmem request hrequest)
      system.ledger.requests_le_observe
  · exact ⟨h.follows.requested, h.follows.once⟩

end Events

/-! ## Steps of the runs -/

section Runs

variable {system : BroadcastSystem} {number : Nat} {run : BroadcastRun}
variable {request : ManualRequest}

/-- A step of a run keeps what it carries, and ends it or not. -/
structure KeepsCarried (update : BroadcastRun → BroadcastRun) : Prop where
  origin : ∀ run, (update run).origin = run.origin
  live : ∀ run, run.phase = .ended → (update run).phase = .ended
  carries : ∀ run request, (update run).phase ≠ .ended → run.Carries request →
    (update run).Carries request

variable {update : BroadcastRun → BroadcastRun}

theorem KeepsCarried.pursues (h : KeepsCarried update)
    (hpursues : (update run).Pursues) : run.Pursues where
  live := fun hended => hpursues.live (h.live run hended)
  needs := h.origin run ▸ hpursues.needs

theorem keepsCarried_readProgress (progress : ArkadeUnilateralExitProgress) (prefsChanges : Nat) :
    KeepsCarried (·.readProgress progress prefsChanges) where
  origin := fun run => run.origin_readProgress progress prefsChanges
  live := by
    intro run hended
    simp [BroadcastRun.readProgress, hended]
  carries := by
    intro run request hlive hcarries
    rcases hcarries.phase with ⟨automationEnabled, hreading⟩ | ⟨intended, hcalling⟩
    · simp only [BroadcastRun.readProgress, hreading] at hlive ⊢
      split at hlive
      · exact absurd rfl hlive
      · rename_i hneeds
        rw [if_neg hneeds]
        exact ⟨hcarries.requested, .inr ⟨_, rfl⟩, hcarries.shown⟩
    · simpa only [BroadcastRun.readProgress, hcalling] using hcarries

theorem keepsCarried_evaluatePolicy (evaluation : UnilateralExitPolicyEvaluation) :
    KeepsCarried (·.evaluatePolicy evaluation) where
  origin := fun run => run.origin_evaluatePolicy evaluation
  live := by
    intro run hended
    simp [BroadcastRun.evaluatePolicy, hended]
  carries := by
    intro run request _ hcarries
    rcases hcarries.phase with ⟨automationEnabled, hreading⟩ | ⟨intended, hcalling⟩
    · simpa only [BroadcastRun.evaluatePolicy, hreading] using hcarries
    · simpa only [BroadcastRun.evaluatePolicy, hcalling] using hcarries

theorem KeepsCarried.runs_updateRun (h : KeepsCarried update) {other : Nat}
    (hrun : (system.updateRun number update).runs other = some run) (hpursues : run.Pursues) :
    ∃ before, system.runs other = some before ∧ before.Pursues ∧
      before.origin = run.origin ∧ ∀ request, before.Carries request → run.Carries request := by
  obtain ⟨before, hbefore, ⟨_, rfl⟩ | ⟨_, rfl⟩⟩ := BroadcastSystem.runs_updateRun hrun
  · exact ⟨before, hbefore, h.pursues hpursues, (h.origin before).symm,
      fun request => h.carries before request hpursues.live⟩
  · exact ⟨run, hbefore, hpursues, rfl, fun _ hcarries => hcarries⟩

theorem manualInv_updateRun (h : ManualInv system)
    (hupdate : KeepsCarried update) (evaluations : List PolicyRecord) :
    ManualInv
      { system.updateRun number update with
        ledger := { system.ledger with evaluations } } := by
  refine ⟨h.configured, h.off, h.noPolicy, ?_, h.proceeding, ?_, ?_, h.logged,
    ⟨h.follows.requested, h.follows.once⟩⟩
  · intro hflight hrests hproceed
    obtain ⟨request, hstanding⟩ := h.standing hflight hrests hproceed
    refine ⟨request, hstanding.requested,
      ⟨hstanding.isOpen.below, hstanding.isOpen.unused, hstanding.isOpen.feeRate⟩,
      hstanding.feeRate, hstanding.target, ?_⟩
    intro other run hrun hpursues
    obtain ⟨before, hbefore, hpursued, horigin, _⟩ := hupdate.runs_updateRun hrun hpursues
    rw [← horigin]
    exact hstanding.unpursued other before hbefore hpursued
  · intro other run hrun hpursues
    obtain ⟨before, hbefore, hpursued, _, hcarries⟩ := hupdate.runs_updateRun hrun hpursues
    obtain ⟨request, hcarried, hopen⟩ := h.pursued other before hbefore hpursued
    exact ⟨request, hcarries request hcarried, ⟨hopen.below, hopen.unused, hopen.feeRate⟩⟩
  · intro first second run otherRun hrun hother hpursues hotherPursues hsame
    obtain ⟨before, hbefore, hpursued, horigin, _⟩ := hupdate.runs_updateRun hrun hpursues
    obtain ⟨otherBefore, hotherBefore, hotherPursued, hotherOrigin, _⟩ :=
      hupdate.runs_updateRun hother hotherPursues
    rw [← horigin, ← hotherOrigin] at hsame
    exact h.distinct first second before otherBefore hbefore hotherBefore hpursued
      hotherPursued hsame

/-- A broadcast is the one for the request that its run carries. -/
theorem manualInv_broadcast {stepIndex : Nat} (h : ManualInv system)
    (hkeeps : KeepsToShownStep system (.broadcast number stepIndex)) :
    ManualInv (system.step (.broadcast number stepIndex)) := by
  rcases system.step_broadcast_cases number stepIndex with
    hstep | ⟨run, feeRateSatPerVb, intended, hrun, hphase, hstep⟩
  · rw [hstep]
    exact h
  rw [hstep]
  obtain ⟨report, hfetched, hneeds, hreported⟩ := hkeeps run feeRateSatPerVb intended hrun hphase
  have hpursues : run.Pursues := ⟨by simp [hphase], by simp [hfetched, hneeds]⟩
  obtain ⟨request, hcarries, hopen⟩ := h.pursued number run hrun hpursues
  obtain rfl : feeRateSatPerVb = request.feeRateSatPerVb := by
    rcases hcarries.phase with ⟨_, hreading⟩ | ⟨_, hcalling⟩
    · simp [hreading] at hphase
    · simp only [hcalling, RunPhase.calling.injEq] at hphase
      exact hphase.1.symm
  refine ⟨h.configured, h.off, h.noPolicy, ?_, h.proceeding, ?_, ?_, ?_, ?_, ?_⟩
  · intro hflight hrests hproceed
    obtain ⟨standing, hstanding⟩ := h.standing hflight hrests hproceed
    refine ⟨standing, hstanding.requested, ⟨hstanding.isOpen.below, ?_, hstanding.isOpen.feeRate⟩,
      hstanding.feeRate, hstanding.target, ?_⟩
    · rw [List.map_cons, List.mem_cons, not_or]
      exact ⟨(hstanding.unpursued number run hrun hpursues).symm, hstanding.isOpen.unused⟩
    · intro other otherRun hother hotherPursues
      obtain ⟨hbefore, _⟩ := BroadcastSystem.runs_endRun hother hotherPursues.live
      exact hstanding.unpursued other otherRun hbefore hotherPursues
  · intro other otherRun hother hotherPursues
    obtain ⟨hbefore, hne⟩ := BroadcastSystem.runs_endRun hother hotherPursues.live
    obtain ⟨otherRequest, hotherCarries, hotherOpen⟩ :=
      h.pursued other otherRun hbefore hotherPursues
    refine ⟨otherRequest, hotherCarries, ⟨hotherOpen.below, ?_, hotherOpen.feeRate⟩⟩
    rw [List.map_cons, List.mem_cons, not_or]
    refine ⟨?_, hotherOpen.unused⟩
    intro hsame
    exact hne (h.distinct other number otherRun run hbefore hrun hotherPursues hpursues
      (hotherCarries.requested.trans hsame))
  · intro first second firstRun secondRun hfirst hsecond hfirstPursues hsecondPursues hsame
    obtain ⟨hfirstBefore, _⟩ := BroadcastSystem.runs_endRun hfirst hfirstPursues.live
    obtain ⟨hsecondBefore, _⟩ := BroadcastSystem.runs_endRun hsecond hsecondPursues.live
    exact h.distinct first second firstRun secondRun hfirstBefore hsecondBefore hfirstPursues
      hsecondPursues hsame
  · intro broadcast hmem other hother
    rcases List.mem_cons.mp hmem with rfl | hbefore
    · obtain rfl := Option.some.inj (hcarries.requested.symm.trans hother)
      exact hopen.below
    · exact h.logged broadcast hbefore other hother
  · intro broadcast hmem
    rcases List.mem_cons.mp hmem with rfl | hbefore
    · refine ⟨request, hcarries.requested, workerFeeRateSatPerVb_of_le hopen.feeRate, ?_⟩
      intro shown hshown
      have hsame := hcarries.shown shown hshown
      simp only [RunOrigin.fetchedStepIndex, hfetched, Option.map_some, Option.some.injEq] at hsame
      exact hreported.symm.trans hsame
    · exact h.follows.requested broadcast hbefore
  · show (run.origin.request :: system.broadcasts.map (·.origin.request)).Nodup
    rw [hcarries.requested]
    exact List.nodup_cons.mpr ⟨hopen.unused, h.follows.once⟩

theorem manualInv_step {op : BroadcastOp} (h : ManualInv system)
    (hkeeps : KeepsToShownStep system op) (hoff : AutomationOff op) :
    ManualInv (system.step op) := by
  cases op with
  | send event => exact manualInv_send h hkeeps hoff
  | readProgress number progress =>
    exact manualInv_updateRun h (keepsCarried_readProgress progress _) system.ledger.evaluations
  | evaluatePolicy number evaluation =>
    exact manualInv_updateRun h (keepsCarried_evaluatePolicy evaluation) _
  | broadcast number stepIndex => exact manualInv_broadcast h hkeeps

end Runs

/-- With the automation off, every broadcast follows a request of its own, as long as the
worker broadcasts the step that the machine was told of. -/
theorem followsRequests_of_keepsToShownStep (ops : List BroadcastOp)
    (hoff : ∀ op ∈ ops, AutomationOff op)
    (hkeeps : RunMeets BroadcastSystem.step KeepsToShownStep (initialBroadcastSystem jobs) ops) :
    (broadcastRun (initialBroadcastSystem jobs) ops).FollowsRequests := by
  have hmeets : RunMeets BroadcastSystem.step
      (fun system op => KeepsToShownStep system op ∧ AutomationOff op)
      (initialBroadcastSystem jobs) ops :=
    runMeets_and hkeeps (runMeets_of_forall_mem hoff)
  have hinv := run_invariant_of_runMeets ManualInv
    (fun system op hguard h => manualInv_step h hguard.1 hguard.2)
    (manualInv_initialBroadcastSystem jobs) hmeets
  exact hinv.follows

def proceedShownStep : List BroadcastOp :=
  [.send (.walletConfigured sampleScope),
    .send (.hydrateOrStart sampleScope [⟨"leaf", 0⟩] none none none none),
    .send (.tagPlanDone 100), .send (.evaluateJobViabilityDone viableJob),
    .send (.fetchProgressDone (unbroadcastProgress 0)), .send (.proceedManual 2),
    .send (.evaluateJobViabilityDone viableJob),
    .send (.fetchProgressDone (unbroadcastProgress 0))]

def proceedShownStepRun (phase : RunPhase) : BroadcastRun where
  phase
  origin :=
    { request := some { number := 0, feeRateSatPerVb := 2, shownStepIndex := some 0 }
      driver := .user
      fetched := some (unbroadcastProgress 0) }

theorem followsRequests_proceedShownStep :
    (broadcastRun (initialBroadcastSystem emptyJobs) (proceedShownStep ++
        [.readProgress 0 (unbroadcastProgress 0), .broadcast 0 0])).FollowsRequests ∧
      (broadcastRun (initialBroadcastSystem emptyJobs) (proceedShownStep ++
        [.readProgress 0 (unbroadcastProgress 0), .broadcast 0 0])).broadcasts.length = 1 := by
  have hfee : minFeeRateSatPerVb ≤ 2 := by decide +kernel
  have hcalling : (broadcastRun (initialBroadcastSystem emptyJobs) (proceedShownStep ++
      [.readProgress 0 (unbroadcastProgress 0)])).runs 0 =
        some (proceedShownStepRun (.calling 2 (some 0))) := by decide +kernel
  refine ⟨followsRequests_of_keepsToShownStep emptyJobs _ ?_ ?_, by decide +kernel⟩
  · simp [proceedShownStep, AutomationOff]
  · refine ⟨trivial, trivial, trivial, trivial, trivial, hfee, trivial, trivial, trivial, ?_,
      trivial⟩
    intro run feeRateSatPerVb intended hrun _
    obtain rfl := Option.some.inj (hcalling.symm.trans hrun)
    exact ⟨unbroadcastProgress 0, rfl, rfl, rfl⟩

/-- The first step confirms after the fetch, and the worker broadcasts the second. -/
theorem not_followsRequests_movedCursor :
    (∀ op ∈ proceedShownStep ++ [.readProgress 0 (unbroadcastProgress 1), .broadcast 0 1],
        AutomationOff op) ∧
      ¬ (broadcastRun (initialBroadcastSystem emptyJobs) (proceedShownStep ++
        [.readProgress 0 (unbroadcastProgress 1), .broadcast 0 1])).FollowsRequests := by
  have hbroadcast : ∃ broadcast ∈
      (broadcastRun (initialBroadcastSystem emptyJobs) (proceedShownStep ++
        [.readProgress 0 (unbroadcastProgress 1), .broadcast 0 1])).broadcasts,
      broadcast.stepIndex = 1 ∧ broadcast.origin.request =
        some { number := 0, feeRateSatPerVb := 2, shownStepIndex := some 0 } := by
    decide +kernel
  refine ⟨by simp [proceedShownStep, AutomationOff], ?_⟩
  intro h
  obtain ⟨broadcast, hmem, hstep, horigin⟩ := hbroadcast
  obtain ⟨request, hrequest, _, hshown⟩ := h.requested broadcast hmem
  obtain rfl := Option.some.inj (horigin.symm.trans hrequest)
  rw [hshown 0 rfl] at hstep
  cases hstep

end Bitboard.Frontend
