/-
# Runs of the exit machine

A job is tagged before anything of it is broadcast, and a job that has ended is gone from
the context and from the store. A machine that stands in `error` because the tagging
failed forgets both: the user can make it go on. Runs in which that does not happen only
start broadcasts of tagged and persisted jobs.
-/

import Bitboard.Frontend.ExitJobMoves

namespace Bitboard.Frontend

open Bitboard.Lib
open UnilateralExitMachineState

/-- The outpoints that a broadcasting actor was started for, those persisted at that moment,
and whether they had been tagged since they were assigned. -/
structure BroadcastStart where
  outpoints : List ArkadeVtxoOutpoint
  persisted : List ArkadeVtxoOutpoint
  tagged : Bool

/-- What is left of a job when it has ended, in the context and persisted. -/
structure JobEnd where
  outpoints : List ArkadeVtxoOutpoint
  persisted : List ArkadeVtxoOutpoint

/-- The machine with the error that ended it, if one was thrown, and what happened so far.
`tagged` says whether the tagging has succeeded since the outpoints were assigned, and
`tagPlanFailed` whether it failed when it was last tried. -/
structure ExitJobHistory where
  config : ExitConfig
  thrown : Option String
  tagged : Bool
  tagPlanFailed : Bool
  broadcastStarts : List BroadcastStart
  jobEnds : List JobEnd

def initialExitJobHistory (jobs : ArkadeWalletScope → JobStore) : ExitJobHistory where
  config := initialExitConfig jobs
  thrown := none
  tagged := false
  tagPlanFailed := false
  broadcastStarts := []
  jobEnds := []

variable (before : ExitConfig)

/-- The outpoints are assigned anew by a start and a hydrate, and when a job ends. -/
def taggedAfter (event : UnilateralExitMachineEvent) (after : ExitConfig) (tagged : Bool) : Bool :=
  match before.value, event with
  | .taggingPlan, .tagPlanDone _ => true
  | value, event =>
    tagged && !assignsOutpoints value event &&
      decide (after.context.jobOutpoints = before.context.jobOutpoints) &&
      !(decide (after.value = .idle) && after.context.jobOutpoints.isEmpty)

def tagPlanFailedAfter (event : UnilateralExitMachineEvent) (tagPlanFailed : Bool) : Bool :=
  match before.value, event with
  | .taggingPlan, .tagPlanDone _ => false
  | .taggingPlan, .tagPlanError _ => true
  | _, _ => tagPlanFailed

/-- A job ends when the machine passes `complete` or `terminated`, when it leaves `aborted`,
and when it is asked to clear the job. -/
def endsJob (event : UnilateralExitMachineEvent) (move : ExitMove) : Bool :=
  match event, move.entered with
  | .clearJob, _ => true
  | _, some .complete | _, some .terminated => true
  | _, some _ => decide (before.value = .aborted)
  | _, none => false

namespace ExitJobHistory

variable (history : ExitJobHistory)
variable (event : UnilateralExitMachineEvent)

/-- The history after a move that starts an actor, or none. -/
def observe (move : ExitMove) (started : Option ActorInput) : ExitJobHistory :=
  let after := move.config
  let tagged := taggedAfter history.config event after history.tagged
  { config := after
    thrown := none
    tagged
    tagPlanFailed := tagPlanFailedAfter history.config event history.tagPlanFailed
    broadcastStarts :=
      match started.bind ActorInput.broadcastOutpoints with
      | none => history.broadcastStarts
      | some outpoints =>
        { outpoints, persisted := after.context.persistedOutpoints, tagged } ::
          history.broadcastStarts
    jobEnds :=
      if endsJob history.config event move then
        { outpoints := after.context.jobOutpoints
          persisted := persistedOutpoints history.config.context.walletScope
            after.context.jobs } :: history.jobEnds
      else history.jobEnds }

def step : ExitJobHistory :=
  match history.thrown with
  | some _ => history
  | none =>
    match unilateralExitMachine.step history.config event with
    | .error message => { history with thrown := some message }
    | .ok (move, started) => history.observe event move started

/-- Broadcasts are only started for tagged and persisted jobs, and ended jobs are gone. -/
structure Sound : Prop where
  starts : ∀ start ∈ history.broadcastStarts,
    start.tagged = true ∧ start.outpoints = start.persisted
  ends : ∀ jobEnd ∈ history.jobEnds, jobEnd.outpoints = [] ∧ jobEnd.persisted = []

end ExitJobHistory

def exitJobRun (history : ExitJobHistory) (events : List UnilateralExitMachineEvent) :
    ExitJobHistory :=
  run ExitJobHistory.step history events

/-- The job is tagged and persisted wherever the machine may go on with it. Only an idle
machine may have no job, and only one whose tagging failed may stand in `error` with a job
that is not tagged. -/
structure HoldsTaggedJob (config : ExitConfig) (tagged tagPlanFailed : Bool) : Prop where
  fresh : config.value = .notConfigured →
    config.context.walletScope = none ∧ config.context.jobOutpoints = []
  sorted : config.value = .taggingPlan →
    sortArkadeVtxoOutpoints config.context.jobOutpoints = config.context.jobOutpoints
  aborted : config.value = .aborted → config.context.persistedOutpoints = []
  secured : config.value.holdsJob = true →
    tagged = true ∧ config.context.persistedOutpoints = config.context.jobOutpoints ∨
      config.value = .idle ∧ config.context.jobOutpoints = [] ∨
      config.value = .error ∧ tagPlanFailed = true

/-- The user does not make the machine go on without a job, nor after a tagging that failed,
and clears the job where the machine takes the event. -/
def KeepsToTaggedJob (history : ExitJobHistory) (event : UnilateralExitMachineEvent) : Prop :=
  let config := history.config
  match event with
  | .proceedManual _ =>
    (config.value = .idle → config.context.jobOutpoints ≠ []) ∧
      (config.value = .error → history.tagPlanFailed = false)
  | .resume => config.value = .error → history.tagPlanFailed = false
  | .clearJob => config.value.clearsJob = true ∨ config.value = .notConfigured
  | _ => True

section Held

variable {config : ExitConfig} {event : UnilateralExitMachineEvent} {move : ExitMove}
variable {history : ExitJobHistory} {tagged tagPlanFailed : Bool}

theorem taggedAfter_eq {after : ExitConfig} (hvalue : config.value ≠ .taggingPlan)
    (hassigned : assignsOutpoints config.value event = false)
    (hsame : after.context.jobOutpoints = config.context.jobOutpoints)
    (hidle : ¬ (after.value = .idle ∧ after.context.jobOutpoints = [])) :
    taggedAfter config event after tagged = tagged := by
  have hjob : (decide (after.value = .idle) && after.context.jobOutpoints.isEmpty) = false := by
    by_contra hidleEmpty
    exact hidle (by simpa using hidleEmpty)
  unfold taggedAfter
  split
  · contradiction
  · rw [hassigned, hjob]
    simp [hsame]

theorem tagPlanFailedAfter_eq (hvalue : config.value ≠ .taggingPlan) :
    tagPlanFailedAfter config event tagPlanFailed = tagPlanFailed := by
  unfold tagPlanFailedAfter
  split
  · contradiction
  · contradiction
  · rfl

variable {state : UnilateralExitMachineState}

theorem not_endsJob {after : ExitConfig}
    (hcleared : event ≠ .clearJob) (hvalue : config.value ≠ .aborted)
    (hcomplete : state ≠ .complete) (hterminated : state ≠ .terminated) :
    ¬ endsJob config event { config := after, entered := some state } = true := by
  unfold endsJob
  split
  · contradiction
  · simp_all
  · simp_all
  · simpa using hvalue
  · simp

theorem HoldsTaggedJob.secured_of_goesOn {context : MachineContext}
    (h : HoldsTaggedJob history.config history.tagged history.tagPlanFailed)
    (hkeeps : KeepsToTaggedJob history event) (on : GoesOn history.config event state context) :
    history.tagged = true ∧
      history.config.context.persistedOutpoints = history.config.context.jobOutpoints := by
  rcases h.secured on.holds with hsecured | ⟨hidle, hnil⟩ | ⟨herror, hfailed⟩
  · exact hsecured
  · rcases on.leavesIdle hidle with hjob | ⟨fee, rfl⟩
    · exact absurd hnil hjob
    · exact absurd hnil (hkeeps.1 hidle)
  · rcases on.leavesError herror with rfl | ⟨fee, rfl⟩
    · exact absurd hfailed (by simp [hkeeps herror])
    · exact absurd hfailed (by simp [hkeeps.2 herror])

theorem HoldsTaggedJob.broadcastStart {config : ExitConfig} {tagged tagPlanFailed : Bool}
    (h : HoldsTaggedJob config tagged tagPlanFailed)
    (hvalue : config.value = .proceeding ∨ config.value = .ensuringBroadcast) :
    tagged = true ∧ config.context.jobOutpoints = config.context.persistedOutpoints := by
  rcases hvalue with hvalue | hvalue
  all_goals
    have hsecured := h.secured (by simp [hvalue, holdsJob])
    simp only [hvalue, reduceCtorEq, false_and, or_false] at hsecured
    exact ⟨hsecured.1, hsecured.2.symm⟩

theorem HoldsTaggedJob.of_notConfigured {config : ExitConfig} {tagged tagPlanFailed : Bool}
    (hvalue : config.value = .notConfigured) (hscope : config.context.walletScope = none)
    (hnil : config.context.jobOutpoints = []) : HoldsTaggedJob config tagged tagPlanFailed := by
  constructor
  · intro _
    exact ⟨hscope, hnil⟩
  all_goals
    intro h
    rw [hvalue] at h
    cases h

theorem HoldsTaggedJob.of_jobMove
    (h : HoldsTaggedJob history.config history.tagged history.tagPlanFailed)
    (hconfigured : Configured history.config) (hkeeps : KeepsToTaggedJob history event)
    (hmove : JobMove history.config event move) :
    HoldsTaggedJob move.config (taggedAfter history.config event move.config history.tagged)
      (tagPlanFailedAfter history.config event history.tagPlanFailed) := by
  cases hmove with
  | @stays _ context same notAssigned notCleared =>
    constructor
    · intro hvalue
      rw [same.walletScope, same.jobOutpoints]
      exact h.fresh hvalue
    · intro hvalue
      rw [same.jobOutpoints]
      exact h.sorted hvalue
    · intro hvalue
      rw [same.persisted]
      exact h.aborted hvalue
    · intro hholds
      have hvalue : history.config.value ≠ .taggingPlan := ne_of_holdsJob hholds rfl
      by_cases hidle : history.config.value = .idle ∧ context.jobOutpoints = []
      · exact .inr (.inl hidle)
      · rw [taggedAfter_eq hvalue notAssigned same.jobOutpoints hidle, tagPlanFailedAfter_eq hvalue]
        simpa only [same.persisted, same.jobOutpoints] using h.secured hholds
  | @goesOn _ state context on =>
    constructor
    · intro hvalue
      exact absurd hvalue (ne_of_holdsJob on.holdsAfter rfl)
    · intro hvalue
      exact absurd hvalue (ne_of_holdsJob on.holdsAfter rfl)
    · rintro rfl
      cases on.holdsAfter
    · intro _
      obtain ⟨htagged, hpersisted⟩ := h.secured_of_goesOn hkeeps on
      by_cases hidle : state = .idle ∧ context.jobOutpoints = []
      · exact .inr (.inl hidle)
      · left
        rw [taggedAfter_eq (ne_of_holdsJob on.holds rfl) on.notAssigned
          on.same.jobOutpoints hidle, on.same.persisted, on.same.jobOutpoints]
        exact ⟨htagged, hpersisted⟩
  | assigns idle assigned notCleared scope sorted =>
    exact ⟨by simp, fun _ => sorted, by simp, by simp [holdsJob]⟩
  | tags tagging walletScope jobOutpoints persisted =>
    have hsorted := h.sorted tagging
    rw [← jobOutpoints] at hsorted
    refine ⟨by simp, by simp, by simp, fun _ => ?_⟩
    left
    exact ⟨by simp [taggedAfter, tagging], persisted (hconfigured (by simp [tagging])) hsorted⟩
  | failsToTag tagging same =>
    refine ⟨by simp, by simp, by simp, fun _ => ?_⟩
    right
    right
    exact ⟨rfl, by simp [tagPlanFailedAfter, tagging]⟩
  | ends holds gone =>
    exact ⟨by simp, by simp, by simp, fun _ => .inr (.inl ⟨rfl, gone.jobOutpoints⟩)⟩
  | aborts running notCleared walletScope persisted =>
    exact ⟨by simp, by simp, fun _ => persisted, by simp [holdsJob]⟩
  | leavesAborted aborted notCleared walletScope jobOutpoints persisted =>
    exact ⟨by simp, by simp, by simp, fun _ => .inr (.inl ⟨rfl, jobOutpoints⟩)⟩
  | configures notConfigured scope jobOutpoints =>
    refine ⟨by simp, by simp, by simp, fun _ => .inr (.inl ⟨rfl, ?_⟩)⟩
    rw [jobOutpoints]
    exact (h.fresh notConfigured).2
  | resets => exact .of_notConfigured rfl rfl rfl

/-- A job that ends is gone. -/
theorem HoldsTaggedJob.jobEnd
    (h : HoldsTaggedJob history.config history.tagged history.tagPlanFailed)
    (hkeeps : KeepsToTaggedJob history event) (hmove : JobMove history.config event move)
    (hends : endsJob history.config event move = true) :
    move.config.context.jobOutpoints = [] ∧
      persistedOutpoints history.config.context.walletScope move.config.context.jobs = [] := by
  cases hmove with
  | stays same notAssigned notCleared =>
    obtain rfl : event = .clearJob := by
      cases event <;> first | rfl | cases hends
    rcases hkeeps with hclears | hvalue
    · simp [notCleared rfl] at hclears
    · obtain ⟨hscope, hnil⟩ := h.fresh hvalue
      exact ⟨same.jobOutpoints.trans hnil, by simp [hscope, persistedOutpoints]⟩
  | goesOn on =>
    exact absurd hends (not_endsJob on.notCleared (ne_of_holdsJob on.holds rfl)
      (ne_of_holdsJob on.holdsAfter rfl) (ne_of_holdsJob on.holdsAfter rfl))
  | assigns idle assigned notCleared scope sorted =>
    exact absurd hends (not_endsJob notCleared (by simp [idle]) (by simp) (by simp))
  | tags tagging walletScope jobOutpoints persisted => simp [endsJob, tagging] at hends
  | failsToTag tagging same => simp [endsJob, tagging] at hends
  | ends holds gone =>
    refine ⟨gone.jobOutpoints, ?_⟩
    rw [← gone.walletScope]
    exact gone.persisted
  | aborts running notCleared walletScope persisted =>
    have hvalue : history.config.value ≠ .aborted := by
      intro hvalue
      simp [hvalue, holdsJob] at running
    exact absurd hends (not_endsJob notCleared hvalue (by simp) (by simp))
  | leavesAborted aborted notCleared walletScope jobOutpoints persisted =>
    refine ⟨jobOutpoints, ?_⟩
    rw [← walletScope]
    exact persisted.trans (h.aborted aborted)
  | configures notConfigured scope jobOutpoints => simp [endsJob, notConfigured] at hends
  | resets =>
    have hvalue : history.config.value = .aborted := by simpa [endsJob] using hends
    exact ⟨rfl, h.aborted hvalue⟩

end Held

/-! ## Runs -/

variable (jobs : ArkadeWalletScope → JobStore)
variable (events : List UnilateralExitMachineEvent)

section Runs

variable {history : ExitJobHistory} {event : UnilateralExitMachineEvent}

/-- The machine is running, and the job and the log are as they should be. -/
structure ExitJobHistory.Inv (history : ExitJobHistory) : Prop where
  running : history.thrown = none
  configured : Configured history.config
  held : HoldsTaggedJob history.config history.tagged history.tagPlanFailed
  sound : history.Sound

theorem inv_initialExitJobHistory : (initialExitJobHistory jobs).Inv where
  running := rfl
  configured := fun hvalue => absurd rfl hvalue
  held := .of_notConfigured rfl rfl rfl
  sound := ⟨by simp [initialExitJobHistory], by simp [initialExitJobHistory]⟩

theorem exitJobStep_eq_observe (hrunning : history.thrown = none)
    (hconfigured : Configured history.config) (event : UnilateralExitMachineEvent) :
    ∃ started,
      history.step event =
        history.observe event (unilateralExitMachine.move history.config event) started ∧
      ∀ input, started = some input →
        invokedActor (unilateralExitMachine.move history.config event).config.value event
          (unilateralExitMachine.move history.config event).config.context = .ok (some input) := by
  obtain ⟨started, hstep, hinvoke⟩ := step_eq_move hconfigured event
  refine ⟨started, by simp [ExitJobHistory.step, hrunning, hstep], ?_⟩
  intro input hinput
  exact (hinvoke input hinput).2

theorem thrown_exitJobRun : (exitJobRun (initialExitJobHistory jobs) events).thrown = none := by
  have hstep (history : ExitJobHistory) (event : UnilateralExitMachineEvent)
      (h : history.thrown = none ∧ Configured history.config) :
      (history.step event).thrown = none ∧ Configured (history.step event).config := by
    obtain ⟨started, hobserve, _⟩ := exitJobStep_eq_observe h.1 h.2 event
    rw [hobserve]
    exact ⟨rfl, h.2.of_jobMove (jobMove_move history.config event)⟩
  have hstart := inv_initialExitJobHistory jobs
  exact (run_invariant _ hstep ⟨hstart.running, hstart.configured⟩ events).1

theorem inv_exitJobStep (h : history.Inv) (hkeeps : KeepsToTaggedJob history event) :
    (history.step event).Inv := by
  obtain ⟨started, hstep, hinvoke⟩ := exitJobStep_eq_observe h.running h.configured event
  have hmove := jobMove_move history.config event
  generalize unilateralExitMachine.move history.config event = move at hstep hinvoke hmove
  have hheld := h.held.of_jobMove h.configured hkeeps hmove
  rw [hstep]
  refine ⟨rfl, h.configured.of_jobMove hmove, hheld, ?_, ?_⟩
  · intro start hstart
    simp only [ExitJobHistory.observe] at hstart
    split at hstart
    · exact h.sound.starts start hstart
    · rename_i outpoints hstarted
      rcases List.mem_cons.mp hstart with rfl | hbefore
      · obtain ⟨input, hinput, houtpoints⟩ := Option.bind_eq_some_iff.mp hstarted
        rcases broadcastingActor_cases (hinvoke input hinput) with
          ⟨hvalue, _, _, _, rfl⟩ | ⟨hvalue, _, rfl⟩ | hnone
        · cases houtpoints
          exact hheld.broadcastStart (.inl hvalue)
        · cases houtpoints
          exact hheld.broadcastStart (.inr hvalue)
        · rw [hnone] at houtpoints
          cases houtpoints
      · exact h.sound.starts start hbefore
  · intro jobEnd hjobEnd
    simp only [ExitJobHistory.observe] at hjobEnd
    split at hjobEnd
    · rename_i hends
      rcases List.mem_cons.mp hjobEnd with rfl | hbefore
      · exact h.held.jobEnd hkeeps hmove hends
      · exact h.sound.ends jobEnd hbefore
    · exact h.sound.ends jobEnd hjobEnd

/-- Broadcasts are only started for tagged and persisted jobs and a job that has ended is
gone, in runs in which the user does not go on without a job or after a failed tagging and
clears the job only where the machine takes the event. The machine never throws. -/
theorem sound_of_keepsToTaggedJob
    (hmeets : RunMeets ExitJobHistory.step KeepsToTaggedJob (initialExitJobHistory jobs) events) :
    (exitJobRun (initialExitJobHistory jobs) events).Sound ∧
      (exitJobRun (initialExitJobHistory jobs) events).thrown = none := by
  have hinv := run_invariant_of_runMeets ExitJobHistory.Inv
    (fun _ _ hkeeps h => inv_exitJobStep h hkeeps) (inv_initialExitJobHistory jobs) hmeets
  exact ⟨hinv.sound, thrown_exitJobRun jobs events⟩

end Runs

def sampleScope : ArkadeWalletScope where
  walletId := 1
  networkMode := .regtest
  arkadeAccountId := "account"

def emptyJobs (_ : ArkadeWalletScope) : JobStore where
  memory := none
  hydrated := true
  durable := none
  settingsJob := none
  queued := 0
  inFlight := none
  hydrates _ := none
  lastJob := none

def unbroadcastProgress (stepIndex : Nat) : ArkadeUnilateralExitProgress where
  stepIndex
  totalSteps := 2
  phase := .idle
  currentStepWaitingSince := none
  currentStepTxRelayed := false
  nodeStatuses := []

def viableJob : ArkadeUnilateralExitJobViability where
  status := .ok
  detailMessage := none

def startSampleJob : List UnilateralExitMachineEvent :=
  [.walletConfigured sampleScope, .startManual sampleScope [⟨"leaf", 0⟩] 2]

def taggedJobEvents : List UnilateralExitMachineEvent :=
  startSampleJob ++
    [.tagPlanDone 100, .evaluateJobViabilityDone viableJob,
      .fetchProgressDone (unbroadcastProgress 0)]

theorem sound_taggedJobEvents :
    (exitJobRun (initialExitJobHistory emptyJobs) taggedJobEvents).Sound ∧
      (exitJobRun (initialExitJobHistory emptyJobs) taggedJobEvents).broadcastStarts.length = 1 :=
  ⟨(sound_of_keepsToTaggedJob emptyJobs taggedJobEvents
      ⟨trivial, trivial, trivial, trivial, trivial, trivial⟩).1,
    by decide +kernel⟩

def untaggedJobEvents : List UnilateralExitMachineEvent :=
  startSampleJob ++
    [.tagPlanError
        { message := "Wallet must be unlocked"
          userFacingMessage := "Wallet must be unlocked"
          isError := true
          rewoundProgress := none
          retryableUnconfirmedParent := false },
      .proceedManual 2, .evaluateJobViabilityDone viableJob,
      .fetchProgressDone (unbroadcastProgress 0)]

/-- A broadcast is started for a plan that was never tagged nor persisted. -/
theorem not_sound_untaggedJobEvents :
    ¬ (exitJobRun (initialExitJobHistory emptyJobs) untaggedJobEvents).Sound := by
  have hstart : ∃ start ∈
      (exitJobRun (initialExitJobHistory emptyJobs) untaggedJobEvents).broadcastStarts,
      start.tagged = false := by decide +kernel
  intro h
  obtain ⟨start, hmem, htagged⟩ := hstart
  simp [(h.starts start hmem).1] at htagged

end Bitboard.Frontend
