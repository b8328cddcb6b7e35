/-
# Broadcasts of the exit machine

`proceedStep` and `ensureBroadcast` broadcast on their own time. The machine starts them
and goes on when their result arrives; one that it has left behind by an abort still
runs. `ensureBroadcast` reads the progress again, and evaluates the policy itself if it
was given no fee. Which step is broadcast is decided in the worker, by the cursor as it
is at that moment.

This module joins the machine and these runs into one system. Its ledger notes what a
broadcast goes back to: the request of the user, the report that was fetched last, who
drives the job, and the policy evaluations. The machine does not read it.
-/

import Bitboard.Frontend.ExitDriveMoves

namespace Bitboard.Frontend

open Bitboard.Lib

/-- Who a broadcast is made for. `nobody`: the automation is off, and the user has not asked
for a step since. -/
inductive Driver where
  | nobody
  | user
  | automation
deriving DecidableEq

/-- A `START_MANUAL` or `PROCEED_MANUAL` that the machine took, with the step shown then. -/
structure ManualRequest where
  number : Nat
  feeRateSatPerVb : Rat
  shownStepIndex : Option Nat
deriving DecidableEq

/-- What a run goes back to: the request that is open when it starts, who drives the job,
and the report fetched last. -/
structure RunOrigin where
  request : Option ManualRequest
  driver : Driver
  fetched : Option ArkadeUnilateralExitProgress
deriving DecidableEq

def RunOrigin.fetchedStepIndex (origin : RunOrigin) : Option Nat :=
  origin.fetched.map (·.stepIndex)

inductive RunPhase where
  /-- The progress is read again. -/
  | reading (feeRateSatPerVb : Option Rat) (automationEnabled : Bool)
  /-- The policy is evaluated for the step that was read, under the preferences that had
  been changed so often. -/
  | evaluating (stepIndex prefsChanges : Nat)
  /-- The worker is asked to proceed. The fee was meant for the step `intended`. -/
  | calling (feeRateSatPerVb : Rat) (intended : Option Nat)
  | ended
deriving DecidableEq

/-- A run of `proceedStep` or `ensureBroadcast`. -/
structure BroadcastRun where
  phase : RunPhase
  origin : RunOrigin
deriving DecidableEq

/-- A policy evaluation, with the step and the preferences it was made for. -/
structure PolicyRecord where
  stepIndex : Option Nat
  prefsChanges : Nat
  evaluation : UnilateralExitPolicyEvaluation
deriving DecidableEq

structure Broadcast where
  run : Nat
  stepIndex : Nat
  feeRateSatPerVb : Rat
  origin : RunOrigin
  prefsChanges : Nat
deriving DecidableEq

def minFeeRateSatPerVb : Rat := 1 / 10

/-- The worker raises the fee it is given to its minimum. -/
def workerFeeRateSatPerVb (feeRateSatPerVb : Rat) : Rat :=
  if feeRateSatPerVb < minFeeRateSatPerVb then minFeeRateSatPerVb else feeRateSatPerVb

namespace BroadcastRun

variable (run : BroadcastRun)
variable (evaluation : UnilateralExitPolicyEvaluation) (progress : ArkadeUnilateralExitProgress)

def endRun : BroadcastRun := { run with phase := .ended }

/-- The part of `ensureBroadcastActor` up to its policy evaluation or its call. -/
def readProgress (prefsChanges : Nat) : BroadcastRun :=
  match run.phase with
  | .reading feeRateSatPerVb automationEnabled =>
    if isUnilateralExitBranchComplete progress || isCurrentStepRelayed progress then run.endRun
    else
      match feeRateSatPerVb with
      | some feeRateSatPerVb =>
        { run with phase := .calling feeRateSatPerVb run.origin.fetchedStepIndex }
      | none =>
        if automationEnabled then
          { run with phase := .evaluating progress.stepIndex prefsChanges }
        else run.endRun
  | _ => run

/-- The record of an evaluation that comes in, if the run waits for one. -/
def policyRecord : Option PolicyRecord :=
  match run.phase with
  | .evaluating stepIndex prefsChanges =>
    some { stepIndex := some stepIndex, prefsChanges, evaluation }
  | _ => none

def evaluatePolicy : BroadcastRun :=
  match run.phase with
  | .evaluating stepIndex _ =>
    if evaluation.pausedReason.isSome then run.endRun
    else { run with phase := .calling evaluation.feeRateSatPerVb (some stepIndex) }
  | _ => run

/-- The broadcast by the worker, if the run has called it. A call broadcasts one step. -/
def broadcastStep (number stepIndex prefsChanges : Nat) : Option Broadcast :=
  match run.phase with
  | .calling feeRateSatPerVb _ =>
    some
      { run := number
        stepIndex
        feeRateSatPerVb := workerFeeRateSatPerVb feeRateSatPerVb
        origin := run.origin
        prefsChanges }
  | _ => none

theorem origin_readProgress (prefsChanges : Nat) :
    (run.readProgress progress prefsChanges).origin = run.origin := by
  unfold readProgress
  (repeat' split) <;> rfl

theorem origin_evaluatePolicy : (run.evaluatePolicy evaluation).origin = run.origin := by
  unfold evaluatePolicy
  (repeat' split) <;> rfl

end BroadcastRun

/-- What has been asked for and evaluated so far. `approvedStepIndex` is the step of the
last evaluation that the machine proceeded with, and `evaluationPrefs` says how often the
preferences had been changed when its last evaluation began. -/
structure Ledger where
  fetched : Option ArkadeUnilateralExitProgress
  request : Option ManualRequest
  requests : Nat
  driver : Driver
  prefsChanges : Nat
  evaluationPrefs : Nat
  approvedStepIndex : Option Nat
  evaluations : List PolicyRecord

def initialLedger : Ledger where
  fetched := none
  request := none
  requests := 0
  driver := .nobody
  prefsChanges := 0
  evaluationPrefs := 0
  approvedStepIndex := none
  evaluations := []

def fetchedAfter (before : ExitConfig) (event : UnilateralExitMachineEvent)
    (fetched : Option ArkadeUnilateralExitProgress) : Option ArkadeUnilateralExitProgress :=
  match before.value, event with
  | .loadingProgress, .fetchProgressDone output => some output
  | _, _ => fetched

/-- Preferences that switch the automation off count where the machine ignores them, too. -/
def driverAfter (before : ExitConfig) (event : UnilateralExitMachineEvent) (driver : Driver) :
    Driver :=
  match manualRequest before event with
  | some _ => .user
  | none =>
    match event with
    | .automationPrefsChanged false =>
      if before.context.automationEnabled then .nobody else driver
    | event =>
      match automationSwitch before event with
      | some true => .automation
      | some false => .nobody
      | none => driver

def prefsChangesAfter (event : UnilateralExitMachineEvent) (prefsChanges : Nat) : Nat :=
  match event with
  | .automationPrefsChanged _ => prefsChanges + 1
  | _ => prefsChanges

def policyEvaluated (before : ExitConfig) (event : UnilateralExitMachineEvent) :
    Option UnilateralExitPolicyEvaluation :=
  match before.value, event with
  | .evaluatingPolicy, .evaluateAutomationPolicyDone output => some output
  | _, _ => none

namespace Ledger

variable (ledger : Ledger)

def fetchedStepIndex : Option Nat := ledger.fetched.map (·.stepIndex)

def origin : RunOrigin where
  request := ledger.request
  driver := ledger.driver
  fetched := ledger.fetched

/-- A request stays open while an actor is at work on the job. -/
def observe (before : ExitConfig) (event : UnilateralExitMachineEvent) (move : ExitMove) : Ledger :=
  let prefsChanges := prefsChangesAfter event ledger.prefsChanges
  let request :=
    match manualRequest before event with
    | none => ledger.request
    | some feeRateSatPerVb =>
      some
        { number := ledger.requests
          feeRateSatPerVb
          shownStepIndex := shownStepIndex before }
  { fetched := fetchedAfter before event ledger.fetched
    request := if move.config.value.inFlight then request else none
    requests :=
      if (manualRequest before event).isSome then ledger.requests + 1 else ledger.requests
    driver := driverAfter before event ledger.driver
    prefsChanges
    evaluationPrefs :=
      if move.entered.isSome ∧ move.config.value = .evaluatingPolicy then prefsChanges
      else ledger.evaluationPrefs
    approvedStepIndex :=
      if before.value = .evaluatingPolicy ∧ move.config.value = .proceeding then
        ledger.fetchedStepIndex
      else ledger.approvedStepIndex
    evaluations :=
      match policyEvaluated before event with
      | none => ledger.evaluations
      | some evaluation =>
        { stepIndex := ledger.fetchedStepIndex
          prefsChanges := ledger.evaluationPrefs
          evaluation } :: ledger.evaluations }

/-- The run of a broadcasting actor that is started. Without outpoints it throws at once. -/
def startedRun : Option ActorInput → Option BroadcastRun
  | some (.proceedStep _ outpoints feeRateSatPerVb) =>
    some
      { phase :=
          if outpoints.isEmpty then .ended
          else .calling feeRateSatPerVb ledger.fetchedStepIndex
        origin := ledger.origin }
  | some (.ensureBroadcast _ outpoints feeRateSatPerVb automationEnabled) =>
    some
      { phase :=
          if outpoints.isEmpty then .ended else .reading feeRateSatPerVb automationEnabled
        origin := ledger.origin }
  | _ => none

end Ledger

/-! ## The system -/

/-- The machine, its broadcasting runs by their numbers, and what they broadcast. -/
structure BroadcastSystem where
  config : ExitConfig
  runs : Nat → Option BroadcastRun
  nextRun : Nat
  /-- The run whose result the machine waits for. -/
  currentRun : Option Nat
  ledger : Ledger
  broadcasts : List Broadcast

def initialBroadcastSystem (jobs : ArkadeWalletScope → JobStore) : BroadcastSystem where
  config := initialExitConfig jobs
  runs := fun _ => none
  nextRun := 0
  currentRun := none
  ledger := initialLedger
  broadcasts := []

/-- Events of the user and results of actors reach the machine; the runs go on by what the
worker, the policy and the chain answer. -/
inductive BroadcastOp where
  | send (event : UnilateralExitMachineEvent)
  | readProgress (number : Nat) (progress : ArkadeUnilateralExitProgress)
  | evaluatePolicy (number : Nat) (evaluation : UnilateralExitPolicyEvaluation)
  | broadcast (number stepIndex : Nat)

/-- The result of a broadcasting actor, which is at its end then. -/
def endsRun (before : ExitConfig) (event : UnilateralExitMachineEvent) : Bool :=
  match before.value, event with
  | .proceeding, .proceedStepDone _ | .proceeding, .proceedStepError _
  | .ensuringBroadcast, .ensureBroadcastDone _ | .ensuringBroadcast, .ensureBroadcastError _ =>
    true
  | _, _ => false

namespace BroadcastSystem

variable (system : BroadcastSystem)
variable (event : UnilateralExitMachineEvent)

/-- The runs after an event, without the one it starts. -/
def runsAfter (number : Nat) : Option BroadcastRun :=
  if endsRun system.config event ∧ system.currentRun = some number then
    (system.runs number).map (·.endRun)
  else system.runs number

def observe (move : ExitMove) (started : Option ActorInput) : BroadcastSystem :=
  let ledger := system.ledger.observe system.config event move
  let run := ledger.startedRun started
  { config := move.config
    runs :=
      match run with
      | none => system.runsAfter event
      | some run => Function.update (system.runsAfter event) system.nextRun (some run)
    nextRun := if run.isSome then system.nextRun + 1 else system.nextRun
    currentRun :=
      if run.isSome then some system.nextRun
      else if move.entered.isSome then none else system.currentRun
    ledger
    broadcasts := system.broadcasts }

/-- A machine that throws would be at an end; a configured one never does. -/
def send : BroadcastSystem :=
  match unilateralExitMachine.step system.config event with
  | .error _ => system
  | .ok (move, started) => system.observe event move started

def updateRun (number : Nat) (update : BroadcastRun → BroadcastRun) : BroadcastSystem :=
  { system with
    runs := Function.update system.runs number ((system.runs number).map update) }

def step : BroadcastOp → BroadcastSystem
  | .send event => system.send event
  | .readProgress number progress =>
    system.updateRun number (·.readProgress progress system.ledger.prefsChanges)
  | .evaluatePolicy number evaluation =>
    let record := (system.runs number).bind (·.policyRecord evaluation)
    { system.updateRun number (·.evaluatePolicy evaluation) with
      ledger :=
        { system.ledger with evaluations := record.toList ++ system.ledger.evaluations } }
  | .broadcast number stepIndex =>
    match (system.runs number).bind
        (·.broadcastStep number stepIndex system.ledger.prefsChanges) with
    | none => system
    | some broadcast =>
      { system.updateRun number (·.endRun) with
        broadcasts := broadcast :: system.broadcasts }

end BroadcastSystem

def broadcastRun (system : BroadcastSystem) (ops : List BroadcastOp) : BroadcastSystem :=
  run BroadcastSystem.step system ops

/-- A run that the machine starts on entering a broadcasting state. -/
structure Starts (move : ExitMove) (ledger : Ledger) (run : BroadcastRun) : Prop where
  entered : move.entered.isSome
  value : move.config.value = .proceeding ∨ move.config.value = .ensuringBroadcast
  origin : run.origin = ledger.origin
  proceeds : move.config.value = .proceeding → run.phase = .ended ∨ ∃ feeRateSatPerVb,
    move.config.context.feeRateSatPerVb = some feeRateSatPerVb ∧
      run.phase = .calling feeRateSatPerVb ledger.fetchedStepIndex
  ensures : move.config.value = .ensuringBroadcast → run.phase = .ended ∨
    run.phase = .reading move.config.context.feeRateSatPerVb
      move.config.context.automationEnabled

variable {event : UnilateralExitMachineEvent}

theorem starts_of_startedRun {move : ExitMove}
    {ledger : Ledger} {run : BroadcastRun} {input : ActorInput} (hentered : move.entered.isSome)
    (hinvoke : invokedActor move.config.value event move.config.context = .ok (some input))
    (hrun : ledger.startedRun (some input) = some run) : Starts move ledger run := by
  rcases broadcastingActor_cases hinvoke with
    ⟨hvalue, walletScope, feeRateSatPerVb, hfee, rfl⟩ | ⟨hvalue, walletScope, rfl⟩ | hnone
  · obtain rfl := Option.some.inj hrun
    refine ⟨hentered, .inl hvalue, rfl, ?_, by simp [hvalue]⟩
    intro _
    by_cases hempty : move.config.context.jobOutpoints.isEmpty = true
    · exact .inl (if_pos hempty)
    · exact .inr ⟨feeRateSatPerVb, hfee, if_neg hempty⟩
  · obtain rfl := Option.some.inj hrun
    refine ⟨hentered, .inr hvalue, rfl, by simp [hvalue], ?_⟩
    intro _
    by_cases hempty : move.config.context.jobOutpoints.isEmpty = true
    · exact .inl (if_pos hempty)
    · exact .inr (if_neg hempty)
  · cases input with
    | proceedStep | ensureBroadcast => cases hnone
    | _ => cases hrun

namespace BroadcastSystem

variable {system : BroadcastSystem} {event : UnilateralExitMachineEvent}

theorem send_eq_observe (hconfigured : Configured system.config)
    (event : UnilateralExitMachineEvent) :
    ∃ started, system.send event =
        system.observe event (unilateralExitMachine.move system.config event) started ∧
      ∀ run, (system.ledger.observe system.config event
          (unilateralExitMachine.move system.config event)).startedRun started = some run →
        Starts (unilateralExitMachine.move system.config event)
          (system.ledger.observe system.config event
            (unilateralExitMachine.move system.config event)) run := by
  obtain ⟨started, hstep, hinvoke⟩ := step_eq_move hconfigured event
  refine ⟨started, by simp [send, hstep], ?_⟩
  intro run hrun
  cases started with
  | none => cases hrun
  | some input =>
    obtain ⟨hentered, hactor⟩ := hinvoke input rfl
    exact starts_of_startedRun hentered hactor hrun

variable {run : BroadcastRun}

/-- After an event, a run is an old one, perhaps at its end, or the one that was started. -/
theorem runs_observe {move : ExitMove} {started : Option ActorInput} {number : Nat}
    (hrun : (system.observe event move started).runs number = some run) :
    (∃ before, system.runs number = some before ∧ (run = before ∨ run = before.endRun)) ∨
      number = system.nextRun ∧
        (system.ledger.observe system.config event move).startedRun started = some run := by
  have hafter (h : system.runsAfter event number = some run) :
      ∃ before, system.runs number = some before ∧ (run = before ∨ run = before.endRun) := by
    unfold runsAfter at h
    split at h
    · obtain ⟨before, hbefore, rfl⟩ := Option.map_eq_some_iff.mp h
      exact ⟨before, hbefore, .inr rfl⟩
    · exact ⟨run, h, .inl rfl⟩
  cases hfresh : (system.ledger.observe system.config event move).startedRun started with
  | none =>
    simp only [observe, hfresh] at hrun
    exact .inl (hafter hrun)
  | some fresh =>
    simp only [observe, hfresh] at hrun
    by_cases hnumber : number = system.nextRun
    · subst hnumber
      rw [Function.update_self] at hrun
      exact .inr ⟨rfl, hrun⟩
    · rw [Function.update_of_ne hnumber] at hrun
      exact .inl (hafter hrun)

theorem runs_updateRun {number other : Nat} {update : BroadcastRun → BroadcastRun}
    (hrun : (system.updateRun number update).runs other = some run) :
    ∃ before, system.runs other = some before ∧
      (other = number ∧ run = update before ∨ other ≠ number ∧ run = before) := by
  by_cases hother : other = number
  · subst hother
    simp only [updateRun, Function.update_self] at hrun
    obtain ⟨before, hbefore, rfl⟩ := Option.map_eq_some_iff.mp hrun
    exact ⟨before, hbefore, .inl ⟨rfl, rfl⟩⟩
  · simp only [updateRun, Function.update_of_ne hother] at hrun
    exact ⟨run, hrun, .inr ⟨hother, rfl⟩⟩

/-- The worker only broadcasts for a run that has called it, and the run is over then. -/
theorem step_broadcast_cases (system : BroadcastSystem) (number stepIndex : Nat) :
    system.step (.broadcast number stepIndex) = system ∨
      ∃ run feeRateSatPerVb intended, system.runs number = some run ∧
        run.phase = .calling feeRateSatPerVb intended ∧
        system.step (.broadcast number stepIndex) =
          { system.updateRun number (·.endRun) with
            broadcasts :=
              { run := number
                stepIndex
                feeRateSatPerVb := workerFeeRateSatPerVb feeRateSatPerVb
                origin := run.origin
                prefsChanges := system.ledger.prefsChanges } :: system.broadcasts } := by
  cases hrun : system.runs number with
  | none =>
    left
    simp [step, hrun]
  | some run =>
    cases hphase : run.phase with
    | calling feeRateSatPerVb intended =>
      right
      refine ⟨run, feeRateSatPerVb, intended, rfl, hphase, ?_⟩
      simp [step, hrun, BroadcastRun.broadcastStep, hphase]
    | _ =>
      left
      simp [step, hrun, BroadcastRun.broadcastStep, hphase]

theorem runs_endRun {number other : Nat}
    (hrun : (system.updateRun number (·.endRun)).runs other = some run)
    (hlive : run.phase ≠ .ended) : system.runs other = some run ∧ other ≠ number := by
  obtain ⟨before, hbefore, ⟨_, rfl⟩ | ⟨hother, rfl⟩⟩ := runs_updateRun hrun
  · exact absurd rfl hlive
  · exact ⟨hbefore, hother⟩

end BroadcastSystem

theorem workerFeeRateSatPerVb_of_le {feeRateSatPerVb : Rat}
    (hfee : minFeeRateSatPerVb ≤ feeRateSatPerVb) :
    workerFeeRateSatPerVb feeRateSatPerVb = feeRateSatPerVb :=
  if_neg (Rat.not_lt.mpr hfee)

inductive StartCause (before : ExitConfig) (event : UnilateralExitMachineEvent)
    (move : ExitMove) : Prop where
  | evaluated (output : UnilateralExitPolicyEvaluation)
      (evaluates : Evaluates before event move output)
  | proceeds (output : ArkadeUnilateralExitProgress) (carries : CarriesOn before event move)
      (value : move.config.value = .proceeding) (fetch : FetchProceeds before event output)
  | ensures (output : ArkadeUnilateralExitProgress) (carries : CarriesOn before event move)
      (value : move.config.value = .ensuringBroadcast) (fetch : FetchEnsures before event output)
  | continues (carries : CarriesOn before event move)
      (value : move.config.value = .ensuringBroadcast) (proceeding : before.value = .proceeding)

theorem Starts.cause {before : ExitConfig}
    {move : ExitMove} {ledger : Ledger} {run : BroadcastRun} (h : Starts move ledger run)
    (hmove : DriveMove before event move) : StartCause before event move := by
  have hbroadcasts : move.config.value.broadcasts = true := by
    rcases h.value with hvalue | hvalue
    all_goals
      rw [hvalue]
      rfl
  rcases hmove.broadcasts_cases hbroadcasts with
    ⟨hentered, _⟩ | ⟨output, evaluates⟩ | ⟨hentered, carries⟩
  · have hsome := h.entered
    rw [hentered] at hsome
    cases hsome
  · exact .evaluated output evaluates
  · rcases h.value with hvalue | hvalue
    · obtain ⟨output, fetch⟩ := carries.proceeds hentered hvalue
      exact .proceeds output carries hvalue fetch
    · rcases carries.ensures hentered hvalue with hproceeding | ⟨output, fetch⟩
      · exact .continues carries hvalue hproceeding
      · exact .ensures output carries hvalue fetch

variable {output : ArkadeUnilateralExitProgress}

section Ledger

variable {before : ExitConfig} {event : UnilateralExitMachineEvent} {move : ExitMove}
variable {fetched : Option ArkadeUnilateralExitProgress}

theorem fetchedAfter_of_ne (hvalue : before.value ≠ .loadingProgress) :
    fetchedAfter before event fetched = fetched := by
  unfold fetchedAfter
  split
  · contradiction
  · rfl

theorem fetchedAfter_of_fetch (hvalue : before.value = .loadingProgress)
    (hevent : event = .fetchProgressDone output) :
    fetchedAfter before event fetched = some output := by
  unfold fetchedAfter
  rw [hvalue, hevent]

namespace Ledger

variable (ledger : Ledger)

theorem fetchedStepIndex_observe_of_ne (hvalue : before.value ≠ .loadingProgress) :
    (ledger.observe before event move).fetchedStepIndex = ledger.fetchedStepIndex := by
  show (fetchedAfter before event ledger.fetched).map _ = ledger.fetched.map _
  rw [fetchedAfter_of_ne hvalue]

theorem fetchedStepIndex_observe_of_fetch (hvalue : before.value = .loadingProgress)
    (hevent : event = .fetchProgressDone output) :
    (ledger.observe before event move).fetchedStepIndex = some output.stepIndex := by
  show (fetchedAfter before event ledger.fetched).map _ = _
  rw [fetchedAfter_of_fetch hvalue hevent]
  rfl

theorem requests_le_observe : ledger.requests ≤ (ledger.observe before event move).requests := by
  show ledger.requests ≤ if _ then ledger.requests + 1 else ledger.requests
  split
  · exact Nat.le_succ _
  · exact Nat.le_refl _

theorem request_observe (hrequest : manualRequest before event = none)
    (hflight : move.config.value.inFlight = true) :
    (ledger.observe before event move).request = ledger.request := by
  simp [observe, hrequest, hflight]

theorem request_observe_of_request {feeRateSatPerVb : Rat}
    (hrequest : manualRequest before event = some feeRateSatPerVb)
    (hflight : move.config.value.inFlight = true) :
    (ledger.observe before event move).request = some
        { number := ledger.requests
          feeRateSatPerVb
          shownStepIndex := shownStepIndex before } ∧
      (ledger.observe before event move).requests = ledger.requests + 1 := by
  simp [observe, hrequest, hflight]

end Ledger

end Ledger

end Bitboard.Frontend
