/-
# The progress of an exit

The cursor of an exit is its first step that is not confirmed, but no step is skipped that comes
after the last one this wallet has submitted. Each step is shown with a status that follows the
confirmations, the cursor and the stored wait.

The stored wait is used by its index alone. A wait of an earlier plan therefore caps the cursor of
a plan that it does not belong to.
-/

import Bitboard.Arkade.ProceedStep

namespace Bitboard.Arkade

inductive UnilateralExitNodeStatusKind where
  | pending
  | inProgress
  | confirmed

structure UnilateralExitNodeStatus where
  txid : Txid
  confirmations : Nat
  status : UnilateralExitNodeStatusKind

def nodeStatusLabel (confirmations : Nat) (isCurrentStep : Bool) : UnilateralExitNodeStatusKind :=
  if stepReachedConfirmation confirmations then .confirmed
  else if isCurrentStep then .inProgress
  else .pending

def displayedUnrollStepConfirmations (esploraConfirmations index : Nat) (waitIndex : Option Nat) :
    Nat :=
  if waitCapHoldsUnbroadcastSuccessor index waitIndex then 0 else esploraConfirmations

def displayedUnrollNodeStatus (esploraConfirmations index currentStepIndex : Nat)
    (waitIndex : Option Nat) : UnilateralExitNodeStatusKind :=
  if index = currentStepIndex then .inProgress
  else if waitCapHoldsUnbroadcastSuccessor index waitIndex then .pending
  else nodeStatusLabel esploraConfirmations false

/-- The loop of `node_statuses_for_plan` over the steps from `index` on. -/
def nodeStatusesFrom (waitIndex : Option Nat) (currentStepIndex : Nat)
    (txConfirmations : Txid → ArkResult Nat) :
    Nat → List Txid → ArkResult (List UnilateralExitNodeStatus)
  | _, [] => .ok []
  | index, txid :: rest => do
      let esploraConfirmations ← txConfirmations txid
      let statuses ← nodeStatusesFrom waitIndex currentStepIndex txConfirmations (index + 1) rest
      .ok ({
        txid := txid
        confirmations := displayedUnrollStepConfirmations esploraConfirmations index waitIndex
        status := displayedUnrollNodeStatus esploraConfirmations index currentStepIndex waitIndex
      } :: statuses)

def nodeStatusesForPlan (job : ExitJob) (txConfirmations : Txid → ArkResult Nat)
    (orderedStepTxids : List Txid) (currentStepIndex : Nat) :
    ArkResult (List UnilateralExitNodeStatus) :=
  nodeStatusesFrom (job.unilateralExitStepWait.map (·.stepIndex)) currentStepIndex txConfirmations
    0 orderedStepTxids

/-- The cursor and the statuses that a progress query reads. -/
structure ExitProgress where
  currentStepIndex : Nat
  nodeStatuses : List UnilateralExitNodeStatus

def exitProgress (job : ExitJob) (txConfirmations : Txid → ArkResult Nat)
    (orderedStepTxids : List Txid) : ArkResult ExitProgress := do
  let currentStepIndex ← firstIncompleteStepIndex job txConfirmations orderedStepTxids
  let nodeStatuses ←
    nodeStatusesForPlan job txConfirmations orderedStepTxids currentStepIndex
  .ok { currentStepIndex, nodeStatuses }

section Progress

variable (job : ExitJob) (confirmationsOf : Txid → Nat) (orderedStepTxids : List Txid)

/-- The first step without a confirmation, or the end of the plan. -/
def firstUnconfirmedStep : Nat :=
  orderedStepTxids.findIdx fun txid => !stepReachedConfirmation (confirmationsOf txid)

/-- The smaller of the first unconfirmed step and the step after the stored wait. -/
def cappedCursor : Nat :=
  match job.unilateralExitStepWait with
  | none => firstUnconfirmedStep confirmationsOf orderedStepTxids
  | some wait => min (firstUnconfirmedStep confirmationsOf orderedStepTxids) (wait.stepIndex + 1)

def nodeStatusAt (waitIndex : Option Nat) (currentStepIndex : Nat) (index : Nat) (txid : Txid) :
    UnilateralExitNodeStatus where
  txid := txid
  confirmations := displayedUnrollStepConfirmations (confirmationsOf txid) index waitIndex
  status := displayedUnrollNodeStatus (confirmationsOf txid) index currentStepIndex waitIndex

/-- The stored wait is none of the plan: the step at its index is another one, or there is none. -/
def IsStaleWait (wait : UnilateralExitStepWaitRecord) : Prop :=
  orderedStepTxids[wait.stepIndex]?.map Txid.text ≠ some wait.stepTxid

instance (wait : UnilateralExitStepWaitRecord) : Decidable (IsStaleWait orderedStepTxids wait) :=
  inferInstanceAs (Decidable (_ ≠ _))

structure IsExitProgress (progress : ExitProgress) : Prop where
  cursor : progress.currentStepIndex = cappedCursor job confirmationsOf orderedStepTxids
  steps : progress.nodeStatuses.map (·.txid) = orderedStepTxids
  current : ∀ node, progress.nodeStatuses[progress.currentStepIndex]? = some node →
    node.status = .inProgress
  before : ∀ index < progress.currentStepIndex, ∀ node,
    progress.nodeStatuses[index]? = some node → node.status = .confirmed
  afterWait : ∀ wait, job.unilateralExitStepWait = some wait → ∀ index, wait.stepIndex < index →
    ∀ node, progress.nodeStatuses[index]? = some node → node.status ≠ .confirmed
  complete : (∀ node ∈ progress.nodeStatuses, node.status = .confirmed) ↔
    orderedStepTxids.length ≤ progress.currentStepIndex
  stale : ∀ wait, job.unilateralExitStepWait = some wait → IsStaleWait orderedStepTxids wait →
    ∃ unwaited, exitProgress job.clearUnilateralExitStepWait
        (fun txid => .ok (confirmationsOf txid)) orderedStepTxids = .ok unwaited ∧
      progress.currentStepIndex = unwaited.currentStepIndex ∧
      progress.nodeStatuses.map (·.status) = unwaited.nodeStatuses.map (·.status)

/-- No step after the index of a wait that is none of the plan is confirmed. -/
def StaleWaitIsIdle : Prop :=
  ∀ wait, job.unilateralExitStepWait = some wait → IsStaleWait orderedStepTxids wait →
    ∀ index, wait.stepIndex < index → ∀ txid, orderedStepTxids[index]? = some txid →
      stepReachedConfirmation (confirmationsOf txid) = false

end Progress

section Loops

variable {waitIndex : Option Nat} {confirmationsOf : Txid → Nat}

section

attribute [local simp] firstIncompleteStepFrom List.findIdx_cons bind Except.bind
  waitCapHoldsUnbroadcastSuccessor

theorem firstIncompleteStepFrom_none (index : Nat) (steps : List Txid) :
    firstIncompleteStepFrom none (fun txid => .ok (confirmationsOf txid)) index steps =
      .ok (index + firstUnconfirmedStep confirmationsOf steps) := by
  induction steps generalizing index with
  | nil => rfl
  | cons txid rest ih =>
    unfold firstUnconfirmedStep at ih ⊢
    cases hconfirmed : stepReachedConfirmation (confirmationsOf txid) with
    | false => simp [hconfirmed]
    | true =>
      simp [hconfirmed, ih]
      omega

theorem firstIncompleteStepFrom_some (wait index : Nat) (steps : List Txid) :
    firstIncompleteStepFrom (some wait) (fun txid => .ok (confirmationsOf txid)) index steps =
      .ok (index + min (firstUnconfirmedStep confirmationsOf steps) (wait + 1 - index)) := by
  induction steps generalizing index with
  | nil => simp [firstUnconfirmedStep]
  | cons txid rest ih =>
    unfold firstUnconfirmedStep at ih ⊢
    cases hconfirmed : stepReachedConfirmation (confirmationsOf txid) with
    | false => simp [hconfirmed]
    | true =>
      by_cases hcap : wait < index
      · have hnone : wait + 1 - index = 0 := by omega
        simp [hconfirmed, hcap, hnone]
      · simp [hconfirmed, hcap, ih]
        omega

end

theorem firstIncompleteStepIndex_eq (job : ExitJob) (steps : List Txid) :
    firstIncompleteStepIndex job (fun txid => .ok (confirmationsOf txid)) steps =
      .ok (cappedCursor job confirmationsOf steps) := by
  unfold firstIncompleteStepIndex cappedCursor
  cases job.unilateralExitStepWait with
  | none =>
    rw [Option.map_none, firstIncompleteStepFrom_none, Nat.zero_add]
  | some wait =>
    rw [Option.map_some, firstIncompleteStepFrom_some, Nat.zero_add, Nat.sub_zero]

theorem nodeStatusesFrom_eq (currentStepIndex index : Nat) (steps : List Txid) :
    nodeStatusesFrom waitIndex currentStepIndex (fun txid => .ok (confirmationsOf txid)) index
        steps =
      .ok ((steps.zipIdx index).map fun step =>
        nodeStatusAt confirmationsOf waitIndex currentStepIndex step.2 step.1) := by
  induction steps generalizing index with
  | nil => rfl
  | cons txid rest ih =>
    simp only [nodeStatusesFrom, ih, bind, Except.bind, List.zipIdx_cons, List.map_cons,
      nodeStatusAt]

/-- The progress that is read when the chain answers for every step. -/
def readProgress (job : ExitJob) (confirmationsOf : Txid → Nat) (steps : List Txid) :
    ExitProgress where
  currentStepIndex := cappedCursor job confirmationsOf steps
  nodeStatuses := steps.zipIdx.map fun step =>
    nodeStatusAt confirmationsOf (job.unilateralExitStepWait.map (·.stepIndex))
      (cappedCursor job confirmationsOf steps) step.2 step.1

theorem exitProgress_eq (job : ExitJob) (steps : List Txid) :
    exitProgress job (fun txid => .ok (confirmationsOf txid)) steps =
      .ok (readProgress job confirmationsOf steps) := by
  simp only [exitProgress, nodeStatusesForPlan, firstIncompleteStepIndex_eq, nodeStatusesFrom_eq,
    bind, Except.bind, readProgress]

end Loops

/-! ## The progress that is read -/

section ReadProgress

variable {job : ExitJob} {confirmationsOf : Txid → Nat} {steps : List Txid} {index : Nat}
  {node : UnilateralExitNodeStatus}

def waitIndexOf (job : ExitJob) : Option Nat := job.unilateralExitStepWait.map (·.stepIndex)

theorem getElem?_nodeStatuses : (readProgress job confirmationsOf steps).nodeStatuses[index]? =
    steps[index]?.map (nodeStatusAt confirmationsOf (waitIndexOf job)
      (cappedCursor job confirmationsOf steps) index) := by
  rw [readProgress, List.getElem?_map, List.getElem?_zipIdx, Option.map_map, Nat.zero_add]
  rfl

theorem status_of_getElem?
    (h : (readProgress job confirmationsOf steps).nodeStatuses[index]? = some node) :
    ∃ txid, steps[index]? = some txid ∧ node.status = displayedUnrollNodeStatus
      (confirmationsOf txid) index (cappedCursor job confirmationsOf steps) (waitIndexOf job) := by
  rw [getElem?_nodeStatuses] at h
  obtain ⟨txid, htxid, rfl⟩ := Option.map_eq_some_iff.mp h
  exact ⟨txid, htxid, rfl⟩

theorem confirmed_of_lt_first {txid : Txid} (h : index < firstUnconfirmedStep confirmationsOf steps)
    (hstep : steps[index]? = some txid) :
    stepReachedConfirmation (confirmationsOf txid) = true := by
  obtain ⟨hlength, rfl⟩ := List.getElem?_eq_some_iff.mp hstep
  simpa using List.not_of_lt_findIdx h

theorem unconfirmed_at_first {txid : Txid}
    (hstep : steps[firstUnconfirmedStep confirmationsOf steps]? = some txid) :
    stepReachedConfirmation (confirmationsOf txid) = false := by
  obtain ⟨hlength, rfl⟩ := List.getElem?_eq_some_iff.mp hstep
  have hfound : (!stepReachedConfirmation (confirmationsOf
      steps[firstUnconfirmedStep confirmationsOf steps])) = true :=
    List.findIdx_getElem (w := hlength)
  exact (Bool.not_eq_true' _).mp hfound

theorem cappedCursor_le_first :
    cappedCursor job confirmationsOf steps ≤ firstUnconfirmedStep confirmationsOf steps := by
  unfold cappedCursor
  split
  · exact le_refl _
  · exact min_le_left _ _

theorem not_held_of_lt_cursor (h : index < cappedCursor job confirmationsOf steps) :
    waitCapHoldsUnbroadcastSuccessor index (waitIndexOf job) = false := by
  unfold cappedCursor at h
  unfold waitIndexOf waitCapHoldsUnbroadcastSuccessor
  cases hwait : job.unilateralExitStepWait with
  | none => rfl
  | some wait =>
    rw [hwait] at h
    dsimp only at h
    simp only [Option.map_some, Option.any_some, decide_eq_false_iff_not]
    omega

theorem status_before (h : index < cappedCursor job confirmationsOf steps)
    (hnode : (readProgress job confirmationsOf steps).nodeStatuses[index]? = some node) :
    node.status = .confirmed := by
  obtain ⟨txid, hstep, hstatus⟩ := status_of_getElem? hnode
  have hconfirmed := confirmed_of_lt_first (h.trans_le cappedCursor_le_first) hstep
  rw [hstatus, displayedUnrollNodeStatus, if_neg (by omega), not_held_of_lt_cursor h,
    nodeStatusLabel, hconfirmed]
  rfl

theorem status_current (hnode : (readProgress job confirmationsOf steps).nodeStatuses[cappedCursor
    job confirmationsOf steps]? = some node) : node.status = .inProgress := by
  obtain ⟨txid, _, hstatus⟩ := status_of_getElem? hnode
  rw [hstatus, displayedUnrollNodeStatus, if_pos rfl]

theorem status_held (hheld : waitCapHoldsUnbroadcastSuccessor index (waitIndexOf job) = true)
    (hnode : (readProgress job confirmationsOf steps).nodeStatuses[index]? = some node) :
    node.status = if index = cappedCursor job confirmationsOf steps then .inProgress
      else .pending := by
  obtain ⟨txid, _, hstatus⟩ := status_of_getElem? hnode
  rw [hstatus, displayedUnrollNodeStatus, hheld, if_pos rfl]

theorem status_after_wait {wait : UnilateralExitStepWaitRecord}
    (hwait : job.unilateralExitStepWait = some wait) (hindex : wait.stepIndex < index)
    (hnode : (readProgress job confirmationsOf steps).nodeStatuses[index]? = some node) :
    node.status ≠ .confirmed := by
  have hheld : waitCapHoldsUnbroadcastSuccessor index (waitIndexOf job) = true := by
    rw [waitIndexOf, hwait]
    simpa [waitCapHoldsUnbroadcastSuccessor] using hindex
  rw [status_held hheld hnode]
  split
  · intro h
    cases h
  · intro h
    cases h

theorem all_confirmed_iff :
    (∀ node ∈ (readProgress job confirmationsOf steps).nodeStatuses, node.status = .confirmed) ↔
      steps.length ≤ cappedCursor job confirmationsOf steps := by
  constructor
  · intro hall
    by_contra hless
    have hcursor := not_le.mp hless
    obtain ⟨node, hnode⟩ : ∃ node, (readProgress job confirmationsOf steps).nodeStatuses[
        cappedCursor job confirmationsOf steps]? = some node := by
      rw [getElem?_nodeStatuses, List.getElem?_eq_getElem hcursor, Option.map_some]
      exact ⟨_, rfl⟩
    have hprogress := status_current hnode
    rw [hall node (List.mem_of_getElem? hnode)] at hprogress
    cases hprogress
  · intro hlength node hmem
    obtain ⟨index, hnode⟩ := List.mem_iff_getElem?.mp hmem
    apply status_before _ hnode
    obtain ⟨txid, hstep, _⟩ := status_of_getElem? hnode
    exact (List.getElem?_eq_some_iff.mp hstep).1.trans_le hlength

end ReadProgress

section Stale

variable {job : ExitJob} {confirmationsOf : Txid → Nat} {steps : List Txid}
  {wait : UnilateralExitStepWaitRecord}

/-- The statuses are the same with and without the wait where they agree at each step. -/
theorem statuses_eq_iff : (readProgress job confirmationsOf steps).nodeStatuses.map (·.status) =
      (readProgress job.clearUnilateralExitStepWait confirmationsOf steps).nodeStatuses.map
        (·.status) ↔
    ∀ index txid, steps[index]? = some txid →
      displayedUnrollNodeStatus (confirmationsOf txid) index
          (cappedCursor job confirmationsOf steps) (waitIndexOf job) =
        displayedUnrollNodeStatus (confirmationsOf txid) index
          (firstUnconfirmedStep confirmationsOf steps) none := by
  constructor
  · intro h index txid hstep
    have hindex := congrArg (fun statuses => statuses[index]?) h
    simp only [List.getElem?_map, getElem?_nodeStatuses, hstep, Option.map_some] at hindex
    exact Option.some.inj hindex
  · intro h
    apply List.ext_getElem?
    intro index
    simp only [List.getElem?_map, getElem?_nodeStatuses]
    cases hstep : steps[index]? with
    | none => rfl
    | some txid =>
      simp only [Option.map_some, Option.some.injEq]
      exact h index txid hstep

/-- A wait changes nothing that is shown exactly when no step after its index is confirmed. -/
theorem wait_changes_nothing_iff (hwait : job.unilateralExitStepWait = some wait) :
    (cappedCursor job confirmationsOf steps = firstUnconfirmedStep confirmationsOf steps ∧
        (readProgress job confirmationsOf steps).nodeStatuses.map (·.status) =
          (readProgress job.clearUnilateralExitStepWait confirmationsOf steps).nodeStatuses.map
            (·.status)) ↔
      ∀ index, wait.stepIndex < index → ∀ txid, steps[index]? = some txid →
        stepReachedConfirmation (confirmationsOf txid) = false := by
  rw [statuses_eq_iff]
  have hcapped : cappedCursor job confirmationsOf steps =
      min (firstUnconfirmedStep confirmationsOf steps) (wait.stepIndex + 1) := by
    rw [cappedCursor, hwait]
  have hheld : ∀ index, waitCapHoldsUnbroadcastSuccessor index (waitIndexOf job) = true ↔
      wait.stepIndex < index := by
    intro index
    rw [waitIndexOf, hwait]
    simp [waitCapHoldsUnbroadcastSuccessor]
  constructor
  · intro h index hindex txid hstep
    have hstatus := h.2 index txid hstep
    rw [h.1] at hstatus
    by_cases hcurrent : index = firstUnconfirmedStep confirmationsOf steps
    · rw [hcurrent] at hstep
      exact unconfirmed_at_first hstep
    · cases hconfirmed : stepReachedConfirmation (confirmationsOf txid) with
      | false => rfl
      | true =>
        -- Without the wait the step is shown as confirmed, with it as pending.
        rw [displayedUnrollNodeStatus, if_neg hcurrent, if_pos ((hheld index).mpr hindex),
          displayedUnrollNodeStatus, if_neg hcurrent, nodeStatusLabel, hconfirmed] at hstatus
        cases hstatus
  · intro hidle
    have hfirst : firstUnconfirmedStep confirmationsOf steps ≤ wait.stepIndex + 1 := by
      by_contra hlater
      have hlt : wait.stepIndex + 1 < firstUnconfirmedStep confirmationsOf steps := by omega
      have hlength : wait.stepIndex + 1 < steps.length :=
        hlt.trans_le List.findIdx_le_length
      have hstep : steps[wait.stepIndex + 1]? = some steps[wait.stepIndex + 1] :=
        List.getElem?_eq_getElem hlength
      have hconfirmed := confirmed_of_lt_first hlt hstep
      rw [hidle _ (by omega) _ hstep] at hconfirmed
      cases hconfirmed
    have hcursor : cappedCursor job confirmationsOf steps =
        firstUnconfirmedStep confirmationsOf steps := by
      rw [hcapped, min_eq_left hfirst]
    refine ⟨hcursor, ?_⟩
    intro index txid hstep
    rw [hcursor]
    unfold displayedUnrollNodeStatus
    split
    · rfl
    · by_cases hindex : wait.stepIndex < index
      · rw [if_pos ((hheld index).mpr hindex), nodeStatusLabel, hidle index hindex txid hstep]
        rfl
      · have hnot : ¬ waitCapHoldsUnbroadcastSuccessor index (waitIndexOf job) = true := by
          rw [hheld]
          exact hindex
        rw [if_neg hnot]
        rfl

end Stale

/-- The progress of an exit is what it promises exactly when a stored wait that is none of the
plan has no confirmed step after its index. -/
theorem exitProgress_isExitProgress_iff (job : ExitJob) (confirmationsOf : Txid → Nat)
    (orderedStepTxids : List Txid) :
    ∃ progress, exitProgress job (fun txid => .ok (confirmationsOf txid)) orderedStepTxids =
        .ok progress ∧
      (IsExitProgress job confirmationsOf orderedStepTxids progress ↔
        StaleWaitIsIdle job confirmationsOf orderedStepTxids) := by
  refine ⟨readProgress job confirmationsOf orderedStepTxids, exitProgress_eq job _, ?_⟩
  constructor
  · intro h wait hwait hstale
    obtain ⟨unwaited, hunwaited, hcursor, hstatuses⟩ := h.stale wait hwait hstale
    rw [exitProgress_eq] at hunwaited
    cases hunwaited
    exact (wait_changes_nothing_iff hwait).mp ⟨hcursor, hstatuses⟩
  · intro hidle
    constructor
    · rfl
    · apply List.ext_getElem?
      intro index
      rw [List.getElem?_map, getElem?_nodeStatuses, Option.map_map]
      exact Option.map_id'
    · intro node hnode
      exact status_current hnode
    · intro index hindex node hnode
      exact status_before hindex hnode
    · intro wait hwait index hindex node hnode
      exact status_after_wait hwait hindex hnode
    · exact all_confirmed_iff
    · intro wait hwait hstale
      have hsame := (wait_changes_nothing_iff hwait).mpr (hidle wait hwait hstale)
      exact ⟨_, exitProgress_eq _ _, hsame.1, hsame.2⟩

theorem b_mem_lowerHexDigits : 'b' ∈ lowerHexDigits := by decide

def twoSteps : List Txid := [sampleHost, sampleTxid 'b' b_mem_lowerHexDigits]

def staleWaitJob : ExitJob where
  walletDb := {
    offchainVtxoSnapshot := none
    pendingExitDeductions := []
    hostTxObservations := ∅
    vtxoExitRecords := ∅ }
  unilateralExitStepWait := some {
    stepTxid := sampleCommitment.text, stepIndex := 0, startedAt := 0 }

/-- The wait of another plan keeps the cursor at a confirmed step of a plan that is complete. -/
theorem stale_wait_holds_confirmed_step :
    (exitProgress staleWaitJob (fun _ => .ok 1) twoSteps).map (·.currentStepIndex) = .ok 1 ∧
      (exitProgress staleWaitJob.clearUnilateralExitStepWait (fun _ => .ok 1) twoSteps).map
        (·.currentStepIndex) = .ok 2 ∧
      ¬ ∃ progress, exitProgress staleWaitJob (fun _ => .ok 1) twoSteps = .ok progress ∧
        IsExitProgress staleWaitJob (fun _ => 1) twoSteps progress := by
  have hwith : exitProgress staleWaitJob (fun _ => .ok 1) twoSteps =
      .ok (readProgress staleWaitJob (fun _ => 1) twoSteps) := exitProgress_eq _ _
  have hwithout : exitProgress staleWaitJob.clearUnilateralExitStepWait (fun _ => .ok 1)
      twoSteps =
        .ok (readProgress staleWaitJob.clearUnilateralExitStepWait (fun _ => 1) twoSteps) :=
    exitProgress_eq _ _
  refine ⟨by rw [hwith]; rfl, by rw [hwithout]; rfl, ?_⟩
  intro h
  obtain ⟨progress, hprogress, hpromise⟩ := h
  rw [hwith] at hprogress
  cases hprogress
  have hstale : IsStaleWait twoSteps {
      stepTxid := (sampleTxid 'c' (by decide)).text, stepIndex := 0, startedAt := 0 } := by
    decide
  obtain ⟨unwaited, hunwaited, hcursor, _⟩ := hpromise.stale _ rfl hstale
  rw [hwithout] at hunwaited
  cases hunwaited
  exact absurd hcursor (by decide)

end Bitboard.Arkade
