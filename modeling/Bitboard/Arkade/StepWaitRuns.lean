/-
# Step waits and host observations

A call takes a step for submitted when the stored wait names it. The wait is stamped
only for a step that the same call has registered, so at that moment its host is
observed. A finality pass can drop the observation and leave the wait behind; then
every later call skips the step although nobody watches it. Runs whose passes keep the
host that the wait names never get there.
-/

import Bitboard.Arkade.ProceedStep
import Bitboard.Arkade.NeverSeenBudget

namespace Bitboard.Arkade

open Bitboard.Lib

variable {codec : Codec} {job : ExitJob} {call : ProceedCall}

def ExitJob.Observes (job : ExitJob) (txid : String) : Prop :=
  ∃ record, job.walletDb.hostTxObservations[txid]? = some record

def WaitObserved (job : ExitJob) : Prop :=
  ∀ wait, job.unilateralExitStepWait = some wait → job.Observes wait.stepTxid

theorem observes_registerStep_self (job : ExitJob) (stepTxid : Txid) (now : Int) :
    (registerStep job stepTxid now).walletDb.hostTxObservations[stepTxid.text]? =
      some (.freshlyRegistered now) := by
  simp [registerStep, registerHostTxObservation, advanceRegisteredHost, insertHostTxObservation]

theorem ExitJob.Observes.registerStep {txid : String} (h : job.Observes txid) (stepTxid : Txid)
    (now : Int) : (registerStep job stepTxid now).Observes txid := by
  obtain ⟨record, hrecord⟩ := h
  by_cases htxid : stepTxid.text = txid
  · subst htxid
    exact ⟨_, observes_registerStep_self job stepTxid now⟩
  · apply Exists.intro record
    simpa [Arkade.registerStep, registerHostTxObservation, advanceRegisteredHost,
      insertHostTxObservation, BTreeMap.getElem?_insert_eq_ite, htxid] using hrecord

theorem observes_exitStep {db : WalletDb} {op : ExitOp} {txid : String}
    (hreconcile : ∀ now probe, op ≠ .reconcile now probe)
    (h : ∃ record, db.hostTxObservations[txid]? = some record) :
    ∃ record, (exitStep codec db op).hostTxObservations[txid]? = some record := by
  by_cases hregister : ∃ hostTxid now, op = .registerHost hostTxid now
  · obtain ⟨hostTxid, now, rfl⟩ := hregister
    simp only [exitStep, registerHostTxObservation, insertHostTxObservation,
      BTreeMap.getElem?_insert_eq_ite]
    split
    · exact ⟨_, rfl⟩
    · exact h
  · rw [exitStep_observations codec (by simpa using hregister) hreconcile]
    exact h

theorem ensureUnilateralExitStepWait_walletDb (stepTxid : String) (stepIndex : Nat) (now : Int) :
    (job.ensureUnilateralExitStepWait stepTxid stepIndex now).walletDb = job.walletDb := by
  unfold ExitJob.ensureUnilateralExitStepWait
  split
  · rfl
  · split <;> rfl

theorem ensureUnilateralExitStepWait_stepTxid {stepTxid : String} {stepIndex : Nat} {now : Int}
    {wait : UnilateralExitStepWaitRecord}
    (h : (job.ensureUnilateralExitStepWait stepTxid stepIndex now).unilateralExitStepWait =
      some wait) : wait.stepTxid = stepTxid := by
  unfold ExitJob.ensureUnilateralExitStepWait at h
  split at h
  · cases h
    rfl
  · rename_i existing hexisting
    split at h
    · rename_i hsame
      rw [hexisting] at h
      cases h
      exact hsame.1
    · cases h
      rfl

theorem waitObserved_clear (job : ExitJob) : WaitObserved job.clearUnilateralExitStepWait := by
  intro wait hwait
  cases hwait

theorem waitsFor_iff {stepTxid : Txid} :
    job.waitsFor stepTxid = true ↔
      ∃ wait, job.unilateralExitStepWait = some wait ∧ wait.stepTxid = stepTxid.text := by
  cases hwait : job.unilateralExitStepWait with
  | none | some => simp [ExitJob.waitsFor, hwait]

variable {step : CurrentStep}

theorem submitStep_of_not_waitsFor (h : job.waitsFor step.txid = false) :
    ((∃ error, call.bumperSync = .error error ∧
        (submitStep job call step).1 = .bumperSyncFailed step.txid error) ∨
      ∃ result, (submitStep job call step).1 = .broadcast step.txid result) ∧
    (submitStep job call step).2.walletDb =
      (registerStep job step.txid call.registeredAt).walletDb := by
  simp only [submitStep, h, Bool.false_eq_true, if_false]
  split
  · rename_i error herror
    exact ⟨.inl ⟨error, herror, rfl⟩, rfl⟩
  · split
    · exact ⟨.inr ⟨_, rfl⟩, rfl⟩
    · exact ⟨.inr ⟨_, rfl⟩, ensureUnilateralExitStepWait_walletDb _ _ _⟩

theorem WaitObserved.submitStep (h : WaitObserved job) (step : CurrentStep) :
    WaitObserved (submitStep job call step).2 := by
  have hregistered : WaitObserved (registerStep job step.txid call.registeredAt) := by
    intro wait hwait
    exact (h wait hwait).registerStep step.txid call.registeredAt
  unfold Arkade.submitStep
  split
  · dsimp only
    split
    · exact waitObserved_clear job
    · exact h
  · dsimp only
    split
    · exact hregistered
    · split
      · exact hregistered
      · intro wait hwait
        rw [ensureUnilateralExitStepWait_stepTxid hwait, ExitJob.Observes,
          ensureUnilateralExitStepWait_walletDb]
        exact ⟨_, observes_registerStep_self job step.txid call.registeredAt⟩

theorem WaitObserved.proceedSubmit (h : WaitObserved job) (call : ProceedCall) :
    WaitObserved (proceedSubmit job call).2 := by
  unfold Arkade.proceedSubmit
  split
  · exact h
  · exact waitObserved_clear job
  · exact h.submitStep _

theorem WaitObserved.currentStepWaitingSince (h : WaitObserved job) (plan : UnilateralBatchPlan)
    (index : Nat) (txConfirmations : Txid → ArkResult Nat) :
    WaitObserved (currentStepWaitingSince job plan index txConfirmations).2 := by
  unfold Arkade.currentStepWaitingSince
  split
  · exact waitObserved_clear job
  · split
    · exact h
    · split
      · exact waitObserved_clear job
      · exact h

/-- A finality pass keeps the observation of the step that the wait names: its never-seen
budget is not used up, some output of it is unspent, and some record of it is unfinished. -/
def KeepsWaitedHost (codec : Codec) (job : ExitJob) : JobOp → Prop
  | .store (.reconcile now probe) =>
    ∀ wait, job.unilateralExitStepWait = some wait →
      ∀ snapshot, job.walletDb.offchainVtxoSnapshot = some snapshot →
        ∀ record, job.walletDb.hostTxObservations[wait.stepTxid]? = some record →
          neverSeenExpires now (storedAnswer codec wait.stepTxid job.walletDb probe) record =
              false ∧
            observationAllSnapshotVoutsSpent snapshot wait.stepTxid = false ∧
              observationAllRecordsTerminal job.walletDb.vtxoExitRecords wait.stepTxid = false
  | _ => True

theorem WaitObserved.jobStep {op : JobOp} (hguard : KeepsWaitedHost codec job op)
    (h : WaitObserved job) : WaitObserved (jobStep codec job op) := by
  cases op with
  | submit call => exact h.proceedSubmit call
  | readStep plan cursorConfirmations stepConfirmations =>
    simp only [Arkade.jobStep]
    split
    · exact h
    · exact h.currentStepWaitingSince plan _ stepConfirmations
  | store op =>
    intro wait hwait
    have hobserved := h wait hwait
    by_cases hreconcile : ∃ now probe, op = .reconcile now probe
    · obtain ⟨now, probe, rfl⟩ := hreconcile
      obtain ⟨record, hrecord⟩ := hobserved
      cases hsnapshot : job.walletDb.offchainVtxoSnapshot with
      | none =>
        apply Exists.intro record
        simpa [Arkade.jobStep, exitStep, reconcileStoredFinality, hsnapshot] using hrecord
      | some snapshot =>
        obtain ⟨hkept, hunspent, hlive⟩ := hguard wait hwait snapshot hsnapshot record hrecord
        exact ⟨_, reconcile_observation_of_kept codec hsnapshot hrecord hkept hunspent hlive⟩
    · exact observes_exitStep (by simpa using hreconcile) hobserved

/-- What a call of the run owes to its step: it takes the step for submitted only while its
host is observed or the step is confirmed, and a step that is neither is registered anew and
broadcast, unless the bumper sync fails before the broadcast. -/
structure SubmitSound (job : ExitJob) (call : ProceedCall) (step : CurrentStep) : Prop where
  alreadySubmitted : (proceedSubmit job call).1 = .alreadySubmitted step.txid →
    job.Observes step.txid.text ∨ stepReachedConfirmation step.confirmationsBefore = true
  broadcastAgain : ¬ job.Observes step.txid.text →
    stepReachedConfirmation step.confirmationsBefore = false →
    ((∃ error, call.bumperSync = .error error ∧
        (proceedSubmit job call).1 = .bumperSyncFailed step.txid error) ∨
      ∃ result, (proceedSubmit job call).1 = .broadcast step.txid result) ∧
    (proceedSubmit job call).2.walletDb.hostTxObservations[step.txid.text]? =
      some (.freshlyRegistered call.registeredAt)

/-- A call whose wait names an observed step owes nothing. -/
theorem WaitObserved.submitSound (h : WaitObserved job)
    (hstep : currentStep job call = .ok (some step)) : SubmitSound job call step := by
  have hsubmit : Arkade.proceedSubmit job call = Arkade.submitStep job call step := by
    simp only [Arkade.proceedSubmit, hstep]
  have hwaits : job.waitsFor step.txid = true → job.Observes step.txid.text := by
    intro hwaits
    obtain ⟨wait, hwait, htxid⟩ := waitsFor_iff.mp hwaits
    rw [← htxid]
    exact h wait hwait
  constructor
  · intro halready
    left
    apply hwaits
    by_contra hnot
    rw [Bool.not_eq_true] at hnot
    rw [hsubmit] at halready
    cases (submitStep_of_not_waitsFor hnot).1 with
    | inl hfailed =>
      obtain ⟨error, -, hfailed⟩ := hfailed
      cases halready.symm.trans hfailed
    | inr hbroadcast =>
      obtain ⟨result, hbroadcast⟩ := hbroadcast
      cases halready.symm.trans hbroadcast
  · intro hunobserved hunconfirmed
    have hnot : job.waitsFor step.txid = false := by
      rw [← Bool.not_eq_true]
      exact fun hwait => hunobserved (hwaits hwait)
    obtain ⟨houtcome, hdb⟩ := submitStep_of_not_waitsFor hnot
    rw [hsubmit]
    constructor
    · exact houtcome
    · rw [hdb]
      exact observes_registerStep_self job step.txid call.registeredAt

/-- Every call of a run whose passes keep the waited host is sound. -/
theorem submitSound_of_keepsWaitedHost (codec : Codec) (db : WalletDb) {ops : List JobOp}
    (hmeets : RunMeets (jobStep codec) (KeepsWaitedHost codec) ⟨db, none⟩ ops)
    {first rest : List JobOp} {call : ProceedCall} (hops : ops = first ++ .submit call :: rest)
    (hstep : currentStep (jobRun codec ⟨db, none⟩ first) call = .ok (some step)) :
    SubmitSound (jobRun codec ⟨db, none⟩ first) call step := by
  subst hops
  apply WaitObserved.submitSound _ hstep
  apply run_invariant_of_runMeets WaitObserved _ _ (runMeets_append.mp hmeets).1
  · intro state input hguard hinv
    exact hinv.jobStep hguard
  · exact waitObserved_clear ⟨db, none⟩

def sampleProceedCall : ProceedCall where
  plan := .ok
    { orderedStepTxids := [sampleHost]
      txById := fun _ => some [] }
  cursorConfirmations := fun _ => .ok 0
  confirmationsBefore := .ok 0
  registeredAt := 0
  bumperSync := .ok ()
  broadcastResult := .ok ()
  relayedAfterError := .ok false
  waitStartedAt := 0

def sampleCurrentStep : CurrentStep where
  index := 0
  txid := sampleHost
  confirmationsBefore := 0

def lostBroadcastOps : List JobOp :=
  [.submit sampleProceedCall, .store (.reconcile 600 absentProbe),
    .store (.reconcile 660 absentProbe), .store (.reconcile 720 absentProbe),
    .store (.reconcile 780 absentProbe), .store (.reconcile 840 absentProbe)]

theorem ObservedHost.deleted {db : WalletDb} {host key : String}
    {observation : HostTxObservationRecord} {phase : VtxoExitPhase} {now : Int}
    {probe : String → Option HostTxProbe} (h : ObservedHost db host key observation phase)
    (codec : Codec) (hconfirmations : observation.confirmations < unilateralExitHostTxConfirmations)
    (hexpires : neverSeenExpires now (probe host) observation = true) :
    (exitStep codec db (.reconcile now probe)).hostTxObservations[host]? = none := by
  have hmem : host ∈ neverSeenDeletes codec db now probe := by
    rw [mem_neverSeenDeletes, h.storedAnswer_eq hconfirmations, h.observed]
    exact hexpires
  exact (reconcile_of_mem_neverSeenDeletes codec host hmem).1

theorem lostBroadcast_unobserved :
    (exitRun sampleCodec taggedSampleDb
      [.registerHost sampleHost.text 0, .advance sampleHost.text, .reconcile 600 absentProbe,
        .reconcile 660 absentProbe, .reconcile 720 absentProbe, .reconcile 780 absentProbe,
        .reconcile 840 absentProbe]).hostTxObservations[sampleHost.text]? = none := by
  have h600 := observedHost_sampleLeaf.reconcile sampleCodec 600 absentProbe
    .hostBroadcastAttempted (by decide) rfl rfl (by decide)
  have h660 := h600.reconcile sampleCodec 660 absentProbe .hostBroadcastAttempted (by decide) rfl
    rfl (by decide)
  have h720 := h660.reconcile sampleCodec 720 absentProbe .hostBroadcastAttempted (by decide) rfl
    rfl (by decide)
  have h780 := h720.reconcile sampleCodec 780 absentProbe .hostBroadcastAttempted (by decide) rfl
    rfl (by decide)
  exact h780.deleted sampleCodec (by decide) rfl

/-- The wait outlives the observation: the next call on the step neither registers nor
broadcasts it. -/
theorem not_submitSound_lostBroadcast :
    currentStep (jobRun sampleCodec ⟨taggedSampleDb, none⟩ lostBroadcastOps) sampleProceedCall =
      .ok (some sampleCurrentStep) ∧
    ¬ SubmitSound (jobRun sampleCodec ⟨taggedSampleDb, none⟩ lostBroadcastOps) sampleProceedCall
      sampleCurrentStep := by
  constructor
  · rfl
  · intro hsound
    have hunobserved : ¬ (jobRun sampleCodec ⟨taggedSampleDb, none⟩
        lostBroadcastOps).Observes sampleCurrentStep.txid.text := by
      intro hobserved
      obtain ⟨record, hrecord⟩ := hobserved
      cases lostBroadcast_unobserved.symm.trans hrecord
    cases (hsound.broadcastAgain hunobserved rfl).1 with
    | inl hfailed =>
        obtain ⟨error, herror, -⟩ := hfailed
        cases herror
    | inr hbroadcast =>
        obtain ⟨result, hbroadcast⟩ := hbroadcast
        cases hbroadcast

def foundBroadcastOps : List JobOp :=
  [.submit sampleProceedCall, .store (.reconcile 10 mempoolProbe)]

theorem submitSound_foundBroadcast :
    SubmitSound (jobRun sampleCodec ⟨taggedSampleDb, none⟩ foundBroadcastOps) sampleProceedCall
      sampleCurrentStep := by
  have hmeets : RunMeets (jobStep sampleCodec) (KeepsWaitedHost sampleCodec) ⟨taggedSampleDb, none⟩
      (foundBroadcastOps ++ [.submit sampleProceedCall]) := by
    refine ⟨trivial, ?_, trivial, trivial⟩
    intro wait hwait snapshot hsnapshot record hrecord
    cases hwait
    obtain ⟨found, hfound, hunspent⟩ := observedHost_sampleLeaf.unspent
    cases hfound.symm.trans hsnapshot
    cases observedHost_sampleLeaf.observed.symm.trans hrecord
    constructor
    · change neverSeenExpires 10 (storedAnswer sampleCodec sampleHost.text (exitRun sampleCodec
        taggedSampleDb [.registerHost sampleHost.text 0, .advance sampleHost.text]) mempoolProbe)
          (.freshlyRegistered 0) = false
      rw [observedHost_sampleLeaf.storedAnswer_eq (by decide)]
      rfl
    · exact ⟨hunspent, observedHost_sampleLeaf.not_allTerminal⟩
  exact submitSound_of_keepsWaitedHost sampleCodec taggedSampleDb hmeets rfl rfl

end Bitboard.Arkade
