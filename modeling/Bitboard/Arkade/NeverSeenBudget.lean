/-
# The never-seen budget

Proceed registers a host before it broadcasts, so a broadcast that never reached the
network leaves an observation behind. The finality pass cleans it up after enough
counted misses. This module runs the machine together with the history of one host,
kept apart from the code's own counter: when it was last registered, how many misses
were counted since, and whether any probe found it since.

The first result is the timing of a deletion. The second is about transactions that
were found and then lost: a lost transaction falls back into the budget, so it can be
deleted after all. Along runs that never lose a found transaction it cannot.
-/

import Bitboard.Arkade.ExitRecordRuns

namespace Bitboard.Arkade

open Bitboard.Lib

/-- What happened to a host since its last registration. -/
structure HostHistory where
  registeredAt : Option Int
  misses : Nat
  found : Bool

def HostHistory.unregistered : HostHistory where
  registeredAt := none
  misses := 0
  found := false

/-- The probe is a miss that counts: an absence of a transaction that is not known to be on
the network, outside the grace period and the spacing. -/
def countsMiss (now : Int) (answer : Option HostTxProbe) (record : HostTxObservationRecord) :
    Bool :=
  match answer with
  | none => false
  | some answer =>
    !answer.found && !(record.relayed || stepReachedConfirmation record.confirmations) &&
      neverSeenMissIsEligible record now

variable (codec : Codec) (host : String)

/-- The answer the finality pass uses for a host when it runs on the stored values. -/
def storedAnswer (db : WalletDb) (probe : String → Option HostTxProbe) : Option HostTxProbe :=
  db.offchainVtxoSnapshot.bind fun snapshot =>
    hostAnswer codec snapshot db.hostTxObservations db.pendingExitDeductions db.vtxoExitRecords
      probe host

def storedStampable (db : WalletDb) : Finset String :=
  match db.offchainVtxoSnapshot with
  | none => ∅
  | some snapshot => stampableHosts codec snapshot

def historyStep (db : WalletDb) (history : HostHistory) : ExitOp → HostHistory
  | .registerHost hostTxid now =>
    if hostTxid = host then { registeredAt := some now, misses := 0, found := false }
    else history
  | .reconcile now probe =>
    match db.hostTxObservations[host]? with
    | none => history
    | some record =>
      let answer := storedAnswer codec host db probe
      { history with
        misses := if countsMiss now answer record then history.misses + 1 else history.misses
        found := history.found || answer.any HostTxProbe.found }
  | _ => history

/-- The machine together with the history of one host. -/
def trackedStep (state : WalletDb × HostHistory) (op : ExitOp) : WalletDb × HostHistory :=
  (exitStep codec state.1 op, historyStep codec host state.1 state.2 op)

/-- The history of a host after a run that starts before its first registration. -/
def hostHistory (db : WalletDb) (ops : List ExitOp) : HostHistory :=
  (run (trackedStep codec host) (db, .unregistered) ops).2

variable (state : WalletDb × HostHistory)

theorem run_trackedStep_fst (ops : List ExitOp) :
    (run (trackedStep codec host) state ops).1 = exitRun codec state.1 ops := by
  induction ops generalizing state with
  | nil => rfl
  | cons op ops ih => exact ih (trackedStep codec host state op)

theorem hostHistory_append_singleton (db : WalletDb) (ops : List ExitOp) (op : ExitOp) :
    hostHistory codec host db (ops ++ [op]) =
      historyStep codec host (exitRun codec db ops) (hostHistory codec host db ops) op := by
  unfold hostHistory
  rw [run_append]
  change historyStep codec host (run (trackedStep codec host) (db, .unregistered) ops).1 _ op = _
  rw [run_trackedStep_fst]

/-- The hosts the finality pass deletes for having exhausted their budget. -/
def neverSeenDeletes (db : WalletDb) (now : Int) (probe : String → Option HostTxProbe) :
    List String :=
  match db.offchainVtxoSnapshot with
  | none => []
  | some snapshot =>
    (reconcileHostTxFinalityState codec snapshot db.hostTxObservations
      db.pendingExitDeductions db.vtxoExitRecords now probe).deleteTxids

variable {snapshot : OffchainVtxoSnapshot}

section StoredPass

variable (db : WalletDb) (now : Int) (probe : String → Option HostTxProbe)

theorem mem_neverSeenDeletes :
    host ∈ neverSeenDeletes codec db now probe ↔
      db.hostTxObservations[host]?.any
        (neverSeenExpires now (storedAnswer codec host db probe)) = true := by
  unfold neverSeenDeletes storedAnswer
  cases db.offchainVtxoSnapshot with
  | none => cases db.hostTxObservations[host]? <;> simp [neverSeenExpires]
  | some snapshot => exact mem_reconcileHostTxFinalityState_deleteTxids _ _ _ _ _ _ _ _

variable {host db} in
/-- A host whose observation is not final is probed. -/
theorem storedAnswer_of_observed {record : HostTxObservationRecord}
    (hsnapshot : db.offchainVtxoSnapshot = some snapshot)
    (hrecord : db.hostTxObservations[host]? = some record)
    (hconfirmations : record.confirmations < unilateralExitHostTxConfirmations) :
    storedAnswer codec host db probe = probe host := by
  simp only [storedAnswer, hsnapshot, Option.bind_some]
  exact hostAnswer_of_observed codec snapshot _ _ _ probe hrecord hconfirmations

/-- A pass drops an observation or updates it by the probe. -/
theorem reconcile_observation_cases :
    (exitStep codec db (.reconcile now probe)).hostTxObservations[host]? = none ∨
      ∃ record, db.hostTxObservations[host]? = some record ∧
        neverSeenExpires now (storedAnswer codec host db probe) record = false ∧
        (exitStep codec db (.reconcile now probe)).hostTxObservations[host]? =
          some (probedObservation now (storedAnswer codec host db probe) record) := by
  unfold exitStep reconcileStoredFinality storedAnswer
  cases db.offchainVtxoSnapshot with
  | none =>
    cases db.hostTxObservations[host]? with
    | none => exact Or.inl rfl
    | some record => exact Or.inr ⟨record, rfl, rfl, rfl⟩
  | some snapshot =>
    dsimp only [Option.bind_some]
    rw [getElem?_reconcileHostTxFinalityState_observations]
    cases db.hostTxObservations[host]? with
    | none => exact Or.inl rfl
    | some record =>
      rw [Option.bind_some]
      split
      · exact Or.inl rfl
      · rename_i hkept
        exact Or.inr ⟨record, rfl, by simpa using (not_or.mp hkept).1, rfl⟩

variable {host db now probe} in
/-- A pass keeps an observation with budget left whose host has something left to do. -/
theorem reconcile_observation_of_kept {record : HostTxObservationRecord}
    (hsnapshot : db.offchainVtxoSnapshot = some snapshot)
    (hrecord : db.hostTxObservations[host]? = some record)
    (hkept : neverSeenExpires now (storedAnswer codec host db probe) record = false)
    (hunspent : observationAllSnapshotVoutsSpent snapshot host = false)
    (hlive : observationAllRecordsTerminal db.vtxoExitRecords host = false) :
    (exitStep codec db (.reconcile now probe)).hostTxObservations[host]? =
      some (probedObservation now (storedAnswer codec host db probe) record) := by
  unfold exitStep reconcileStoredFinality
  simp only [storedAnswer, hsnapshot, Option.bind_some] at hkept ⊢
  simp [getElem?_reconcileHostTxFinalityState_observations, hrecord, hkept, hunspent, hlive]

theorem getElem?_reconcile_records (key : String) :
    (exitStep codec db (.reconcile now probe)).vtxoExitRecords[key]? =
      db.vtxoExitRecords[key]?.map fun record => { record with
        phase := reconciledPhase now (decide (record.hostTxid ∈ storedStampable codec db))
          (storedAnswer codec record.hostTxid db probe)
          db.hostTxObservations[record.hostTxid]? record.phase } := by
  unfold exitStep reconcileStoredFinality storedAnswer storedStampable
  cases hsnapshot : db.offchainVtxoSnapshot with
  | none =>
    have hany : ∀ observation : Option HostTxObservationRecord,
        observation.any (neverSeenExpires now none) = false := by
      rintro (_ | record) <;> rfl
    simp [reconciledPhase, probedPhase, hany]
  | some snapshot => exact getElem?_reconcileHostTxFinalityState_records _ _ _ _ _ _ _ _

variable {db now probe} in
/-- The pass that deletes a host drops its observation and puts its records that are not yet
unrolled back to `tagged`. -/
theorem reconcile_of_mem_neverSeenDeletes (hmem : host ∈ neverSeenDeletes codec db now probe) :
    (exitStep codec db (.reconcile now probe)).hostTxObservations[host]? = none ∧
      ∀ (key : String) (record : VtxoExitRecord), db.vtxoExitRecords[key]? = some record →
        record.hostTxid = host → record.phase.isPreUnroll = true →
        (exitStep codec db (.reconcile now probe)).vtxoExitRecords[key]? =
          some { record with phase := .tagged } := by
  obtain ⟨expired, hexpired, hexpires⟩ :=
    (Option.any_eq_true _ _).mp ((mem_neverSeenDeletes codec host db now probe).mp hmem)
  constructor
  · rcases reconcile_observation_cases codec host db now probe with
      hnone | ⟨before, hbefore, hkept, -⟩
    · exact hnone
    · cases hexpired.symm.trans hbefore
      cases hexpires.symm.trans hkept
  · rintro key record hrecord rfl hpre
    have hafter := getElem?_reconcile_records codec db now probe key
    rw [hafter, hrecord, Option.map_some]
    simp only [hexpired, reconciledPhase_of_expires hexpires _ hpre]

end StoredPass

structure ObservedHost (db : WalletDb) (host key : String)
    (observation : HostTxObservationRecord) (phase : VtxoExitPhase) : Prop where
  unspent : ∃ snapshot, db.offchainVtxoSnapshot = some snapshot ∧
    observationAllSnapshotVoutsSpent snapshot host = false
  observed : db.hostTxObservations[host]? = some observation
  recorded : ∃ record, db.vtxoExitRecords[key]? = some record ∧ record.hostTxid = host ∧
    record.phase = phase
  live : phase.isTerminal = false

section ObservedHost

variable {codec host} {db : WalletDb} {key : String} {observation : HostTxObservationRecord}
  {phase : VtxoExitPhase} (h : ObservedHost db host key observation phase)
  {probe : String → Option HostTxProbe}
include h

theorem ObservedHost.storedAnswer_eq
    (hconfirmations : observation.confirmations < unilateralExitHostTxConfirmations) :
    storedAnswer codec host db probe = probe host := by
  obtain ⟨snapshot, hsnapshot, -⟩ := h.unspent
  exact storedAnswer_of_observed codec probe hsnapshot h.observed hconfirmations

theorem ObservedHost.not_allTerminal :
    observationAllRecordsTerminal db.vtxoExitRecords host = false := by
  obtain ⟨record, hrecord, hhost, hphase⟩ := h.recorded
  rw [← Bool.not_eq_true, observationAllRecordsTerminal_iff]
  rintro ⟨-, hall⟩
  have hterminal := hall key record hrecord hhost
  rw [hphase, h.live] at hterminal
  cases hterminal

theorem ObservedHost.reconcile (codec : Codec) (now : Int) (probe : String → Option HostTxProbe)
    (phase' : VtxoExitPhase) {observation' : HostTxObservationRecord}
    (hconfirmations : observation.confirmations < unilateralExitHostTxConfirmations)
    (hkept : neverSeenExpires now (probe host) observation = false)
    (hobservation : probedObservation now (probe host) observation = observation')
    (hphase : ∀ stampable, probedPhase stampable (probe host) (some observation) phase = phase') :
    ObservedHost (exitStep codec db (.reconcile now probe)) host key observation' phase' := by
  obtain ⟨snapshot, hsnapshot, hunspent⟩ := h.unspent
  have hanswer : storedAnswer codec host db probe = probe host := h.storedAnswer_eq hconfirmations
  have hany : (some observation).any (neverSeenExpires now (probe host)) = false := hkept
  refine ⟨?_, ?_, ?_, ?_⟩
  · unfold exitStep reconcileStoredFinality
    rw [hsnapshot]
    refine ⟨_, rfl, ?_⟩
    rw [reconcileHostTxFinalityState_snapshot, observationAllSnapshotVoutsSpent_mapRows snapshot
      (fun row => stampedRow_txid _ _ row) (fun row => stampedRow_isSpent _ _ row)]
    exact hunspent
  · rw [reconcile_observation_of_kept codec hsnapshot h.observed (hanswer ▸ hkept) hunspent
      h.not_allTerminal, hanswer, hobservation]
  · obtain ⟨record, hrecord, hhost, hbefore⟩ := h.recorded
    rw [getElem?_reconcile_records, hrecord, Option.map_some]
    refine ⟨_, rfl, hhost, ?_⟩
    simp only [hhost, hanswer, h.observed, hbefore, reconciledPhase_of_kept hany]
    exact hphase _
  · rw [← hphase true, ← reconciledPhase_of_kept hany, isTerminal_reconciledPhase]
    exact h.live

end ObservedHost

/-- The counter and the two time gates of an observation, against the history of its host. -/
structure WithinBudget (history : HostHistory) (record : HostTxObservationRecord) : Prop where
  registered : history.registeredAt = some record.registeredAt
  zero_of_seen : (record.relayed || stepReachedConfirmation record.confirmations) = true →
    record.neverSeenProbes = 0
  lt_max : record.neverSeenProbes < hostTxNeverSeenMaxEligibleMisses
  counted : record.neverSeenProbes ≤ history.misses
  spaced : 0 < record.neverSeenProbes →
    record.registeredAt + hostTxNeverSeenFirstProbeAfterSecs +
        hostTxNeverSeenProbeSpacingSecs * ((record.neverSeenProbes : Int) - 1) ≤
      record.lastProbedAt

theorem zero_lt_maxEligibleMisses : 0 < hostTxNeverSeenMaxEligibleMisses := by decide

theorem withinBudget_freshlyRegistered (now : Int) :
    WithinBudget { registeredAt := some now, misses := 0, found := false }
      (.freshlyRegistered now) where
  registered := rfl
  zero_of_seen _ := rfl
  lt_max := zero_lt_maxEligibleMisses
  counted := Nat.le_refl 0
  spaced h := absurd h (Nat.lt_irrefl 0)

theorem saturatingSucc_of_lt {n : Nat} (h : n < hostTxNeverSeenMaxEligibleMisses) :
    saturatingSucc n = n + 1 := by
  have : n < 5 := h
  unfold saturatingSucc UInt32.size
  omega

section Budget

variable {history : HostHistory} {record : HostTxObservationRecord} {now : Int}

theorem WithinBudget.eligible_after (h : WithinBudget history record)
    (heligible : neverSeenMissIsEligible record now = true) :
    record.registeredAt + hostTxNeverSeenFirstProbeAfterSecs +
      hostTxNeverSeenProbeSpacingSecs * (record.neverSeenProbes : Int) ≤ now := by
  unfold neverSeenMissIsEligible at heligible
  by_cases hzero : record.neverSeenProbes = 0
  · simp only [hzero, if_true, decide_eq_true_eq] at heligible
    simpa [hzero] using heligible
  · simp only [hzero, if_false, decide_eq_true_eq] at heligible
    have hspaced := h.spaced (Nat.pos_of_ne_zero hzero)
    simp only [hostTxNeverSeenProbeSpacingSecs] at *
    omega

theorem WithinBudget.expires (h : WithinBudget history record) {answer : Option HostTxProbe}
    (hexpires : neverSeenExpires now answer record = true) :
    countsMiss now answer record = true ∧
      hostTxNeverSeenMaxEligibleMisses ≤ history.misses + 1 ∧
      record.registeredAt + 840 ≤ now := by
  cases answer with
  | none => cases hexpires
  | some answer =>
    simp only [neverSeenExpires, Bool.and_eq_true, decide_eq_true_eq] at hexpires
    obtain ⟨⟨hfound, hseen⟩, hmax⟩ := hexpires
    have hlt := h.lt_max
    have hcounted := h.counted
    by_cases heligible : neverSeenMissIsEligible record now = true
    · simp only [countAbsentProbe, heligible, if_true, saturatingSucc_of_lt h.lt_max] at hmax
      have hafter := h.eligible_after heligible
      simp only [hostTxNeverSeenMaxEligibleMisses, hostTxNeverSeenFirstProbeAfterSecs,
        hostTxNeverSeenProbeSpacingSecs] at *
      refine ⟨by simp [countsMiss, hfound, hseen, heligible], by omega, by omega⟩
    · simp only [countAbsentProbe, heligible, Bool.false_eq_true, if_false] at hmax
      exact absurd hmax (Nat.not_le.mpr hlt)

/-- A probe that does not exhaust the budget stays within it. -/
theorem WithinBudget.probed (h : WithinBudget history record) {answer : Option HostTxProbe}
    (hkept : neverSeenExpires now answer record = false) (found : Bool) :
    WithinBudget { history with
      misses := if countsMiss now answer record then history.misses + 1 else history.misses
      found } (probedObservation now answer record) := by
  cases answer with
  | none => exact ⟨h.registered, h.zero_of_seen, h.lt_max, h.counted, h.spaced⟩
  | some answer =>
    by_cases hfound : answer.found = true
    · have hcount : countsMiss now (some answer) record = false := by simp [countsMiss, hfound]
      simp only [probedObservation, hfound, if_true, hcount, Bool.false_eq_true, if_false]
      exact ⟨h.registered, fun _ => rfl, zero_lt_maxEligibleMisses, Nat.zero_le _,
        fun hpos => absurd hpos (Nat.lt_irrefl 0)⟩
    · by_cases hseen : (record.relayed || stepReachedConfirmation record.confirmations) = true
      · have hzero := h.zero_of_seen hseen
        have hcount : countsMiss now (some answer) record = false := by
          simp [countsMiss, hseen]
        simp only [probedObservation, hfound, hseen, if_true, hcount, Bool.false_eq_true, if_false]
        exact ⟨h.registered, fun _ => hzero, h.lt_max, h.counted,
          fun hpos => absurd hpos (by rw [hzero]; exact Nat.lt_irrefl 0)⟩
      · by_cases heligible : neverSeenMissIsEligible record now = true
        · have hcount : countsMiss now (some answer) record = true := by
            simp [countsMiss, hfound, hseen, heligible]
          have hafter := h.eligible_after heligible
          simp only [neverSeenExpires, hfound, hseen, countAbsentProbe, heligible, if_true,
            saturatingSucc_of_lt h.lt_max, Bool.not_false, Bool.true_and,
            decide_eq_false_iff_not] at hkept
          simp only [probedObservation, hfound, hseen, Bool.false_eq_true, if_false, hcount,
            if_true, countAbsentProbe, heligible, saturatingSucc_of_lt h.lt_max]
          refine ⟨h.registered, fun hlater => absurd hlater hseen, Nat.not_le.mp hkept,
            Nat.succ_le_succ h.counted, fun _ => ?_⟩
          simpa using hafter
        · have hcount : countsMiss now (some answer) record = false := by
            simp [countsMiss, heligible]
          simp only [probedObservation, hfound, hseen, Bool.false_eq_true, if_false, hcount,
            countAbsentProbe, heligible]
          exact ⟨h.registered, h.zero_of_seen, h.lt_max, h.counted, h.spaced⟩

end Budget

/-! ## Every run -/

/-- The observation of the host, if there is one, is within its budget. -/
def TrackedBudget (state : WalletDb × HostHistory) : Prop :=
  ∀ record, state.1.hostTxObservations[host]? = some record → WithinBudget state.2 record

variable {db : WalletDb}

/-- Only a prefetch and a sync change the stored exit materials. -/
theorem exitStep_materials {op : ExitOp} (hupdate : ∀ materials, op ≠ .updateMaterials materials)
    (hset : ∀ snapshot, op ≠ .setSnapshot snapshot) :
    (exitStep codec db op).offchainVtxoSnapshot.map
        OffchainVtxoSnapshot.unilateralExitMaterialsByHostTx =
      db.offchainVtxoSnapshot.map OffchainVtxoSnapshot.unilateralExitMaterialsByHostTx := by
  cases op with
  | tag selectedLeaves now =>
    rw [exitStep_tag]
    split <;> rfl
  | untag selectedLeaves =>
    rw [exitStep_untag]
    split <;> rfl
  | reconcile now probe =>
    unfold exitStep reconcileStoredFinality
    cases hsnapshot : db.offchainVtxoSnapshot with
    | none =>
      dsimp only
      rw [hsnapshot]
    | some snapshot =>
      dsimp only
      rw [reconcileHostTxFinalityState_snapshot]
      rfl
  | stampAspSwept autonomousMode marked =>
    unfold exitStep stampStoredAspSwept
    dsimp only
    split <;> rfl
  | updateMaterials materials => exact absurd rfl (hupdate materials)
  | setSnapshot snapshot => exact absurd rfl (hset snapshot)
  | registerHost | advance | completeReady | markExited | noteSpent | stampFundingLost | heal
  | rewind | setPending => rfl

theorem exitStep_observations {op : ExitOp}
    (hregister : ∀ hostTxid now, op ≠ .registerHost hostTxid now)
    (hreconcile : ∀ now probe, op ≠ .reconcile now probe) :
    (exitStep codec db op).hostTxObservations = db.hostTxObservations := by
  cases op with
  | tag selectedLeaves now =>
    rw [exitStep_tag]
    split <;> rfl
  | untag selectedLeaves =>
    rw [exitStep_untag]
    split <;> rfl
  | registerHost hostTxid now => exact absurd rfl (hregister hostTxid now)
  | reconcile now probe => exact absurd rfl (hreconcile now probe)
  | stampAspSwept autonomousMode marked =>
    unfold exitStep stampStoredAspSwept
    dsimp only
    split <;> rfl
  | advance | completeReady | markExited | noteSpent | stampFundingLost | heal | rewind
  | updateMaterials | setSnapshot | setPending => rfl

theorem trackedStep_budget (op : ExitOp) (h : TrackedBudget host state) :
    TrackedBudget host (trackedStep codec host state op) := by
  obtain ⟨db, history⟩ := state
  intro after hafter
  cases op with
  | registerHost hostTxid now =>
    simp only [trackedStep, exitStep, registerHostTxObservation, insertHostTxObservation,
      historyStep, BTreeMap.getElem?_insert_eq_ite] at hafter ⊢
    by_cases hhost : hostTxid = host
    · simp only [hhost, if_true, Option.some.injEq] at hafter ⊢
      subst hafter
      exact withinBudget_freshlyRegistered now
    · simp only [hhost, if_false] at hafter ⊢
      exact h after hafter
  | reconcile now probe =>
    rcases reconcile_observation_cases codec host db now probe with
      hnone | ⟨record, hrecord, hkept, hprobed⟩
    · cases hnone.symm.trans hafter
    · cases hprobed.symm.trans hafter
      simp only [trackedStep, historyStep, hrecord]
      exact (h record hrecord).probed hkept _
  | tag | untag | advance | completeReady | markExited | noteSpent | stampFundingLost
  | stampAspSwept | heal | rewind | updateMaterials | setSnapshot | setPending =>
    refine h after ?_
    rw [← hafter]
    exact (congrArg (·[host]?) (exitStep_observations codec (by simp) (by simp))).symm

theorem exitRun_withinBudget (db : WalletDb) (ops : List ExitOp) {record : HostTxObservationRecord}
    (hrecord : (exitRun codec db.withoutObservations ops).hostTxObservations[host]? = some record) :
    WithinBudget (hostHistory codec host db.withoutObservations ops) record := by
  refine run_invariant (TrackedBudget host) (trackedStep_budget codec host) ?_ ops record ?_
  · intro record hrecord
    simp [WalletDb.withoutObservations] at hrecord
  · rw [run_trackedStep_fst]
    exact hrecord

/-- What a finality pass over `before` may do to the budget of a host. The history includes
the pass, and `deletes` are the hosts the pass deletes. -/
structure NeverSeenPass (before after : WalletDb) (history : HostHistory)
    (deletes : List String) (host : String) (now : Int)
    (probe : String → Option HostTxProbe) : Prop where
  /-- A deletion comes at the fifth counted miss or later, 840 seconds after registration. -/
  timing : host ∈ deletes → ∃ registeredAt, history.registeredAt = some registeredAt ∧
    5 ≤ history.misses ∧ registeredAt + 840 ≤ now
  /-- A failed probe neither deletes nor counts. -/
  failed : probe host = none → host ∉ deletes ∧
    ∀ record, after.hostTxObservations[host]? = some record →
      before.hostTxObservations[host]? = some record
  /-- One pass counts at most one miss. -/
  once : ∀ record updated, before.hostTxObservations[host]? = some record →
    after.hostTxObservations[host]? = some updated →
    updated.neverSeenProbes ≤ record.neverSeenProbes + 1
  /-- An absence inside the grace period or the spacing changes nothing. -/
  early : ∀ record answer, before.hostTxObservations[host]? = some record →
    probe host = some answer → answer.found = false →
    record.relayed = false → record.confirmations = 0 →
    (record.neverSeenProbes = 0 → now < record.registeredAt + 600) →
    (0 < record.neverSeenProbes → now < record.lastProbedAt + 60) →
    host ∉ deletes ∧ ∀ updated, after.hostTxObservations[host]? = some updated →
      updated = record
  /-- A deletion drops the observation and puts the host's records back to `tagged`. -/
  rewinds : host ∈ deletes → after.hostTxObservations[host]? = none ∧
    ∀ (key : String) (record : VtxoExitRecord), before.vtxoExitRecords[key]? = some record →
      record.hostTxid = host → record.phase.isPreUnroll = true →
      ∃ updated, after.vtxoExitRecords[key]? = some updated ∧ updated.phase = .tagged
  /-- Only a deletion puts a record of the host back to `tagged`. -/
  rewound_only : ∀ (key : String) (record updated : VtxoExitRecord),
    before.vtxoExitRecords[key]? = some record → after.vtxoExitRecords[key]? = some updated →
    record.hostTxid = host → record.phase ≠ .tagged → updated.phase = .tagged →
    host ∈ deletes

variable {probe : String → Option HostTxProbe}

theorem storedAnswer_eq_some
    {answer : HostTxProbe} (h : storedAnswer codec host db probe = some answer) :
    probe host = some answer := by
  obtain ⟨snapshot, -, hanswer⟩ := Option.bind_eq_some_iff.mp h
  unfold hostAnswer answerIn at hanswer
  split at hanswer
  · exact hanswer
  · cases hanswer

theorem probedObservation_probes_le (now : Int) (answer : Option HostTxProbe)
    (record : HostTxObservationRecord) :
    (probedObservation now answer record).neverSeenProbes ≤ record.neverSeenProbes + 1 := by
  cases answer with
  | none => exact Nat.le_succ _
  | some answer =>
    unfold probedObservation
    dsimp only
    split
    · exact Nat.zero_le _
    · split
      · exact Nat.le_succ _
      · unfold countAbsentProbe
        split
        · exact Nat.min_le_left _ _
        · exact Nat.le_succ _

theorem probedObservation_of_not_eligible {now : Int} {answer : HostTxProbe}
    {record : HostTxObservationRecord} (hfound : answer.found = false)
    (hseen : (record.relayed || stepReachedConfirmation record.confirmations) = false)
    (heligible : neverSeenMissIsEligible record now = false) :
    probedObservation now (some answer) record = record := by
  simp [probedObservation, hfound, hseen, countAbsentProbe, heligible]

/-- A pass over an observation that is within its budget. -/
theorem neverSeenPass_of_withinBudget (db : WalletDb) (history : HostHistory) (now : Int)
    (probe : String → Option HostTxProbe) (hbudget : TrackedBudget host (db, history)) :
    NeverSeenPass db (exitStep codec db (.reconcile now probe))
      (historyStep codec host db history (.reconcile now probe))
      (neverSeenDeletes codec db now probe) host now probe := by
  have hdeletes : host ∈ neverSeenDeletes codec db now probe → ∃ record,
      db.hostTxObservations[host]? = some record ∧
        neverSeenExpires now (storedAnswer codec host db probe) record = true := by
    intro hmem
    exact (Option.any_eq_true _ _).mp ((mem_neverSeenDeletes codec host db now probe).mp hmem)
  constructor
  case timing =>
    intro hmem
    obtain ⟨record, hrecord, hexpires⟩ := hdeletes hmem
    have hwithin := hbudget record hrecord
    obtain ⟨hcounts, hmisses, htime⟩ := hwithin.expires hexpires
    refine ⟨record.registeredAt, ?_, ?_, htime⟩
    · simp only [historyStep, hrecord]
      exact hwithin.registered
    · simp only [historyStep, hrecord, hcounts, if_true]
      exact hmisses
  case failed =>
    intro hprobe
    have hanswer : storedAnswer codec host db probe = none := by
      cases h : storedAnswer codec host db probe with
      | none => rfl
      | some answer => cases hprobe.symm.trans (storedAnswer_eq_some codec host h)
    constructor
    · intro hmem
      obtain ⟨record, -, hexpires⟩ := hdeletes hmem
      rw [hanswer] at hexpires
      cases hexpires
    · intro record hafter
      rcases reconcile_observation_cases codec host db now probe with
        hnone | ⟨before, hbefore, -, hupdated⟩
      · cases hnone.symm.trans hafter
      · rw [hanswer] at hupdated
        cases hupdated.symm.trans hafter
        exact hbefore
  case once =>
    intro record updated hrecord hafter
    rcases reconcile_observation_cases codec host db now probe with
      hnone | ⟨before, hbefore, -, hupdated⟩
    · cases hnone.symm.trans hafter
    · cases hrecord.symm.trans hbefore
      cases hupdated.symm.trans hafter
      exact probedObservation_probes_le now _ record
  case early =>
    intro record answer hrecord hprobe hfound hrelayed hconfirmations hgrace hspacing
    have hseen : (record.relayed || stepReachedConfirmation record.confirmations) = false := by
      rw [hrelayed, hconfirmations]
      rfl
    have heligible : neverSeenMissIsEligible record now = false := by
      unfold neverSeenMissIsEligible
      split
      · rename_i hzero
        exact decide_eq_false (Int.not_le.mpr (hgrace hzero))
      · rename_i hpos
        exact decide_eq_false (Int.not_le.mpr (hspacing (Nat.pos_of_ne_zero hpos)))
    have hkept : ∀ given, storedAnswer codec host db probe = given →
        probedObservation now given record = record ∧
          neverSeenExpires now given record = false := by
      rintro (_ | given) hgiven
      · exact ⟨rfl, rfl⟩
      · cases hprobe.symm.trans (storedAnswer_eq_some codec host hgiven)
        refine ⟨probedObservation_of_not_eligible hfound hseen heligible, ?_⟩
        have hlt := (hbudget record hrecord).lt_max
        simp [neverSeenExpires, hfound, hseen, countAbsentProbe, heligible, hlt]
    obtain ⟨hsame, hexpires⟩ := hkept _ rfl
    constructor
    · intro hmem
      obtain ⟨expired, hexpired, hexpires'⟩ := hdeletes hmem
      cases hrecord.symm.trans hexpired
      rw [hexpires] at hexpires'
      cases hexpires'
    · intro updated hafter
      rcases reconcile_observation_cases codec host db now probe with
        hnone | ⟨before, hbefore, -, hupdated⟩
      · cases hnone.symm.trans hafter
      · cases hrecord.symm.trans hbefore
        cases hupdated.symm.trans hafter
        exact hsame
  case rewinds =>
    intro hmem
    obtain ⟨hnone, hrewound⟩ := reconcile_of_mem_neverSeenDeletes codec host hmem
    exact ⟨hnone, fun key record hrecord hhost hpre =>
      ⟨_, hrewound key record hrecord hhost hpre, rfl⟩⟩
  case rewound_only =>
    rintro key record updated hrecord hafter rfl hne htagged
    have hlookup := getElem?_reconcile_records codec db now probe key
    rw [hrecord] at hlookup
    cases hlookup.symm.trans hafter
    rw [mem_neverSeenDeletes]
    by_contra hkept
    rw [Bool.not_eq_true] at hkept
    simp only [reconciledPhase_of_kept hkept] at htagged
    exact probedPhase_ne_tagged _ _ _ hne htagged

/-- The never-seen rule, over every run that starts with no host registered: whatever the run
did before, its next finality pass obeys `NeverSeenPass`. -/
theorem neverSeen_budget_contract (codec : Codec) (db : WalletDb) (ops : List ExitOp)
    (host : String) (now : Int) (probe : String → Option HostTxProbe) :
    NeverSeenPass (exitRun codec db.withoutObservations ops)
      (exitRun codec db.withoutObservations (ops ++ [.reconcile now probe]))
      (hostHistory codec host db.withoutObservations (ops ++ [.reconcile now probe]))
      (neverSeenDeletes codec (exitRun codec db.withoutObservations ops) now probe)
      host now probe := by
  rw [exitRun_append, hostHistory_append_singleton]
  exact neverSeenPass_of_withinBudget codec host _ _ now probe
    fun record hrecord => exitRun_withinBudget codec host db ops hrecord

/-! ## Transactions that were found -/

/-- Registrations, finality passes and aborts, with whatever syncs do to the snapshot and the
pending deductions meanwhile. -/
def ExitOp.isBudgetOp : ExitOp → Bool
  | .registerHost .. | .advance .. | .reconcile .. | .untag .. | .updateMaterials ..
  | .setSnapshot .. | .setPending .. => true
  | _ => false

/-- The operation is no finality pass that probes as absent a transaction whose observation
says it is on the network. -/
def LosesNone (codec : Codec) (db : WalletDb) : ExitOp → Prop
  | .reconcile _ probe => ∀ (host : String) (record : HostTxObservationRecord),
      db.hostTxObservations[host]? = some record →
      (record.relayed || stepReachedConfirmation record.confirmations) = true →
      ∀ answer, storedAnswer codec host db probe = some answer → answer.found = true
  | _ => True

/-- What is kept of a host that a probe found since its last registration: an observation that
still says so, if there is one, and no record that is merely `tagged`. -/
structure FoundKept (db : WalletDb) : Prop where
  seen : ∀ record, db.hostTxObservations[host]? = some record →
    (record.relayed || stepReachedConfirmation record.confirmations) = true
  advanced : ∀ (key : String) (record : VtxoExitRecord), db.vtxoExitRecords[key]? = some record →
    record.hostTxid = host → record.phase ≠ .tagged

/-- A pass that finds the transaction, or that keeps a found one, keeps it found. -/
theorem foundKept_reconcile {now : Int} (hguard : LosesNone codec db (.reconcile now probe))
    (h : FoundKept host db ∨ (db.hostTxObservations[host]? ≠ none ∧
      (storedAnswer codec host db probe).any HostTxProbe.found = true)) :
    FoundKept host (exitStep codec db (.reconcile now probe)) := by
  -- Either way the pass does not see the transaction absent, so nothing expires.
  have hanswer : ∀ record, db.hostTxObservations[host]? = some record →
      ∀ answer, storedAnswer codec host db probe = some answer → answer.found = true := by
    intro record hrecord answer hanswer
    rcases h with hkept | ⟨-, hfound⟩
    · exact hguard host record hrecord (hkept.seen record hrecord) answer hanswer
    · simpa [hanswer] using hfound
  have hexpires : db.hostTxObservations[host]?.any
      (neverSeenExpires now (storedAnswer codec host db probe)) = false := by
    cases hrecord : db.hostTxObservations[host]? with
    | none => rfl
    | some record =>
      cases hgiven : storedAnswer codec host db probe with
      | none => rfl
      | some answer => simp [neverSeenExpires, hanswer record hrecord answer hgiven]
  constructor
  · intro updated hupdated
    rcases reconcile_observation_cases codec host db now probe with
      hnone | ⟨record, hrecord, -, hprobed⟩
    · cases hnone.symm.trans hupdated
    · cases hprobed.symm.trans hupdated
      cases hgiven : storedAnswer codec host db probe with
      | some answer =>
        simp [probedObservation, hanswer record hrecord answer hgiven]
      | none =>
        rcases h with hkept | ⟨-, hfound⟩
        · exact hkept.seen record hrecord
        · simp [hgiven] at hfound
  · rintro key updated hupdated rfl
    have hlookup := getElem?_reconcile_records codec db now probe key
    cases hrecord : db.vtxoExitRecords[key]? with
    | none =>
      rw [hrecord] at hlookup
      cases hlookup.symm.trans hupdated
    | some record =>
      rw [hrecord] at hlookup
      cases hlookup.symm.trans hupdated
      simp only [reconciledPhase_of_kept hexpires]
      rcases h with hkept | ⟨hobs, hfound⟩
      · exact probedPhase_ne_tagged _ _ _ (hkept.advanced key record hrecord rfl)
      · -- Found just now: the observation lifts every record of the host.
        obtain ⟨observation, hobservation⟩ := Option.ne_none_iff_exists'.mp hobs
        obtain ⟨answer, hgiven, hanswered⟩ := (Option.any_eq_true _ _).mp hfound
        simp only [hobservation, hgiven, probedPhase, hanswered, if_true]
        exact observedPhase_ne_tagged _ _ _

theorem FoundKept.mono {host : String} {db db' : WalletDb} (h : FoundKept host db)
    (hobs : db'.hostTxObservations[host]? = db.hostTxObservations[host]?)
    (hrecords : ∀ (key : String) (record : VtxoExitRecord),
      db'.vtxoExitRecords[key]? = some record → db.vtxoExitRecords[key]? = some record) :
    FoundKept host db' where
  seen record hrecord := h.seen record (hobs ▸ hrecord)
  advanced key record hrecord := h.advanced key record (hrecords key record hrecord)

theorem trackedStep_found (op : ExitOp) (hop : op.isBudgetOp = true ∧ LosesNone codec state.1 op)
    (h : state.2.found = true → FoundKept host state.1) :
    (trackedStep codec host state op).2.found = true →
      FoundKept host (trackedStep codec host state op).1 := by
  obtain ⟨db, history⟩ := state
  obtain ⟨hbudget, hguard⟩ := hop
  intro hfound
  cases op with
  | registerHost hostTxid now =>
    by_cases hhost : hostTxid = host
    · simp [trackedStep, historyStep, hhost] at hfound
    · simp only [trackedStep, historyStep, hhost, if_false] at hfound
      refine (h hfound).mono ?_ fun _ _ hrecord => hrecord
      simp [trackedStep, exitStep, registerHostTxObservation, insertHostTxObservation, hhost]
  | advance hostTxid =>
    refine ⟨(h hfound).seen, ?_⟩
    intro key record hrecord hhost
    simp only [trackedStep, exitStep, advanceRegisteredHost,
      getElem?_advanceRecordsForHostRegistered, Option.map_eq_some_iff] at hrecord
    obtain ⟨before, hbefore, rfl⟩ := hrecord
    unfold advanceRecordForHostRegistered at hhost ⊢
    split
    · exact VtxoExitPhase.noConfusion
    · rename_i hkept
      rw [if_neg hkept] at hhost
      exact (h hfound).advanced key before hbefore hhost
  | reconcile now probe =>
    refine foundKept_reconcile codec host hguard ?_
    simp only [trackedStep, historyStep] at hfound
    cases hrecord : db.hostTxObservations[host]? with
    | none =>
      rw [hrecord] at hfound
      exact Or.inl (h hfound)
    | some record =>
      rw [hrecord] at hfound
      rcases Bool.or_eq_true_iff.mp hfound with hbefore | hnow
      · exact Or.inl (h hbefore)
      · exact Or.inr ⟨Option.some_ne_none record, hnow⟩
  | untag selectedLeaves =>
    refine (h hfound).mono ?_ ?_
    · exact congrArg (·[host]?) (exitStep_observations codec (by simp) (by simp))
    · intro key record hrecord
      have hchange := exitStep_untag codec db selectedLeaves
      simp only [trackedStep, hchange] at hrecord
      split at hrecord
      · exact hrecord
      · rcases untagUnilateralExitPlanIfSafeInRecords_cases codec _ selectedLeaves
          db.vtxoExitRecords db.hostTxObservations key with hsame | ⟨_, -, hnone, -⟩
        · exact hsame.symm.trans hrecord
        · cases hnone.symm.trans hrecord
  | updateMaterials | setSnapshot | setPending =>
    exact (h hfound).mono rfl fun _ _ hrecord => hrecord
  | tag | completeReady | markExited | noteSpent | stampFundingLost | stampAspSwept | heal
  | rewind => cases hbudget

theorem runMeets_trackedStep {guard : WalletDb → ExitOp → Prop} {ops : List ExitOp}
    (h : RunMeets (exitStep codec) guard state.1 ops) :
    RunMeets (trackedStep codec host) (fun state => guard state.1) state ops := by
  induction ops generalizing state with
  | nil => trivial
  | cons op ops ih => exact ⟨h.1, ih (trackedStep codec host state op) h.2⟩

/-- Along runs that never probe as absent a transaction whose observation says it is on the
network, a host that was found since its last registration is not deleted by the never-seen
rule, and no abort drops a record on it. -/
theorem neverSeen_spares_found (codec : Codec) (db : WalletDb) (ops : List ExitOp) (host : String)
    (hmeets : RunMeets (exitStep codec)
      (fun db op => op.isBudgetOp = true ∧ LosesNone codec db op) db.withoutObservations ops)
    (hfound : (hostHistory codec host db.withoutObservations ops).found = true) :
    (∀ now probe,
      LosesNone codec (exitRun codec db.withoutObservations ops) (.reconcile now probe) →
      host ∉ neverSeenDeletes codec (exitRun codec db.withoutObservations ops) now probe) ∧
    (∀ (selectedLeaves : List VirtualOutPoint) (key : String) (record : VtxoExitRecord),
      (exitRun codec db.withoutObservations ops).vtxoExitRecords[key]? = some record →
      record.hostTxid = host →
      (exitRun codec db.withoutObservations
        (ops ++ [.untag selectedLeaves])).vtxoExitRecords[key]? = some record) := by
  have hkept : FoundKept host (exitRun codec db.withoutObservations ops) := by
    have hrun := run_invariant_of_runMeets
      (fun state : WalletDb × HostHistory => state.2.found = true → FoundKept host state.1)
      (trackedStep_found codec host) (by intro h; cases h)
      (runMeets_trackedStep codec host (db.withoutObservations, .unregistered) hmeets) hfound
    rwa [run_trackedStep_fst] at hrun
  constructor
  · intro now probe hguard hmem
    rw [mem_neverSeenDeletes] at hmem
    obtain ⟨record, hrecord, hexpires⟩ := (Option.any_eq_true _ _).mp hmem
    have hseen := hkept.seen record hrecord
    cases hgiven : storedAnswer codec host (exitRun codec db.withoutObservations ops) probe with
    | none =>
        rw [hgiven] at hexpires
        cases hexpires
    | some answer =>
        rw [hgiven] at hexpires
        simp [neverSeenExpires, hguard host record hrecord hseen answer hgiven] at hexpires
  · intro selectedLeaves key record hrecord hhost
    rw [exitRun_append]
    change (exitStep codec _ (.untag selectedLeaves)).vtxoExitRecords[key]? = some record
    rw [exitStep_untag]
    split
    · exact hrecord
    · rcases untagUnilateralExitPlanIfSafeInRecords_cases codec _ selectedLeaves
        (exitRun codec db.withoutObservations ops).vtxoExitRecords
        (exitRun codec db.withoutObservations ops).hostTxObservations key with
        hsame | ⟨dropped, hdropped, -, htagged, -⟩
      · exact hsame.trans hrecord
      · cases hrecord.symm.trans hdropped
        exact absurd htagged (hkept.advanced key record hrecord hhost)

theorem found_run_trackedStep {state : WalletDb × HostHistory} (h : state.2.found = true)
    {ops : List ExitOp} (hops : ∀ op ∈ ops, ∀ hostTxid now, op ≠ .registerHost hostTxid now) :
    (run (trackedStep codec host) state ops).2.found = true := by
  induction ops generalizing state with
  | nil => exact h
  | cons op ops ih =>
    refine ih ?_ fun later hlater => hops later (List.mem_cons_of_mem op hlater)
    obtain ⟨db, history⟩ := state
    cases op with
    | registerHost hostTxid now =>
      exact absurd rfl (hops _ List.mem_cons_self hostTxid now)
    | reconcile now probe =>
      change (historyStep codec host db history (.reconcile now probe)).found = true
      unfold historyStep
      dsimp only
      split
      · exact h
      · simpa using Or.inl h
    | tag | untag | advance | completeReady | markExited | noteSpent | stampFundingLost
    | stampAspSwept | heal | rewind | updateMaterials | setSnapshot | setPending => exact h

def mempoolProbe (_txid : String) : Option HostTxProbe := some { seen := true, confirmations := 0 }

def absentProbe (_txid : String) : Option HostTxProbe :=
  some { seen := false, confirmations := 0 }

def sampleLeaf : VirtualOutPoint where
  txid := sampleHost
  vout := 0

def sampleKey : String := vtxoExitRecordKey sampleHost.text 0

def taggedSampleDb : WalletDb where
  offchainVtxoSnapshot := some sampleSnapshot
  pendingExitDeductions := []
  hostTxObservations := ∅
  vtxoExitRecords := BTreeMap.singleton sampleKey
    { phase := .tagged, taggedAt := 0, hostTxid := sampleHost.text, amountSats := 1000 }

def foundSampleOps : List ExitOp :=
  [.registerHost sampleHost.text 0, .advance sampleHost.text, .reconcile 10 mempoolProbe]

def lostSampleOps : List ExitOp :=
  [.reconcile 20 absentProbe, .reconcile 700 absentProbe, .reconcile 760 absentProbe,
    .reconcile 820 absentProbe, .reconcile 880 absentProbe]

theorem observedHost_sampleLeaf :
    ObservedHost
      (exitRun sampleCodec taggedSampleDb
        [.registerHost sampleHost.text 0, .advance sampleHost.text])
      sampleHost.text sampleKey (.freshlyRegistered 0) .hostBroadcastAttempted where
  unspent := by
    refine ⟨sampleSnapshot, rfl, ?_⟩
    simp [observationAllSnapshotVoutsSpent, sampleSnapshot, sampleRow]
  observed := by
    simp [exitRun, run, exitStep, registerHostTxObservation, advanceRegisteredHost,
      insertHostTxObservation]
  recorded := by
    simp [exitRun, run, exitStep, registerHostTxObservation, advanceRegisteredHost,
      taggedSampleDb, advanceRecordForHostRegistered]
  live := rfl

theorem observedHost_foundSample :
    ObservedHost (exitRun sampleCodec taggedSampleDb foundSampleOps) sampleHost.text sampleKey
      { registeredAt := 0, relayed := true, confirmations := 0, neverSeenProbes := 0,
        lastProbedAt := 10 } .hostRelayed :=
  observedHost_sampleLeaf.reconcile sampleCodec 10 mempoolProbe .hostRelayed (by decide) rfl rfl
    (by decide)

theorem found_foundSample :
    (hostHistory sampleCodec sampleHost.text taggedSampleDb foundSampleOps).found = true := by
  have hops : foundSampleOps =
      [.registerHost sampleHost.text 0, .advance sampleHost.text] ++
        [.reconcile 10 mempoolProbe] := rfl
  rw [hops, hostHistory_append_singleton]
  simp only [historyStep, observedHost_sampleLeaf.observed,
    observedHost_sampleLeaf.storedAnswer_eq (by decide)]
  exact Bool.or_true _

theorem observedHost_lostSample :
    ObservedHost (exitRun sampleCodec taggedSampleDb (foundSampleOps ++ lostSampleOps))
      sampleHost.text sampleKey
      { registeredAt := 0, relayed := false, confirmations := 0, neverSeenProbes := 4,
        lastProbedAt := 880 } .hostBroadcastAttempted := by
  have h20 := observedHost_foundSample.reconcile sampleCodec 20 absentProbe
    .hostBroadcastAttempted (by decide) rfl rfl (by decide)
  have h700 := h20.reconcile sampleCodec 700 absentProbe .hostBroadcastAttempted (by decide) rfl
    rfl (by decide)
  have h760 := h700.reconcile sampleCodec 760 absentProbe .hostBroadcastAttempted (by decide) rfl
    rfl (by decide)
  have h820 := h760.reconcile sampleCodec 820 absentProbe .hostBroadcastAttempted (by decide) rfl
    rfl (by decide)
  rw [exitRun_append]
  exact h820.reconcile sampleCodec 880 absentProbe .hostBroadcastAttempted (by decide) rfl rfl
    (by decide)

theorem exitRun_sampleMaterials (db : WalletDb)
    (hdb : db.offchainVtxoSnapshot = some sampleSnapshot) (ops : List ExitOp)
    (hops : ∀ op ∈ ops, (∀ materials, op ≠ .updateMaterials materials) ∧
      ∀ snapshot, op ≠ .setSnapshot snapshot) :
    ∃ snapshot, (exitRun sampleCodec db ops).offchainVtxoSnapshot = some snapshot ∧
      snapshot.unilateralExitMaterialsByHostTx =
        BTreeMap.singleton sampleHost.text sampleMaterials := by
  have hkept : ∀ db : WalletDb, (exitRun sampleCodec db ops).offchainVtxoSnapshot.map
        OffchainVtxoSnapshot.unilateralExitMaterialsByHostTx =
      db.offchainVtxoSnapshot.map OffchainVtxoSnapshot.unilateralExitMaterialsByHostTx := by
    induction ops with
    | nil => exact fun db => rfl
    | cons op ops ih =>
      intro db
      obtain ⟨hupdate, hset⟩ := hops op List.mem_cons_self
      exact (ih (fun later hlater => hops later (List.mem_cons_of_mem op hlater)) _).trans
        (exitStep_materials sampleCodec hupdate hset)
  refine Option.map_eq_some_iff.mp ((hkept db).trans ?_)
  rw [hdb]
  rfl

theorem materialsForUnrollHostTx_sample (h : snapshot.unilateralExitMaterialsByHostTx =
      BTreeMap.singleton sampleHost.text sampleMaterials) :
    materialsForUnrollHostTx sampleCodec snapshot sampleLeaf.txid.text = some sampleMaterials := by
  simp [materialsForUnrollHostTx, snapshotMaterialsForHostTx, h, sampleLeaf]

theorem vtxoChainsFromJson_sampleMaterials :
    vtxoChainsFromJson sampleCodec sampleMaterials.chainJson = .ok sampleChains :=
  vtxoChainsFromJson_sample

theorem untag_drops_leaf {codec : Codec} {leaf : VirtualOutPoint}
    {materials : UnilateralExitMaterialsRecord} {chains : VtxoChains} {record : VtxoExitRecord}
    {key : String} (hsnapshot : db.offchainVtxoSnapshot = some snapshot)
    (hmaterials : materialsForUnrollHostTx codec snapshot leaf.txid.text = some materials)
    (hchains : vtxoChainsFromJson codec materials.chainJson = .ok chains)
    (hkey : vtxoExitRecordKey leaf.txid.text leaf.vout = key)
    (hrecord : db.vtxoExitRecords[key]? = some record) (htagged : record.phase = .tagged)
    (hobs : db.hostTxObservations[record.hostTxid]? = none) :
    (exitStep codec db (.untag [leaf])).vtxoExitRecords[key]? = none := by
  obtain ⟨relevant, hrelevant, hmem⟩ :=
    planRelevantOutpointKeys_of_ok (taggedTargets_singleton hmaterials hchains)
  have hrelevantKey : key ∈ relevant :=
    hkey ▸ (hmem _).mpr (exists_target_of_mem_selectedLeaves (List.mem_singleton.mpr rfl))
  rw [exitStep_untag, hsnapshot]
  dsimp only
  rw [getElem?_untagUnilateralExitPlanIfSafeInRecords (List.cons_ne_nil _ _) hrelevant, hrecord,
    Option.filter_eq_none_iff]
  rintro _ ⟨⟩
  rw [Bool.not_eq_true, survivesUntag_eq_false]
  exact ⟨hrelevantKey, htagged, hobs⟩

theorem losesNone_mempoolProbe (db : WalletDb) (now : Int) :
    LosesNone codec db (.reconcile now mempoolProbe) := by
  intro host record _ _ answer hanswer
  cases storedAnswer_eq_some codec host hanswer
  rfl

/-- The sample host, found once, is not deleted by the next pass that finds it again, and an
abort keeps its row. -/
theorem neverSeen_spares_found_sample :
    sampleHost.text ∉ neverSeenDeletes sampleCodec
      (exitRun sampleCodec taggedSampleDb.withoutObservations foundSampleOps) 20 mempoolProbe ∧
    ∃ record,
      (exitRun sampleCodec taggedSampleDb.withoutObservations
        (foundSampleOps ++ [.untag [sampleLeaf]])).vtxoExitRecords[sampleKey]? = some record := by
  have hmeets : RunMeets (exitStep sampleCodec)
      (fun db op => op.isBudgetOp = true ∧ LosesNone sampleCodec db op)
      taggedSampleDb.withoutObservations foundSampleOps :=
    ⟨⟨rfl, trivial⟩, ⟨rfl, trivial⟩, ⟨rfl, losesNone_mempoolProbe _ _ _⟩, trivial⟩
  obtain ⟨hkept, hlocked⟩ := neverSeen_spares_found sampleCodec taggedSampleDb foundSampleOps
    sampleHost.text hmeets found_foundSample
  obtain ⟨record, hrecord, hhost, -⟩ := observedHost_foundSample.recorded
  exact ⟨hkept 20 mempoolProbe (losesNone_mempoolProbe _ _ _),
    record, hlocked [sampleLeaf] sampleKey record hrecord hhost⟩

/-- The fifth counted miss deletes a transaction that was found, and the abort that follows
drops its row. -/
theorem neverSeen_deletes_found :
    (hostHistory sampleCodec sampleHost.text taggedSampleDb.withoutObservations
      (foundSampleOps ++ lostSampleOps)).found = true ∧
    sampleHost.text ∈ neverSeenDeletes sampleCodec
      (exitRun sampleCodec taggedSampleDb.withoutObservations (foundSampleOps ++ lostSampleOps))
      940 absentProbe ∧
    (exitRun sampleCodec taggedSampleDb.withoutObservations
      (foundSampleOps ++ lostSampleOps ++ [.reconcile 940 absentProbe])).vtxoExitRecords[sampleKey]?
        ≠ none ∧
    (exitRun sampleCodec taggedSampleDb.withoutObservations
      (foundSampleOps ++ lostSampleOps ++ [.reconcile 940 absentProbe, .untag [sampleLeaf]]
        )).vtxoExitRecords[sampleKey]? = none := by
  -- The wallet starts with no observation, so nothing is dropped from it.
  have hstart : taggedSampleDb.withoutObservations = taggedSampleDb := rfl
  have hmem : sampleHost.text ∈ neverSeenDeletes sampleCodec
      (exitRun sampleCodec taggedSampleDb (foundSampleOps ++ lostSampleOps)) 940 absentProbe := by
    rw [mem_neverSeenDeletes, observedHost_lostSample.storedAnswer_eq (by decide),
      observedHost_lostSample.observed]
    rfl
  obtain ⟨hobs, hrewound⟩ := reconcile_of_mem_neverSeenDeletes sampleCodec sampleHost.text hmem
  obtain ⟨record, hrecord, hhost, hphase⟩ := observedHost_lostSample.recorded
  have hafter := hrewound sampleKey record hrecord hhost (by rw [hphase]; rfl)
  rw [hstart, exitRun_append _ _ _ [_], exitRun_cons, exitRun_nil, exitRun_append _ _ _ [_, _],
    exitRun_cons, exitRun_cons, exitRun_nil]
  refine ⟨?_, hmem, ?_, ?_⟩
  · unfold hostHistory
    rw [run_append]
    exact found_run_trackedStep _ _ found_foundSample (by simp [lostSampleOps])
  · intro hnone
    cases hafter.symm.trans hnone
  · obtain ⟨snapshot, hsnapshot, hmaterials⟩ := exitRun_sampleMaterials
      taggedSampleDb rfl (foundSampleOps ++ lostSampleOps ++ [.reconcile 940 absentProbe])
      (by simp [foundSampleOps, lostSampleOps])
    rw [exitRun_append, exitRun_cons, exitRun_nil] at hsnapshot
    have hunobserved : (exitStep sampleCodec (exitRun sampleCodec taggedSampleDb
        (foundSampleOps ++ lostSampleOps)) (.reconcile 940 absentProbe)).hostTxObservations[
          record.hostTxid]? = none := by
      rw [hhost]
      exact hobs
    exact untag_drops_leaf hsnapshot (materialsForUnrollHostTx_sample hmaterials)
      vtxoChainsFromJson_sampleMaterials rfl hafter rfl hunobserved

end Bitboard.Arkade
