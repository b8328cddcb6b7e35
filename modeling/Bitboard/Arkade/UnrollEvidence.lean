/-
# Unrolled rows and their evidence

The operator's indexer sets `is_unrolled` as soon as it sees a virtual transaction on
chain. The wallet does not take its word: after a sync every unrolled row that is not
spent has evidence of the wallet's own. In the other direction the wallet does not lose
a row that it is exiting: a confirmed record whose outpoint nobody reports spent has a
row after every sync.
-/

import Bitboard.Arkade.OperatorSyncRows

namespace Bitboard.Arkade

open Bitboard.Lib

/-- The wallet's own evidence that a host transaction was unrolled: a final observation, a
record past the unroll on that host or at one of its outputs, or a probe that found it. -/
def HasUnrollEvidence (answers : SyncAnswers) (db : WalletDb) (host : String) : Prop :=
  (∃ observation, db.hostTxObservations[host]? = some observation ∧
    6 ≤ observation.confirmations) ∨
  (∃ (key : String) (record : VtxoExitRecord), db.vtxoExitRecords[key]? = some record ∧
    (record.phase = .unrolled ∨ record.phase = .completeReady) ∧
    (record.hostTxid = host ∨ ∃ vout, parseVtxoExitRecordKey key = some (host, vout))) ∨
  (∃ txid, Txid.fromStr host = some txid ∧ answers.isTxRelayedOnNetwork txid = .ok true)

/-- Esplora reports the output spent in the Esplora pass. -/
def spentEarly (answers : SyncAnswers) (txid : Txid) (vout : UInt32) : Bool :=
  match answers.outputSpend txid vout with
  | .ok (some _) => true
  | _ => false

/-- Somebody reports the outpoint spent during the sync. -/
def ReportedSpentDuring (answers : SyncAnswers) (txid : String) (vout : UInt32) : Prop :=
  ∃ host, Txid.fromStr txid = some host ∧
    (spentEarly answers host vout = true ∨ reportedSpent answers host vout = true)

theorem recordHasConfirmedUnroll_iff {phase : VtxoExitPhase} :
    recordHasConfirmedUnroll phase = true ↔ phase = .unrolled ∨ phase = .completeReady := by
  cases phase <;> simp [recordHasConfirmedUnroll]

variable {record : VtxoExitRecord}

theorem confirmedUnrollOutpoint_eq_some {key : String} {outpoint : String × UInt32} :
    confirmedUnrollOutpoint key record = some outpoint ↔
      recordHasConfirmedUnroll record.phase = true ∧
        parseVtxoExitRecordKey key = some outpoint := by
  unfold confirmedUnrollOutpoint
  cases recordHasConfirmedUnroll record.phase <;> simp

variable {snapshot : OffchainVtxoSnapshot}

section

variable {codec : Codec} {answers : SyncAnswers} {db : WalletDb}
  {incoming : OffchainVtxoSnapshot} {prior : Option OffchainVtxoSnapshot}

theorem HasUnrollEvidence.of_sticky {host : String}
    (h : host ∈ confirmedUnrollStickyHostTxids db.hostTxObservations db.vtxoExitRecords) :
    HasUnrollEvidence answers db host := by
  rcases List.mem_append.mp h with hobserved | hrecorded
  · obtain ⟨⟨txid, observation⟩, hmem, rfl⟩ := List.mem_map.mp hobserved
    obtain ⟨hentry, hconfirmed⟩ := List.mem_filter.mp hmem
    exact Or.inl ⟨observation, BTreeMap.mem_toList_iff.mp hentry, of_decide_eq_true hconfirmed⟩
  · obtain ⟨record, hmem, rfl⟩ := List.mem_map.mp hrecorded
    obtain ⟨hvalue, hconfirmed⟩ := List.mem_filter.mp hmem
    obtain ⟨key, hrecord⟩ := BTreeMap.mem_vals_iff.mp hvalue
    exact Or.inr (Or.inl ⟨key, record, hrecord, recordHasConfirmedUnroll_iff.mp hconfirmed,
      Or.inl rfl⟩)

variable {records : VtxoExitRecords}

theorem confirmed_of_markRecordsExited {outpoints : List OutPoint} {key : String}
    {outpoint : String × UInt32}
    (hrecord : (markRecordsExitedForOutpoints records outpoints)[key]? = some record)
    (hconfirmed : confirmedUnrollOutpoint key record = some outpoint) :
    records[key]? = some record := by
  rw [getElem?_markRecordsExitedForOutpoints] at hrecord
  split_ifs at hrecord with hexited
  · obtain ⟨before, -, rfl⟩ := Option.map_eq_some_iff.mp hrecord
    have hphase := (confirmedUnrollOutpoint_eq_some.mp hconfirmed).1
    cases hphase
  · exact hrecord

theorem mem_hosts_of_clearIndexerUnrolled {hosts : List String} {row : VirtualTxOutPointRecord}
    (hunspent : (clearIndexerUnrolled hosts row).isSpent = false)
    (hunrolled : (clearIndexerUnrolled hosts row).isUnrolled = true) :
    (clearIndexerUnrolled hosts row).txid ∈ hosts := by
  rw [(keepsOutpoint_clearIndexerUnrolled hosts).txid]
  by_contra hnot
  unfold clearIndexerUnrolled at hunspent hunrolled
  by_cases hskip : (row.isSpent || !row.isUnrolled) = true
  · rw [if_pos hskip] at hunspent hunrolled
    simp [hunspent, hunrolled] at hskip
  · rw [if_neg hskip, if_pos hnot] at hunrolled
    cases hunrolled

variable {reconciled : ExitingVtxoReconcileResult}

theorem unrolled_of_reconcile
    (h : reconcileExitingVtxoRecords codec answers snapshot prior records = .ok reconciled)
    {row : VirtualTxOutPointRecord} (hrow : row ∈ reconciled.snapshot.virtualTxOutpoints) :
    row ∈ snapshot.virtualTxOutpoints ∨
      ∃ (key : String) (record : VtxoExitRecord), records[key]? = some record ∧
        confirmedUnrollOutpoint key record = some (row.txid, row.vout) := by
  refine foldlM_invariant (fun result : ExitingVtxoReconcileResult =>
    ∀ row ∈ result.snapshot.virtualTxOutpoints, row ∈ snapshot.virtualTxOutpoints ∨
      ∃ (key : String) (record : VtxoExitRecord), records[key]? = some record ∧
        confirmedUnrollOutpoint key record = some (row.txid, row.vout)) ?_
    (fun row hrow => Or.inl hrow) h row hrow
  intro state entry hentry next hnext hstate row hrow
  rcases reconcileExitingVtxoRecord_at hnext row.txid row.vout with
    ⟨houtpoint, -⟩ | ⟨-, hkept⟩
  · exact Or.inr ⟨entry.1, entry.2, BTreeMap.mem_toList_iff.mp hentry, houtpoint⟩
  · have hmem : row ∈ rowsAt state.snapshot row.txid row.vout := by
      rw [← hkept]
      exact mem_rowsAt.mpr ⟨hrow, by simp⟩
    exact hstate row (mem_rowsAt.mp hmem).1

/-- After the record loop a record past the unroll has a row, unless it is reported spent. -/
theorem rowsAt_ne_nil_of_reconcile
    (h : reconcileExitingVtxoRecords codec answers snapshot prior records = .ok reconciled)
    {key : String} {txid : String} {vout : UInt32} (hrecord : records[key]? = some record)
    (houtpoint : confirmedUnrollOutpoint key record = some (txid, vout))
    (hunreported : ∀ host, Txid.fromStr txid = some host →
      reportedSpent answers host vout = false) : rowsAt reconciled.snapshot txid vout ≠ [] := by
  refine foldlM_establishes
    (fun result : ExitingVtxoReconcileResult => rowsAt result.snapshot txid vout ≠ []) ?_
    (BTreeMap.mem_toList_iff.mpr hrecord) ?_ h
  · intro state entry _ next hnext hstate
    rcases reconcileExitingVtxoRecord_at hnext txid vout with ⟨-, hround⟩ | ⟨-, hkept⟩
    · exact hround.rowsAt_ne_nil hstate
    · rw [hkept]
      exact hstate
  · intro state next hnext
    rcases reconcileExitingVtxoRecord_at hnext txid vout with ⟨-, hround⟩ | ⟨hother, -⟩
    · by_cases hmissing : rowsAt state.snapshot txid vout = []
      · obtain ⟨host, hhost, hafter⟩ := recordRound_of_missing hmissing hround
        rw [hunreported host hhost, if_neg Bool.false_ne_true] at hafter
        obtain ⟨row, hrow, -⟩ := hafter
        rw [hrow]
        exact List.cons_ne_nil _ _
      · exact hround.rowsAt_ne_nil hmissing
    · exact absurd houtpoint hother

end

/-- After a sync, every unrolled row that is not spent has evidence of the wallet's own, and
every record past the unroll whose outpoint is not reported spent has a row. -/
theorem finalize_unroll_contract (codec : Codec) (answers : SyncAnswers) (db : WalletDb)
    (incoming : OffchainVtxoSnapshot) (prior : Option OffchainVtxoSnapshot)
    (result : FinalizedSync)
    (h : finalizeOperatorSyncSnapshot codec answers db incoming prior = .ok result) :
    (∀ row ∈ result.snapshot.virtualTxOutpoints, row.isSpent = false → row.isUnrolled = true →
      HasUnrollEvidence answers db row.txid) ∧
    (∀ (key : String) (record : VtxoExitRecord) (txid : String) (vout : UInt32),
      db.vtxoExitRecords[key]? = some record →
      (record.phase = .unrolled ∨ record.phase = .completeReady) →
      parseVtxoExitRecordKey key = some (txid, vout) →
      ¬ ReportedSpentDuring answers txid vout →
      ∃ row ∈ result.snapshot.virtualTxOutpoints, row.isAt txid vout = true) := by
  obtain ⟨esplora, reconciled, hesplora, hreconciled, rfl⟩ := finalizePasses_eq_ok.mp h
  have hsaw := esploraSaw hesplora
  constructor
  · intro row hrow hunspent hunrolled
    rcases unrolled_of_reconcile hreconciled hrow with hbefore | ⟨key, record, hrecord, houtpoint⟩
    · obtain ⟨before, -, rfl⟩ := List.mem_map.mp hbefore
      rcases List.mem_append.mp (mem_hosts_of_clearIndexerUnrolled hunspent hunrolled) with
        hsticky | hvisible
      · exact HasUnrollEvidence.of_sticky hsticky
      · exact Or.inr (Or.inr (hsaw.visible _ hvisible))
    · obtain ⟨hconfirmed, hparse⟩ := confirmedUnrollOutpoint_eq_some.mp houtpoint
      exact Or.inr (Or.inl ⟨key, record, confirmed_of_markRecordsExited hrecord houtpoint,
        recordHasConfirmedUnroll_iff.mp hconfirmed, Or.inr ⟨row.vout, hparse⟩⟩)
  · intro key record txid vout hrecord hphase hparse hunreported
    have houtpoint : confirmedUnrollOutpoint key record = some (txid, vout) :=
      confirmedUnrollOutpoint_eq_some.mpr ⟨recordHasConfirmedUnroll_iff.mpr hphase, hparse⟩
    -- Nobody reports the outpoint spent, so the Esplora pass does not mark its record exited.
    have hkept : (markRecordsExitedForOutpoints db.vtxoExitRecords
        esplora.spentOutpoints)[key]? = some record := by
      rw [getElem?_markRecordsExitedForOutpoints, if_neg, hrecord]
      rintro ⟨outpoint, hmem, rfl⟩
      rw [parseVtxoExitRecordKey_vtxoExitRecordKey] at hparse
      cases hparse
      obtain ⟨spend, hspend⟩ := hsaw.spent outpoint hmem
      refine hunreported ⟨outpoint.txid, Txid.fromStr_text _, Or.inl ?_⟩
      simp [spentEarly, hspend]
    have hrows := rowsAt_ne_nil_of_reconcile hreconciled hkept houtpoint (by
      intro host hhost
      rw [← Bool.not_eq_true]
      exact fun hreport => hunreported ⟨host, hhost, Or.inr hreport⟩)
    obtain ⟨row, hrow⟩ := List.exists_mem_of_ne_nil _ hrows
    exact ⟨row, mem_rowsAt.mp hrow⟩

def relayedAnswers : SyncAnswers where
  outputSpend _ _ := .ok none
  isTxRelayedOnNetwork _ := .ok true
  outputSpendLater _ _ := .ok none
  findTx _ := .ok true
  listVtxosForOutpoint _ := none

def freshDb : WalletDb where
  offchainVtxoSnapshot := none
  pendingExitDeductions := []
  hostTxObservations := ∅
  vtxoExitRecords := ∅

def unrolledRow (host : Txid) : VirtualTxOutPointRecord :=
  { sampleRow host.text 0 with isUnrolled := true }

/-- The probe finds the host of the only target, and no spend. -/
theorem esplora_of_target {host : Txid} {records : VtxoExitRecords}
    (htargets : esploraProbeTargets snapshot records = [(host.text, 0)]) :
    reconcileExitingVtxosSpentOnEsplora sampleCodec relayedAnswers snapshot records =
      .ok { snapshot, spentOutpoints := [], chainVisibleUnrolledHosts := [host.text] } := by
  rw [reconcileExitingVtxosSpentOnEsplora, htargets, List.foldlM_cons]
  simp [probeExitingVtxo, detectExitingVtxoCompletionOnEsplora, parseTxid, relayedAnswers,
    virtualTxIsRelayed, applyVirtualOutpointChainFact, bind, Except.bind, pure, Except.pure]

theorem finalize_unrolledRow (host : Txid) :
    finalizeOperatorSyncSnapshot sampleCodec relayedAnswers freshDb
      (snapshotWithRows [unrolledRow host]) none =
      .ok { snapshot := snapshotWithRows [unrolledRow host], warnings := [],
            spentOutpoints := [] } := by
  have htargets : esploraProbeTargets (snapshotWithRows [unrolledRow host]) ∅ =
      [(host.text, 0)] := rfl
  have hesplora := esplora_of_target htargets
  have hcleared : clearIndexerUnrolledWithoutLocalFinality (snapshotWithRows [unrolledRow host])
      (confirmedUnrollStickyHostTxids ∅ ∅ ++ [host.text]) =
      snapshotWithRows [unrolledRow host] := by
    simp [clearIndexerUnrolledWithoutLocalFinality, OffchainVtxoSnapshot.mapRows,
      snapshotWithRows, clearIndexerUnrolled, unrolledRow, sampleRow]
  have hreconciled : reconcileExitingVtxoRecords sampleCodec relayedAnswers
      (snapshotWithRows [unrolledRow host]) none (markRecordsExitedForOutpoints ∅ []) =
      .ok { snapshot := snapshotWithRows [unrolledRow host], warnings := [] } := rfl
  refine finalizePasses_eq_ok.mpr
    ⟨_, ⟨snapshotWithRows [unrolledRow host], []⟩, hesplora, ?_, rfl⟩
  simp only [freshDb, hcleared, hreconciled]

/-- The indexer's flag stays because the probe found the host. -/
theorem finalize_unroll_contract_sample :
    unrolledRow sampleHost ∈ (snapshotWithRows [unrolledRow sampleHost]).virtualTxOutpoints ∧
      HasUnrollEvidence relayedAnswers freshDb sampleHost.text := by
  have hmem : unrolledRow sampleHost ∈
      (snapshotWithRows [unrolledRow sampleHost]).virtualTxOutpoints := List.mem_singleton_self _
  constructor
  · exact hmem
  · exact (finalize_unroll_contract sampleCodec relayedAnswers freshDb
      (snapshotWithRows [unrolledRow sampleHost]) none _
      (finalize_unrolledRow sampleHost)).1 _ hmem rfl rfl

end Bitboard.Arkade
