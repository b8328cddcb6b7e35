/-
# Spent rows across one sync

A row that the prior snapshot has as spent should not come back unspent. The sticky merge
sees to it for every row that is in the list when the flags are merged. The record loop
brings missing rows back after that, from the prior row with `is_spent` cleared, so a spent
outpoint is revived when the operator leaves it out, no pending deduction restores it, and a
record past the unroll still stands for it while nobody reports it spent.
-/

import Bitboard.Arkade.UnrollEvidence

namespace Bitboard.Arkade

open Bitboard.Lib
open VirtualTxOutPointRecord

section RecordLoop

variable {codec : Codec} {answers : SyncAnswers} {prior : Option OffchainVtxoSnapshot}
  {txid : String} {vout : UInt32} {entries : List (String × VtxoExitRecord)}
  {start final : ExitingVtxoReconcileResult}

/-- How many of the entries are records past the unroll for the outpoint. -/
def recordsAt (entries : List (String × VtxoExitRecord)) (txid : String) (vout : UInt32) : Nat :=
  entries.countP fun entry =>
    decide (confirmedUnrollOutpoint entry.1 entry.2 = some (txid, vout))

theorem recordsAt_cons_of_eq {entry : String × VtxoExitRecord}
    (h : confirmedUnrollOutpoint entry.1 entry.2 = some (txid, vout)) :
    recordsAt (entry :: entries) txid vout = recordsAt entries txid vout + 1 :=
  List.countP_cons_of_pos (decide_eq_true h)

theorem recordsAt_cons_of_ne {entry : String × VtxoExitRecord}
    (h : confirmedUnrollOutpoint entry.1 entry.2 ≠ some (txid, vout)) :
    recordsAt (entry :: entries) txid vout = recordsAt entries txid vout :=
  List.countP_cons_of_neg (by simpa using h)

variable {before after : OffchainVtxoSnapshot}

theorem SpentAt.of_rowsAt_eq (hspent : SpentAt before txid vout)
    (hrows : rowsAt after txid vout = rowsAt before txid vout) : SpentAt after txid vout := by
  unfold SpentAt
  rw [hrows]
  exact hspent

theorem LiveAt.of_rowsAt_eq (hlive : LiveAt before txid vout)
    (hrows : rowsAt after txid vout = rowsAt before txid vout) : LiveAt after txid vout := by
  unfold LiveAt
  rw [hrows]
  exact hlive

theorem SpentAt.recordLoop (hspent : SpentAt start.snapshot txid vout)
    (h : entries.foldlM (reconcileExitingVtxoRecord codec answers prior) start = .ok final) :
    SpentAt final.snapshot txid vout := by
  refine foldlM_invariant
    (fun result : ExitingVtxoReconcileResult => SpentAt result.snapshot txid vout) ?_ hspent h
  intro state entry _ next hnext hstate
  rcases reconcileExitingVtxoRecord_at hnext txid vout with ⟨-, hround⟩ | ⟨-, hkept⟩
  · exact hstate.recordRound hround
  · exact hstate.of_rowsAt_eq hkept

/-- The loop marks a live outpoint spent when it meets a record and a later spend. -/
theorem LiveAt.recordLoop (hlive : LiveAt start.snapshot txid vout) {host : Txid}
    (hhost : Txid.fromStr txid = some host)
    (h : entries.foldlM (reconcileExitingVtxoRecord codec answers prior) start = .ok final) :
    if spentLater answers host vout = true ∧ 0 < recordsAt entries txid vout then
      SpentAt final.snapshot txid vout
    else LiveAt final.snapshot txid vout := by
  induction entries generalizing start with
  | nil =>
    cases h
    rw [if_neg fun hcount => Nat.lt_irrefl 0 hcount.2]
    exact hlive
  | cons entry entries ih =>
    obtain ⟨next, hnext, hrest⟩ := foldlM_cons_eq_ok.mp h
    rcases reconcileExitingVtxoRecord_at hnext txid vout with ⟨hhere, hround⟩ | ⟨hother, hkept⟩
    · rw [recordsAt_cons_of_eq hhere]
      have hafter := hlive.recordRound hhost hround
      cases hlater : spentLater answers host vout with
      | true =>
        rw [hlater, if_pos rfl] at hafter
        rw [if_pos ⟨rfl, Nat.succ_pos _⟩]
        exact hafter.recordLoop hrest
      | false =>
        rw [hlater, if_neg Bool.false_ne_true] at hafter
        have hend := ih hafter hrest
        rw [hlater, if_neg fun hboth => Bool.false_ne_true hboth.1] at hend
        rw [if_neg fun hboth => Bool.false_ne_true hboth.1]
        exact hend
    · rw [recordsAt_cons_of_ne hother]
      exact ih (hlive.of_rowsAt_eq hkept) hrest

/-- What the loop makes of a missing outpoint: its first record brings it back unless it is
reported spent, and a second record marks it spent when there is a later spend. -/
theorem recordLoop_of_missing (hmissing : rowsAt start.snapshot txid vout = [])
    (h : entries.foldlM (reconcileExitingVtxoRecord codec answers prior) start = .ok final) :
    (recordsAt entries txid vout = 0 ∧ rowsAt final.snapshot txid vout = []) ∨
      ∃ host, Txid.fromStr txid = some host ∧ 0 < recordsAt entries txid vout ∧
        if reportedSpent answers host vout = true then rowsAt final.snapshot txid vout = []
        else if spentLater answers host vout = true ∧ 1 < recordsAt entries txid vout then
          SpentAt final.snapshot txid vout
        else LiveAt final.snapshot txid vout := by
  induction entries generalizing start with
  | nil =>
    cases h
    exact Or.inl ⟨rfl, hmissing⟩
  | cons entry entries ih =>
    obtain ⟨next, hnext, hrest⟩ := foldlM_cons_eq_ok.mp h
    rcases reconcileExitingVtxoRecord_at hnext txid vout with ⟨hhere, hround⟩ | ⟨hother, hkept⟩
    · obtain ⟨host, hhost, hafter⟩ := recordRound_of_missing hmissing hround
      refine Or.inr ⟨host, hhost, ?_, ?_⟩
      · rw [recordsAt_cons_of_eq hhere]
        exact Nat.succ_pos _
      rw [recordsAt_cons_of_eq hhere]
      split_ifs at hafter ⊢ with hreport hspend
      · rcases ih hafter hrest with ⟨-, hend⟩ | ⟨other, hparsed, -, hend⟩
        · exact hend
        · cases hhost.symm.trans hparsed
          rw [if_pos hreport] at hend
          exact hend
      · have hend := hafter.recordLoop hhost hrest
        rw [if_pos ⟨hspend.1, Nat.lt_of_succ_lt_succ hspend.2⟩] at hend
        exact hend
      · have hend := hafter.recordLoop hhost hrest
        rw [if_neg fun hboth => hspend ⟨hboth.1, Nat.succ_lt_succ hboth.2⟩] at hend
        exact hend
    · rw [recordsAt_cons_of_ne hother]
      exact ih (hkept.trans hmissing) hrest

end RecordLoop

/-- The records past the unroll that the record loop meets at an outpoint which the operator
left out: the Esplora pass marks the record of its canonical key exited when it sees a spend. -/
def recordsMet (answers : SyncAnswers) (records : VtxoExitRecords) (host : Txid) (txid : String)
    (vout : UInt32) : Nat :=
  records.toList.countP fun entry =>
    decide (confirmedUnrollOutpoint entry.1 entry.2 = some (txid, vout)) &&
      !(spentEarly answers host vout && entry.1 == vtxoExitRecordKey host.text vout)

/-- A sync revives an outpoint: the operator leaves it out, no pending deduction restores it,
nobody reports it spent when its record is reconciled, and a record past the unroll stands for
it. Where several keys name the outpoint, there must be no later spend either. -/
def Revives (answers : SyncAnswers) (db : WalletDb) (incoming : OffchainVtxoSnapshot)
    (txid : String) (vout : UInt32) : Prop :=
  snapshotRecord incoming txid vout = none ∧
    (txid, vout) ∉ pendingUnilateralOutpoints db.pendingExitDeductions ∧
    ∃ host, Txid.fromStr txid = some host ∧ reportedSpent answers host vout = false ∧
      (recordsMet answers db.vtxoExitRecords host txid vout = 1 ∨
        (0 < recordsMet answers db.vtxoExitRecords host txid vout ∧
          spentLater answers host vout = false))

def SpentBefore (prior : Option OffchainVtxoSnapshot) (txid : String) (vout : UInt32) : Prop :=
  (prior.any fun prior => snapshotRecordAlreadySpent prior txid vout) = true

def NotUnspent (snapshot : OffchainVtxoSnapshot) (txid : String) (vout : UInt32) : Prop :=
  ∀ row ∈ snapshot.virtualTxOutpoints, row.isAt txid vout = true → row.isSpent = true

variable {snapshot : OffchainVtxoSnapshot} {vout : UInt32}

theorem SpentAt.notUnspent {txid : String}
    (h : SpentAt snapshot txid vout) : NotUnspent snapshot txid vout :=
  fun row hrow hat => h.2 row (mem_rowsAt.mpr ⟨hrow, hat⟩)

theorem notUnspent_of_missing {txid : String}
    (h : rowsAt snapshot txid vout = []) : NotUnspent snapshot txid vout := by
  intro row hrow hat
  have hmem := mem_rowsAt.mpr ⟨hrow, hat⟩
  rw [h] at hmem
  cases hmem

theorem LiveAt.not_notUnspent {txid : String}
    (h : LiveAt snapshot txid vout) : ¬ NotUnspent snapshot txid vout := by
  obtain ⟨row, hrows, -, hunspent⟩ := h
  have hmem : row ∈ rowsAt snapshot txid vout := by simp [hrows]
  intro hspent
  obtain ⟨hrow, hat⟩ := mem_rowsAt.mp hmem
  rw [hspent row hrow hat] at hunspent
  cases hunspent

section Sync

variable {codec : Codec} {answers : SyncAnswers} {db : WalletDb}
  {incoming : OffchainVtxoSnapshot} {prior : Option OffchainVtxoSnapshot} {txid : String}
  {vout : UInt32}

theorem toList_markRecordsExited (records : VtxoExitRecords) (outpoints : List OutPoint) :
    (markRecordsExitedForOutpoints records outpoints).toList =
      records.toList.map fun entry => (entry.1,
        if ∃ outpoint ∈ outpoints, vtxoExitRecordKey outpoint.txid.text outpoint.vout = entry.1 then
          { entry.2 with phase := .exited }
        else entry.2) := by
  have hmap : markRecordsExitedForOutpoints records outpoints =
      records.map fun key record =>
        if ∃ outpoint ∈ outpoints, vtxoExitRecordKey outpoint.txid.text outpoint.vout = key then
          { record with phase := .exited }
        else record := by
    refine Std.ExtTreeMap.ext_getElem? fun key => ?_
    rw [getElem?_markRecordsExitedForOutpoints, Std.ExtTreeMap.getElem?_map]
    split_ifs with hexited <;> cases records[key]? <;> simp
  rw [hmap, Std.ExtTreeMap.toList_map]

/-- The loop meets the records that the Esplora pass did not mark exited. -/
theorem recordsAt_reread {esplora : EsploraPass} {flagged : OffchainVtxoSnapshot}
    (hesplora : reconcileExitingVtxosSpentOnEsplora codec answers flagged db.vtxoExitRecords =
      .ok esplora)
    (hmissing : snapshotRecord flagged txid vout = none) {host : Txid}
    (hhost : Txid.fromStr txid = some host) :
    recordsAt (markRecordsExitedForOutpoints db.vtxoExitRecords esplora.spentOutpoints).toList
        txid vout =
      recordsMet answers db.vtxoExitRecords host txid vout := by
  rw [toList_markRecordsExited]
  unfold recordsAt recordsMet
  rw [List.countP_map]
  refine List.countP_congr fun entry hentry => ?_
  have hrecord := BTreeMap.mem_toList_iff.mp hentry
  simp only [Function.comp_apply, decide_eq_true_eq, Bool.and_eq_true, Bool.not_eq_true',
    Bool.and_eq_false_iff, beq_eq_false_iff_ne]
  split_ifs with hexited
  · -- The entry was marked exited, so its key is canonical and Esplora saw the spend.
    obtain ⟨outpoint, houtpoint, hkey⟩ := hexited
    constructor
    · intro hconfirmed
      cases (confirmedUnrollOutpoint_eq_some.mp hconfirmed).1
    · rintro ⟨hconfirmed, hkept⟩
      have hparse := (confirmedUnrollOutpoint_eq_some.mp hconfirmed).2
      rw [← hkey, parseVtxoExitRecordKey_vtxoExitRecordKey] at hparse
      cases hparse
      rw [Txid.fromStr_text] at hhost
      cases hhost
      obtain ⟨spend, hspend⟩ := (esploraSaw hesplora).spent outpoint houtpoint
      rcases hkept with hkept | hkept
      · simp [spentEarly, hspend] at hkept
      · exact absurd hkey.symm hkept
  · constructor
    · intro hconfirmed
      refine ⟨hconfirmed, ?_⟩
      by_contra hboth
      push Not at hboth
      obtain ⟨hspent, hkey⟩ := hboth
      -- A canonical record of a missing outpoint is probed, and a seen spend marks it exited.
      have htarget : (txid, vout) ∈ esploraProbeTargets flagged db.vtxoExitRecords := by
        apply mem_esploraProbeTargets hrecord hconfirmed
        simp [snapshotRecordAlreadySpent, hmissing]
      unfold spentEarly at hspent
      split at hspent
      · rename_i spend hspend
        exact hexited ⟨_, mem_spentOutpoints hesplora htarget hhost hspend, hkey.symm⟩
      · exact hspent rfl
    · exact fun hboth => hboth.1

theorem spentAt_mapRows {snapshot : OffchainVtxoSnapshot}
    {update : VirtualTxOutPointRecord → VirtualTxOutPointRecord} (hupdate : KeepsOutpoint update)
    (hpresent : snapshotRecord snapshot txid vout ≠ none)
    (hspent : ∀ row ∈ snapshot.virtualTxOutpoints, row.isAt txid vout = true →
      (update row).isSpent = true) :
    SpentAt (snapshot.mapRows update) txid vout := by
  constructor
  · rw [Ne, ← snapshotRecord_eq_none_iff_rowsAt, hupdate.snapshotRecord_mapRows,
      Option.map_eq_none_iff]
    exact hpresent
  · intro row hrow
    obtain ⟨hmem, hat⟩ := mem_rowsAt.mp hrow
    obtain ⟨before, hbefore, rfl⟩ := List.mem_map.mp hmem
    rw [hupdate.isAt] at hat
    exact hspent before hbefore hat

theorem snapshotRecord_restored_eq_none_iff {pending : List PendingExitDeductionRecord}
    (hspent : SpentBefore prior txid vout) :
    snapshotRecord (restoredSnapshot incoming prior pending) txid vout = none ↔
      snapshotRecord incoming txid vout = none ∧
        (txid, vout) ∉ pendingUnilateralOutpoints pending := by
  cases prior with
  | none => cases hspent
  | some prior =>
    obtain ⟨row, hrow, -⟩ : ∃ row, snapshotRecord prior txid vout = some row ∧
        row.isSpent = true := (Option.any_eq_true _ _).mp hspent
    rw [snapshotRecord_restored, Option.or_eq_none_iff, hrow]
    simp

/-- After a sync an outpoint that was spent before has an unspent row exactly when it is
revived. -/
theorem notUnspent_iff_not_revives {result : FinalizedSync}
    (h : finalizeOperatorSyncSnapshot codec answers db incoming prior = .ok result)
    (hspent : SpentBefore prior txid vout) :
    NotUnspent result.snapshot txid vout ↔ ¬ Revives answers db incoming txid vout := by
  obtain ⟨esplora, reconciled, hesplora, hreconciled, rfl⟩ := finalizePasses_eq_ok.mp h
  obtain ⟨update, hupdate, hcleared, hsticky⟩ := cleared_eq_mapRows hesplora
  rw [hcleared] at hreconciled
  unfold Revives
  rw [← and_assoc, ← snapshotRecord_restored_eq_none_iff hspent]
  by_cases hpresent : snapshotRecord
      (restoredSnapshot incoming prior db.pendingExitDeductions) txid vout = none
  · have hmissing : rowsAt ((restoredSnapshot incoming prior
        db.pendingExitDeductions).mapRows update) txid vout = [] := by
      rw [← snapshotRecord_eq_none_iff_rowsAt, hupdate.snapshotRecord_mapRows, hpresent]
      rfl
    have hflagged : snapshotRecord (flaggedSnapshot db.hostTxObservations
        db.pendingExitDeductions db.vtxoExitRecords incoming prior) txid vout = none := by
      obtain ⟨flag, hflag, heq, -⟩ := flaggedSnapshot_eq_mapRows db.hostTxObservations
        db.pendingExitDeductions db.vtxoExitRecords incoming prior
      rw [heq, hflag.snapshotRecord_mapRows, hpresent]
      rfl
    rw [and_iff_right hpresent]
    rcases recordLoop_of_missing hmissing hreconciled with
      ⟨hnone, hrows⟩ | ⟨host, hhost, hsome, hrows⟩
    · apply iff_of_true (notUnspent_of_missing hrows)
      rintro ⟨host, hhost, -, hcount⟩
      rw [recordsAt_reread hesplora hflagged hhost] at hnone
      omega
    · rw [recordsAt_reread hesplora hflagged hhost] at hsome hrows
      have hrevives : (∃ other, Txid.fromStr txid = some other ∧
          reportedSpent answers other vout = false ∧
          (recordsMet answers db.vtxoExitRecords other txid vout = 1 ∨
            (0 < recordsMet answers db.vtxoExitRecords other txid vout ∧
              spentLater answers other vout = false))) ↔
          reportedSpent answers host vout = false ∧
            ¬ (spentLater answers host vout = true ∧
              1 < recordsMet answers db.vtxoExitRecords host txid vout) := by
        simp only [hhost, Option.some.injEq, exists_eq_left']
        refine and_congr_right fun _ => ?_
        cases spentLater answers host vout <;> simp <;> omega
      rw [hrevives]
      split_ifs at hrows with hreport hspend
      · exact iff_of_true (notUnspent_of_missing hrows) fun hboth => by
          rw [hreport] at hboth
          cases hboth.1
      · exact iff_of_true hrows.notUnspent fun hboth => hboth.2 hspend
      · apply iff_of_false hrows.not_notUnspent
        rw [not_not]
        exact ⟨Bool.not_eq_true _ ▸ hreport, hspend⟩
  · have hstart := spentAt_mapRows hupdate hpresent fun row _ hat => by
      obtain ⟨rfl, rfl⟩ := isAt_iff.mp hat
      exact hsticky row hspent
    exact iff_of_true (hstart.recordLoop hreconciled).notUnspent
      fun hrevives => hpresent hrevives.1

end Sync

/-- A sync leaves every outpoint that was spent before without an unspent row exactly when it
revives none of them. -/
theorem finalize_keeps_spent_iff (codec : Codec) (answers : SyncAnswers) (db : WalletDb)
    (incoming : OffchainVtxoSnapshot) (prior : Option OffchainVtxoSnapshot)
    (result : FinalizedSync)
    (h : finalizeOperatorSyncSnapshot codec answers db incoming prior = .ok result) :
    (∀ (txid : String) (vout : UInt32), SpentBefore prior txid vout →
        NotUnspent result.snapshot txid vout) ↔
      ∀ (txid : String) (vout : UInt32), SpentBefore prior txid vout →
        ¬ Revives answers db incoming txid vout :=
  forall₂_congr fun _ _ => imp_congr_right fun hspent => notUnspent_iff_not_revives h hspent

/-! ## A sync that revives a spent row -/

def spentRow (host : Txid) : VirtualTxOutPointRecord :=
  { sampleRow host.text 0 with isUnrolled := true, isSpent := true }

def unrolledDb (host : Txid) : WalletDb :=
  { freshDb with
    vtxoExitRecords := BTreeMap.singleton (vtxoExitRecordKey host.text 0)
      { phase := .unrolled, taggedAt := 0, hostTxid := host.text, amountSats := 1000 } }

theorem confirmedUnrollOutpoint_canonical {host : Txid} {record : VtxoExitRecord}
    (h : record.phase = .unrolled) :
    confirmedUnrollOutpoint (vtxoExitRecordKey host.text vout) record = some (host.text, vout) :=
  confirmedUnrollOutpoint_eq_some.mpr
    ⟨by rw [h]; rfl, parseVtxoExitRecordKey_vtxoExitRecordKey _ _⟩

theorem restoredSnapshot_snapshotWithRows (rows priorRows : List VirtualTxOutPointRecord) :
    restoredSnapshot (snapshotWithRows rows) (some (snapshotWithRows priorRows)) [] =
      snapshotWithRows rows := by
  have hmaterials : (snapshotWithRows rows).unilateralExitMaterialsByHostTx.contains
      sampleHost.text = true := by
    simp [snapshotWithRows, sampleSnapshot, BTreeMap.singleton]
  have hstored : (snapshotWithRows priorRows).unilateralExitMaterialsByHostTx.toList =
      [(sampleHost.text, sampleMaterials)] := rfl
  simp only [restoredSnapshot, mergeUnilateralExitMaterialsMaps,
    reinjectPendingUnilateralExitRecords, pendingUnilateralOutpoints, List.filterMap_nil,
    List.foldl_nil, hstored, List.foldl_cons, hmaterials, if_true]

variable (host : Txid)

theorem snapshotRecord_spentRow :
    snapshotRecord (snapshotWithRows [spentRow host]) host.text 0 = some (spentRow host) := by
  simp [snapshotRecord, snapshotWithRows, spentRow, sampleRow, isAt]

theorem spentBefore_spentRow :
    SpentBefore (some (snapshotWithRows [spentRow host])) host.text 0 := by
  rw [SpentBefore, Option.any_some, snapshotRecordAlreadySpent, snapshotRecord_spentRow]
  rfl

theorem finalize_unrolledDb :
    finalizeOperatorSyncSnapshot sampleCodec relayedAnswers (unrolledDb host)
      (snapshotWithRows []) (some (snapshotWithRows [spentRow host])) =
      .ok { snapshot := snapshotWithRows [unrolledRow host], warnings := [warnIndexerLag],
            spentOutpoints := [] } := by
  have htargets : esploraProbeTargets (snapshotWithRows []) (unrolledDb host).vtxoExitRecords =
      [(host.text, 0)] := by
    change [(_, _)].foldl _ _ = _
    rw [List.foldl_cons, List.foldl_nil]
    simp [addProbeTarget, confirmedUnrollOutpoint_canonical, snapshotWithRows,
      snapshotRecordAlreadySpent, snapshotRecord]
  have hrestored := restoredSnapshot_snapshotWithRows [] [spentRow host]
  have hesplora := esplora_of_target htargets
  have hreinjected : recordForReinject ((some (snapshotWithRows [spentRow host])).bind
      fun prior => snapshotRecord prior host.text 0) host.text 0 1000 = unrolledRow host := by
    simp [recordForReinject, snapshotRecord, snapshotWithRows, spentRow, sampleRow,
      isAt, unrolledRow]
  have hreconciled : reconcileExitingVtxoRecords sampleCodec relayedAnswers (snapshotWithRows [])
      (some (snapshotWithRows [spentRow host])) (unrolledDb host).vtxoExitRecords =
      .ok { snapshot := snapshotWithRows [unrolledRow host], warnings := [warnIndexerLag] } := by
    have hmissing : snapshotRecord (snapshotWithRows []) host.text 0 = none := rfl
    have hsurvival : reconcileMissingSurvival sampleCodec relayedAnswers (snapshotWithRows [])
        host.text 0 host.text = .ok .keepWarnIndexerLag := by
      simp [reconcileMissingSurvival, parseTxid, operatorVtxo, relayedAnswers,
        detectExitingVtxoCompletionOnEsplora, unrollBranchVisibleOnChain, bind, Except.bind, pure,
        Except.pure]
    change [(_, _)].foldlM _ _ = _
    rw [List.foldlM_cons, reconcileExitingVtxoRecord]
    simp only [confirmedUnrollOutpoint_canonical, hmissing, hsurvival, bind, Except.bind, pure,
      Except.pure, applyReconcileOutcome, hreinjected, List.foldlM_nil]
    rfl
  unfold finalizeOperatorSyncSnapshot finalizePasses
  have hnone : markRecordsExitedForOutpoints (unrolledDb host).vtxoExitRecords [] =
      (unrolledDb host).vtxoExitRecords := rfl
  have hcleared : ∀ hosts, clearIndexerUnrolledWithoutLocalFinality (snapshotWithRows []) hosts =
      snapshotWithRows [] := fun _ => rfl
  have hsticky : mergeStickySpentFlags (some (snapshotWithRows [spentRow host]))
      (mergeStickyUnrolledFlags (some (snapshotWithRows [spentRow host])) (snapshotWithRows [])
        (confirmedUnrollStickyHostTxids (unrolledDb host).hostTxObservations
          (unrolledDb host).vtxoExitRecords)) = snapshotWithRows [] := rfl
  have hpending : (unrolledDb host).pendingExitDeductions = [] := rfl
  simp only [hpending, hrestored, hsticky, hesplora, hcleared, hnone, hreconciled, bind,
    Except.bind, pure, Except.pure]

/-- A spent outpoint that the operator leaves out comes back unspent while its record is at the
unroll and Esplora does not see the spend. -/
theorem finalize_revives_spent :
    ∃ result, finalizeOperatorSyncSnapshot sampleCodec relayedAnswers (unrolledDb sampleHost)
        (snapshotWithRows []) (some (snapshotWithRows [spentRow sampleHost])) = .ok result ∧
      SpentBefore (some (snapshotWithRows [spentRow sampleHost])) sampleHost.text 0 ∧
      ∃ row ∈ result.snapshot.virtualTxOutpoints,
        row.isAt sampleHost.text 0 = true ∧ row.isSpent = false := by
  refine ⟨_, finalize_unrolledDb sampleHost, spentBefore_spentRow sampleHost,
    unrolledRow sampleHost, ?_, ?_, rfl⟩
  · exact List.mem_singleton.mpr rfl
  · simp [unrolledRow, sampleRow, isAt]

theorem finalize_listedSpent :
    finalizeOperatorSyncSnapshot sampleCodec relayedAnswers freshDb
      (snapshotWithRows [unrolledRow host]) (some (snapshotWithRows [spentRow host])) =
      .ok { snapshot := snapshotWithRows [spentRow host], warnings := [],
            spentOutpoints := [] } := by
  have hrestored := restoredSnapshot_snapshotWithRows [unrolledRow host] [spentRow host]
  have hsticky : mergeStickySpentFlags (some (snapshotWithRows [spentRow host]))
      (mergeStickyUnrolledFlags (some (snapshotWithRows [spentRow host]))
        (snapshotWithRows [unrolledRow host])
        (confirmedUnrollStickyHostTxids freshDb.hostTxObservations freshDb.vtxoExitRecords)) =
      snapshotWithRows [spentRow host] := by
    have hkey : snapshotRecord (snapshotWithRows [spentRow host]) (unrolledRow host).txid
        (unrolledRow host).vout = some (spentRow host) := snapshotRecord_spentRow host
    change snapshotWithRows [stickSpentFlag _ (unrolledRow host)] = _
    rw [stickSpentFlag, hkey]
    rfl
  have hesplora : reconcileExitingVtxosSpentOnEsplora sampleCodec relayedAnswers
      (snapshotWithRows [spentRow host]) freshDb.vtxoExitRecords =
      .ok { snapshot := snapshotWithRows [spentRow host], spentOutpoints := [],
            chainVisibleUnrolledHosts := [] } := rfl
  have hcleared : ∀ hosts, clearIndexerUnrolledWithoutLocalFinality
      (snapshotWithRows [spentRow host]) hosts = snapshotWithRows [spentRow host] := fun _ => rfl
  have hreconciled : ∀ prior, reconcileExitingVtxoRecords sampleCodec relayedAnswers
      (snapshotWithRows [spentRow host]) prior
      (markRecordsExitedForOutpoints freshDb.vtxoExitRecords []) =
      .ok { snapshot := snapshotWithRows [spentRow host], warnings := [] } := fun _ => rfl
  have hpending : freshDb.pendingExitDeductions = [] := rfl
  unfold finalizeOperatorSyncSnapshot finalizePasses
  simp only [hpending, hrestored, hsticky, hesplora, hcleared, hreconciled, bind, Except.bind,
    pure, Except.pure]

/-- A spent outpoint that the operator lists as unspent stays spent. -/
theorem finalize_keeps_spent_sample :
    SpentBefore (some (snapshotWithRows [spentRow sampleHost])) sampleHost.text 0 ∧
      NotUnspent (snapshotWithRows [spentRow sampleHost]) sampleHost.text 0 := by
  have hspent := spentBefore_spentRow sampleHost
  refine ⟨hspent, (finalize_keeps_spent_iff sampleCodec relayedAnswers freshDb
    (snapshotWithRows [unrolledRow sampleHost]) (some (snapshotWithRows [spentRow sampleHost])) _
    (finalize_listedSpent sampleHost)).mpr ?_ _ _ hspent⟩
  rintro txid vout - ⟨-, -, host, -, -, hrecords⟩
  have hnone : recordsMet relayedAnswers freshDb.vtxoExitRecords host txid vout = 0 := rfl
  omega

end Bitboard.Arkade
