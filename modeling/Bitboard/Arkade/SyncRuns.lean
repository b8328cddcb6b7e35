/-
# Spent outputs over every interleaving of snapshot writers

Once a committed snapshot has an outpoint as spent, no later one should have it unspent. A
task may commit what it made from an older snapshot, and then the rule holds only if the
task does not write the outpoint as unspent: it had read it as spent, or its list has it as
spent, or it does not write the row at all. `SyncSafe` says so for each commit, in terms of
what the task had read, and the rule holds along every run whose commits are safe.
-/

import Bitboard.Arkade.HostTxFinalityLookup
import Bitboard.Arkade.SnapshotUpsert
import Bitboard.Arkade.SpentStickiness
import Bitboard.Arkade.SyncMachine

namespace Bitboard.Arkade

open Bitboard.Lib
open VirtualTxOutPointRecord

def SpentIn (snapshot : OffchainVtxoSnapshot) (txid : String) (vout : UInt32) : Prop :=
  ∃ row ∈ snapshot.virtualTxOutpoints, row.isAt txid vout = true ∧ row.isSpent = true

/-- Newest first: what an earlier snapshot has as spent, no later one has as unspent. -/
def SpentForever (committed : List OffchainVtxoSnapshot) : Prop :=
  committed.Pairwise fun later earlier => ∀ (txid : String) (vout : UInt32),
    SpentIn earlier txid vout → NotUnspent later txid vout

/-- Some snapshot committed so far has the outpoint as spent. -/
def SpentOnce (state : SyncState) (txid : String) (vout : UInt32) : Prop :=
  ∃ snapshot ∈ state.committed, SpentIn snapshot txid vout

section Guard

variable (reads : FinalizeReads) (txid : String) (vout : UInt32)

/-- The finalize starts from a row of the outpoint, which is spent or was spent in what the task
had read. -/
def ListedSpent (incoming : OffchainVtxoSnapshot) (prior : Option OffchainVtxoSnapshot) : Prop :=
  snapshotRecord (restoredSnapshot incoming prior reads.pending) txid vout ≠ none ∧
    (SpentBefore prior txid vout ∨
      NotUnspent (restoredSnapshot incoming prior reads.pending) txid vout)

/-- No record past the unroll stands for the outpoint when the records are reconciled. -/
def NoRecord : Prop :=
  ∀ (spent : List OutPoint) (key : String) (record : VtxoExitRecord),
    (reads.reread spent)[key]? = some record →
    confirmedUnrollOutpoint key record ≠ some (txid, vout)

/-- The finalize starts without a row of the outpoint and has no record to make one from. -/
def LeftOut (incoming : OffchainVtxoSnapshot) (prior : Option OffchainVtxoSnapshot) : Prop :=
  snapshotRecord (restoredSnapshot incoming prior reads.pending) txid vout = none ∧
    NoRecord reads txid vout

def RelayedOnNetwork (answers : SyncAnswers) (txid : String) : Prop :=
  ∃ host, Txid.fromStr txid = some host ∧ answers.isTxRelayedOnNetwork host = .ok true

/-- The finalize gives the fetched row the flag that the row of the base has: an unrolled row
has evidence, any other row has none. -/
def FlagReturns (row fetched : VirtualTxOutPointRecord) : Prop :=
  if row.isUnrolled = true then
    txid ∈ confirmedUnrollStickyHostTxids reads.observations reads.records ∨
      (fetched.isUnrolled = true ∧ RelayedOnNetwork reads.answers txid)
  else
    txid ∉ confirmedUnrollStickyHostTxids reads.observations reads.records ∧
      (fetched.isUnrolled = true → ¬ RelayedOnNetwork reads.answers txid)

/-- The fetched row differs from the row of the base at most in `is_unrolled`, and that flag
returns to the base's. An overlay skips such a row. -/
def LeftAlone (base merged : OffchainVtxoSnapshot) : Prop :=
  ∃ row fetched, snapshotRecord base txid vout = some row ∧
    snapshotRecord merged txid vout = some fetched ∧
    { fetched with isUnrolled := row.isUnrolled } = row ∧ FlagReturns reads txid row fetched ∧
    (row.isUnrolled = false → NoRecord reads txid vout)

end Guard

variable (codec : Codec)

/-- What the probe says about the host agrees with the flag of the row that the pass had read,
so that the pass does not write the row. -/
def FinalityAgrees (reads : FinalityReads) (base : OffchainVtxoSnapshot) (txid : String)
    (vout : UInt32) : Prop :=
  txid ∈ stampableHosts codec base →
    ∀ answer, hostAnswer codec base reads.observations reads.pending reads.records reads.probe
        txid = some answer →
      ∀ row ∈ base.virtualTxOutpoints, row.isAt txid vout = true →
        row.isUnrolled = hostTxReachedFinality answer.confirmations

/-- A commit is safe when it does not write an outpoint as unspent that was committed as spent,
and a full list names each outpoint once. -/
def SyncSafe (state : SyncState) : SyncOp → Prop
  | .listFull _ _ _ _ points => (points.map (·.outpoint)).Nodup
  | .commitSync task reads =>
    match state.tasks[task]? with
    | some (.staged base merged) => ∀ (txid : String) (vout : UInt32),
        SpentOnce state txid vout →
        ListedSpent reads txid vout merged (some base) ∨
          LeftOut reads txid vout merged (some base) ∨ LeftAlone reads txid vout base merged
    | some (.full prior listed) => ∀ (txid : String) (vout : UInt32),
        SpentOnce state txid vout →
        ListedSpent reads txid vout listed prior ∨ LeftOut reads txid vout listed prior
    | _ => True
  | .commitFinality task reads =>
    match state.tasks[task]? with
    | some (.finality base) => ∀ (txid : String) (vout : UInt32),
        SpentOnce state txid vout →
        NotUnspent base txid vout ∨ FinalityAgrees codec reads base txid vout
    | _ => True
  | _ => True

section Finalize

variable {codec} {answers : SyncAnswers} {observations : HostTxObservations}
  {pending : List PendingExitDeductionRecord} {records : VtxoExitRecords}
  {reread : List OutPoint → VtxoExitRecords} {incoming : OffchainVtxoSnapshot}
  {prior : Option OffchainVtxoSnapshot} {result : FinalizedSync} {txid : String} {vout : UInt32}
variable {row : VirtualTxOutPointRecord} {snapshot : OffchainVtxoSnapshot}

theorem UniqueOutpoints.rowsAt_eq (hunique : UniqueOutpoints snapshot)
    (hrow : snapshotRecord snapshot txid vout = some row) :
    ∀ other ∈ rowsAt snapshot txid vout, other = row := by
  intro other hother
  obtain ⟨hmem, hat⟩ := mem_rowsAt.mp hother
  obtain ⟨hrowMem, hrowAt⟩ := mem_of_snapshotRecord hrow
  exact List.inj_on_of_nodup_map hunique hmem hrowMem
    ((isAt_iff_outpointKey.mp hat).trans (isAt_iff_outpointKey.mp hrowAt).symm)

theorem UniqueOutpoints.notUnspent
    (hunique : UniqueOutpoints snapshot) (hspent : SpentIn snapshot txid vout) :
    NotUnspent snapshot txid vout := by
  obtain ⟨row, hrow, hat, hrowSpent⟩ := hspent
  intro other hother hotherAt
  rw [List.inj_on_of_nodup_map hunique hother hrow
    ((isAt_iff_outpointKey.mp hotherAt).trans (isAt_iff_outpointKey.mp hat).symm)]
  exact hrowSpent

theorem NotUnspent.mapRows {update : VirtualTxOutPointRecord → VirtualTxOutPointRecord}
    (hspent : NotUnspent snapshot txid vout) (hupdate : KeepsOutpoint update) :
    NotUnspent (snapshot.mapRows update) txid vout := by
  intro row hrow hat
  obtain ⟨before, hbefore, rfl⟩ := List.mem_map.mp hrow
  rw [hupdate.isAt] at hat
  exact hupdate.spent before (hspent before hbefore hat)

variable {entries : List (String × VtxoExitRecord)} {start final : ExitingVtxoReconcileResult}

theorem rowsAt_recordLoop_of_noRecord
    (hnone : ∀ entry ∈ entries, confirmedUnrollOutpoint entry.1 entry.2 ≠ some (txid, vout))
    (h : entries.foldlM (reconcileExitingVtxoRecord codec answers prior) start = .ok final) :
    rowsAt final.snapshot txid vout = rowsAt start.snapshot txid vout := by
  refine foldlM_invariant (fun result : ExitingVtxoReconcileResult =>
    rowsAt result.snapshot txid vout = rowsAt start.snapshot txid vout) ?_ rfl h
  intro state entry hentry next hnext hstate
  rcases reconcileExitingVtxoRecord_at hnext txid vout with ⟨hhere, -⟩ | ⟨-, hkept⟩
  · exact absurd hhere (hnone entry hentry)
  · exact hkept.trans hstate

theorem uniqueOutpoints_finalizePasses
    (h : finalizePasses codec answers observations pending records reread incoming prior =
      .ok result) (hunique : UniqueOutpoints incoming) : UniqueOutpoints result.snapshot := by
  obtain ⟨esplora, reconciled, hesplora, hreconciled, rfl⟩ := finalizePasses_eq_ok.mp h
  obtain ⟨update, hupdate, hcleared, -⟩ := cleared_eq_mapRows hesplora
  rw [hcleared] at hreconciled
  refine foldlM_invariant (fun result : ExitingVtxoReconcileResult =>
    UniqueOutpoints result.snapshot) ?_
    (hupdate.uniqueOutpoints_mapRows (uniqueOutpoints_restored hunique pending)) hreconciled
  intro state entry _ next hnext hstate
  rcases reconcileExitingVtxoRecord_cases hnext with ⟨-, rfl⟩ | ⟨_, _, -, hround⟩
  · exact hstate
  · exact hround.uniqueOutpoints hstate

/-- A finalize that starts from spent rows, or from none and no record, leaves no unspent row. -/
theorem notUnspent_finalizePasses {reads : FinalizeReads}
    (h : finalizePasses codec reads.answers reads.observations reads.pending reads.records
      reads.reread incoming prior = .ok result)
    (hsafe : ListedSpent reads txid vout incoming prior ∨
      LeftOut reads txid vout incoming prior) :
    NotUnspent result.snapshot txid vout := by
  obtain ⟨esplora, reconciled, hesplora, hreconciled, rfl⟩ := finalizePasses_eq_ok.mp h
  obtain ⟨update, hupdate, hcleared, hsticky⟩ := cleared_eq_mapRows hesplora
  rw [hcleared] at hreconciled
  rcases hsafe with ⟨hpresent, hspent⟩ | ⟨hmissing, hnone⟩
  · have hstart := spentAt_mapRows hupdate hpresent (by
      intro row hrow hat
      rcases hspent with hbefore | hlisted
      · obtain ⟨rfl, rfl⟩ := isAt_iff.mp hat
        exact hsticky row hbefore
      · exact hupdate.spent row (hlisted row hrow hat))
    exact (hstart.recordLoop hreconciled).notUnspent
  · apply notUnspent_of_missing
    rw [rowsAt_recordLoop_of_noRecord (fun entry hentry =>
      hnone _ entry.1 entry.2 (BTreeMap.mem_toList_iff.mp hentry)) hreconciled,
      ← snapshotRecord_eq_none_iff_rowsAt, hupdate.snapshotRecord_mapRows, hmissing]
    rfl

/-- Every row of the outpoint is the given one or spent. -/
def OnlyOrSpent (snapshot : OffchainVtxoSnapshot) (txid : String) (vout : UInt32)
    (row : VirtualTxOutPointRecord) : Prop :=
  ∀ other ∈ rowsAt snapshot txid vout, other = row ∨ other.isSpent = true

/-- The record loop leaves a live row alone or marks it spent. -/
theorem OnlyOrSpent.recordLoop (hpresent : rowsAt start.snapshot txid vout ≠ [])
    (honly : OnlyOrSpent start.snapshot txid vout row) (hunrolled : row.isUnrolled = true)
    (h : entries.foldlM (reconcileExitingVtxoRecord codec answers prior) start = .ok final) :
    OnlyOrSpent final.snapshot txid vout row := by
  refine (foldlM_invariant (fun result : ExitingVtxoReconcileResult =>
    rowsAt result.snapshot txid vout ≠ [] ∧ OnlyOrSpent result.snapshot txid vout row) ?_
    ⟨hpresent, honly⟩ h).2
  rintro state entry - next hnext ⟨hrows, hstate⟩
  rcases reconcileExitingVtxoRecord_at hnext txid vout with ⟨-, hround⟩ | ⟨-, hkept⟩
  · refine ⟨hround.rowsAt_ne_nil hrows, ?_⟩
    have hcleared : OnlyOrSpent (clearExitingRecord state.snapshot txid vout) txid vout row := by
      unfold OnlyOrSpent
      rw [rowsAt_clearExitingRecord]
      cases hcons : rowsAt state.snapshot txid vout with
      | nil => exact absurd hcons hrows
      | cons first rest =>
        intro other hother
        rcases List.mem_cons.mp hother with rfl | hother
        · exact Or.inr rfl
        · exact hstate other (hcons ▸ List.mem_cons_of_mem first hother)
    generalize next.snapshot = after at hround ⊢
    cases hround with
    | live => exact hstate
    | spentOnChain | spent => exact hcleared
    | unrolled amountSats hrow hunspent hspendable =>
      rw [snapshotRecord_eq_head?] at hrow
      rcases hstate _ (List.mem_of_mem_head? hrow) with rfl | hspent
      · rw [hunrolled] at hspendable
        cases hspendable
      · rw [hspent] at hunspent
        cases hunspent
    | missing hnone | reinjected amountSats hnone =>
      exact absurd (snapshotRecord_eq_none_iff_rowsAt.mp hnone) hrows
  · unfold OnlyOrSpent
    rw [hkept]
    exact ⟨hrows, hstate⟩

/-- A live row whose host Esplora has is marked spent or its host is seen. -/
theorem visible_or_spent {start : OffchainVtxoSnapshot} {pass : EsploraPass}
    (h : reconcileExitingVtxosSpentOnEsplora codec answers start records = .ok pass)
    (hrow : row ∈ start.virtualTxOutpoints) (hunrolled : row.isUnrolled = true)
    (hunspent : row.isSpent = false) (hrelayed : RelayedOnNetwork answers row.txid) :
    row.txid ∈ pass.chainVisibleUnrolledHosts ∨ NotUnspent pass.snapshot row.txid row.vout := by
  have htarget : (row.txid, row.vout) ∈ esploraProbeTargets start records :=
    mem_esploraProbeTargets_of_row hrow hunrolled hunspent records
  refine foldlM_establishes (fun pass : EsploraPass =>
    row.txid ∈ pass.chainVisibleUnrolledHosts ∨ NotUnspent pass.snapshot row.txid row.vout) ?_
    htarget ?_ h
  · intro state target _ next hnext hstate
    obtain ⟨_, -, ⟨spend, -, rfl⟩ | ⟨-, -, rfl⟩ | ⟨-, -, rfl⟩⟩ := probeExitingVtxo_cases hnext
    · refine hstate.imp_right fun hspent => ?_
      exact hspent.mapRows (keepsOutpoint_markSpent target.1 target.2 spend.text)
    · exact hstate.imp_left (List.mem_append_left _)
    · exact hstate
  · intro state next hnext
    obtain ⟨host, hhost, hcases⟩ := probeExitingVtxo_cases hnext
    obtain ⟨other, hother, hfound⟩ := hrelayed
    cases hhost.symm.trans hother
    rcases hcases with ⟨spend, -, rfl⟩ | ⟨-, -, rfl⟩ | ⟨-, habsent, -⟩
    · refine Or.inr fun marked hmarked hat => ?_
      obtain ⟨before, -, rfl⟩ := List.mem_map.mp hmarked
      rw [(keepsOutpoint_markSpent row.txid row.vout spend.text).isAt] at hat
      simp [hat]
    · exact Or.inl (List.mem_append_right _ (List.mem_singleton.mpr rfl))
    · cases hfound.symm.trans habsent

theorem stickSpentFlag_of_unspent {base : OffchainVtxoSnapshot}
    {row other : VirtualTxOutPointRecord}
    (hbase : snapshotRecord base other.txid other.vout = some row)
    (hunspent : row.isSpent = false) : stickSpentFlag base other = other := by
  unfold stickSpentFlag
  rw [hbase]
  simp [hunspent]

theorem clearIndexerUnrolled_of_isSpent {hosts : List String}
    (hspent : row.isSpent = true) : clearIndexerUnrolled hosts row = row := by
  simp [clearIndexerUnrolled, hspent]

theorem mem_priorStickyTxids {base : OffchainVtxoSnapshot} {hosts : List String} {host : String} :
    host ∈ priorStickyTxids base hosts ↔
      (∃ row ∈ base.virtualTxOutpoints, row.isUnrolled = true ∧ row.isSpent = false ∧
        row.txid = host) ∧ host ∈ hosts := by
  simp [priorStickyTxids, and_assoc]

section LeftAlone

variable {reads : FinalizeReads} {base merged : OffchainVtxoSnapshot}
  {row fetched : VirtualTxOutPointRecord}

/-- The sticky merges give a fetched row that is left alone the flag of an unrolled base. -/
theorem stickFlags_of_flagReturns (hrow : snapshotRecord base fetched.txid fetched.vout = some row)
    (hsame : { fetched with isUnrolled := row.isUnrolled } = row)
    (hunspent : row.isSpent = false) (hflag : FlagReturns reads fetched.txid row fetched) :
    stickSpentFlag base (stickUnrolledFlag (priorStickyTxids base
        (confirmedUnrollStickyHostTxids reads.observations reads.records)) fetched) =
      if row.isUnrolled = true then row else fetched := by
  obtain ⟨hmem, hat⟩ := mem_of_snapshotRecord hrow
  have hfetched : fetched.isSpent = false := by
    rw [← hsame] at hunspent
    exact hunspent
  rw [stickSpentFlag_of_unspent _ hunspent, stickUnrolledFlag, if_neg (by simp [hfetched])]
  · unfold FlagReturns at hflag
    cases hunrolled : row.isUnrolled with
    | true =>
      simp only [hunrolled, if_true] at hsame hflag ⊢
      split_ifs with hsticky
      · exact hsame
      · -- The base has the host unrolled, so it is not sticky and the fetched row says so.
        have hfetchedUnrolled : fetched.isUnrolled = true := by
          refine (hflag.resolve_left fun hhost => hsticky ?_).1
          exact mem_priorStickyTxids.mpr ⟨⟨row, hmem, hunrolled, hunspent,
            (isAt_iff.mp hat).1⟩, hhost⟩
        rw [← hsame, ← hfetchedUnrolled]
    | false =>
      simp only [hunrolled, Bool.false_eq_true, if_false] at hflag ⊢
      rw [if_neg fun hsticky => hflag.1 (mem_priorStickyTxids.mp hsticky).2]
  · rw [(keepsOutpoint_stickUnrolledFlag _).txid, (keepsOutpoint_stickUnrolledFlag _).vout]
    exact hrow

/-- The passes before the record loop bring a row that is left alone back to the base. -/
theorem onlyOrSpent_cleared {esplora : EsploraPass}
    (hunique : UniqueOutpoints merged) (hrow : snapshotRecord base txid vout = some row)
    (hfetched : snapshotRecord merged txid vout = some fetched)
    (hsame : { fetched with isUnrolled := row.isUnrolled } = row)
    (hunspent : row.isSpent = false) (hflag : FlagReturns reads txid row fetched)
    (hesplora : reconcileExitingVtxosSpentOnEsplora codec reads.answers
      (flaggedSnapshot reads.observations reads.pending reads.records merged (some base))
      reads.records = .ok esplora) :
    OnlyOrSpent (clearIndexerUnrolledWithoutLocalFinality esplora.snapshot
      (confirmedUnrollStickyHostTxids reads.observations reads.records ++
        esplora.chainVisibleUnrolledHosts)) txid vout row := by
  have hsaw := esploraSaw hesplora
  obtain ⟨mark, hmark, hmarked, hspends⟩ := hsaw.rows
  have hflagged : flaggedSnapshot reads.observations reads.pending reads.records merged
      (some base) = (restoredSnapshot merged (some base) reads.pending).mapRows
        (stickSpentFlag base ∘ stickUnrolledFlag (priorStickyTxids base
          (confirmedUnrollStickyHostTxids reads.observations reads.records))) :=
    OffchainVtxoSnapshot.mapRows_mapRows _ _ _
  obtain ⟨rfl, rfl⟩ := isAt_iff.mp (mem_of_snapshotRecord hfetched).2
  have hrestored : snapshotRecord (restoredSnapshot merged (some base) reads.pending)
      fetched.txid fetched.vout = some fetched := by
    rw [snapshotRecord_restored, hfetched, Option.some_or]
  have hstick := stickFlags_of_flagReturns hrow hsame hunspent hflag
  intro other hother
  obtain ⟨hmem, hat⟩ := mem_rowsAt.mp hother
  obtain ⟨marked, hmarkedMem, rfl⟩ := List.mem_map.mp hmem
  rw [hmarked] at hmarkedMem
  obtain ⟨flagged, hflaggedMem, rfl⟩ := List.mem_map.mp hmarkedMem
  have hflaggedRows := hflaggedMem
  rw [hflagged] at hflaggedRows
  obtain ⟨start, hstart, rfl⟩ := List.mem_map.mp hflaggedRows
  have hfrom : start = fetched := by
    have hkeeps := (keepsOutpoint_stickSpentFlag base).comp (keepsOutpoint_stickUnrolledFlag
      (priorStickyTxids base (confirmedUnrollStickyHostTxids reads.observations reads.records)))
    rw [(keepsOutpoint_clearIndexerUnrolled _).isAt, hmark.isAt, hkeeps.isAt] at hat
    exact (uniqueOutpoints_restored hunique reads.pending).rowsAt_eq hrestored start
      (mem_rowsAt.mpr ⟨hstart, hat⟩)
  subst hfrom
  rw [Function.comp_apply, hstick] at hflaggedMem ⊢
  rcases hspends (if row.isUnrolled = true then row else start) with hkept | hspent
  · rw [hkept]
    left
    unfold FlagReturns at hflag
    obtain ⟨htxid, hvout⟩ := isAt_iff.mp (mem_of_snapshotRecord hrow).2
    cases hunrolled : row.isUnrolled with
    | true =>
      simp only [hunrolled, if_true] at hflag hflaggedMem hkept ⊢
      have hhost : row.txid ∈ confirmedUnrollStickyHostTxids reads.observations reads.records ++
          esplora.chainVisibleUnrolledHosts := by
        rcases hflag with hsticky | ⟨-, hrelayed⟩
        · rw [htxid]
          exact List.mem_append_left _ hsticky
        · rw [← htxid] at hrelayed
          rcases visible_or_spent hesplora hflaggedMem hunrolled hunspent hrelayed with
            hvisible | hspent
          · exact List.mem_append_right _ hvisible
          · have hin : mark row ∈ esplora.snapshot.virtualTxOutpoints := by
              rw [hmarked]
              exact List.mem_map_of_mem hflaggedMem
            rw [hkept] at hin
            have hnow := hspent row hin (by simp)
            rw [hunspent] at hnow
            cases hnow
      simp [clearIndexerUnrolled, hhost]
    | false =>
      simp only [hunrolled, Bool.false_eq_true, if_false] at hsame hflag ⊢
      cases hfetchedUnrolled : start.isUnrolled with
      | false =>
        have heq : start = row := by rw [← hsame, ← hfetchedUnrolled]
        rw [heq]
        simp [clearIndexerUnrolled, hunrolled]
      | true =>
        have hhost : start.txid ∉ confirmedUnrollStickyHostTxids reads.observations
            reads.records ++ esplora.chainVisibleUnrolledHosts := by
          intro hhost
          rcases List.mem_append.mp hhost with hsticky | hvisible
          · exact hflag.1 hsticky
          · exact hflag.2 hfetchedUnrolled (hsaw.visible _ hvisible)
        have hstartSpent : start.isSpent = false := by
          rw [← hsame] at hunspent
          exact hunspent
        rw [clearIndexerUnrolled, if_neg (by simp [hstartSpent, hfetchedUnrolled]),
          if_pos hhost, hsame]
  · rw [clearIndexerUnrolled_of_isSpent hspent]
    exact Or.inr hspent

/-- A finalize leaves the row of a base alone or marks it spent, when the fetched row differs
from it at most in a flag that returns. -/
theorem onlyOrSpent_finalizePasses (hunique : UniqueOutpoints merged)
    (hleft : LeftAlone reads txid vout base merged)
    (h : finalizePasses codec reads.answers reads.observations reads.pending reads.records
      reads.reread merged (some base) = .ok result) :
    ∃ row, snapshotRecord base txid vout = some row ∧
      OnlyOrSpent result.snapshot txid vout row := by
  obtain ⟨row, fetched, hrow, hfetched, hsame, hflag, hnone⟩ := hleft
  refine ⟨row, hrow, ?_⟩
  have hpresent : snapshotRecord (restoredSnapshot merged (some base) reads.pending) txid vout =
      some fetched := by
    rw [snapshotRecord_restored, hfetched, Option.some_or]
  cases hspent : row.isSpent with
  | true =>
    intro other hother
    obtain ⟨hmem, hat⟩ := mem_rowsAt.mp hother
    refine Or.inr (notUnspent_finalizePasses h (Or.inl ⟨?_, Or.inl ?_⟩) other hmem hat)
    · rw [hpresent]
      exact Option.some_ne_none _
    · simp [SpentBefore, snapshotRecordAlreadySpent, hrow, hspent]
  | false =>
    obtain ⟨esplora, reconciled, hesplora, hreconciled, rfl⟩ := finalizePasses_eq_ok.mp h
    have hcleared := onlyOrSpent_cleared hunique hrow hfetched hsame hspent hflag hesplora
    cases hunrolled : row.isUnrolled with
    | true =>
      refine OnlyOrSpent.recordLoop ?_ hcleared hunrolled hreconciled
      obtain ⟨update, hupdate, heq, -⟩ := cleared_eq_mapRows hesplora
      rw [heq, Ne, ← snapshotRecord_eq_none_iff_rowsAt, hupdate.snapshotRecord_mapRows, hpresent]
      exact Option.some_ne_none _
    | false =>
      have hrows := rowsAt_recordLoop_of_noRecord (fun entry hentry =>
        hnone hunrolled _ entry.1 entry.2 (BTreeMap.mem_toList_iff.mp hentry)) hreconciled
      unfold OnlyOrSpent
      rw [hrows]
      exact hcleared

end LeftAlone

end Finalize

/-! ## Commits -/

section Commits

variable {codec} {txid : String} {vout : UInt32} {state : SyncState}

theorem notUnspent_overlay {latest base finalized : OffchainVtxoSnapshot}
    (hbase : UniqueOutpoints base) (hlatest : NotUnspent latest txid vout)
    (hrows : ∀ row ∈ rowsAt finalized txid vout,
      snapshotRecord base txid vout = some row ∨ row.isSpent = true) :
    NotUnspent (overlayChangedVtxoRows latest base finalized) txid vout := by
  intro row hrow hat
  rcases mem_vals_overlayRows _ hrow with hstored | ⟨hwritten, hchanged⟩
  · exact hlatest row hstored hat
  · rcases hrows row (mem_rowsAt.mpr ⟨hwritten, hat⟩) with hkept | hspent
    · rw [snapshotRecord_eq_rowAt hbase, ← isAt_iff_outpointKey.mp hat] at hkept
      exact absurd hkept hchanged
    · exact hspent

def SyncTask.UniqueRows : SyncTask → Prop
  | .light prior => UniqueOutpoints prior
  | .staged base merged => UniqueOutpoints base ∧ UniqueOutpoints merged
  | .full _ listed => UniqueOutpoints listed
  | .finality base => UniqueOutpoints base

structure SyncInvariant (state : SyncState) : Prop where
  unique : ∀ snapshot ∈ state.committed, UniqueOutpoints snapshot
  tasks : ∀ task ∈ state.tasks, task.UniqueRows
  spent : SpentForever state.committed

namespace SyncInvariant

theorem opened {stored : Option OffchainVtxoSnapshot}
    (hunique : ∀ snapshot, stored = some snapshot → UniqueOutpoints snapshot) :
    SyncInvariant (SyncState.opened stored) := by
  refine ⟨?_, by simp [SyncState.opened], ?_⟩
  · intro snapshot hsnapshot
    exact hunique snapshot (Option.mem_toList.mp hsnapshot)
  · cases stored with
    | none => exact List.Pairwise.nil
    | some snapshot => exact List.pairwise_singleton _ _

variable {snapshot : OffchainVtxoSnapshot}

section

variable (h : SyncInvariant state)
include h

theorem uniqueOutpoints (hstored : state.stored = some snapshot) : UniqueOutpoints snapshot :=
  h.unique snapshot (List.mem_of_mem_head? hstored)

theorem notUnspent_stored (hstored : state.stored = some snapshot)
    (honce : SpentOnce state txid vout) : NotUnspent snapshot txid vout := by
  obtain ⟨earlier, hearlier, hspent⟩ := honce
  obtain ⟨rest, hcommitted⟩ := List.head?_eq_some_iff.mp hstored
  have hforever := h.spent
  rw [SpentForever, hcommitted, List.pairwise_cons] at hforever
  rw [hcommitted] at hearlier
  rcases List.mem_cons.mp hearlier with rfl | hrest
  · exact (h.uniqueOutpoints hstored).notUnspent hspent
  · exact hforever.1 earlier hrest txid vout hspent

theorem begin {task : SyncTask} (htask : task.UniqueRows) : SyncInvariant (state.begin task) := by
  refine ⟨h.unique, ?_, h.spent⟩
  intro other hother
  rcases List.mem_append.mp hother with hbefore | hnew
  · exact h.tasks other hbefore
  · rw [List.mem_singleton.mp hnew]
    exact htask

theorem finish (task : Nat) : SyncInvariant (state.finish task) :=
  ⟨h.unique, fun other hother => h.tasks other (List.mem_of_mem_eraseIdx hother), h.spent⟩

theorem write (hunique : UniqueOutpoints snapshot)
    (hspent : ∀ (txid : String) (vout : UInt32), SpentOnce state txid vout →
      NotUnspent snapshot txid vout) : SyncInvariant (state.write snapshot) := by
  refine ⟨?_, h.tasks, ?_⟩
  · intro other hother
    rcases List.mem_cons.mp hother with rfl | hbefore
    · exact hunique
    · exact h.unique other hbefore
  · refine List.pairwise_cons.mpr ⟨?_, h.spent⟩
    intro earlier hearlier txid vout hearlierSpent
    exact hspent txid vout ⟨earlier, hearlier, hearlierSpent⟩

theorem update {f : OffchainVtxoSnapshot → OffchainVtxoSnapshot}
    (hf : ∀ snapshot, ∃ change, KeepsOutpoint change ∧
      (f snapshot).virtualTxOutpoints = (snapshot.mapRows change).virtualTxOutpoints) :
    SyncInvariant (state.update f) := by
  unfold SyncState.update
  cases hstored : state.stored with
  | none => exact h
  | some snapshot =>
    obtain ⟨change, hchange, hrows⟩ := hf snapshot
    refine h.write ?_ fun txid vout honce => ?_
    · unfold UniqueOutpoints
      rw [hrows]
      exact hchange.uniqueOutpoints_mapRows (h.uniqueOutpoints hstored)
    · unfold NotUnspent
      rw [hrows]
      exact (h.notUnspent_stored hstored honce).mapRows hchange

theorem overlay {base finalized : OffchainVtxoSnapshot} (hbase : UniqueOutpoints base)
    (hfinalized : UniqueOutpoints finalized)
    (hrows : ∀ (txid : String) (vout : UInt32), SpentOnce state txid vout →
      ∀ row ∈ rowsAt finalized txid vout,
      snapshotRecord base txid vout = some row ∨ row.isSpent = true) :
    SyncInvariant (state.write
      (commitOperatorSnapshot state.stored finalized (.overlayOnto base))) := by
  unfold commitOperatorSnapshot
  cases hstored : state.stored with
  | none =>
    apply h.write hfinalized
    -- Nothing was committed yet.
    rintro txid vout ⟨snapshot, hsnapshot, -⟩
    rw [List.head?_eq_none_iff.mp hstored] at hsnapshot
    cases hsnapshot
  | some latest =>
    apply h.write (sortedByOutpoint_overlay latest base finalized).uniqueOutpoints
    intro txid vout honce
    exact notUnspent_overlay hbase (h.notUnspent_stored hstored honce)
      (hrows txid vout honce)

end

end SyncInvariant

theorem uniqueOutpoints_mergeIncremental (pks : ServerPks) (prior : OffchainVtxoSnapshot)
    (fetched : List VirtualTxOutPoint) (now : Int) :
    UniqueOutpoints (mergeIncrementalVtxoSnapshot pks prior fetched now) :=
  sortedByOutpoint_mergeIncremental.uniqueOutpoints

theorem uniqueOutpoints_fullList {points : List VirtualTxOutPoint}
    (hunique : (points.map (·.outpoint)).Nodup) (blocking : Bool) (pks : ServerPks)
    (dustSats : Nat) (now : Int) (prior : Option OffchainVtxoSnapshot) :
    UniqueOutpoints (fullList blocking pks dustSats now points prior) := by
  have hkeys : (fullList blocking pks dustSats now points prior).virtualTxOutpoints.map
      outpointKey =
      (points.map (·.outpoint)).map fun outpoint => (outpoint.txid.text, outpoint.vout) := by
    simp only [fullList, snapshotFromVirtualTxOutpoints, List.map_map]
    rfl
  unfold UniqueOutpoints
  rw [hkeys]
  apply hunique.map
  rintro ⟨⟨text, _, _⟩, vout⟩ ⟨⟨text', _, _⟩, vout'⟩ heq
  cases heq
  rfl

section

variable (h : SyncInvariant state)
include h

/-- A safe finalize keeps the invariant. -/
theorem SyncInvariant.finalizeAndCommit_overlay {reads : FinalizeReads}
    {base merged : OffchainVtxoSnapshot} (hbase : UniqueOutpoints base)
    (hmerged : UniqueOutpoints merged)
    (hsafe : ∀ (txid : String) (vout : UInt32), SpentOnce state txid vout →
      ListedSpent reads txid vout merged (some base) ∨
      LeftOut reads txid vout merged (some base) ∨ LeftAlone reads txid vout base merged) :
    SyncInvariant (finalizeAndCommit codec state reads merged (some base)
      (.overlayOnto base)) := by
  unfold finalizeAndCommit
  cases hfinalized : finalizedSnapshot codec reads merged (some base) with
  | error error => exact h
  | ok snapshot =>
    obtain ⟨result, hresult, hsnapshot⟩ := bind_eq_ok.mp hfinalized
    cases hsnapshot
    have hunique : UniqueOutpoints result.snapshot :=
      uniqueOutpoints_finalizePasses hresult hmerged
    refine h.overlay hbase hunique fun txid vout honce row hrow => ?_
    obtain ⟨hmem, hat⟩ := mem_rowsAt.mp hrow
    rcases or_assoc.mpr (hsafe txid vout honce) with hspent | hleft
    · exact Or.inr (notUnspent_finalizePasses hresult hspent row hmem hat)
    · obtain ⟨kept, hkept, honly⟩ := onlyOrSpent_finalizePasses hmerged hleft hresult
      refine (honly row hrow).imp_left ?_
      rintro rfl
      exact hkept

theorem SyncInvariant.finalizeAndCommit_replace {reads : FinalizeReads}
    {listed : OffchainVtxoSnapshot} {prior : Option OffchainVtxoSnapshot}
    (hlisted : UniqueOutpoints listed)
    (hsafe : ∀ (txid : String) (vout : UInt32), SpentOnce state txid vout →
      ListedSpent reads txid vout listed prior ∨ LeftOut reads txid vout listed prior) :
    SyncInvariant (finalizeAndCommit codec state reads listed prior .replace) := by
  unfold finalizeAndCommit
  cases hfinalized : finalizedSnapshot codec reads listed prior with
  | error error => exact h
  | ok snapshot =>
    obtain ⟨result, hresult, hsnapshot⟩ := bind_eq_ok.mp hfinalized
    cases hsnapshot
    refine h.write ?_ fun txid vout honce =>
      notUnspent_finalizePasses hresult (hsafe txid vout honce)
    exact uniqueOutpoints_finalizePasses hresult hlisted

/-- A finality pass whose probes agree with the rows it writes, or whose rows are spent. -/
theorem SyncInvariant.commitFinality {reads : FinalityReads} {base : OffchainVtxoSnapshot}
    (hbase : UniqueOutpoints base)
    (hsafe : ∀ (txid : String) (vout : UInt32), SpentOnce state txid vout →
      NotUnspent base txid vout ∨ FinalityAgrees codec reads base txid vout) :
    SyncInvariant (state.write (commitOperatorSnapshot state.stored
      (finalitySnapshot codec reads base) (.overlayOnto base))) := by
  have hfinal : finalitySnapshot codec reads base = base.mapRows fun row =>
      stampedRow (stampableHosts codec base) (hostAnswer codec base reads.observations
        reads.pending reads.records reads.probe row.txid) row :=
    reconcileHostTxFinalityState_snapshot ..
  have hstamp : KeepsOutpoint fun row =>
      stampedRow (stampableHosts codec base) (hostAnswer codec base reads.observations
        reads.pending reads.records reads.probe row.txid) row := by
    refine ⟨fun row => stampedRow_txid _ _ _, fun row => ?_, fun row hspent => ?_⟩
    · unfold stampedRow
      split
      · rfl
      · split <;> rfl
    · rw [stampedRow_isSpent]
      exact hspent
  rw [hfinal]
  apply h.overlay hbase (hstamp.uniqueOutpoints_mapRows hbase)
  intro txid vout honce row hrow
  obtain ⟨hmem, hat⟩ := mem_rowsAt.mp hrow
  rcases hsafe txid vout honce with hspent | hagrees
  · exact Or.inr (hspent.mapRows hstamp row hmem hat)
  · obtain ⟨before, hbefore, rfl⟩ := List.mem_map.mp hmem
    rw [hstamp.isAt] at hat
    obtain ⟨rfl, rfl⟩ := isAt_iff.mp hat
    have hsame : stampedRow (stampableHosts codec base) (hostAnswer codec base reads.observations
        reads.pending reads.records reads.probe before.txid) before = before := by
      unfold stampedRow
      split
      · rfl
      · rename_i answer hanswer
        split_ifs with hstampable
        · rw [← hagrees hstampable answer hanswer before hbefore hat]
        · rfl
    rw [hsame, snapshotRecord_eq_rowAt hbase]
    exact Or.inl ((rowAt_eq_some_iff _ hbase).mpr ⟨hbefore, rfl⟩)

/-- Every safe step keeps the invariant. -/
theorem SyncInvariant.syncStep {op : SyncOp} (hsafe : SyncSafe codec state op) :
    SyncInvariant (syncStep codec state op) := by
  cases op with
  | beginLight =>
    simp only [Arkade.syncStep]
    split
    · exact h
    · rename_i prior hstored
      exact h.begin (h.uniqueOutpoints hstored)
  | stageLight task pks fetched now =>
    simp only [Arkade.syncStep]
    split
    · rename_i prior htask
      have hprior : UniqueOutpoints prior := h.tasks _ (List.mem_of_getElem? htask)
      have hbase : UniqueOutpoints (state.stored.getD prior) := by
        cases hstored : state.stored with
        | none => exact hprior
        | some snapshot => exact h.uniqueOutpoints hstored
      exact (h.finish task).begin ⟨hbase, uniqueOutpoints_mergeIncremental ..⟩
    · exact h
  | listFull blocking pks dustSats now points =>
    exact h.begin (uniqueOutpoints_fullList hsafe ..)
  | beginFinality =>
    simp only [Arkade.syncStep]
    split
    · exact h
    · rename_i base hstored
      exact h.begin (h.uniqueOutpoints hstored)
  | commitSync task reads =>
    simp only [Arkade.syncStep]
    simp only [SyncSafe] at hsafe
    split
    · rename_i base merged htask
      rw [htask] at hsafe
      obtain ⟨hbase, hmerged⟩ := h.tasks _ (List.mem_of_getElem? htask)
      exact (h.finish task).finalizeAndCommit_overlay hbase hmerged hsafe
    · rename_i prior listed htask
      rw [htask] at hsafe
      exact (h.finish task).finalizeAndCommit_replace
        (h.tasks _ (List.mem_of_getElem? htask)) hsafe
    · exact h
  | commitFinality task reads =>
    simp only [Arkade.syncStep]
    simp only [SyncSafe] at hsafe
    split
    · rename_i base htask
      rw [htask] at hsafe
      exact (h.finish task).commitFinality (h.tasks _ (List.mem_of_getElem? htask)) hsafe
    · exact h
  | markSpent txid vout spentBy =>
    exact h.update fun _ => ⟨_, keepsOutpoint_markSpent txid vout spentBy, rfl⟩
  | stampFullListedAt fullListedAt =>
    exact h.update fun _ => ⟨id, KeepsOutpoint.id, by simp [OffchainVtxoSnapshot.mapRows]⟩

end

end Commits

/-- Over every run of light syncs, full-list syncs, finality passes and completions whose steps
are safe: an outpoint that was committed as spent is not unspent in any snapshot committed
later. -/
theorem spent_forever_of_safe_run (codec : Codec) (stored : Option OffchainVtxoSnapshot)
    (hunique : ∀ snapshot, stored = some snapshot → UniqueOutpoints snapshot) (ops : List SyncOp)
    (hsafe : RunMeets (syncStep codec) (SyncSafe codec) (SyncState.opened stored) ops) :
    SpentForever (syncRun codec (SyncState.opened stored) ops).committed :=
  (run_invariant_of_runMeets SyncInvariant (fun _ _ hop hstate => hstate.syncStep hop)
    (SyncInvariant.opened hunique) hsafe).spent

/-! ## Completion before and after a full list is read -/

variable (host : Txid)

def laggingPoint : VirtualTxOutPoint where
  outpoint := { txid := host, vout := 0 }
  createdAt := 0
  expiresAt := 0
  amount := 1000
  script := []
  isPreconfirmed := false
  isSwept := false
  isUnrolled := true
  isSpent := false
  spentBy := none
  commitmentTxids := []
  settledBy := none
  arkTxid := none
  assets := []

def noServerPks : ServerPks where
  scriptToServerPk _ := none
  xOnlyPublicKeyFromStr _ := none

def sampleSpend : Txid := sampleTxid 'b' (by decide)

def outputRecord (phase : VtxoExitPhase) : VtxoExitRecords :=
  BTreeMap.singleton (vtxoExitRecordKey host.text 0)
    { phase, taggedAt := 0, hostTxid := host.text, amountSats := 1000 }

def laggingReads (phase : VtxoExitPhase) : FinalizeReads where
  observations := ∅
  pending := []
  records := outputRecord host phase
  reread _ := outputRecord host .exited
  answers := relayedAnswers
  prefetched := ∅

def unrolledState : SyncState :=
  SyncState.opened (some (snapshotWithRows [unrolledRow host]))

def laggingList : SyncOp := .listFull false noServerPks 330 0 [laggingPoint host]

def staleReplaceOps : List SyncOp :=
  [laggingList host, .markSpent host.text 0 sampleSpend.text,
    .commitSync 0 (laggingReads host .completeReady)]

def freshReplaceOps : List SyncOp :=
  [.markSpent host.text 0 sampleSpend.text, laggingList host,
    .commitSync 0 (laggingReads host .exited)]

theorem finalize_liveRow {host : Txid} {incoming prior : OffchainVtxoSnapshot}
    {row priorRow : VirtualTxOutPointRecord} (hrows : incoming.virtualTxOutpoints = [row])
    (hat : row.isAt host.text 0 = true) (hunrolled : row.isUnrolled = true)
    (hunspent : row.isSpent = false) (hprior : snapshotRecord prior host.text 0 = some priorRow)
    (hpriorUnspent : priorRow.isSpent = false) :
    ∃ snapshot, finalizedSnapshot sampleCodec (laggingReads host .completeReady) incoming
      (some prior) = .ok snapshot ∧ row ∈ snapshot.virtualTxOutpoints := by
  obtain ⟨htxid, hvout⟩ := isAt_iff.mp hat
  obtain ⟨flagged, hflagged⟩ : ∃ flagged, flaggedSnapshot ∅ [] (outputRecord host .completeReady)
      incoming (some prior) = flagged := ⟨_, rfl⟩
  have hsticky : ∀ hosts, stickUnrolledFlag hosts row = row := by
    intro hosts
    unfold stickUnrolledFlag
    split_ifs
    · rfl
    · rw [← hunrolled]
    · rfl
  have hflaggedRows : flagged.virtualTxOutpoints = [row] := by
    rw [← hflagged]
    change ((incoming.virtualTxOutpoints.map _).map _) = _
    rw [hrows, List.map_singleton, List.map_singleton, hsticky,
      stickSpentFlag_of_unspent (by rw [htxid, hvout]; exact hprior) hpriorUnspent]
  have htargets : esploraProbeTargets flagged (outputRecord host .completeReady) =
      [(host.text, 0)] := by
    have hconfirmed : confirmedUnrollOutpoint (vtxoExitRecordKey host.text 0)
        { phase := .completeReady, taggedAt := 0, hostTxid := host.text, amountSats := 1000 } =
        some (host.text, 0) :=
      confirmedUnrollOutpoint_eq_some.mpr ⟨rfl, parseVtxoExitRecordKey_vtxoExitRecordKey _ _⟩
    unfold esploraProbeTargets
    rw [hflaggedRows]
    change [(_, _)].foldl _ _ = _
    rw [List.foldl_cons, List.foldl_nil]
    simp [addProbeTarget, hconfirmed, hunrolled, hunspent, outpointKey, htxid, hvout]
  have hesplora := esplora_of_target htargets
  have hcleared : (clearIndexerUnrolledWithoutLocalFinality flagged
      (confirmedUnrollStickyHostTxids ∅ (outputRecord host .completeReady) ++
        [host.text])).virtualTxOutpoints = [row] := by
    change List.map _ _ = _
    rw [hflaggedRows, List.map_singleton, clearIndexerUnrolled]
    simp [htxid]
  subst hflagged
  refine ⟨_, bind_eq_ok.mpr ⟨_, finalizePasses_eq_ok.mpr ⟨_, _, hesplora, rfl, rfl⟩, rfl⟩, ?_⟩
  change row ∈ (clearIndexerUnrolledWithoutLocalFinality (flaggedSnapshot ∅ [] _ incoming
    (some prior)) (confirmedUnrollStickyHostTxids ∅ (outputRecord host .completeReady) ++
      [host.text])).virtualTxOutpoints
  rw [hcleared]
  exact List.mem_singleton.mpr rfl

def completedSnapshot : OffchainVtxoSnapshot :=
  markVtxoSpentInSnapshot (snapshotWithRows [unrolledRow host]) host.text 0 sampleSpend.text

theorem spentIn_completedSnapshot : SpentIn (completedSnapshot host) host.text 0 := by
  refine ⟨_, List.mem_map_of_mem (List.mem_singleton.mpr rfl), ?_, ?_⟩ <;>
    simp [unrolledRow, sampleRow, isAt]

theorem snapshotRecord_completedSnapshot :
    snapshotRecord (completedSnapshot host) host.text 0 =
      some { unrolledRow host with isSpent := true, spentBy := some sampleSpend.text } := by
  simp [completedSnapshot, markVtxoSpentInSnapshot, OffchainVtxoSnapshot.mapRows, snapshotRecord,
    snapshotWithRows, unrolledRow, sampleRow, isAt]

theorem eq_of_spentOnce_sample {host : Txid} {tasks : List SyncTask} {txid : String} {vout : UInt32}
    (h : SpentOnce ⟨[completedSnapshot host, snapshotWithRows [unrolledRow host]], tasks⟩ txid
      vout) : txid = host.text ∧ vout = 0 := by
  obtain ⟨snapshot, hsnapshot, row, hrow, hat, -⟩ := h
  have hmark := keepsOutpoint_markSpent host.text 0 sampleSpend.text
  have hkey : row.isAt host.text 0 = true := by
    rcases List.mem_cons.mp hsnapshot with rfl | hsnapshot
    · obtain ⟨before, hbefore, rfl⟩ := List.mem_map.mp hrow
      rw [hmark.isAt, List.mem_singleton.mp hbefore]
      simp [unrolledRow, sampleRow, isAt]
    · rw [List.mem_singleton.mp hsnapshot] at hrow
      rw [List.mem_singleton.mp hrow]
      simp [unrolledRow, sampleRow, isAt]
  obtain ⟨htxid, hvout⟩ := isAt_iff.mp hkey
  obtain ⟨rfl, rfl⟩ := isAt_iff.mp hat
  exact ⟨htxid, hvout⟩

theorem runMeets_freshReplaceOps :
    RunMeets (syncStep sampleCodec) (SyncSafe sampleCodec) (unrolledState host)
      (freshReplaceOps host) := by
  refine ⟨trivial, List.nodup_singleton _, ?_, trivial⟩
  intro txid vout honce
  obtain ⟨rfl, rfl⟩ := eq_of_spentOnce_sample honce
  refine Or.inl ⟨?_, Or.inl ?_⟩
  · rw [Ne, snapshotRecord_eq_none_iff]
    intro hnone
    have hat := hnone (virtualTxOutpointToRecord (laggingPoint host) none)
      (List.mem_singleton.mpr rfl)
    simp [virtualTxOutpointToRecord, laggingPoint, isAt] at hat
  · change SpentBefore (some (completedSnapshot host)) host.text 0
    simp [SpentBefore, snapshotRecordAlreadySpent, snapshotRecord_completedSnapshot]

/-- Once completed, the output stays spent although the operator lists it as unspent. -/
theorem spent_forever_of_safe_run_sample :
    SpentForever (syncRun sampleCodec (unrolledState sampleHost)
      (freshReplaceOps sampleHost)).committed := by
  generalize sampleHost = host
  refine spent_forever_of_safe_run sampleCodec (some (snapshotWithRows [unrolledRow host])) ?_ _
    (runMeets_freshReplaceOps host)
  intro snapshot hsnapshot
  cases hsnapshot
  exact List.nodup_singleton _

/-- A full list that was read before the completion brings the spent output back unspent. -/
theorem stale_replace_unspends :
    ¬ SpentForever (syncRun sampleCodec (unrolledState sampleHost)
      (staleReplaceOps sampleHost)).committed := by
  generalize sampleHost = host
  have hprior : snapshotRecord (snapshotWithRows [unrolledRow host]) host.text 0 =
      some (unrolledRow host) := by
    simp [snapshotRecord, snapshotWithRows, unrolledRow, sampleRow, isAt]
  obtain ⟨snapshot, hfinalized, hrow⟩ := finalize_liveRow
    (show (fullList false noServerPks 330 0 [laggingPoint host]
      (some (snapshotWithRows [unrolledRow host]))).virtualTxOutpoints =
        [virtualTxOutpointToRecord (laggingPoint host) none] from rfl)
    (by simp [virtualTxOutpointToRecord, laggingPoint, isAt]) rfl rfl
    hprior rfl
  have hlisted : syncStep sampleCodec (unrolledState host) (laggingList host) =
      ⟨[snapshotWithRows [unrolledRow host]], [.full (some (snapshotWithRows [unrolledRow host]))
        (fullList false noServerPks 330 0 [laggingPoint host]
          (some (snapshotWithRows [unrolledRow host])))]⟩ := rfl
  have hmarked : ∀ tasks, syncStep sampleCodec ⟨[snapshotWithRows [unrolledRow host]], tasks⟩
      (.markSpent host.text 0 sampleSpend.text) =
      ⟨[completedSnapshot host, snapshotWithRows [unrolledRow host]], tasks⟩ := fun _ => rfl
  have hcommitted : ∀ committed listed, finalizedSnapshot sampleCodec
      (laggingReads host .completeReady) listed (some (snapshotWithRows [unrolledRow host])) =
        .ok snapshot →
      syncStep sampleCodec
        ⟨committed, [.full (some (snapshotWithRows [unrolledRow host])) listed]⟩
        (.commitSync 0 (laggingReads host .completeReady)) = ⟨snapshot :: committed, []⟩ := by
    intro committed listed hfinal
    change finalizeAndCommit sampleCodec ⟨committed, []⟩ _ listed _ .replace = _
    rw [finalizeAndCommit, hfinal]
    rfl
  rw [staleReplaceOps, syncRun, run_cons, hlisted, run_cons, hmarked, run_cons,
    hcommitted _ _ hfinalized, run_nil, SpentForever, List.pairwise_cons]
  rintro ⟨hlater, -⟩
  have hspent := hlater (completedSnapshot host) List.mem_cons_self host.text 0
    (spentIn_completedSnapshot host) _ hrow
    (by simp [virtualTxOutpointToRecord, laggingPoint, isAt])
  cases hspent

end Bitboard.Arkade
