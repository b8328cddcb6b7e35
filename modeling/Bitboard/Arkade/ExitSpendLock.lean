/-
# The spend lock of unilateral exits

An output in a unilateral exit stays in the gross balance of the client until it is stamped
unrolled, so its amount is locked: the balance subtracts it from what can be spent. The lock
is summed over the exit records, the gross balance over the snapshot. This module asks when
the two agree.

The lock counts every locked row that is neither unrolled nor spent. The client counts fewer:
an expired, swept or dust output, or one of a signer past its cutoff, is not spendable. What
is locked but not spendable is then taken out of the amount of other outputs, and a
saturating subtraction hides the rest.

The functions follow `vtxo_exit.rs`, `balance_display.rs`, `pending_exit.rs` and `balance.rs`.
-/

import Bitboard.Arkade.BalanceBuckets
import Bitboard.Arkade.ExitDeductions

namespace Bitboard.Arkade

open Bitboard.Lib
open VirtualTxOutPointRecord

def unilateralExitInProgressSatsFromRecords (records : VtxoExitRecords) : Nat :=
  ((BTreeMap.vals records).filter fun record => record.phase.isPipeline).foldl
    (fun total record => saturatingAdd total record.amountSats) 0

/-- The record still locks: its row is neither unrolled nor spent. Without a row the phase
decides. -/
def locksRow (snapshot : Option OffchainVtxoSnapshot) (key : String) (record : VtxoExitRecord) :
    Bool :=
  match parseVtxoExitRecordKey key with
  | none => false
  | some (txid, vout) =>
    match snapshot with
    | none => record.phase.isPreUnroll
    | some snapshot =>
      ((snapshotRecord snapshot txid vout).map fun row =>
        !row.isUnrolled && !row.isSpent).getD record.phase.isPreUnroll

def unilateralExitSpendLockSats (records : VtxoExitRecords)
    (snapshot : Option OffchainVtxoSnapshot) : Nat :=
  ((records.toList.filter fun (_, record) => record.phase.locksCollaborativeSpend).filter
    fun (key, record) => locksRow snapshot key record).foldl
      (fun total (_, record) => saturatingAdd total record.amountSats) 0

section Display

variable (Intent : Type)

structure ArkadeBalanceInputs where
  preConfirmedSats : Nat
  confirmedOffchainSats : Nat
  recoverableSettleableSats : Nat
  recoverableSettleableVtxoCount : Nat
  recoverablePendingOperatorSweepSats : Nat
  recoverablePendingOperatorSweepVtxoCount : Nat
  onchainConfirmedSats : Nat
  boardingSpendableSats : Nat
  boardingPendingSats : Nat
  unilateralExitInProgressSats : Nat
  collaborativeExitInProgressSats : Nat
  unilateralExitSpendLockSats : Nat
  pendingRecoveryDueToExpiredSignerSats : Nat
  pendingBatchIntents : List Intent

structure BalanceDto where
  confirmedSats : Nat
  offchainSpendableSats : Nat
  onchainBumperSats : Nat
  totalSats : Nat
  boardingSpendableSats : Nat
  boardingPendingSats : Nat
  unilateralExitInProgressSats : Nat
  collaborativeExitInProgressSats : Nat
  pendingRecoveryDueToExpiredSignerSats : Nat
  recoverableSettleableSats : Nat
  recoverableSettleableVtxoCount : Nat
  recoverablePendingOperatorSweepSats : Nat
  recoverablePendingOperatorSweepVtxoCount : Nat
  pendingBatchIntents : List Intent

variable {Intent}

namespace ArkadeBalanceInputs

variable (inputs : ArkadeBalanceInputs Intent)

/-- `spendable_offchain_sats`: what the client counts as spendable off chain. -/
def spendableOffchainSats : Nat :=
  saturatingAdd inputs.preConfirmedSats inputs.confirmedOffchainSats

def totalOffchainSats : Nat :=
  saturatingAdd (saturatingAdd (saturatingAdd inputs.spendableOffchainSats
    inputs.recoverableSettleableSats) inputs.recoverablePendingOperatorSweepSats)
    inputs.pendingRecoveryDueToExpiredSignerSats

def grossConfirmedSats : Nat :=
  saturatingAdd inputs.spendableOffchainSats inputs.onchainConfirmedSats

def spendLockSats : Nat :=
  saturatingAdd inputs.collaborativeExitInProgressSats inputs.unilateralExitSpendLockSats

def grossTotalSats : Nat :=
  saturatingAdd (saturatingAdd inputs.totalOffchainSats inputs.onchainConfirmedSats)
    inputs.boardingPendingSats

end ArkadeBalanceInputs

/-- `build_arkade_balance_dto`. The subtractions saturate. -/
def buildArkadeBalanceDto (inputs : ArkadeBalanceInputs Intent) : BalanceDto Intent where
  confirmedSats := inputs.grossConfirmedSats - inputs.spendLockSats
  offchainSpendableSats :=
    inputs.spendableOffchainSats - min inputs.spendLockSats inputs.spendableOffchainSats
  onchainBumperSats := inputs.onchainConfirmedSats
  totalSats := inputs.grossTotalSats - inputs.spendLockSats
  boardingSpendableSats := inputs.boardingSpendableSats
  boardingPendingSats := inputs.boardingPendingSats
  unilateralExitInProgressSats := inputs.unilateralExitInProgressSats
  collaborativeExitInProgressSats := inputs.collaborativeExitInProgressSats
  pendingRecoveryDueToExpiredSignerSats := inputs.pendingRecoveryDueToExpiredSignerSats
  recoverableSettleableSats := inputs.recoverableSettleableSats
  recoverableSettleableVtxoCount := inputs.recoverableSettleableVtxoCount
  recoverablePendingOperatorSweepSats := inputs.recoverablePendingOperatorSweepSats
  recoverablePendingOperatorSweepVtxoCount := inputs.recoverablePendingOperatorSweepVtxoCount
  pendingBatchIntents := inputs.pendingBatchIntents

end Display

/-- `boarding_status`, as far as the balance reads it. -/
structure BoardingStatus (Intent : Type) where
  spendableSats : Nat
  pendingSats : Nat
  pendingBatchIntents : List Intent

/-- What `balance` reads: what a reconcile of the deductions reads, the stored intents and
deductions, the on-chain balance and the boarding outputs. -/
structure BalanceReads (PublicKey Address Intent : Type) extends
    DeductionInputs PublicKey Address where
  store : BatchStore
  onchainConfirmedSats : ArkResult Nat
  boardingStatus : ArkResult (BoardingStatus Intent)

section Session

variable {PublicKey Address Intent : Type} (xOnly : PublicKey → String)

/-- What `balance` hands to the display, with a stored snapshot. -/
def arkadeBalanceInputs (reads : BalanceReads PublicKey Address Intent) :
    ArkResult (ArkadeBalanceInputs Intent) := do
  let pendingExitDeductions ←
    reconcileWithSnapshot xOnly reads.toDeductionInputs reads.store.pendingExitDeductions
  let info ← reads.serverInfo
  let offchainBuckets ← offchainBalanceBucketsFromSnapshot xOnly info reads.now reads.codec
    reads.snapshot reads.legacySignerPkFallback reads.vtxoExitRecords
  let recoverableBuckets ← recoverableVtxoBuckets info reads.now reads.codec reads.snapshot
    reads.vtxoExitRecords
  let onchainConfirmedSats ← reads.onchainConfirmedSats
  let boarding ← reads.boardingStatus
  return {
    preConfirmedSats := offchainBuckets.preConfirmedSats
    confirmedOffchainSats := offchainBuckets.confirmedSats
    recoverableSettleableSats := recoverableBuckets.settleable.totalSats
    recoverableSettleableVtxoCount := recoverableBuckets.settleable.count
    recoverablePendingOperatorSweepSats := recoverableBuckets.pendingOperatorSweep.totalSats
    recoverablePendingOperatorSweepVtxoCount := recoverableBuckets.pendingOperatorSweep.count
    onchainConfirmedSats
    boardingSpendableSats := boarding.spendableSats
    boardingPendingSats := boarding.pendingSats
    unilateralExitInProgressSats :=
      unilateralExitInProgressSatsFromRecords reads.vtxoExitRecords
    collaborativeExitInProgressSats :=
      collaborativeExitInProgressSats { reads.store with pendingExitDeductions }
    unilateralExitSpendLockSats :=
      unilateralExitSpendLockSats reads.vtxoExitRecords (some reads.snapshot)
    pendingRecoveryDueToExpiredSignerSats := offchainBuckets.pendingRecoveryDueToExpiredSignerSats
    pendingBatchIntents := boarding.pendingBatchIntents }

end Session

def rowSats (test : VirtualTxOutPointRecord → Bool) (rows : List VirtualTxOutPointRecord) : Nat :=
  ((rows.filter test).map amountSats).sum

theorem rowSats_cons (test : VirtualTxOutPointRecord → Bool) (row : VirtualTxOutPointRecord)
    (rows : List VirtualTxOutPointRecord) :
    rowSats test (row :: rows) = (if test row then row.amountSats else 0) + rowSats test rows := by
  unfold rowSats
  by_cases htest : test row = true
  · rw [List.filter_cons_of_pos htest, List.map_cons, List.sum_cons, if_pos htest]
  · rw [List.filter_cons_of_neg htest, if_neg htest, Nat.zero_add]

theorem rowSats_split (test other : VirtualTxOutPointRecord → Bool)
    (rows : List VirtualTxOutPointRecord) :
    rowSats test rows = rowSats (fun row => test row && other row) rows +
      rowSats (fun row => test row && !other row) rows := by
  induction rows with
  | nil => rfl
  | cons row rows ih =>
    rw [rowSats_cons, rowSats_cons, rowSats_cons, ih]
    cases test row with
    | false => simp
    | true =>
      cases other row with
      | false | true =>
        simp
        omega

variable {test other : VirtualTxOutPointRecord → Bool} {rows : List VirtualTxOutPointRecord}

theorem rowSats_congr (h : ∀ row ∈ rows, test row = other row) :
    rowSats test rows = rowSats other rows := by
  unfold rowSats
  rw [List.filter_congr h]

theorem rowSats_le_of_imp (h : ∀ row ∈ rows, test row = true → other row = true) :
    rowSats test rows ≤ rowSats other rows := by
  rw [rowSats_split other test rows]
  apply le_trans (le_of_eq _) (Nat.le_add_right _ _)
  apply rowSats_congr
  intro row hrow
  cases htest : test row with
  | false => rw [Bool.and_false]
  | true => rw [h row hrow htest, Bool.and_true]

def VirtualTxOutPointRecord.isLive (row : VirtualTxOutPointRecord) : Bool :=
  !row.isUnrolled && !row.isSpent

/-- The row is live and the exit record under its key locks it. -/
def isSpendLocked (records : VtxoExitRecords) (row : VirtualTxOutPointRecord) : Bool :=
  row.isLive && (records[vtxoExitRecordKey row.txid row.vout]?).any fun record =>
    record.phase.locksCollaborativeSpend

/-- Every record that locks is stored under the key of a row, with the amount of the row. -/
def LockingRecordsHaveRows (snapshot : OffchainVtxoSnapshot) (records : VtxoExitRecords) : Prop :=
  ∀ key record, records[key]? = some record → record.phase.locksCollaborativeSpend = true →
    ∃ row ∈ snapshot.virtualTxOutpoints, key = vtxoExitRecordKey row.txid row.vout ∧
      record.amountSats = row.amountSats

section Lock

variable {snapshot : OffchainVtxoSnapshot} {records : VtxoExitRecords}

theorem UniqueReadOutpoints.uniqueOutpoints (hunique : UniqueReadOutpoints snapshot) :
    UniqueOutpoints snapshot := by
  apply List.Nodup.of_map fun key : String × UInt32 => (Txid.fromStr key.1, key.2)
  rw [List.map_map]
  exact hunique

theorem snapshotRecord_of_mem (hunique : UniqueOutpoints snapshot)
    {row : VirtualTxOutPointRecord} (hrow : row ∈ snapshot.virtualTxOutpoints) :
    snapshotRecord snapshot row.txid row.vout = some row := by
  cases hfound : snapshotRecord snapshot row.txid row.vout with
  | none =>
    have hnone := snapshotRecord_eq_none_iff.mp hfound row hrow
    rw [isAt_iff_outpointKey.mpr rfl] at hnone
    cases hnone
  | some other =>
    obtain ⟨hother, hat⟩ := mem_of_snapshotRecord hfound
    rw [List.inj_on_of_nodup_map hunique hother hrow (isAt_iff_outpointKey.mp hat)]

theorem locksRow_key (hunique : UniqueOutpoints snapshot) {row : VirtualTxOutPointRecord}
    (hrow : row ∈ snapshot.virtualTxOutpoints) (record : VtxoExitRecord) :
    locksRow (some snapshot) (vtxoExitRecordKey row.txid row.vout) record = row.isLive := by
  simp only [locksRow, parseVtxoExitRecordKey_vtxoExitRecordKey,
    snapshotRecord_of_mem hunique hrow, Option.map_some, Option.getD_some,
    isLive]

def lockingEntries (snapshot : OffchainVtxoSnapshot) (records : VtxoExitRecords) :
    List (String × VtxoExitRecord) :=
  (records.toList.filter fun (_, record) => record.phase.locksCollaborativeSpend).filter
    fun (key, record) => locksRow (some snapshot) key record

theorem mem_lockingEntries_iff {entry : String × VtxoExitRecord} :
    entry ∈ lockingEntries snapshot records ↔ records[entry.1]? = some entry.2 ∧
      entry.2.phase.locksCollaborativeSpend = true ∧
      locksRow (some snapshot) entry.1 entry.2 = true := by
  rw [lockingEntries, List.mem_filter, List.mem_filter, BTreeMap.mem_toList_iff, and_assoc]

/-- The locking records are stored under the keys of the locked rows. -/
theorem lockingEntries_keys_perm (hunique : UniqueOutpoints snapshot)
    (hrecords : LockingRecordsHaveRows snapshot records) :
    ((lockingEntries snapshot records).map Prod.fst).Perm
      ((snapshot.virtualTxOutpoints.filter (isSpendLocked records)).map fun row =>
        vtxoExitRecordKey row.txid row.vout) := by
  have hentries : ((lockingEntries snapshot records).map Prod.fst).Nodup := by
    apply List.Nodup.sublist _ (BTreeMap.nodup_map_fst_toList records)
    exact (List.filter_sublist.trans List.filter_sublist).map Prod.fst
  have hrows : ((snapshot.virtualTxOutpoints.filter (isSpendLocked records)).map fun row =>
      vtxoExitRecordKey row.txid row.vout).Nodup := by
    apply List.Nodup.map_on
    · intro row hrow other hother hkey
      obtain ⟨htxid, hvout⟩ := vtxoExitRecordKey_inj.mp hkey
      exact List.inj_on_of_nodup_map hunique (List.mem_of_mem_filter hrow)
        (List.mem_of_mem_filter hother) (Prod.ext htxid hvout)
    · exact (List.Nodup.of_map _ hunique).filter _
  apply (List.perm_ext_iff_of_nodup hentries hrows).mpr
  intro key
  rw [List.mem_map, List.mem_map]
  constructor
  · intro hkey
    obtain ⟨entry, hentry, hkey⟩ := hkey
    obtain ⟨hrecord, hlocks, hlocked⟩ := mem_lockingEntries_iff.mp hentry
    obtain ⟨row, hrow, hrowKey, _⟩ := hrecords entry.1 entry.2 hrecord hlocks
    rw [hrowKey, locksRow_key hunique hrow] at hlocked
    have hspendLocked : isSpendLocked records row = true := by
      rw [isSpendLocked, hlocked, ← hrowKey, hrecord, Option.any_some, hlocks]
      rfl
    exact ⟨row, List.mem_filter.mpr ⟨hrow, hspendLocked⟩, hrowKey.symm.trans hkey⟩
  · intro hkey
    obtain ⟨row, hrow, hkey⟩ := hkey
    obtain ⟨hrow, hspendLocked⟩ := List.mem_filter.mp hrow
    obtain ⟨hlive, hrecord⟩ := (Bool.and_eq_true _ _).mp hspendLocked
    obtain ⟨record, hrecord, hlocks⟩ := (Option.any_eq_true _ _).mp hrecord
    have hlocked := locksRow_key hunique hrow record
    rw [hlive] at hlocked
    exact ⟨(_, record), mem_lockingEntries_iff.mpr ⟨hrecord, hlocks, hlocked⟩, hkey⟩

/-- The locking records are worth what the locked rows are. -/
theorem lockingEntries_sum (hunique : UniqueOutpoints snapshot)
    (hrecords : LockingRecordsHaveRows snapshot records) :
    ((lockingEntries snapshot records).map fun entry => entry.2.amountSats).sum =
      rowSats (isSpendLocked records) snapshot.virtualTxOutpoints := by
  let amountAt (key : String) : Nat := (records[key]?.map VtxoExitRecord.amountSats).getD 0
  have hentries : (lockingEntries snapshot records).map (fun entry => entry.2.amountSats) =
      ((lockingEntries snapshot records).map Prod.fst).map amountAt := by
    rw [List.map_map]
    apply List.map_congr_left
    intro entry hentry
    simp only [amountAt, Function.comp_apply, (mem_lockingEntries_iff.mp hentry).1,
      Option.map_some, Option.getD_some]
  have hrows : (snapshot.virtualTxOutpoints.filter (isSpendLocked records)).map
        amountSats =
      ((snapshot.virtualTxOutpoints.filter (isSpendLocked records)).map fun row =>
        vtxoExitRecordKey row.txid row.vout).map amountAt := by
    rw [List.map_map]
    apply List.map_congr_left
    intro row hrow
    obtain ⟨hrow, hspendLocked⟩ := List.mem_filter.mp hrow
    obtain ⟨record, hrecord, hlocks⟩ :=
      (Option.any_eq_true _ _).mp ((Bool.and_eq_true _ _).mp hspendLocked).2
    obtain ⟨other, hother, hkey, hamount⟩ := hrecords _ record hrecord hlocks
    obtain ⟨htxid, hvout⟩ := vtxoExitRecordKey_inj.mp hkey
    have hsame : row = other :=
      List.inj_on_of_nodup_map hunique hrow hother (Prod.ext htxid hvout)
    rw [← hsame] at hamount
    simp only [amountAt, Function.comp_apply, hrecord, Option.map_some, Option.getD_some, hamount]
  rw [rowSats, hentries, hrows]
  exact ((lockingEntries_keys_perm hunique hrecords).map amountAt).sum_eq

theorem unilateralExitSpendLockSats_eq (hunique : UniqueOutpoints snapshot)
    (hrecords : LockingRecordsHaveRows snapshot records) :
    unilateralExitSpendLockSats records (some snapshot) =
      min (rowSats (isSpendLocked records) snapshot.virtualTxOutpoints) (UInt64.size - 1) := by
  have hfold := foldl_saturatingAdd (fun entry : String × VtxoExitRecord => entry.2.amountSats)
    (lockingEntries snapshot records) 0 (Nat.zero_le _)
  rw [Nat.zero_add, lockingEntries_sum hunique hrecords] at hfold
  exact hfold

/-- The row after a stamp, if it is among the stamped ones. -/
def stampRow (stamped : VirtualTxOutPointRecord → Bool) (row : VirtualTxOutPointRecord) :
    VirtualTxOutPointRecord :=
  if stamped row then { row with isUnrolled := true } else row

def OffchainVtxoSnapshot.stampUnrolled (snapshot : OffchainVtxoSnapshot)
    (stamped : VirtualTxOutPointRecord → Bool) : OffchainVtxoSnapshot :=
  snapshot.mapRows (stampRow stamped)

variable (stamped : VirtualTxOutPointRecord → Bool) (row : VirtualTxOutPointRecord)

@[simp]
theorem stampRow_txid : (stampRow stamped row).txid = row.txid := by
  unfold stampRow
  split <;> rfl

@[simp]
theorem stampRow_vout : (stampRow stamped row).vout = row.vout := by
  unfold stampRow
  split <;> rfl

@[simp]
theorem stampRow_amountSats : (stampRow stamped row).amountSats = row.amountSats := by
  unfold stampRow
  split <;> rfl

theorem isLive_stampRow : (stampRow stamped row).isLive = (row.isLive && !stamped row) := by
  unfold stampRow isLive
  cases stamped row with
  | true | false => simp

theorem isSpendLocked_stampRow (records : VtxoExitRecords) :
    isSpendLocked records (stampRow stamped row) = (isSpendLocked records row && !stamped row) := by
  simp only [isSpendLocked, isLive_stampRow, stampRow_txid, stampRow_vout, Bool.and_right_comm]

theorem rowSats_stampUnrolled {test : VirtualTxOutPointRecord → Bool}
    (htest : ∀ row, test (stampRow stamped row) = (test row && !stamped row)) :
    rowSats test (snapshot.stampUnrolled stamped).virtualTxOutpoints =
      rowSats (fun row => test row && !stamped row) snapshot.virtualTxOutpoints := by
  unfold rowSats OffchainVtxoSnapshot.stampUnrolled OffchainVtxoSnapshot.mapRows
  rw [List.filter_map, List.map_map]
  have htests : test ∘ stampRow stamped = fun row => test row && !stamped row := by
    funext row
    exact htest row
  have hamounts : amountSats ∘ stampRow stamped = amountSats := by
    funext row
    exact stampRow_amountSats stamped row
  rw [htests, hamounts]

theorem UniqueOutpoints.stampUnrolled (hunique : UniqueOutpoints snapshot) :
    UniqueOutpoints (snapshot.stampUnrolled stamped) := by
  show ((snapshot.virtualTxOutpoints.map _).map _).Nodup
  have hkeys : outpointKey ∘ stampRow stamped = outpointKey := by
    funext row
    simp [outpointKey]
  rw [List.map_map, hkeys]
  exact hunique

theorem LockingRecordsHaveRows.stampUnrolled (hrecords : LockingRecordsHaveRows snapshot records) :
    LockingRecordsHaveRows (snapshot.stampUnrolled stamped) records := by
  intro key record hrecord hlocks
  obtain ⟨row, hrow, hkey, hamount⟩ := hrecords key record hrecord hlocks
  apply Exists.intro (stampRow stamped row)
  apply And.intro (List.mem_map_of_mem hrow)
  rw [stampRow_txid, stampRow_vout, stampRow_amountSats]
  exact ⟨hkey, hamount⟩

end Lock

/-! ## What the client counts as spendable -/

section Spendable

variable {PublicKey Address Intent : Type} (xOnly : PublicKey → String)

/-- The client's list has the output among the pre-confirmed or the confirmed ones, and its
signer is not past its cutoff. -/
def isSpendableOffchain (info : Info PublicKey Address) (now : Int) (dust : Nat)
    (lookup : List UInt8 → Option String) (point : VirtualTxOutPoint) : Bool :=
  (vtxoListPart now dust point = .preConfirmed || vtxoListPart now dust point = .confirmed) &&
    !isPastCutoff xOnly info now lookup point

/-- The row reads as an output that the client counts as spendable. -/
def countsAsSpendable (inputs : DeductionInputs PublicKey Address)
    (row : VirtualTxOutPointRecord) : Bool :=
  match inputs.serverInfo,
    scriptToServerPkLookup inputs.codec inputs.snapshot inputs.legacySignerPkFallback,
    virtualTxOutpointFromRecord inputs.codec row with
  | .ok info, .ok lookup, .ok point =>
    isSpendableOffchain xOnly info inputs.now inputs.snapshot.dustSats lookup point
  | _, _, _ => false

theorem rowSats_eq_amountWhere {codec : SnapshotCodec} {rows : List VirtualTxOutPointRecord}
    {points : List VirtualTxOutPoint}
    (hreads : rows.mapM (virtualTxOutpointFromRecord codec) = .ok points)
    {test : VirtualTxOutPointRecord → Bool} {testPoint : VirtualTxOutPoint → Bool}
    (htest : ∀ row point, virtualTxOutpointFromRecord codec row = .ok point →
      test row = testPoint point) :
    rowSats test rows = amountWhere testPoint points := by
  induction rows generalizing points with
  | nil =>
    cases hreads
    rfl
  | cons row rows ih =>
    rw [List.mapM_cons] at hreads
    obtain ⟨point, hpoint, hreads⟩ := bind_eq_ok.mp hreads
    obtain ⟨rest, hrest, hreads⟩ := bind_eq_ok.mp hreads
    cases hreads
    rw [rowSats_cons, amountWhere_cons, ih hrest, htest row point hpoint,
      (rowReadsAs hpoint).amount]

/-- The pre-confirmed and the confirmed bucket are worth the rows that count as spendable. -/
theorem spendableBuckets_eq {inputs : DeductionInputs PublicKey Address}
    (hunique : UniqueReadOutpoints inputs.snapshot) {info : Info PublicKey Address}
    (hinfo : inputs.serverInfo = .ok info) {buckets : OffchainBalanceBuckets}
    (hbuckets : offchainBalanceBucketsFromSnapshot xOnly info inputs.now inputs.codec
      inputs.snapshot inputs.legacySignerPkFallback inputs.vtxoExitRecords = .ok buckets)
    {recoverable : RecoverableVtxoBuckets}
    (hrecoverable : recoverableVtxoBuckets info inputs.now inputs.codec inputs.snapshot
      inputs.vtxoExitRecords = .ok recoverable) :
    buckets.preConfirmedSats + buckets.confirmedSats =
      rowSats (countsAsSpendable xOnly inputs) inputs.snapshot.virtualTxOutpoints := by
  have htotals : ∃ totals : BalanceBucket → Nat,
      balanceBuckets xOnly info inputs.now inputs.codec inputs.snapshot
        inputs.legacySignerPkFallback inputs.vtxoExitRecords = .ok totals ∧
      totals .preConfirmed = buckets.preConfirmedSats ∧
      totals .confirmed = buckets.confirmedSats := by
    unfold balanceBuckets
    rw [hbuckets, hrecoverable]
    exact ⟨_, rfl, rfl, rfl⟩
  obtain ⟨totals, htotals, hpreConfirmed, hconfirmed⟩ := htotals
  obtain ⟨list, hlist, hbuckets⟩ := bind_eq_ok.mp hbuckets
  obtain ⟨lookup, hlookup, _⟩ := bind_eq_ok.mp hbuckets
  obtain ⟨points, hpoints, _⟩ := bind_eq_ok.mp hlist
  have hnodup := nodup_outpoints hunique hpoints
  have hrows : rowSats (countsAsSpendable xOnly inputs) inputs.snapshot.virtualTxOutpoints =
      amountWhere (isSpendableOffchain xOnly info inputs.now inputs.snapshot.dustSats lookup)
        points := by
    apply rowSats_eq_amountWhere hpoints
    intro row point hpoint
    simp only [countsAsSpendable, hinfo, hlookup, hpoint]
  rw [hrows, ← hpreConfirmed, ← hconfirmed,
    balanceBuckets_eq_amountWhere _ hpoints hlookup hnodup htotals,
    balanceBuckets_eq_amountWhere _ hpoints hlookup hnodup htotals]
  symm
  apply amountWhere_add
  intro point _
  rw [Bool.eq_iff_iff, Bool.and_eq_false_iff]
  simp only [isSpendableOffchain, Bool.and_eq_true, Bool.or_eq_true, decide_eq_true_eq,
    Bool.not_eq_true', bucketOf_eq_some_iff, CountsFor, decide_eq_false_iff_not]
  constructor
  · tauto
  · by_cases hpart : vtxoListPart inputs.now inputs.snapshot.dustSats point = .preConfirmed
    · right
      rw [hpart]
      intro hother
      cases hother.1
    · left
      intro hother
      exact hpart hother.1

end Spendable

section Agreement

variable {Intent : Type}

/-- The lock is the sum over the locked rows and no more than the live rows are worth, stamped
rows leave both sums together, and what is displayed is the gross amount less the locks, where
no saturation hides a rest. -/
structure SpendLockAgrees (snapshot : OffchainVtxoSnapshot) (records : VtxoExitRecords)
    (inputs : ArkadeBalanceInputs Intent) : Prop where
  lock : unilateralExitSpendLockSats records (some snapshot) =
    rowSats (isSpendLocked records) snapshot.virtualTxOutpoints
  lock_le : unilateralExitSpendLockSats records (some snapshot) ≤
    rowSats isLive snapshot.virtualTxOutpoints
  stampedGross : ∀ stamped : VirtualTxOutPointRecord → Bool,
    rowSats isLive snapshot.virtualTxOutpoints =
      rowSats (fun row => row.isLive && stamped row) snapshot.virtualTxOutpoints +
        rowSats isLive
          (snapshot.stampUnrolled stamped).virtualTxOutpoints
  stampedLock : ∀ stamped : VirtualTxOutPointRecord → Bool,
    unilateralExitSpendLockSats records (some snapshot) =
      rowSats (fun row => isSpendLocked records row && stamped row)
          snapshot.virtualTxOutpoints +
        unilateralExitSpendLockSats records (some (snapshot.stampUnrolled stamped))
  displayed_le : (buildArkadeBalanceDto inputs).offchainSpendableSats ≤ inputs.spendableOffchainSats
  displayed : (buildArkadeBalanceDto inputs).offchainSpendableSats +
    (inputs.collaborativeExitInProgressSats + inputs.unilateralExitSpendLockSats) =
      inputs.spendableOffchainSats
  confirmed : (buildArkadeBalanceDto inputs).confirmedSats +
    (inputs.collaborativeExitInProgressSats + inputs.unilateralExitSpendLockSats) =
      inputs.grossConfirmedSats
  total : (buildArkadeBalanceDto inputs).totalSats +
    (inputs.collaborativeExitInProgressSats + inputs.unilateralExitSpendLockSats) =
      inputs.grossTotalSats

/-- The amounts of collaborative exits and of locked rows that the client does not count are
covered by the rows that it counts and nothing locks, and all that is locked fits a `u64`. -/
structure LockCovered {PublicKey Address : Type} (xOnly : PublicKey → String)
    (inputs : DeductionInputs PublicKey Address) (collaborativeSats : Nat) : Prop where
  fits : collaborativeSats +
    rowSats (isSpendLocked inputs.vtxoExitRecords) inputs.snapshot.virtualTxOutpoints ≤
      UInt64.size - 1
  covered : collaborativeSats +
    rowSats (fun row => isSpendLocked inputs.vtxoExitRecords row &&
      !countsAsSpendable xOnly inputs row) inputs.snapshot.virtualTxOutpoints ≤
    rowSats (fun row => countsAsSpendable xOnly inputs row &&
      !isSpendLocked inputs.vtxoExitRecords row) inputs.snapshot.virtualTxOutpoints

theorem le_saturatingAdd {amount : Nat} (h : amount ≤ UInt64.size - 1) (other : Nat) :
    amount ≤ saturatingAdd amount other :=
  le_min (Nat.le_add_right amount other) h

theorem saturatingAdd_le (amount other : Nat) : saturatingAdd amount other ≤ UInt64.size - 1 :=
  Nat.min_le_right _ _

theorem spendableOffchainSats_le (inputs : ArkadeBalanceInputs Intent) :
    inputs.spendableOffchainSats ≤ inputs.grossConfirmedSats ∧
      inputs.spendableOffchainSats ≤ inputs.grossTotalSats := by
  have hspendable : inputs.spendableOffchainSats ≤ UInt64.size - 1 := saturatingAdd_le _ _
  have htotal : inputs.spendableOffchainSats ≤ inputs.totalOffchainSats := by
    apply le_trans (le_saturatingAdd hspendable _)
    apply le_trans (le_saturatingAdd (saturatingAdd_le _ _) _)
    exact le_saturatingAdd (saturatingAdd_le _ _) _
  constructor
  · exact le_saturatingAdd hspendable _
  · apply le_trans htotal
    apply le_trans (le_saturatingAdd (saturatingAdd_le _ _) _)
    exact le_saturatingAdd (saturatingAdd_le _ _) _

theorem displayed_add_locks_iff (inputs : ArkadeBalanceInputs Intent) :
    (buildArkadeBalanceDto inputs).offchainSpendableSats +
        (inputs.collaborativeExitInProgressSats + inputs.unilateralExitSpendLockSats) =
          inputs.spendableOffchainSats ↔
      inputs.collaborativeExitInProgressSats + inputs.unilateralExitSpendLockSats ≤
        inputs.spendableOffchainSats := by
  have hspendable : inputs.spendableOffchainSats ≤ UInt64.size - 1 := saturatingAdd_le _ _
  have hlock : inputs.spendLockSats =
      min (inputs.collaborativeExitInProgressSats + inputs.unilateralExitSpendLockSats)
        (UInt64.size - 1) := rfl
  have hdisplayed : (buildArkadeBalanceDto inputs).offchainSpendableSats =
      inputs.spendableOffchainSats - min inputs.spendLockSats inputs.spendableOffchainSats := rfl
  omega

variable {PublicKey Address : Type} {xOnly : PublicKey → String}
variable {reads : BalanceReads PublicKey Address Intent} {inputs : ArkadeBalanceInputs Intent}

theorem arkadeBalanceInputs_eq_ok (hunique : UniqueReadOutpoints reads.snapshot)
    (hinputs : arkadeBalanceInputs xOnly reads = .ok inputs) :
    inputs.spendableOffchainSats =
        min (rowSats (countsAsSpendable xOnly reads.toDeductionInputs)
          reads.snapshot.virtualTxOutpoints) (UInt64.size - 1) ∧
      inputs.unilateralExitSpendLockSats =
        unilateralExitSpendLockSats reads.vtxoExitRecords (some reads.snapshot) := by
  obtain ⟨retained, _, hinputs⟩ := bind_eq_ok.mp hinputs
  obtain ⟨info, hinfo, hinputs⟩ := bind_eq_ok.mp hinputs
  obtain ⟨buckets, hbuckets, hinputs⟩ := bind_eq_ok.mp hinputs
  obtain ⟨recoverable, hrecoverable, hinputs⟩ := bind_eq_ok.mp hinputs
  obtain ⟨onchain, _, hinputs⟩ := bind_eq_ok.mp hinputs
  obtain ⟨boarding, _, hinputs⟩ := bind_eq_ok.mp hinputs
  cases hinputs
  have hspendable := spendableBuckets_eq xOnly hunique hinfo hbuckets hrecoverable
  constructor
  · show saturatingAdd buckets.preConfirmedSats buckets.confirmedSats = _
    rw [saturatingAdd, hspendable]
  · rfl

/-- The balance of a session whose locking records have rows agrees with its lock exactly if
what is locked outside the client's spendable outputs is covered. -/
theorem spend_lock_agrees_iff_covered (xOnly : PublicKey → String)
    (reads : BalanceReads PublicKey Address Intent) (inputs : ArkadeBalanceInputs Intent)
    (hunique : UniqueReadOutpoints reads.snapshot)
    (hrecords : LockingRecordsHaveRows reads.snapshot reads.vtxoExitRecords)
    (hinputs : arkadeBalanceInputs xOnly reads = .ok inputs) :
    SpendLockAgrees reads.snapshot reads.vtxoExitRecords inputs ↔
      LockCovered xOnly reads.toDeductionInputs inputs.collaborativeExitInProgressSats := by
  obtain ⟨hspendable, hread⟩ := arkadeBalanceInputs_eq_ok hunique hinputs
  have hlock := unilateralExitSpendLockSats_eq hunique.uniqueOutpoints hrecords
  have hlocked := rowSats_split (isSpendLocked reads.vtxoExitRecords)
    (countsAsSpendable xOnly reads.toDeductionInputs) reads.snapshot.virtualTxOutpoints
  have hcounted := rowSats_split (countsAsSpendable xOnly reads.toDeductionInputs)
    (isSpendLocked reads.vtxoExitRecords) reads.snapshot.virtualTxOutpoints
  have hboth : rowSats (fun row => countsAsSpendable xOnly reads.toDeductionInputs row &&
        isSpendLocked reads.vtxoExitRecords row) reads.snapshot.virtualTxOutpoints =
      rowSats (fun row => isSpendLocked reads.vtxoExitRecords row &&
        countsAsSpendable xOnly reads.toDeductionInputs row)
          reads.snapshot.virtualTxOutpoints := by
    apply rowSats_congr
    intro row _
    exact Bool.and_comm _ _
  constructor
  · intro hagrees
    have hdisplayed := (displayed_add_locks_iff inputs).mp hagrees.displayed
    have hexact := hagrees.lock
    exact { fits := by omega, covered := by omega }
  · intro hcovered
    have hfits := hcovered.fits
    have hcover := hcovered.covered
    have hexact : unilateralExitSpendLockSats reads.vtxoExitRecords (some reads.snapshot) =
        rowSats (isSpendLocked reads.vtxoExitRecords) reads.snapshot.virtualTxOutpoints := by
      omega
    have hle : inputs.collaborativeExitInProgressSats + inputs.unilateralExitSpendLockSats ≤
        inputs.spendableOffchainSats := by
      omega
    have hspendLock : inputs.spendLockSats =
        inputs.collaborativeExitInProgressSats + inputs.unilateralExitSpendLockSats := by
      apply Nat.min_eq_left
      omega
    obtain ⟨hconfirmed, htotal⟩ := spendableOffchainSats_le inputs
    exact {
      lock := hexact
      lock_le := by
        rw [hexact]
        apply rowSats_le_of_imp
        intro row _ hspendLocked
        exact ((Bool.and_eq_true _ _).mp hspendLocked).1
      stampedGross := by
        intro stamped
        rw [rowSats_stampUnrolled stamped (isLive_stampRow stamped)]
        exact rowSats_split _ stamped _
      stampedLock := by
        intro stamped
        have hstamped := unilateralExitSpendLockSats_eq
          (hunique.uniqueOutpoints.stampUnrolled stamped) (hrecords.stampUnrolled stamped)
        rw [rowSats_stampUnrolled stamped
          fun row => isSpendLocked_stampRow stamped row reads.vtxoExitRecords] at hstamped
        have hsplit := rowSats_split (isSpendLocked reads.vtxoExitRecords) stamped
          reads.snapshot.virtualTxOutpoints
        omega
      displayed_le := Nat.sub_le _ _
      displayed := (displayed_add_locks_iff inputs).mpr hle
      confirmed := by
        rw [← hspendLock]
        apply Nat.sub_add_cancel
        omega
      total := by
        rw [← hspendLock]
        apply Nat.sub_add_cancel
        omega }

end Agreement

def sampleTaggedRecord : VtxoExitRecord where
  phase := .tagged
  taggedAt := 0
  hostTxid := sampleHost.text
  amountSats := 1000

def taggedReads (now : Int) : BalanceReads Bool (Fin 1) Unit where
  codec := sampleSnapshotCodec
  snapshot := sampleSnapshot
  now := now
  serverInfo := .ok (sampleServerInfo [])
  legacySignerPkFallback := none
  vtxoExitRecords := BTreeMap.singleton (vtxoExitRecordKey sampleHost.text 0) sampleTaggedRecord
  store := { pendingBatchIntents := [], pendingExitDeductions := [] }
  onchainConfirmedSats := .ok 5000
  boardingStatus := .ok { spendableSats := 0, pendingSats := 0, pendingBatchIntents := [] }

theorem uniqueReadOutpoints_taggedReads (now : Int) :
    UniqueReadOutpoints (taggedReads now).snapshot :=
  List.nodup_singleton _

theorem lockingRecordsHaveRows_taggedReads (now : Int) :
    LockingRecordsHaveRows (taggedReads now).snapshot (taggedReads now).vtxoExitRecords := by
  intro key record hrecord _
  apply Exists.intro (sampleRow sampleHost.text 0)
  apply And.intro (List.mem_singleton_self _)
  unfold taggedReads at hrecord
  rw [BTreeMap.getElem?_singleton_eq_ite] at hrecord
  split at hrecord
  · rename_i hkey
    cases hrecord
    exact ⟨hkey.symm, rfl⟩
  · cases hrecord

theorem exists_arkadeBalanceInputs_taggedReads (now : Int) (hnow : now = 0 ∨ now = 1) :
    ∃ inputs, arkadeBalanceInputs sampleXOnly (taggedReads now) = .ok inputs := by
  unfold arkadeBalanceInputs reconcileWithSnapshot signerAwareGrossOffchainSpendable
    offchainBalanceBucketsFromSnapshot recoverableVtxoBuckets
  have hlist := vtxoListFromSnapshot_of_readsAs now readsAs_sampleSnapshot
  simp only [taggedReads, hlist]
  cases hnow with
  | inl hzero =>
    rw [hzero]
    exact ⟨_, rfl⟩
  | inr hone =>
    rw [hone]
    exact ⟨_, rfl⟩

theorem countsAsSpendable_taggedReads :
    countsAsSpendable sampleXOnly (taggedReads 1).toDeductionInputs
      (sampleRow sampleHost.text 0) = false := by
  obtain ⟨point, hpoint, hreads⟩ := bind_eq_ok.mp
    ((List.mapM_cons (f := virtualTxOutpointFromRecord sampleSnapshotCodec)).symm.trans
      readsAs_sampleSnapshot)
  cases hreads
  simp only [countsAsSpendable, taggedReads, hpoint]
  rfl

/-- Once the tagged output has expired, its amount is subtracted from the sats on chain. -/
theorem expired_exit_locks_other_sats : ∃ inputs,
    arkadeBalanceInputs sampleXOnly (taggedReads 1) = .ok inputs ∧
      UniqueReadOutpoints (taggedReads 1).snapshot ∧
      LockingRecordsHaveRows (taggedReads 1).snapshot (taggedReads 1).vtxoExitRecords ∧
      ¬ SpendLockAgrees (taggedReads 1).snapshot (taggedReads 1).vtxoExitRecords inputs := by
  have hunique := uniqueReadOutpoints_taggedReads 1
  have hrecords := lockingRecordsHaveRows_taggedReads 1
  obtain ⟨inputs, hinputs⟩ := exists_arkadeBalanceInputs_taggedReads 1 (Or.inr rfl)
  refine ⟨inputs, hinputs, hunique, hrecords, ?_⟩
  intro hagrees
  obtain ⟨hspendable, hread⟩ := arkadeBalanceInputs_eq_ok hunique hinputs
  have hnone : rowSats (countsAsSpendable sampleXOnly (taggedReads 1).toDeductionInputs)
      (taggedReads 1).snapshot.virtualTxOutpoints = 0 := by
    show rowSats _ [sampleRow sampleHost.text 0] = 0
    rw [rowSats_cons, countsAsSpendable_taggedReads]
    rfl
  have hlocked : rowSats (isSpendLocked (taggedReads 1).vtxoExitRecords)
      (taggedReads 1).snapshot.virtualTxOutpoints = 1000 := by
    have hrow : isSpendLocked (taggedReads 1).vtxoExitRecords (sampleRow sampleHost.text 0) =
        true := by
      have hrecord := BTreeMap.getElem?_singleton_eq_ite (vtxoExitRecordKey sampleHost.text 0)
        (vtxoExitRecordKey sampleHost.text 0) sampleTaggedRecord
      rw [if_pos rfl] at hrecord
      unfold isSpendLocked taggedReads
      dsimp only [sampleRow]
      rw [hrecord]
      rfl
    show rowSats _ [sampleRow sampleHost.text 0] = 1000
    rw [rowSats_cons, if_pos hrow]
    rfl
  have hdisplayed := (displayed_add_locks_iff inputs).mp hagrees.displayed
  have hlock := hagrees.lock
  omega

/-- Before it expires, the tagged output is locked out of its own amount. -/
theorem spend_lock_agrees_iff_covered_tagged : ∃ inputs : ArkadeBalanceInputs Unit,
    SpendLockAgrees (taggedReads 0).snapshot (taggedReads 0).vtxoExitRecords inputs ↔
      LockCovered sampleXOnly (taggedReads 0).toDeductionInputs
        inputs.collaborativeExitInProgressSats := by
  obtain ⟨inputs, hinputs⟩ := exists_arkadeBalanceInputs_taggedReads 0 (Or.inl rfl)
  exact ⟨inputs, spend_lock_agrees_iff_covered sampleXOnly (taggedReads 0) inputs
    (uniqueReadOutpoints_taggedReads 0) (lockingRecordsHaveRows_taggedReads 0) hinputs⟩

end Bitboard.Arkade
