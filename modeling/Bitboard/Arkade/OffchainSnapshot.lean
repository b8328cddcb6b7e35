/-
# Merging off-chain snapshots

A sync works on a copy of the stored snapshot while other writers go on. What it
commits in the end is either the whole result or, for a light sync and for the
finality pass, only what it changed, overlaid onto the snapshot stored by then.

This module models the merges of `offchain_snapshot.rs`: the upsert of operator rows,
the overlay, and the passes that keep `is_unrolled` and `is_spent` against an operator
that lags behind. The overlay is a three-way merge of rows and of exit materials.

A `HashMap` whose values are sorted by their key right after is modelled by the map in
key order.
-/

import Bitboard.Lib.ThreeWayMerge
import Bitboard.Arkade.ExitMaterials

namespace Bitboard.Arkade

open Bitboard.Lib
open VirtualTxOutPointRecord

/-- Outpoints are compared by transaction id, then by output index. -/
instance instOrdOutpointKey : Ord (String × UInt32) := lexOrd

def VirtualTxOutPointRecord.outpointKey (row : VirtualTxOutPointRecord) : String × UInt32 :=
  (row.txid, row.vout)

def UniqueOutpoints (snapshot : OffchainVtxoSnapshot) : Prop :=
  (snapshot.virtualTxOutpoints.map outpointKey).Nodup

instance (snapshot : OffchainVtxoSnapshot) : Decidable (UniqueOutpoints snapshot) :=
  inferInstanceAs (Decidable (List.Nodup _))

def SortedByOutpoint (snapshot : OffchainVtxoSnapshot) : Prop :=
  KeySorted outpointKey snapshot.virtualTxOutpoints

theorem isAt_iff_outpointKey {row : VirtualTxOutPointRecord} {txid : String} {vout : UInt32} :
    row.isAt txid vout = true ↔ row.outpointKey = (txid, vout) := by
  simp [outpointKey]

variable {snapshot : OffchainVtxoSnapshot}

theorem mem_of_snapshotRecord {txid : String} {vout : UInt32}
    {row : VirtualTxOutPointRecord} (h : snapshotRecord snapshot txid vout = some row) :
    row ∈ snapshot.virtualTxOutpoints ∧ row.isAt txid vout = true := by
  unfold snapshotRecord at h
  have hat := List.find?_some h
  exact ⟨List.mem_of_find?_eq_some h, hat⟩

theorem snapshotRecord_eq_none_iff {txid : String} {vout : UInt32} :
    snapshotRecord snapshot txid vout = none ↔
      ∀ row ∈ snapshot.virtualTxOutpoints, row.isAt txid vout = false := by
  simp only [snapshotRecord, List.find?_eq_none, Bool.not_eq_true]

theorem snapshotRecord_eq_rowAt
    (hunique : UniqueOutpoints snapshot) (txid : String) (vout : UInt32) :
    snapshotRecord snapshot txid vout =
      rowAt outpointKey snapshot.virtualTxOutpoints (txid, vout) := by
  cases hrow : snapshotRecord snapshot txid vout with
  | none =>
    symm
    rw [rowAt_eq_none_iff]
    intro row hmem heq
    have hother := snapshotRecord_eq_none_iff.mp hrow row hmem
    rw [isAt_iff_outpointKey.mpr heq] at hother
    cases hother
  | some row =>
    symm
    rw [rowAt_eq_some_iff _ hunique]
    exact ⟨(mem_of_snapshotRecord hrow).1, isAt_iff_outpointKey.mp (mem_of_snapshotRecord hrow).2⟩

def lowerHexDigit (nibble : UInt8) : Char :=
  lowerHexDigits.getD nibble.toNat '0'

def toLowerHexString (bytes : List UInt8) : String :=
  String.ofList (bytes.flatMap fun byte => [lowerHexDigit (byte / 16), lowerHexDigit (byte % 16)])

/-- `AssetId`: the genesis transaction and the index of the asset's group in it. -/
structure AssetId where
  txid : Txid
  groupIndex : UInt16

def toLeBytes (n : UInt16) : List UInt8 := [n.toUInt8, (n / 256).toUInt8]

/-- The `Display` text of an asset id. -/
def AssetId.text (assetId : AssetId) : String :=
  assetId.txid.text ++ toLowerHexString (toLeBytes assetId.groupIndex)

structure VirtualTxOutPointAsset where
  assetId : AssetId
  amount : Nat

structure VirtualTxOutPoint where
  outpoint : OutPoint
  createdAt : Int
  expiresAt : Int
  amount : Nat
  script : List UInt8
  isPreconfirmed : Bool
  isSwept : Bool
  isUnrolled : Bool
  isSpent : Bool
  spentBy : Option Txid
  commitmentTxids : List Txid
  settledBy : Option Txid
  arkTxid : Option Txid
  assets : List VirtualTxOutPointAsset

/-- `virtual_tx_outpoint_to_record`. A public key is given by its text. -/
def virtualTxOutpointToRecord (point : VirtualTxOutPoint) (serverPk : Option String) :
    VirtualTxOutPointRecord where
  txid := point.outpoint.txid.text
  vout := point.outpoint.vout
  createdAt := point.createdAt
  expiresAt := point.expiresAt
  amountSats := point.amount
  scriptHex := toLowerHexString point.script
  isPreconfirmed := point.isPreconfirmed
  isSwept := point.isSwept
  isUnrolled := point.isUnrolled
  isSpent := point.isSpent
  spentBy := point.spentBy.map (·.text)
  commitmentTxids := point.commitmentTxids.map (·.text)
  settledBy := point.settledBy.map (·.text)
  arkTxid := point.arkTxid.map (·.text)
  assets := point.assets.map fun asset =>
    { assetIdHex := asset.assetId.text, amount := asset.amount }
  serverPkHex := serverPk

/-- What a sync knows about public keys: the key behind a script, and the reading of a stored
key, which may fail. -/
structure ServerPks where
  scriptToServerPk : List UInt8 → Option String
  xOnlyPublicKeyFromStr : String → Option String

def snapshotFromVirtualTxOutpoints (pks : ServerPks) (dustSats : Nat) (syncedAt : Int)
    (points : List VirtualTxOutPoint) : OffchainVtxoSnapshot where
  syncedAt := syncedAt
  dustSats := dustSats
  virtualTxOutpoints := points.map fun point =>
    virtualTxOutpointToRecord point (pks.scriptToServerPk point.script)
  unilateralExitMaterialsByHostTx := ∅
  fullListedAt := 0

/-- The row an operator row becomes, keeping the key of the row it replaces when the script
gives none. -/
def upsertedRecord (pks : ServerPks) (existing : Option VirtualTxOutPointRecord)
    (point : VirtualTxOutPoint) : VirtualTxOutPointRecord :=
  let priorServerPk := existing.bind (·.serverPkHex)
  let serverPk := (pks.scriptToServerPk point.script).or
    (priorServerPk.bind pks.xOnlyPublicKeyFromStr)
  let record := virtualTxOutpointToRecord point serverPk
  if record.serverPkHex.isNone then { record with serverPkHex := priorServerPk } else record

/-- The loop body of `merge_incremental_vtxo_snapshot`. -/
def upsertPoint (pks : ServerPks) (table : BTreeMap (String × UInt32) VirtualTxOutPointRecord)
    (point : VirtualTxOutPoint) : BTreeMap (String × UInt32) VirtualTxOutPointRecord :=
  let key := (point.outpoint.txid.text, point.outpoint.vout)
  table.insert key (upsertedRecord pks table[key]? point)

def mergeIncrementalVtxoSnapshot (pks : ServerPks) (prior : OffchainVtxoSnapshot)
    (fetched : List VirtualTxOutPoint) (syncedAt : Int) : OffchainVtxoSnapshot where
  syncedAt := syncedAt
  dustSats := prior.dustSats
  virtualTxOutpoints := (fetched.foldl (upsertPoint pks)
    (indexRows outpointKey prior.virtualTxOutpoints)).vals
  unilateralExitMaterialsByHostTx := prior.unilateralExitMaterialsByHostTx
  fullListedAt := prior.fullListedAt

def overlayChangedExitMaterials (latest base finalized : ExitMaterialsMap) : ExitMaterialsMap :=
  overlayMap latest base finalized

def overlayChangedVtxoRows (latest base finalized : OffchainVtxoSnapshot) :
    OffchainVtxoSnapshot where
  syncedAt := finalized.syncedAt
  dustSats := finalized.dustSats
  virtualTxOutpoints := (overlayRows outpointKey
    latest.virtualTxOutpoints base.virtualTxOutpoints finalized.virtualTxOutpoints).vals
  unilateralExitMaterialsByHostTx := overlayChangedExitMaterials
    latest.unilateralExitMaterialsByHostTx base.unilateralExitMaterialsByHostTx
    finalized.unilateralExitMaterialsByHostTx
  fullListedAt := max latest.fullListedAt finalized.fullListedAt

theorem sortedByOutpoint_overlay (latest base finalized : OffchainVtxoSnapshot) :
    SortedByOutpoint (overlayChangedVtxoRows latest base finalized) :=
  keySorted_vals (keyedBy_overlayRows _ _ _ _)

theorem SortedByOutpoint.uniqueOutpoints
    (h : SortedByOutpoint snapshot) : UniqueOutpoints snapshot :=
  KeySorted.nodup h

theorem snapshotRecord_overlay {latest base finalized : OffchainVtxoSnapshot}
    (hlatest : UniqueOutpoints latest) (hbase : UniqueOutpoints base)
    (hfinalized : UniqueOutpoints finalized) (txid : String) (vout : UInt32) :
    snapshotRecord (overlayChangedVtxoRows latest base finalized) txid vout =
      threeWay (snapshotRecord latest txid vout) (snapshotRecord base txid vout)
        (snapshotRecord finalized txid vout) := by
  rw [snapshotRecord_eq_rowAt (sortedByOutpoint_overlay latest base finalized).uniqueOutpoints,
    snapshotRecord_eq_rowAt hlatest, snapshotRecord_eq_rowAt hbase,
    snapshotRecord_eq_rowAt hfinalized, ← getElem?_overlayRows _ hfinalized]
  exact rowAt_vals (keyedBy_overlayRows _ _ _ _) (txid, vout)

structure ThreeWayOverlay (latest base finalized result : OffchainVtxoSnapshot) : Prop where
  /-- A row the writer left alone is the stored one. -/
  rows_unchanged : ∀ txid vout row, snapshotRecord base txid vout = some row →
    snapshotRecord finalized txid vout = some row →
    snapshotRecord result txid vout = snapshotRecord latest txid vout
  /-- A row the writer added or changed is the writer's. -/
  rows_changed : ∀ txid vout row, snapshotRecord finalized txid vout = some row →
    snapshotRecord base txid vout ≠ some row → snapshotRecord result txid vout = some row
  /-- A row the writer does not have is the stored one, whether `base` had it or not. -/
  rows_kept : ∀ txid vout, snapshotRecord finalized txid vout = none →
    snapshotRecord result txid vout = snapshotRecord latest txid vout
  materials_unchanged : ∀ (host : String) (materials : UnilateralExitMaterialsRecord),
    base.unilateralExitMaterialsByHostTx[host]? = some materials →
    finalized.unilateralExitMaterialsByHostTx[host]? = some materials →
    result.unilateralExitMaterialsByHostTx[host]? = latest.unilateralExitMaterialsByHostTx[host]?
  materials_changed : ∀ (host : String) (materials : UnilateralExitMaterialsRecord),
    finalized.unilateralExitMaterialsByHostTx[host]? = some materials →
    base.unilateralExitMaterialsByHostTx[host]? ≠ some materials →
    result.unilateralExitMaterialsByHostTx[host]? = some materials
  /-- Materials the writer dropped are removed. -/
  materials_removed : ∀ host : String, base.unilateralExitMaterialsByHostTx[host]? ≠ none →
    finalized.unilateralExitMaterialsByHostTx[host]? = none →
    result.unilateralExitMaterialsByHostTx[host]? = none
  /-- Materials the writer never had are kept. -/
  materials_kept : ∀ host : String, base.unilateralExitMaterialsByHostTx[host]? = none →
    finalized.unilateralExitMaterialsByHostTx[host]? = none →
    result.unilateralExitMaterialsByHostTx[host]? = latest.unilateralExitMaterialsByHostTx[host]?
  fullListedAt_max : result.fullListedAt = max latest.fullListedAt finalized.fullListedAt
  sorted : SortedByOutpoint result
  unique : UniqueOutpoints result

/-- The overlay is a three-way merge, and writing nothing leaves the stored rows: the same rows
in sorted order, and the same list when it was sorted. -/
theorem overlay_threeWayMerge (latest base finalized : OffchainVtxoSnapshot)
    (hlatest : UniqueOutpoints latest) (hbase : UniqueOutpoints base)
    (hfinalized : UniqueOutpoints finalized) :
    ThreeWayOverlay latest base finalized (overlayChangedVtxoRows latest base finalized) ∧
    (overlayChangedVtxoRows latest base base).virtualTxOutpoints.Perm
      latest.virtualTxOutpoints ∧
    (SortedByOutpoint latest →
      (overlayChangedVtxoRows latest base base).virtualTxOutpoints =
        latest.virtualTxOutpoints) := by
  have hrow := snapshotRecord_overlay hlatest hbase hfinalized
  have hmaterials : ∀ host : String,
      (overlayChangedVtxoRows latest base finalized).unilateralExitMaterialsByHostTx[host]? =
        threeWayOrRemove latest.unilateralExitMaterialsByHostTx[host]?
          base.unilateralExitMaterialsByHostTx[host]?
          finalized.unilateralExitMaterialsByHostTx[host]? :=
    getElem?_overlayMap _ _ _
  have hself : (overlayChangedVtxoRows latest base base).virtualTxOutpoints =
      (indexRows outpointKey latest.virtualTxOutpoints).vals :=
    congrArg BTreeMap.vals (overlayRows_self _ hbase)
  refine ⟨?_, ?_, ?_⟩
  · constructor
    case rows_unchanged =>
      intro txid vout row hb hf
      rw [hrow, hf, hb, threeWay, if_pos rfl]
    case rows_changed =>
      intro txid vout row hf hb
      rw [hrow, hf, threeWay, if_neg hb]
    case rows_kept =>
      intro txid vout hf
      rw [hrow, hf, threeWay]
    case materials_unchanged =>
      intro host materials hb hf
      rw [hmaterials, hf, hb, threeWayOrRemove, if_pos rfl]
    case materials_changed =>
      intro host materials hf hb
      rw [hmaterials, hf, threeWayOrRemove, if_neg hb]
    case materials_removed =>
      intro host hb hf
      rw [hmaterials, hf, threeWayOrRemove, if_pos (Option.isSome_iff_ne_none.mpr hb)]
    case materials_kept =>
      intro host hb hf
      rw [hmaterials, hf, hb, threeWayOrRemove]
      rfl
    case fullListedAt_max => rfl
    case sorted => exact sortedByOutpoint_overlay latest base finalized
    case unique => exact (sortedByOutpoint_overlay latest base finalized).uniqueOutpoints
  · rw [hself]
    exact vals_indexRows_perm hlatest
  · intro hsorted
    rw [hself]
    exact vals_indexRows_of_keySorted hsorted

def snapshotWithRows (rows : List VirtualTxOutPointRecord) : OffchainVtxoSnapshot :=
  { sampleSnapshot with virtualTxOutpoints := rows }

attribute [local simp] snapshotRecord snapshotWithRows sampleRow isAt

/-- The writer marked its row spent while another row was added: the merge has both. -/
theorem overlay_threeWayMerge_sample :
    let spent := { sampleRow "a" 0 with isSpent := true }
    let latest := snapshotWithRows [sampleRow "a" 0, sampleRow "b" 0]
    let base := snapshotWithRows [sampleRow "a" 0]
    let result := overlayChangedVtxoRows latest base (snapshotWithRows [spent])
    snapshotRecord result "a" 0 = some spent ∧ snapshotRecord result "b" 0 = some (sampleRow "b" 0)
    := by
  intro spent latest base result
  obtain ⟨hmerge, -⟩ := overlay_threeWayMerge latest base (snapshotWithRows [spent])
    (by simp [latest, UniqueOutpoints, outpointKey])
    (by simp [base, UniqueOutpoints])
    (by simp [UniqueOutpoints])
  constructor
  · refine hmerge.rows_changed "a" 0 spent ?_ ?_ <;> simp [base, spent]
  · refine (hmerge.rows_kept "b" 0 ?_).trans ?_ <;> simp [latest, spent]

/-- Two writers that change different rows and different materials may commit in either order. -/
theorem overlay_comm {latest firstBase first secondBase second : OffchainVtxoSnapshot}
    (hfirstBase : UniqueOutpoints firstBase) (hfirst : UniqueOutpoints first)
    (hsecondBase : UniqueOutpoints secondBase) (hsecond : UniqueOutpoints second)
    (hrows : ∀ txid vout, snapshotRecord first txid vout = snapshotRecord firstBase txid vout ∨
      snapshotRecord second txid vout = snapshotRecord secondBase txid vout)
    (hmaterials : ∀ host : String, first.unilateralExitMaterialsByHostTx[host]? =
        firstBase.unilateralExitMaterialsByHostTx[host]? ∨
      second.unilateralExitMaterialsByHostTx[host]? =
        secondBase.unilateralExitMaterialsByHostTx[host]?) :
    let firstLast := overlayChangedVtxoRows (overlayChangedVtxoRows latest secondBase second)
      firstBase first
    let secondLast := overlayChangedVtxoRows (overlayChangedVtxoRows latest firstBase first)
      secondBase second
    firstLast.virtualTxOutpoints = secondLast.virtualTxOutpoints ∧
      firstLast.unilateralExitMaterialsByHostTx = secondLast.unilateralExitMaterialsByHostTx ∧
      firstLast.fullListedAt = secondLast.fullListedAt := by
  refine ⟨congrArg BTreeMap.vals (overlayRows_comm _ hsecond hfirst fun key => ?_), ?_, ?_⟩
  · have happart := hrows key.1 key.2
    rw [snapshotRecord_eq_rowAt hfirst, snapshotRecord_eq_rowAt hfirstBase,
      snapshotRecord_eq_rowAt hsecond, snapshotRecord_eq_rowAt hsecondBase] at happart
    exact happart.symm
  · apply Std.ExtTreeMap.ext_getElem?
    intro host
    change (overlayMap (overlayMap _ _ _) _ _)[host]? = (overlayMap (overlayMap _ _ _) _ _)[host]?
    simp only [getElem?_overlayMap]
    rcases hmaterials host with hsame | hsame
    · rw [hsame, threeWayOrRemove_self, threeWayOrRemove_self]
    · rw [hsame, threeWayOrRemove_self, threeWayOrRemove_self]
  · change max (max _ _) _ = max (max _ _) _
    omega

/-- One writer marks its row spent, the other adds a row. -/
theorem overlay_comm_sample :
    let spent := { sampleRow "a" 0 with isSpent := true }
    let latest := snapshotWithRows [sampleRow "a" 0]
    let added := snapshotWithRows [sampleRow "b" 0]
    (overlayChangedVtxoRows (overlayChangedVtxoRows latest (snapshotWithRows []) added) latest
        (snapshotWithRows [spent])).virtualTxOutpoints =
      (overlayChangedVtxoRows (overlayChangedVtxoRows latest latest (snapshotWithRows [spent]))
        (snapshotWithRows []) added).virtualTxOutpoints := by
  intro spent latest added
  have hone : ∀ row, UniqueOutpoints (snapshotWithRows [row]) := fun _ => List.nodup_singleton _
  have hnone : UniqueOutpoints (snapshotWithRows []) := List.nodup_nil
  refine (@overlay_comm latest latest (snapshotWithRows [spent]) (snapshotWithRows []) added
    (hone _) (hone _) hnone (hone _) ?_ fun _ => .inl rfl).1
  intro txid vout
  by_cases hb : "b" = txid
  · left
    subst hb
    simp [latest, spent]
  · right
    simp [added, hb]

end Bitboard.Arkade
