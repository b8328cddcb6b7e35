/-
# Off-chain balances

Three functions of a session say what a virtual output of the stored snapshot is good for.
The off-chain balance sums what can be spent, and what waits for recovery under a signer that
no longer signs. The recoverable balance sums what can be settled, and what waits for the
operator's sweep. The list of outputs names a class for each. They share the list that the
client's `vtxo_list.rs` makes of the snapshot, and differ in the dust limit they apply: the
list is made with the limit stored in the snapshot, and the others with that of the current
operator.

The functions follow the client's `lib.rs`, `vtxo_list.rs` and `server.rs`, and the crate's
`offchain_snapshot.rs` and `vtxo.rs`, on a stored snapshot and with one clock. A sum of amounts
that does not fit the amount type panics in the source; sums are natural numbers here.
-/

import Bitboard.Arkade.OperatorInfo
import Bitboard.Arkade.SpendChoices
import Mathlib.Algebra.GroupWithZero.Nat

namespace Bitboard.Arkade

open Bitboard.Lib

/-- What the reading of a snapshot takes from the libraries: x-only keys are given by their
texts, and texts that do not read have an error. -/
structure SnapshotCodec where
  txidError : String → String
  hexError : String → String
  xOnlyPublicKeyFromStr : String → Except String String

section Reading

variable (codec : SnapshotCodec)

/-- A transaction id of a row, with the error of its field. -/
def parseSnapshotTxid (field text : String) : ArkResult Txid :=
  match Txid.fromStr text with
  | some txid => .ok txid
  | none => .error (.snapshot ("invalid " ++ field ++ ": " ++ codec.txidError text))

def parseOptionalSnapshotTxid (field : String) : Option String → ArkResult (Option Txid)
  | none => .ok none
  | some text => (parseSnapshotTxid codec field text).map some

def parseSnapshotScript (scriptHex : String) : ArkResult (List UInt8) :=
  match fromHex scriptHex with
  | some script => .ok script
  | none => .error (.snapshot ("invalid vtxo script: " ++ codec.hexError scriptHex))

/-- The text before the byte `at` and the text from it on. A cut inside a character, where
the source panics, and one past the end have no result. -/
def splitAtByte : Nat → List Char → Option (List Char × List Char)
  | 0, text => some ([], text)
  | _ + 1, [] => none
  | at' + 1, c :: text =>
    if c.utf8Size ≤ at' + 1 then
      (splitAtByte (at' + 1 - c.utf8Size) text).map fun parts => (c :: parts.1, parts.2)
    else none

/-- `AssetId::from_str`, with the text of its error. -/
def AssetId.fromStr (s : String) : Except String AssetId :=
  if s.utf8ByteSize ≠ 68 then
    .error ("invalid asset ID format '" ++ s ++
      "', expected 68 hex chars (txid + 2-byte LE group index)")
  else
    match splitAtByte 64 s.toList with
    | none => .error "byte index 64 is not a char boundary"
    | some (txidText, indexText) =>
      match Txid.fromStr (String.ofList txidText) with
      | none =>
        .error ("invalid txid in asset ID: " ++ codec.txidError (String.ofList txidText))
      | some txid =>
        match fromHexDigits indexText with
        | some [low, high] =>
          .ok { txid, groupIndex := low.toUInt16 + high.toUInt16 * 256 }
        | _ =>
          .error ("invalid group index in asset ID: " ++
            codec.hexError (String.ofList indexText))

def parseSnapshotAsset (asset : VirtualTxOutPointAssetRecord) : ArkResult VirtualTxOutPointAsset :=
  match AssetId.fromStr codec asset.assetIdHex with
  | .ok assetId => .ok { assetId, amount := asset.amount }
  | .error error => .error (.snapshot ("invalid asset id: " ++ error))

def virtualTxOutpointFromRecord (record : VirtualTxOutPointRecord) :
    ArkResult VirtualTxOutPoint := do
  let txid ← parseSnapshotTxid codec "vtxo txid" record.txid
  let script ← parseSnapshotScript codec record.scriptHex
  let spentBy ← parseOptionalSnapshotTxid codec "spent_by" record.spentBy
  let commitmentTxids ← record.commitmentTxids.mapM (parseSnapshotTxid codec "commitment txid")
  let settledBy ← parseOptionalSnapshotTxid codec "settled_by" record.settledBy
  let arkTxid ← parseOptionalSnapshotTxid codec "ark txid" record.arkTxid
  let assets ← record.assets.mapM (parseSnapshotAsset codec)
  return {
    outpoint := { txid, vout := record.vout }
    createdAt := record.createdAt
    expiresAt := record.expiresAt
    amount := record.amountSats
    script
    isPreconfirmed := record.isPreconfirmed
    isSwept := record.isSwept
    isUnrolled := record.isUnrolled
    isSpent := record.isSpent
    spentBy
    commitmentTxids
    settledBy
    arkTxid
    assets }

def ReadsAs (snapshot : OffchainVtxoSnapshot) (points : List VirtualTxOutPoint) : Prop :=
  snapshot.virtualTxOutpoints.mapM (virtualTxOutpointFromRecord codec) = .ok points

def UniqueReadOutpoints (snapshot : OffchainVtxoSnapshot) : Prop :=
  (snapshot.virtualTxOutpoints.map fun row => (Txid.fromStr row.txid, row.vout)).Nodup

instance (snapshot : OffchainVtxoSnapshot) : Decidable (UniqueReadOutpoints snapshot) :=
  inferInstanceAs (Decidable (List.Nodup _))

variable {codec}

theorem parseSnapshotTxid_eq_ok {field text : String} {txid : Txid}
    (h : parseSnapshotTxid codec field text = .ok txid) : Txid.fromStr text = some txid := by
  unfold parseSnapshotTxid at h
  cases htext : Txid.fromStr text with
  | none =>
    rw [htext] at h
    cases h
  | some read =>
    rw [htext] at h
    cases h
    rfl

theorem parseOptionalSnapshotTxid_eq_ok {field : String} {text : Option String}
    {txid : Option Txid} (h : parseOptionalSnapshotTxid codec field text = .ok txid) :
    text.bind Txid.fromStr = txid := by
  cases text with
  | none =>
    cases h
    rfl
  | some text =>
    rw [parseOptionalSnapshotTxid] at h
    cases hparse : parseSnapshotTxid codec field text with
    | error error =>
      rw [hparse] at h
      cases h
    | ok read =>
      rw [hparse] at h
      cases h
      exact parseSnapshotTxid_eq_ok hparse

/-- What a row has in common with the output it reads as. -/
structure RowReadsAs (row : VirtualTxOutPointRecord) (point : VirtualTxOutPoint) : Prop where
  txid : Txid.fromStr row.txid = some point.outpoint.txid
  vout : row.vout = point.outpoint.vout
  amount : row.amountSats = point.amount
  expiresAt : row.expiresAt = point.expiresAt
  isPreconfirmed : row.isPreconfirmed = point.isPreconfirmed
  isSwept : row.isSwept = point.isSwept
  isUnrolled : row.isUnrolled = point.isUnrolled
  isSpent : row.isSpent = point.isSpent
  spentBy : row.spentBy.bind Txid.fromStr = point.spentBy

theorem rowReadsAs {row : VirtualTxOutPointRecord} {point : VirtualTxOutPoint}
    (h : virtualTxOutpointFromRecord codec row = .ok point) : RowReadsAs row point := by
  unfold virtualTxOutpointFromRecord at h
  obtain ⟨txid, htxid, h⟩ := bind_eq_ok.mp h
  obtain ⟨script, _, h⟩ := bind_eq_ok.mp h
  obtain ⟨spentBy, hspentBy, h⟩ := bind_eq_ok.mp h
  obtain ⟨commitmentTxids, _, h⟩ := bind_eq_ok.mp h
  obtain ⟨settledBy, _, h⟩ := bind_eq_ok.mp h
  obtain ⟨arkTxid, _, h⟩ := bind_eq_ok.mp h
  obtain ⟨assets, _, h⟩ := bind_eq_ok.mp h
  cases h
  exact {
    txid := parseSnapshotTxid_eq_ok htxid
    vout := rfl
    amount := rfl
    expiresAt := rfl
    isPreconfirmed := rfl
    isSwept := rfl
    isUnrolled := rfl
    isSpent := rfl
    spentBy := parseOptionalSnapshotTxid_eq_ok hspentBy }

variable {points : List VirtualTxOutPoint} {rows : List VirtualTxOutPointRecord}

theorem forall₂_rowReadsAs (h : rows.mapM (virtualTxOutpointFromRecord codec) = .ok points) :
    List.Forall₂ RowReadsAs rows points := by
  induction rows generalizing points with
  | nil =>
    cases h
    exact .nil
  | cons row rows ih =>
    rw [List.mapM_cons] at h
    obtain ⟨point, hpoint, h⟩ := bind_eq_ok.mp h
    obtain ⟨rest, hrest, h⟩ := bind_eq_ok.mp h
    cases h
    exact .cons (rowReadsAs hpoint) (ih hrest)

theorem outpoints_of_forall₂ (h : List.Forall₂ RowReadsAs rows points) :
    rows.map (fun row => (Txid.fromStr row.txid, row.vout)) =
      points.map fun point => (some point.outpoint.txid, point.outpoint.vout) := by
  induction h with
  | nil => rfl
  | cons hrow _ ih => rw [List.map_cons, List.map_cons, ih, hrow.txid, hrow.vout]

theorem exists_row_of_mem (h : List.Forall₂ RowReadsAs rows points)
    {point : VirtualTxOutPoint} (hpoint : point ∈ points) : ∃ row ∈ rows, RowReadsAs row point := by
  induction h with
  | nil => cases hpoint
  | cons hrow _ ih =>
    cases List.mem_cons.mp hpoint with
    | inl heq =>
      rw [heq]
      exact ⟨_, List.mem_cons_self, hrow⟩
    | inr hrest =>
      obtain ⟨row, hmem, hreads⟩ := ih hrest
      exact ⟨row, List.mem_cons_of_mem _ hmem, hreads⟩

theorem nodup_outpoints {snapshot : OffchainVtxoSnapshot}
    (hunique : UniqueReadOutpoints snapshot) (hreads : ReadsAs codec snapshot points) :
    (points.map VirtualTxOutPoint.outpoint).Nodup := by
  unfold UniqueReadOutpoints at hunique
  rw [outpoints_of_forall₂ (forall₂_rowReadsAs hreads)] at hunique
  apply List.Nodup.of_map fun outpoint : OutPoint => (some outpoint.txid, outpoint.vout)
  rw [List.map_map]
  exact hunique

end Reading

namespace VirtualTxOutPoint

variable (now : Int) (dust : Nat) (point : VirtualTxOutPoint)

def isExpired : Bool := point.expiresAt < now ∧ point.isSwept = false ∧ point.isSpent = false

def isRecoverable : Bool :=
  if point.isSpent || point.isUnrolled then false
  else point.amount < dust || point.isSwept || point.isExpired now

end VirtualTxOutPoint

/-- The parts of a `VtxoList`. -/
inductive VtxoListPart where
  | preConfirmed
  | confirmed
  | recoverable
  | exiting
  | finalizedUnspendable
  deriving DecidableEq

/-- The part that `VtxoList::new` puts an output in. Exits come before recoveries. -/
def vtxoListPart (now : Int) (dust : Nat) (point : VirtualTxOutPoint) : VtxoListPart :=
  if point.isUnrolled && !point.isSpent then .exiting
  else if point.isRecoverable now dust then .recoverable
  else if point.isSpent || point.isSwept then .finalizedUnspendable
  else if point.isPreconfirmed then .preConfirmed
  else .confirmed

structure VtxoList where
  preConfirmed : List VirtualTxOutPoint
  confirmed : List VirtualTxOutPoint
  recoverable : List VirtualTxOutPoint
  exiting : List VirtualTxOutPoint
  finalizedUnspendable : List VirtualTxOutPoint

namespace VtxoList

/-- `VtxoList::new`. Each part keeps the order of the outputs. -/
def new (now : Int) (dust : Nat) (points : List VirtualTxOutPoint) : VtxoList where
  preConfirmed := points.filter fun point => vtxoListPart now dust point = .preConfirmed
  confirmed := points.filter fun point => vtxoListPart now dust point = .confirmed
  recoverable := points.filter fun point => vtxoListPart now dust point = .recoverable
  exiting := points.filter fun point => vtxoListPart now dust point = .exiting
  finalizedUnspendable :=
    points.filter fun point => vtxoListPart now dust point = .finalizedUnspendable

section New

variable (now : Int) (dust : Nat) (points : List VirtualTxOutPoint)

theorem new_preConfirmed : (new now dust points).preConfirmed =
    points.filter fun point => vtxoListPart now dust point = .preConfirmed := rfl

theorem new_confirmed : (new now dust points).confirmed =
    points.filter fun point => vtxoListPart now dust point = .confirmed := rfl

theorem new_recoverable : (new now dust points).recoverable =
    points.filter fun point => vtxoListPart now dust point = .recoverable := rfl

end New

variable (list : VtxoList)

def allUnspent : List VirtualTxOutPoint := list.preConfirmed ++ (list.confirmed ++ list.recoverable)

def unspendable : List VirtualTxOutPoint := list.exiting ++ list.finalizedUnspendable

def all : List VirtualTxOutPoint := list.allUnspent ++ list.unspendable

def spendableOffchain : List VirtualTxOutPoint := list.preConfirmed ++ list.confirmed

end VtxoList

def vtxoListFromSnapshot (codec : SnapshotCodec) (now : Int) (snapshot : OffchainVtxoSnapshot) :
    ArkResult VtxoList := do
  let points ← snapshot.virtualTxOutpoints.mapM (virtualTxOutpointFromRecord codec)
  return VtxoList.new now snapshot.dustSats points

/-! ## Signers of scripts -/

/-- One round of the loop of `script_to_server_pk_lookup`. -/
def insertServerPk (codec : SnapshotCodec) (byScript : List UInt8 → Option String)
    (record : VirtualTxOutPointRecord) : ArkResult (List UInt8 → Option String) :=
  match record.serverPkHex with
  | none => .ok byScript
  | some hex => do
      let script ← parseSnapshotScript codec record.scriptHex
      match codec.xOnlyPublicKeyFromStr hex with
      | .error error => .error (.snapshot ("invalid server_pk_hex: " ++ error))
      | .ok serverPk => .ok (Function.update byScript script (some serverPk))

/-- `script_to_server_pk_lookup`. A script without a key has the fallback's, unless only some
rows carry a key. -/
def scriptToServerPkLookup (codec : SnapshotCodec) (snapshot : OffchainVtxoSnapshot)
    (legacySignerPkFallback : Option String) : ArkResult (List UInt8 → Option String) := do
  let byScript ← snapshot.virtualTxOutpoints.foldlM (insertServerPk codec) fun _ => none
  let anyRecordHasServerPk :=
    snapshot.virtualTxOutpoints.any fun record => record.serverPkHex.isSome
  let allRecordsHaveServerPk :=
    snapshot.virtualTxOutpoints.all fun record => record.serverPkHex.isSome
  return fun script =>
    match byScript script with
    | some serverPk => some serverPk
    | none =>
      if anyRecordHasServerPk && !allRecordsHaveServerPk then none else legacySignerPkFallback

section Operator

variable {PublicKey Address : Type} (xOnly : PublicKey → String) (info : Info PublicKey Address)
variable (now : Int)

/-- The output's signer is known and past its cutoff. -/
def isPastCutoff (serverPkForScript : List UInt8 → Option String) (point : VirtualTxOutPoint) :
    Bool :=
  ((serverPkForScript point.script).map fun serverPk =>
    info.signerRequiresRecoveryAt xOnly serverPk now).getD false

def spendableOffchainAt (list : VtxoList) (serverPkForScript : List UInt8 → Option String) :
    List VirtualTxOutPoint :=
  list.spendableOffchain.filter fun point => !isPastCutoff xOnly info now serverPkForScript point

def pendingRecoveryDueToSignerAt (list : VtxoList)
    (serverPkForScript : List UInt8 → Option String) : List VirtualTxOutPoint :=
  list.spendableOffchain.filter fun point => isPastCutoff xOnly info now serverPkForScript point

def totalAmount (points : List VirtualTxOutPoint) : Nat :=
  points.foldl (fun total point => total + point.amount) 0

structure OffChainBalance where
  preConfirmed : Nat
  confirmed : Nat
  recoverable : Nat
  pendingRecovery : Nat
  assetBalances : BTreeMap String Nat

/-- The balance of one asset, by the text of its id, after an addition, which may overflow. -/
def addAssetBalance (balances : BTreeMap String Nat) (asset : VirtualTxOutPointAsset) :
    ArkResult (BTreeMap String Nat) :=
  let total := balances[asset.assetId.text]?.getD 0 + asset.amount
  if UInt64.size ≤ total then .error (.client "asset balance overflow")
  else .ok (balances.insert asset.assetId.text total)

def computeOffchainBalance (list : VtxoList) (serverPkForScript : List UInt8 → Option String) :
    ArkResult OffChainBalance := do
  let spendable := spendableOffchainAt xOnly info now list serverPkForScript
  let spendableOutpoints := spendable.map VirtualTxOutPoint.outpoint
  let assetBalances ← (spendable.flatMap VirtualTxOutPoint.assets).foldlM addAssetBalance ∅
  return {
    preConfirmed := totalAmount (list.preConfirmed.filter fun point =>
      spendableOutpoints.contains point.outpoint)
    confirmed := totalAmount (list.confirmed.filter fun point =>
      spendableOutpoints.contains point.outpoint)
    recoverable := totalAmount list.recoverable
    pendingRecovery := totalAmount
      (pendingRecoveryDueToSignerAt xOnly info now list serverPkForScript)
    assetBalances }

structure OffchainBalanceBuckets where
  preConfirmedSats : Nat
  confirmedSats : Nat
  recoverableSats : Nat
  pendingRecoveryDueToExpiredSignerSats : Nat

def OffchainBalanceBuckets.fromLive (balance : OffChainBalance) : OffchainBalanceBuckets where
  preConfirmedSats := balance.preConfirmed
  confirmedSats := balance.confirmed
  recoverableSats := balance.recoverable
  pendingRecoveryDueToExpiredSignerSats := balance.pendingRecovery

def OffchainBalanceBuckets.grossSpendableSats (buckets : OffchainBalanceBuckets) : Nat :=
  saturatingAdd buckets.preConfirmedSats buckets.confirmedSats

/-- `offchain_balance_buckets_from_snapshot`. An output that is exiting waits for no
recovery. -/
def offchainBalanceBucketsFromSnapshot (codec : SnapshotCodec) (snapshot : OffchainVtxoSnapshot)
    (legacySignerPkFallback : Option String) (records : VtxoExitRecords) :
    ArkResult OffchainBalanceBuckets := do
  let list ← vtxoListFromSnapshot codec now snapshot
  let lookup ← scriptToServerPkLookup codec snapshot legacySignerPkFallback
  let balance ← computeOffchainBalance xOnly info now list lookup
  let pending := (pendingRecoveryDueToSignerAt xOnly info now list lookup).filter fun point =>
    point.outpoint ∉ unilateralExitPipelineOutpoints records
  return { OffchainBalanceBuckets.fromLive balance with
    pendingRecoveryDueToExpiredSignerSats := totalAmount pending }

def isSettleableRecoverableVtxo (point : VirtualTxOutPoint) (dust : Nat) : Bool :=
  point.isSwept || point.amount < dust

def isPendingOperatorSweepRecoverableVtxo (point : VirtualTxOutPoint) (dust : Nat) : Bool :=
  point.isRecoverable now dust && !isSettleableRecoverableVtxo point dust

structure RecoverableVtxoSummary where
  outpoints : List OutPoint
  totalSats : Nat
  count : Nat

def recoverableVtxoSummaryFromFiltered (points : List VirtualTxOutPoint) :
    RecoverableVtxoSummary where
  outpoints := points.map VirtualTxOutPoint.outpoint
  totalSats := totalAmount points
  count := points.length % UInt32.size

structure RecoverableVtxoBuckets where
  settleable : RecoverableVtxoSummary
  pendingOperatorSweep : RecoverableVtxoSummary

def recoverableVtxoBucketsFromList (list : VtxoList) (dust : Nat)
    (excludePipelineOutpoints : Finset OutPoint) : RecoverableVtxoBuckets :=
  let allRecoverable := list.recoverable.filter fun point =>
    point.outpoint ∉ excludePipelineOutpoints
  { settleable := recoverableVtxoSummaryFromFiltered
      (allRecoverable.filter fun point => isSettleableRecoverableVtxo point dust)
    pendingOperatorSweep := recoverableVtxoSummaryFromFiltered
      (allRecoverable.filter fun point =>
        isPendingOperatorSweepRecoverableVtxo now point dust) }

/-- `recoverable_vtxo_buckets`, with a stored snapshot. -/
def recoverableVtxoBuckets (codec : SnapshotCodec) (snapshot : OffchainVtxoSnapshot)
    (records : VtxoExitRecords) : ArkResult RecoverableVtxoBuckets := do
  let list ← vtxoListFromSnapshot codec now snapshot
  return recoverableVtxoBucketsFromList now list info.dust
    (unilateralExitPipelineOutpoints records)

inductive VtxoClassification where
  | exiting
  | recoverableSettleable
  | recoverablePendingOperatorSweep
  | finalized
  | pendingRecoveryDueToExpiredSigner
  | preConfirmed
  | confirmed

def classifyVtxo (point : VirtualTxOutPoint) (dust : Nat)
    (serverPkForScript : List UInt8 → Option String) : VtxoClassification :=
  if point.isUnrolled && !point.isSpent then .exiting
  else if point.isRecoverable now dust then
    if isSettleableRecoverableVtxo point dust then .recoverableSettleable
    else .recoverablePendingOperatorSweep
  else if point.isSpent || point.isSwept then .finalized
  else if isPastCutoff xOnly info now serverPkForScript point then
    .pendingRecoveryDueToExpiredSigner
  else if point.isPreconfirmed then .preConfirmed
  else .confirmed

/-- `VtxoRowDto`. Whether exit materials are prepared is an input. -/
structure VtxoRow where
  outpoint : OutPoint
  amountSats : Nat
  createdAt : Int
  expiresAt : Int
  classification : VtxoClassification
  isPreconfirmed : Bool
  isRecoverable : Bool
  isUnrolled : Bool
  isSwept : Bool
  isSpent : Bool
  isUnilateralExitPrepared : Bool

def mapVtxoRow (point : VirtualTxOutPoint) (dust : Nat)
    (serverPkForScript : List UInt8 → Option String) (isUnilateralExitPrepared : Bool) :
    VtxoRow where
  outpoint := point.outpoint
  amountSats := point.amount
  createdAt := point.createdAt
  expiresAt := point.expiresAt
  classification := classifyVtxo xOnly info now point dust serverPkForScript
  isPreconfirmed := point.isPreconfirmed
  isRecoverable := point.isRecoverable now dust
  isUnrolled := point.isUnrolled
  isSwept := point.isSwept
  isSpent := point.isSpent
  isUnilateralExitPrepared := isUnilateralExitPrepared

def applyLocalSnapshotFlagsToVtxo (point : VirtualTxOutPoint)
    (record : VirtualTxOutPointRecord) : VirtualTxOutPoint :=
  { point with
    isUnrolled := point.isUnrolled || record.isUnrolled
    isSpent := point.isSpent || record.isSpent
    spentBy :=
      if record.isSpent then point.spentBy.or (record.spentBy.bind Txid.fromStr)
      else point.spentBy }

/-- An output as the list shows it, with the flags that the snapshot has for it. -/
def displayVtxo (snapshot : OffchainVtxoSnapshot) (point : VirtualTxOutPoint) : VirtualTxOutPoint :=
  match snapshotRecord snapshot point.outpoint.txid.text point.outpoint.vout with
  | some record => applyLocalSnapshotFlagsToVtxo point record
  | none => point

def mapVtxoRowsFromList (list : VtxoList) (dust : Nat)
    (serverPkForScript : List UInt8 → Option String) (snapshot : OffchainVtxoSnapshot)
    (isUnilateralExitPrepared : VirtualTxOutPoint → Bool) : List VtxoRow :=
  (list.all.map fun point => mapVtxoRow xOnly info now (displayVtxo snapshot point) dust
    serverPkForScript (isUnilateralExitPrepared point)).mergeSort
      fun left right => left.expiresAt ≤ right.expiresAt

/-- `list_vtxos`, with a stored snapshot. -/
def listVtxos (codec : SnapshotCodec) (snapshot : OffchainVtxoSnapshot)
    (legacySignerPkFallback : Option String)
    (isUnilateralExitPrepared : VirtualTxOutPoint → Bool) : ArkResult (List VtxoRow) := do
  let list ← vtxoListFromSnapshot codec now snapshot
  let lookup ← scriptToServerPkLookup codec snapshot legacySignerPkFallback
  return mapVtxoRowsFromList xOnly info now list info.dust lookup snapshot isUnilateralExitPrepared

end Operator

end Bitboard.Arkade
