/-
# What the offline copy gives back

A unilateral exit works without the operator, from two stored things: the rows of the
snapshot, and the materials with the chain of virtual transactions of each host. Both are
written and read by hand, field by field. This module shows that nothing is lost on the way:
a row reads as the output it was written from, and stored chains decode to the same chains in
the same order.

Transaction ids, scripts and asset ids are printed and read as in the source. Only
`serde_json`'s text of a chain stays a parameter, and the bytes of a PSBT.
-/

import Bitboard.Arkade.BalanceBuckets

namespace Bitboard.Arkade

open Bitboard.Lib

theorem utf8Size_of_mem_lowerHexDigits : ∀ c ∈ lowerHexDigits, c.utf8Size = 1 := by
  rw [← List.forall_iff_forall_mem]
  decide

theorem utf8ByteSize_ofList {text : List Char} (h : ∀ c ∈ text, c.utf8Size = 1) :
    (String.ofList text).utf8ByteSize = text.length := by
  induction text with
  | nil => rfl
  | cons c text ih =>
    rw [← List.singleton_append, String.ofList_append, String.utf8ByteSize_append,
      ih fun other hother => h other (List.mem_cons_of_mem c hother),
      ← String.singleton_eq_ofList, String.utf8ByteSize_singleton, h c List.mem_cons_self,
      List.length_append, List.length_singleton]

theorem splitAtByte_append {before : List Char} (after : List Char)
    (h : ∀ c ∈ before, c.utf8Size = 1) :
    splitAtByte before.length (before ++ after) = some (before, after) := by
  induction before with
  | nil => rw [List.length_nil, List.nil_append, splitAtByte]
  | cons c before ih =>
    have hsize : c.utf8Size = 1 := h c List.mem_cons_self
    have hrest := ih fun other hother => h other (List.mem_cons_of_mem c hother)
    rw [List.length_cons, List.cons_append, splitAtByte, hsize, if_pos (by omega),
      Nat.add_sub_cancel, hrest]
    rfl

theorem lowerHexDigit_mem (nibble : UInt8) : lowerHexDigit nibble ∈ lowerHexDigits := by
  unfold lowerHexDigit
  rw [List.getD_eq_getElem?_getD]
  cases hdigit : lowerHexDigits[nibble.toNat]? with
  | none =>
    show '0' ∈ lowerHexDigits
    decide
  | some digit => exact List.mem_of_getElem? hdigit

theorem mem_lowerHexDigits_of_mem_toLowerHexString {bytes : List UInt8} {c : Char}
    (h : c ∈ (toLowerHexString bytes).toList) : c ∈ lowerHexDigits := by
  rw [toLowerHexString, String.toList_ofList, List.mem_flatMap] at h
  obtain ⟨byte, _, hc⟩ := h
  rw [List.mem_pair] at hc
  cases hc with
  | inl hhigh =>
    rw [hhigh]
    exact lowerHexDigit_mem _
  | inr hlow =>
    rw [hlow]
    exact lowerHexDigit_mem _

theorem toUInt16_toLeBytes (n : UInt16) :
    n.toUInt8.toUInt16 + (n / 256).toUInt8.toUInt16 * 256 = n := by
  apply UInt16.toNat_inj.mp
  have hlt := n.toNat_lt
  simp only [UInt16.toNat_add, UInt16.toNat_mul, UInt8.toNat_toUInt16, UInt16.toNat_toUInt8,
    UInt16.toNat_div]
  have hfactor : (256 : UInt16).toNat = 256 := rfl
  rw [hfactor]
  omega

variable (assetId : AssetId)

theorem AssetId.toList_text :
    assetId.text.toList = assetId.txid.text.toList ++
      (toLowerHexString (toLeBytes assetId.groupIndex)).toList :=
  String.toList_append

theorem AssetId.utf8Size_of_mem_text {c : Char} (h : c ∈ assetId.text.toList) : c.utf8Size = 1 := by
  apply utf8Size_of_mem_lowerHexDigits
  rw [AssetId.toList_text, List.mem_append] at h
  cases h with
  | inl htxid => exact assetId.txid.isLowerHex c htxid
  | inr hindex => exact mem_lowerHexDigits_of_mem_toLowerHexString hindex

theorem AssetId.utf8ByteSize_text : assetId.text.utf8ByteSize = 68 := by
  have hascii : ∀ c ∈ assetId.text.toList, c.utf8Size = 1 := fun _ => assetId.utf8Size_of_mem_text
  have hbytes := utf8ByteSize_ofList hascii
  rw [String.ofList_toList] at hbytes
  rw [hbytes, AssetId.toList_text, List.length_append, assetId.txid.length_text,
    toLowerHexString, String.toList_ofList]
  rfl

theorem AssetId.fromStr_text (codec : SnapshotCodec) (assetId : AssetId) :
    AssetId.fromStr codec assetId.text = .ok assetId := by
  have hsplit : splitAtByte 64 assetId.text.toList = some (assetId.txid.text.toList,
      (toLowerHexString (toLeBytes assetId.groupIndex)).toList) := by
    rw [AssetId.toList_text, ← assetId.txid.length_text]
    apply splitAtByte_append
    intro c hc
    exact utf8Size_of_mem_lowerHexDigits c (assetId.txid.isLowerHex c hc)
  have hindex : fromHexDigits (toLowerHexString (toLeBytes assetId.groupIndex)).toList =
      some (toLeBytes assetId.groupIndex) := fromHex_toLowerHexString _
  unfold AssetId.fromStr
  rw [if_neg (not_not_intro assetId.utf8ByteSize_text), hsplit]
  simp only [String.ofList_toList, Txid.fromStr_text]
  rw [hindex, toLeBytes]
  simp only [toUInt16_toLeBytes]

section Rows

variable (codec : SnapshotCodec)

theorem parseSnapshotTxid_text (field : String) (txid : Txid) :
    parseSnapshotTxid codec field txid.text = .ok txid := by
  rw [parseSnapshotTxid, Txid.fromStr_text]

theorem parseOptionalSnapshotTxid_text (field : String) (txid : Option Txid) :
    parseOptionalSnapshotTxid codec field (txid.map (·.text)) = .ok txid := by
  cases txid with
  | none => rfl
  | some txid =>
    rw [Option.map_some, parseOptionalSnapshotTxid, parseSnapshotTxid_text]
    rfl

theorem parseSnapshotScript_toLowerHexString (script : List UInt8) :
    parseSnapshotScript codec (toLowerHexString script) = .ok script := by
  rw [parseSnapshotScript, fromHex_toLowerHexString]

theorem parseSnapshotAsset_text (asset : VirtualTxOutPointAsset) :
    parseSnapshotAsset codec { assetIdHex := asset.assetId.text, amount := asset.amount } =
      .ok asset := by
  rw [parseSnapshotAsset, AssetId.fromStr_text]

theorem mapM_map_eq_ok {α β ε : Type} {print : α → β} {parse : β → Except ε α}
    (h : ∀ a, parse (print a) = .ok a) (list : List α) :
    (list.map print).mapM parse = .ok list := by
  induction list with
  | nil => rfl
  | cons a list ih =>
    rw [List.map_cons, List.mapM_cons, h, ih]
    rfl

theorem virtualTxOutpointFromRecord_toRecord (point : VirtualTxOutPoint)
    (serverPk : Option String) :
    virtualTxOutpointFromRecord codec (virtualTxOutpointToRecord point serverPk) = .ok point := by
  unfold virtualTxOutpointFromRecord
  simp only [virtualTxOutpointToRecord, parseSnapshotTxid_text,
    parseSnapshotScript_toLowerHexString, parseOptionalSnapshotTxid_text,
    mapM_map_eq_ok (parseSnapshotTxid_text codec _), mapM_map_eq_ok (parseSnapshotAsset_text codec)]
  rfl

end Rows

def VtxoChain.serializable (chain : VtxoChain) : SerializableVtxoChain where
  txid := chain.txid.text
  txType := chainedTxTypeLabel chain.txType
  spends := chain.spends.map (·.text)
  expiresAt := chain.expiresAt

def VtxoChains.serializable (chains : VtxoChains) : SerializableVtxoChains where
  inner := chains.inner.map VtxoChain.serializable

/-- `vtxo_chains_to_json`, by what `serde_json::to_string` makes of a wire form. -/
def vtxoChainsToJson (toJson : SerializableVtxoChains → Except String String)
    (chains : VtxoChains) : ArkResult String :=
  match toJson chains.serializable with
  | .ok text => .ok text
  | .error error => .error (.snapshot ("chain json encode: " ++ error))

structure PsbtBytes (Psbt : Type) where
  computeTxid : Psbt → Txid
  serialize : Psbt → List UInt8

section Materials

variable {Psbt : Type} (psbtBytes : PsbtBytes Psbt)
variable (toJson : SerializableVtxoChains → Except String String) (codec : Codec)

def virtualPsbtsToRecords (psbts : List Psbt) : List VirtualPsbtRecord :=
  psbts.map fun psbt =>
    { virtualTxid := (psbtBytes.computeTxid psbt).text
      psbtHex := toLowerHexString (psbtBytes.serialize psbt) }

def materialsRecordFromPrefetch (cachedAt : Int) (chains : VtxoChains) (psbts : List Psbt) :
    ArkResult UnilateralExitMaterialsRecord := do
  let chainJson ← vtxoChainsToJson toJson chains
  return { cachedAt, chainJson, virtualPsbts := virtualPsbtsToRecords psbtBytes psbts }

def storeMaterialsForHostTx (snapshot : OffchainVtxoSnapshot) (hostTxid : String)
    (materials : UnilateralExitMaterialsRecord) : OffchainVtxoSnapshot :=
  { snapshot with
    unilateralExitMaterialsByHostTx :=
      snapshot.unilateralExitMaterialsByHostTx.insert hostTxid materials }

/-- `serde_json` prints the wire form and reads it back. -/
def JsonRoundTrips (stored : SerializableVtxoChains) : Prop :=
  ∃ text, toJson stored = .ok text ∧ codec.fromStr text = .ok stored

theorem parseChainedTxType_label (txType : ChainedTxType) :
    parseChainedTxType (chainedTxTypeLabel txType) = .ok txType := by
  cases txType with
  | commitment | tree | checkpoint | ark | unspecified => rfl

theorem vtxoChainsFromJson_of_fromStr {chainJson : String} {chains : VtxoChains}
    (h : codec.fromStr chainJson = .ok chains.serializable) :
    vtxoChainsFromJson codec chainJson = .ok chains := by
  unfold vtxoChainsFromJson
  rw [h, VtxoChains.serializable]
  simp only
  rw [mapM_map_eq_ok]
  · rfl
  · intro chain
    simp only [VtxoChain.serializable, parseChainTxid_text, parseChainedTxType_label,
      mapM_map_eq_ok (parseChainTxid_text codec _)]
    rfl

theorem materialsRecordFromPrefetch_eq {chains : VtxoChains} {chainJson : String}
    (hencode : toJson chains.serializable = .ok chainJson) (cachedAt : Int) (psbts : List Psbt) :
    materialsRecordFromPrefetch psbtBytes toJson cachedAt chains psbts =
      .ok { cachedAt, chainJson, virtualPsbts := virtualPsbtsToRecords psbtBytes psbts } := by
  have hprinted : vtxoChainsToJson toJson chains = .ok chainJson := by
    rw [vtxoChainsToJson, hencode]
  rw [materialsRecordFromPrefetch, hprinted]
  rfl

theorem vtxoChainsFromSnapshotMaterials_store (snapshot : OffchainVtxoSnapshot)
    (hostTxid : String) (materials : UnilateralExitMaterialsRecord) :
    vtxoChainsFromSnapshotMaterials codec
        (storeMaterialsForHostTx snapshot hostTxid materials) hostTxid =
      vtxoChainsFromJson codec materials.chainJson := by
  unfold vtxoChainsFromSnapshotMaterials requireUnilateralExitMaterialsForHostTx
    materialsForUnrollHostTx snapshotMaterialsForHostTx storeMaterialsForHostTx
  simp only [Std.ExtTreeMap.getElem?_insert_self]
  rfl

/-- The offline copy gives back what was stored: a row the output it was written from, and the
materials of a host the chains in their order. -/
theorem offline_copy_gives_back (snapshotCodec : SnapshotCodec) (point : VirtualTxOutPoint)
    (serverPk : Option String) (chains : VtxoChains)
    (hjson : JsonRoundTrips toJson codec chains.serializable) (cachedAt : Int)
    (psbts : List Psbt) (snapshot : OffchainVtxoSnapshot) (hostTxid : String) :
    virtualTxOutpointFromRecord snapshotCodec (virtualTxOutpointToRecord point serverPk) =
        .ok point ∧
      ∃ materials,
        materialsRecordFromPrefetch psbtBytes toJson cachedAt chains psbts = .ok materials ∧
        vtxoChainsFromJson codec materials.chainJson = .ok chains ∧
        vtxoChainsFromSnapshotMaterials codec
          (storeMaterialsForHostTx snapshot hostTxid materials) hostTxid = .ok chains := by
  apply And.intro (virtualTxOutpointFromRecord_toRecord snapshotCodec point serverPk)
  obtain ⟨chainJson, hencode, hdecode⟩ := hjson
  have hrecord := materialsRecordFromPrefetch_eq psbtBytes toJson hencode cachedAt psbts
  have hchains := vtxoChainsFromJson_of_fromStr codec hdecode
  apply Exists.intro _
  apply And.intro hrecord
  apply And.intro hchains
  rw [vtxoChainsFromSnapshotMaterials_store]
  exact hchains

end Materials

def sampleChainToJson (stored : SerializableVtxoChains) : Except String String :=
  let link (chain : SerializableVtxoChain) : String :=
    "\x7b\"txid\":\"" ++ chain.txid ++ "\",\"tx_type\":\"" ++ chain.txType ++
      "\",\"spends\":[" ++
      ",".intercalate (chain.spends.map fun spend => "\"" ++ spend ++ "\"") ++
      "],\"expires_at\":" ++ toString chain.expiresAt ++ "\x7d"
  .ok ("\x7b\"inner\":[" ++ ",".intercalate (stored.inner.map link) ++ "]\x7d")

def samplePsbtBytes : PsbtBytes Unit where
  computeTxid _ := sampleHost
  serialize _ := [0x70, 0x73, 0x62, 0x74, 0xff]

def sampleAssetPoint : VirtualTxOutPoint :=
  { samplePoint with
    script := [0x51, 0x20]
    spentBy := some sampleCommitment
    commitmentTxids := [sampleCommitment, sampleHost]
    settledBy := some sampleHost
    arkTxid := some sampleCommitment
    assets := [{ assetId := { txid := sampleCommitment, groupIndex := 258 }, amount := 7 }] }

theorem sampleChainToJson_branch (host commitment : String) :
    sampleChainToJson { inner := [
        { txid := host, txType := "tree", spends := [commitment], expiresAt := 0 },
        { txid := commitment, txType := "commitment", spends := [], expiresAt := 0 }] } =
      .ok ("\x7b\"inner\":[\x7b\"txid\":\"" ++ host ++
        "\",\"tx_type\":\"tree\",\"spends\":[\"" ++ commitment ++
        "\"],\"expires_at\":0\x7d,\x7b\"txid\":\"" ++ commitment ++
        "\",\"tx_type\":\"commitment\",\"spends\":[],\"expires_at\":0\x7d]\x7d") := by
  have hzero : Int.repr 0 = "0" := rfl
  apply congrArg Except.ok
  apply String.toList_inj.mp
  simp [hzero]

theorem jsonRoundTrips_sample :
    JsonRoundTrips sampleChainToJson sampleCodec sampleChains.serializable := by
  apply Exists.intro sampleChainJson
  constructor
  · exact sampleChainToJson_branch sampleHost.text sampleCommitment.text
  · simp only [sampleCodec, if_true]
    rfl

theorem offline_copy_gives_back_sample :
    virtualTxOutpointFromRecord sampleSnapshotCodec
          (virtualTxOutpointToRecord sampleAssetPoint none) = .ok sampleAssetPoint ∧
      ∃ materials,
        materialsRecordFromPrefetch samplePsbtBytes sampleChainToJson 0 sampleChains [()] =
          .ok materials ∧
        vtxoChainsFromJson sampleCodec materials.chainJson = .ok sampleChains ∧
        vtxoChainsFromSnapshotMaterials sampleCodec
          (storeMaterialsForHostTx sampleSnapshot sampleHost.text materials) sampleHost.text =
            .ok sampleChains :=
  offline_copy_gives_back samplePsbtBytes sampleChainToJson sampleCodec sampleSnapshotCodec
    sampleAssetPoint none sampleChains jsonRoundTrips_sample 0 [()] sampleSnapshot
    sampleHost.text

end Bitboard.Arkade
