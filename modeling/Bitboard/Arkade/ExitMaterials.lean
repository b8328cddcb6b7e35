/-
# Exit materials

For each host transaction the operator's sync prefetches the chain of virtual
transactions down to it and stores the chain as JSON. This module reads such
chains back and answers what the exit code asks of them: which materials cover a
host, which hosts of a chain can carry exit outpoints, and which transactions lie
on the branch of a host.

Decoding the JSON text is `serde_json`'s work and the texts of the errors of
`Txid::from_str` are the bitcoin crate's; both enter as a `Codec`. Every check the
session makes on the decoded value is spelled out.
-/

import Bitboard.Arkade.Persistence

namespace Bitboard.Arkade

open Bitboard.Lib

inductive ChainedTxType where
  | commitment
  | tree
  | checkpoint
  | ark
  | unspecified

structure VtxoChain where
  txid : Txid
  txType : ChainedTxType
  spends : List Txid
  expiresAt : Int

structure VtxoChains where
  inner : List VtxoChain

structure SerializableVtxoChain where
  txid : String
  txType : String
  spends : List String
  expiresAt : Int

structure SerializableVtxoChains where
  inner : List SerializableVtxoChain

/-- What the session takes from `serde_json` and from the bitcoin crate: decoding a chain
text, and the texts of the errors of reading a transaction id. -/
structure Codec where
  fromStr : String → Except String SerializableVtxoChains
  txidError : String → String

def chainedTxTypeLabel : ChainedTxType → String
  | .commitment => "commitment"
  | .tree => "tree"
  | .checkpoint => "checkpoint"
  | .ark => "ark"
  | .unspecified => "unspecified"

def parseChainedTxType (label : String) : ArkResult ChainedTxType :=
  match label with
  | "commitment" => .ok .commitment
  | "tree" => .ok .tree
  | "checkpoint" => .ok .checkpoint
  | "ark" => .ok .ark
  | "unspecified" => .ok .unspecified
  | other => .error (.snapshot ("unknown chained tx type: " ++ other))

/-- `virtual_tx_type_hosts_exit_outpoints`: batch-tree leaves are hosted on `tree`
transactions, off-chain payments and change on `ark` transactions. -/
def virtualTxTypeHostsExitOutpoints (txType : String) : Bool :=
  txType == "ark" || txType == "tree"

variable (codec : Codec)

/-- Reads a transaction id or fails with a snapshot error that begins with `context`. -/
def parseChainTxid (context txid : String) : ArkResult Txid :=
  match Txid.fromStr txid with
  | some txid => .ok txid
  | none => .error (.snapshot (context ++ codec.txidError txid))

def vtxoChainsFromJson (chainJson : String) : ArkResult VtxoChains :=
  match codec.fromStr chainJson with
  | .error error => .error (.snapshot ("chain json decode: " ++ error))
  | .ok serializable => do
      let inner ← serializable.inner.mapM fun chain => do
        let txid ← parseChainTxid codec "invalid chain txid: " chain.txid
        let txType ← parseChainedTxType chain.txType
        let spends ← chain.spends.mapM (parseChainTxid codec "invalid spend txid: ")
        return { txid, txType, spends, expiresAt := chain.expiresAt : VtxoChain }
      return { inner }

variable (snapshot : OffchainVtxoSnapshot)

def snapshotMaterialsForHostTx (hostTxid : String) : Option UnilateralExitMaterialsRecord :=
  snapshot.unilateralExitMaterialsByHostTx[hostTxid]?

/-- `materials_cover_host_tx`: the cached chain has a link with this transaction id. -/
def materialsCoverHostTx (materials : UnilateralExitMaterialsRecord) (hostTxid : String) : Bool :=
  match Txid.fromStr hostTxid, vtxoChainsFromJson codec materials.chainJson with
  | some wanted, .ok chains => chains.inner.any fun link => link.txid = wanted
  | _, _ => false

/-- `materials_for_unroll_host_tx`: the materials keyed by this host, or the first ones whose
chain includes it. -/
def materialsForUnrollHostTx (hostTxid : String) : Option UnilateralExitMaterialsRecord :=
  match snapshotMaterialsForHostTx snapshot hostTxid with
  | some materials => some materials
  | none =>
    (BTreeMap.vals snapshot.unilateralExitMaterialsByHostTx).find? fun materials =>
      materialsCoverHostTx codec materials hostTxid

def requireUnilateralExitMaterialsForHostTx (hostTxid : String) :
    ArkResult UnilateralExitMaterialsRecord :=
  match materialsForUnrollHostTx codec snapshot hostTxid with
  | some materials => .ok materials
  | none => .error .autonomousExitMaterialsMissing

def vtxoChainsFromSnapshotMaterials (hostTxid : String) : ArkResult VtxoChains := do
  let materials ← requireUnilateralExitMaterialsForHostTx codec snapshot hostTxid
  vtxoChainsFromJson codec materials.chainJson

def vtxoAmountSatsFromSnapshot (snapshot : Option OffchainVtxoSnapshot) (txid : String)
    (vout : UInt32) : Option Nat :=
  snapshot.bind fun snapshot => (snapshotRecord snapshot txid vout).map (·.amountSats)

def recordIsExitEligible (record : VirtualTxOutPointRecord) : Bool :=
  !record.isSwept && !record.isUnrolled && !record.isSpent

structure UnilateralExitTopologyNode where
  txid : String
  txType : String
  spends : List String

def topologyNodesFromChains (chains : VtxoChains) : List UnilateralExitTopologyNode :=
  chains.inner.map fun link => {
    txid := link.txid.text
    txType := chainedTxTypeLabel link.txType
    spends := link.spends.map (·.text) }

variable (nodes : List UnilateralExitTopologyNode)

/-- Keeps `node` unless a node with its transaction id was kept before. -/
def pushUnseenNode (node : UnilateralExitTopologyNode) : List UnilateralExitTopologyNode :=
  if nodes.any fun kept => kept.txid == node.txid then nodes else nodes ++ [node]

/-- `merge_topology_nodes_from_chains`: the first node of each transaction id. -/
def mergeTopologyNodesFromChains (chainSets : List VtxoChains) : List UnilateralExitTopologyNode :=
  (chainSets.flatMap topologyNodesFromChains).foldl pushUnseenNode []

/-- The transaction ids of the nodes that can host exit outpoints. -/
def exitHostTxids : Finset String :=
  ((nodes.filter fun node => virtualTxTypeHostsExitOutpoints node.txType).map (·.txid)).toFinset

/-- `exit_eligible_records_for_topology_hosts_from_snapshot`, on a snapshot that is there. -/
def exitEligibleRecordsForTopologyHosts (hostTxids : Finset String) :
    List VirtualTxOutPointRecord :=
  snapshot.virtualTxOutpoints.filter fun record =>
    recordIsExitEligible record && decide (record.txid ∈ hostTxids)

variable (seedHostTxid : String)

/-- `materials_chains_containing_host`: the readable chains with a link at the host. -/
def materialsChainsContainingHost : List VtxoChains :=
  (BTreeMap.vals snapshot.unilateralExitMaterialsByHostTx).filterMap fun materials =>
    match vtxoChainsFromJson codec materials.chainJson with
    | .ok chains =>
      if chains.inner.any fun link => link.txid.text == seedHostTxid then some chains
      else none
    | .error _ => none

/-- The transaction ids of a chain's links that can host exit outpoints. -/
def chainExitHosts (chains : VtxoChains) : List String :=
  (chains.inner.filter fun link =>
    virtualTxTypeHostsExitOutpoints (chainedTxTypeLabel link.txType)).map (·.txid.text)

def hostTxidsOnSameMaterialsBranch : ArkResult (Finset String) :=
  let hostTxids :=
    ((materialsChainsContainingHost codec snapshot seedHostTxid).flatMap chainExitHosts).toFinset
  if hostTxids = ∅ then .error .autonomousExitMaterialsMissing else .ok hostTxids

/-- `materials_chain_txid_strings_for_host`: the host and every link of the chains through
it, each once. -/
def materialsChainTxidStringsForHost : List String :=
  (seedHostTxid :: (materialsChainsContainingHost codec snapshot seedHostTxid).flatMap
    fun chains => chains.inner.map (·.txid.text)).eraseDups

/-- The exit hosts of the materials stored under one key; unreadable ones have none. -/
def exitHostsForMaterialKey (materialKey : String) : List String :=
  match snapshotMaterialsForHostTx snapshot materialKey with
  | none => []
  | some materials =>
    match vtxoChainsFromJson codec materials.chainJson with
    | .error _ => []
    | .ok chains => chainExitHosts chains

def hostTxidsForMaterialKeys (materialKeys : List String) : List String :=
  (materialKeys.flatMap (exitHostsForMaterialKey codec snapshot)).eraseDups

/-- `vtxo_host_txids_from_materials`: the `tree` and `ark` links of the stored materials. -/
def vtxoHostTxidsFromMaterials : List String :=
  hostTxidsForMaterialKeys codec snapshot snapshot.unilateralExitMaterialsByHostTx.keys

def stampableHosts : Finset String :=
  (vtxoHostTxidsFromMaterials codec snapshot).toFinset

theorem exitHostsForMaterialKey_of_ok {snapshot : OffchainVtxoSnapshot} {materialKey : String}
    {materials : UnilateralExitMaterialsRecord} {chains : VtxoChains}
    (hmaterials : snapshotMaterialsForHostTx snapshot materialKey = some materials)
    (hchains : vtxoChainsFromJson codec materials.chainJson = .ok chains) :
    exitHostsForMaterialKey codec snapshot materialKey = chainExitHosts chains := by
  simp only [exitHostsForMaterialKey, hmaterials, hchains]

theorem stampableHosts_congr {left right : OffchainVtxoSnapshot}
    (h : left.unilateralExitMaterialsByHostTx = right.unilateralExitMaterialsByHostTx) :
    stampableHosts codec left = stampableHosts codec right := by
  have hkey : exitHostsForMaterialKey codec left = exitHostsForMaterialKey codec right := by
    funext key
    unfold exitHostsForMaterialKey snapshotMaterialsForHostTx
    rw [h]
  unfold stampableHosts vtxoHostTxidsFromMaterials hostTxidsForMaterialKeys
  rw [hkey, h]

def sampleTxid (c : Char) (h : c ∈ lowerHexDigits) : Txid where
  text := String.ofList (List.replicate 64 c)
  length_text := by simp
  isLowerHex := by
    intro d hd
    rw [String.toList_ofList, List.mem_replicate] at hd
    exact hd.2 ▸ h

def sampleHost : Txid := sampleTxid 'a' (by decide)

def sampleCommitment : Txid := sampleTxid 'c' (by decide)

def sampleChainJson : String :=
  "\x7b\"inner\":[\x7b\"txid\":\"" ++ sampleHost.text ++
    "\",\"tx_type\":\"tree\",\"spends\":[\"" ++ sampleCommitment.text ++
    "\"],\"expires_at\":0\x7d,\x7b\"txid\":\"" ++ sampleCommitment.text ++
    "\",\"tx_type\":\"commitment\",\"spends\":[],\"expires_at\":0\x7d]\x7d"

def sampleCodec : Codec where
  fromStr text :=
    if text = sampleChainJson then
      .ok { inner := [
        { txid := sampleHost.text, txType := "tree", spends := [sampleCommitment.text],
          expiresAt := 0 },
        { txid := sampleCommitment.text, txType := "commitment", spends := [], expiresAt := 0 }] }
    else .error "expected value at line 1 column 1"
  txidError _ := "bad hex string length"

def sampleMaterials : UnilateralExitMaterialsRecord where
  cachedAt := 0
  chainJson := sampleChainJson
  virtualPsbts := []

def sampleRow (txid : String) (vout : UInt32) : VirtualTxOutPointRecord where
  txid := txid
  vout := vout
  createdAt := 0
  expiresAt := 0
  amountSats := 1000
  scriptHex := ""
  isPreconfirmed := false
  isSwept := false
  isUnrolled := false
  isSpent := false
  spentBy := none
  commitmentTxids := []
  settledBy := none
  arkTxid := none
  assets := []
  serverPkHex := none

def sampleSnapshot : OffchainVtxoSnapshot where
  syncedAt := 0
  dustSats := 330
  virtualTxOutpoints := [sampleRow sampleHost.text 0]
  unilateralExitMaterialsByHostTx := BTreeMap.singleton sampleHost.text sampleMaterials
  fullListedAt := 0

def sampleChains : VtxoChains where
  inner := [
    { txid := sampleHost, txType := .tree, spends := [sampleCommitment], expiresAt := 0 },
    { txid := sampleCommitment, txType := .commitment, spends := [], expiresAt := 0 }]

theorem parseChainTxid_text (context : String) (txid : Txid) :
    parseChainTxid codec context txid.text = .ok txid := by
  simp [parseChainTxid]

theorem vtxoChainsFromJson_sample :
    vtxoChainsFromJson sampleCodec sampleChainJson = .ok sampleChains := by
  have hdecoded : sampleCodec.fromStr sampleChainJson = .ok { inner := [
      { txid := sampleHost.text, txType := "tree", spends := [sampleCommitment.text],
        expiresAt := 0 },
      { txid := sampleCommitment.text, txType := "commitment", spends := [],
        expiresAt := 0 }] } := by
    simp only [sampleCodec, if_true]
  have htree : parseChainedTxType "tree" = .ok .tree := by simp [parseChainedTxType]
  have hcommitment : parseChainedTxType "commitment" = .ok .commitment := by
    simp [parseChainedTxType]
  simp only [vtxoChainsFromJson, hdecoded, parseChainTxid_text, htree, hcommitment,
    List.mapM_cons, List.mapM_nil]
  simp only [bind, Except.bind, pure, Except.pure, sampleChains]

theorem stampableHosts_of_sampleMaterials {snapshot : OffchainVtxoSnapshot}
    (h : snapshot.unilateralExitMaterialsByHostTx =
      BTreeMap.singleton sampleHost.text sampleMaterials) :
    stampableHosts sampleCodec snapshot = {sampleHost.text} := by
  have hmaterials : snapshotMaterialsForHostTx snapshot sampleHost.text = some sampleMaterials := by
    simp [snapshotMaterialsForHostTx, h]
  have hhosts : chainExitHosts sampleChains = [sampleHost.text] := by
    simp [chainExitHosts, sampleChains, chainedTxTypeLabel, virtualTxTypeHostsExitOutpoints]
  have hkey : exitHostsForMaterialKey sampleCodec snapshot sampleHost.text = [sampleHost.text] :=
    (exitHostsForMaterialKey_of_ok sampleCodec hmaterials vtxoChainsFromJson_sample).trans hhosts
  simp [stampableHosts, vtxoHostTxidsFromMaterials, hostTxidsForMaterialKeys, h, hkey,
    List.eraseDups_cons]

end Bitboard.Arkade
