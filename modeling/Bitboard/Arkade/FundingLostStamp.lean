/-
# Funding lost on swept branches

When the operator has swept a VTXO whose exit is under way, the records on its branch
that have not unrolled are stamped `funding_lost`, a phase that no operation leaves. A
branch is read from the stored exit materials: the `tree` and `ark` links of all chains
that contain the host of the swept record. The stamp reaches exactly those records, and
without the materials of a branch it needs it changes nothing.
-/

import Bitboard.Arkade.ExitRecordRuns
import Bitboard.Lib.FallibleLoop
import Mathlib

namespace Bitboard.Arkade

open Bitboard.Lib
open BTreeMap

section Stamp

variable (codec : Codec) {snapshot : OffchainVtxoSnapshot} {records : VtxoExitRecords}
  {virtualTxIsMarkedUnrolled : String → Bool}

/-- Some stored chain that can be read has a link of the seed's host, and a link of the other
host that can host exit outputs. -/
def SharesMaterialsBranch (snapshot : OffchainVtxoSnapshot) (seedHost host : String) : Prop :=
  ∃ (materialKey : String) (materials : UnilateralExitMaterialsRecord) (chains : VtxoChains),
    snapshot.unilateralExitMaterialsByHostTx[materialKey]? = some materials ∧
      vtxoChainsFromJson codec materials.chainJson = .ok chains ∧
      (∃ link ∈ chains.inner, link.txid.text = seedHost) ∧
      ∃ link ∈ chains.inner, link.txid.text = host ∧
        virtualTxTypeHostsExitOutpoints (chainedTxTypeLabel link.txType) = true

theorem mem_materialsChainsContainingHost {seedHost : String} {chains : VtxoChains} :
    chains ∈ materialsChainsContainingHost codec snapshot seedHost ↔
      ∃ (materialKey : String) (materials : UnilateralExitMaterialsRecord),
        snapshot.unilateralExitMaterialsByHostTx[materialKey]? = some materials ∧
          vtxoChainsFromJson codec materials.chainJson = .ok chains ∧
          ∃ link ∈ chains.inner, link.txid.text = seedHost := by
  simp only [materialsChainsContainingHost, List.mem_filterMap, mem_vals_iff]
  constructor
  · intro h
    obtain ⟨materials, ⟨materialKey, hmaterials⟩, hchains⟩ := h
    cases hjson : vtxoChainsFromJson codec materials.chainJson with
    | error error =>
      rw [hjson] at hchains
      cases hchains
    | ok found =>
      simp only [hjson] at hchains
      split at hchains
      · rename_i hlink
        cases hchains
        exact ⟨materialKey, materials, hmaterials, hjson, by simpa using hlink⟩
      · cases hchains
  · intro h
    obtain ⟨materialKey, materials, hmaterials, hjson, hlink⟩ := h
    refine ⟨materials, ⟨materialKey, hmaterials⟩, ?_⟩
    simp only [hjson]
    rw [if_pos]
    simpa using hlink

theorem mem_branchHosts {seedHost host : String} :
    host ∈ (materialsChainsContainingHost codec snapshot seedHost).flatMap chainExitHosts ↔
      SharesMaterialsBranch codec snapshot seedHost host := by
  simp only [List.mem_flatMap, mem_materialsChainsContainingHost, chainExitHosts, List.mem_map,
    List.mem_filter]
  constructor
  · intro h
    obtain ⟨chains, ⟨materialKey, materials, hmaterials, hjson, hseed⟩, link, ⟨hlink, htype⟩,
      hhost⟩ := h
    exact ⟨materialKey, materials, chains, hmaterials, hjson, hseed, link, hlink, hhost, htype⟩
  · intro h
    obtain ⟨materialKey, materials, chains, hmaterials, hjson, hseed, link, hlink, hhost,
      htype⟩ := h
    exact ⟨chains, ⟨materialKey, materials, hmaterials, hjson, hseed⟩, link, ⟨hlink, htype⟩, hhost⟩

/-- Without materials of the branch there is an error, and it is always the same. -/
theorem hostTxidsOnSameMaterialsBranch_cases (snapshot : OffchainVtxoSnapshot) (seedHost : String) :
    (¬ (∃ host, SharesMaterialsBranch codec snapshot seedHost host) ∧
        hostTxidsOnSameMaterialsBranch codec snapshot seedHost =
          .error .autonomousExitMaterialsMissing) ∨
      (∃ host, SharesMaterialsBranch codec snapshot seedHost host) ∧
        ∃ hosts : Finset String,
          hostTxidsOnSameMaterialsBranch codec snapshot seedHost = .ok hosts ∧
            ∀ host, host ∈ hosts ↔ SharesMaterialsBranch codec snapshot seedHost host := by
  simp only [hostTxidsOnSameMaterialsBranch]
  split
  · rename_i hempty
    refine Or.inl ⟨?_, rfl⟩
    intro hbranch
    obtain ⟨host, hhost⟩ := hbranch
    rw [← mem_branchHosts, ← List.mem_toFinset, hempty] at hhost
    simp at hhost
  · rename_i hsome
    obtain ⟨host, hhost⟩ := Finset.nonempty_iff_ne_empty.mpr hsome
    rw [List.mem_toFinset, mem_branchHosts] at hhost
    refine Or.inr ⟨⟨host, hhost⟩, _, rfl, ?_⟩
    intro other
    rw [List.mem_toFinset, mem_branchHosts]

/-- The snapshot row of an outpoint is swept and not unrolled, and its host is not marked
unrolled. -/
structure SweptOutpoint (snapshot : OffchainVtxoSnapshot)
    (virtualTxIsMarkedUnrolled : String → Bool) (txid : String) (vout : UInt32) : Prop where
  unmarked : virtualTxIsMarkedUnrolled txid = false
  swept : ∃ row, snapshotRecord snapshot txid vout = some row ∧ row.isSwept = true ∧
    row.isUnrolled = false

/-- A pre-unroll record whose snapshot row is swept and not unrolled, and whose host is not
marked unrolled. -/
structure SweptSeed (snapshot : OffchainVtxoSnapshot) (records : VtxoExitRecords)
    (virtualTxIsMarkedUnrolled : String → Bool) (vout : UInt32) (seed : VtxoExitRecord) :
    Prop where
  stored : records[vtxoExitRecordKey seed.hostTxid vout]? = some seed
  preUnroll : seed.phase.isPreUnroll = true
  swept : SweptOutpoint snapshot virtualTxIsMarkedUnrolled seed.hostTxid vout

/-- The record at a key is a swept seed or shares a materials branch with one. -/
def OnSweptBranch (snapshot : OffchainVtxoSnapshot) (records : VtxoExitRecords)
    (virtualTxIsMarkedUnrolled : String → Bool) (key : String) (record : VtxoExitRecord) :
    Prop :=
  ∃ vout seed, SweptSeed snapshot records virtualTxIsMarkedUnrolled vout seed ∧
    (key = vtxoExitRecordKey seed.hostTxid vout ∨
      SharesMaterialsBranch codec snapshot seed.hostTxid record.hostTxid)

def preUnrollOutpoints (records : VtxoExitRecords) : List (String × UInt32) :=
  (records.toList.filter fun (_, record) => record.phase.isPreUnroll).filterMap
    fun (key, _) => parseVtxoExitRecordKey key

variable {vout : UInt32} {txid : String}

theorem mem_preUnrollOutpoints (howns : OwnsKeys records) :
    (txid, vout) ∈ preUnrollOutpoints records ↔
      ∃ record, records[vtxoExitRecordKey txid vout]? = some record ∧
        record.hostTxid = txid ∧ record.phase.isPreUnroll = true := by
  simp only [preUnrollOutpoints, List.mem_filterMap, List.mem_filter, Prod.exists, mem_toList_iff]
  constructor
  · intro h
    obtain ⟨key, record, ⟨hrecord, hpre⟩, hparse⟩ := h
    obtain ⟨own, rfl⟩ := howns key record hrecord
    rw [parseVtxoExitRecordKey_vtxoExitRecordKey] at hparse
    cases hparse
    exact ⟨record, hrecord, rfl, hpre⟩
  · intro h
    obtain ⟨record, hrecord, -, hpre⟩ := h
    exact ⟨vtxoExitRecordKey txid vout, record, ⟨hrecord, hpre⟩,
      parseVtxoExitRecordKey_vtxoExitRecordKey txid vout⟩

/-- The keys collected for one outpoint are a function of its branch. -/
theorem preUnrollRecordKeysOnSameBranch_cases (howns : OwnsKeys records) (txid : String)
    (vout : UInt32) :
    (¬ (∃ host, SharesMaterialsBranch codec snapshot txid host) ∧
        preUnrollRecordKeysOnSameBranch codec snapshot records txid vout =
          .error .autonomousExitMaterialsMissing) ∨
      (∃ host, SharesMaterialsBranch codec snapshot txid host) ∧
        ∃ keys : Finset String,
          preUnrollRecordKeysOnSameBranch codec snapshot records txid vout = .ok keys ∧
            ∀ key, key ∈ keys ↔ key = vtxoExitRecordKey txid vout ∨
              ∃ record, records[key]? = some record ∧ record.phase.isPreUnroll = true ∧
                SharesMaterialsBranch codec snapshot txid record.hostTxid := by
  have hhost : (records[vtxoExitRecordKey txid vout]?.map (·.hostTxid)).getD txid = txid := by
    cases hrecord : records[vtxoExitRecordKey txid vout]? with
    | none => rfl
    | some record =>
      obtain ⟨own, hkey⟩ := howns _ record hrecord
      exact (vtxoExitRecordKey_inj.mp hkey).1.symm
  unfold preUnrollRecordKeysOnSameBranch
  simp only [hhost]
  rcases hostTxidsOnSameMaterialsBranch_cases codec snapshot txid with
    ⟨hnone, herror⟩ | ⟨hsome, hosts, hhosts, hmem⟩
  · rw [herror]
    exact Or.inl ⟨hnone, rfl⟩
  · rw [hhosts]
    refine Or.inr ⟨hsome, _, rfl, ?_⟩
    intro key
    simp [hmem]

theorem aspSweptKeys_of_swept
    (hswept : SweptOutpoint snapshot virtualTxIsMarkedUnrolled txid vout) :
    aspSweptKeys codec snapshot records virtualTxIsMarkedUnrolled (txid, vout) =
      preUnrollRecordKeysOnSameBranch codec snapshot records txid vout := by
  obtain ⟨row, hrow, hisSwept, hisUnrolled⟩ := hswept.swept
  simp [aspSweptKeys, hswept.unmarked, hrow, hisSwept, hisUnrolled]

theorem aspSweptKeys_of_not_swept
    (hswept : ¬ SweptOutpoint snapshot virtualTxIsMarkedUnrolled txid vout) :
    aspSweptKeys codec snapshot records virtualTxIsMarkedUnrolled (txid, vout) = .ok ∅ := by
  simp only [aspSweptKeys]
  cases hmarked : virtualTxIsMarkedUnrolled txid with
  | true => rfl
  | false =>
    cases hrow : snapshotRecord snapshot txid vout with
    | none => rfl
    | some row =>
      cases hflags : row.isSwept && !row.isUnrolled with
      | false => simp [hflags]
      | true =>
        simp only [Bool.and_eq_true, Bool.not_eq_true'] at hflags
        exact absurd ⟨hmarked, row, hrow, hflags⟩ hswept

theorem sweptSeed_of_mem (howns : OwnsKeys records)
    (hmem : (txid, vout) ∈ preUnrollOutpoints records)
    (hswept : SweptOutpoint snapshot virtualTxIsMarkedUnrolled txid vout) :
    ∃ seed, seed.hostTxid = txid ∧
      SweptSeed snapshot records virtualTxIsMarkedUnrolled vout seed := by
  obtain ⟨seed, hstored, rfl, hpre⟩ := (mem_preUnrollOutpoints howns).mp hmem
  exact ⟨seed, rfl, hstored, hpre, hswept⟩

theorem SweptSeed.mem (howns : OwnsKeys records) {seed : VtxoExitRecord}
    (hseed : SweptSeed snapshot records virtualTxIsMarkedUnrolled vout seed) :
    (seed.hostTxid, vout) ∈ preUnrollOutpoints records :=
  (mem_preUnrollOutpoints howns).mpr ⟨seed, hseed.stored, rfl, hseed.preUnroll⟩

/-! ## The stamp -/

theorem mem_foldl_union {key : String} (sets : List (Finset String)) (start : Finset String) :
    key ∈ sets.foldl (· ∪ ·) start ↔ key ∈ start ∨ ∃ keys ∈ sets, key ∈ keys := by
  induction sets generalizing start with
  | nil => simp
  | cons keys sets ih =>
    rw [List.foldl_cons, ih]
    simp [or_assoc]

theorem stamp_eq (snapshot : OffchainVtxoSnapshot) (records : VtxoExitRecords)
    (virtualTxIsMarkedUnrolled : String → Bool) :
    stampPreUnrollRecordsFundingLostForAspSwept codec snapshot records false
        virtualTxIsMarkedUnrolled =
      match (preUnrollOutpoints records).mapM
          (aspSweptKeys codec snapshot records virtualTxIsMarkedUnrolled) with
      | .error error => (.error error, records)
      | .ok keySets =>
        if keySets.foldl (· ∪ ·) ∅ = ∅ then (.ok false, records)
        else (.ok true, stampPreUnrollRecordsFundingLost records (keySets.foldl (· ∪ ·) ∅)) :=
  rfl

/-- Without the materials of a branch that is needed, the stamp fails and changes nothing. -/
theorem stamp_eq_error (howns : OwnsKeys records) {seed : VtxoExitRecord}
    (hseed : SweptSeed snapshot records virtualTxIsMarkedUnrolled vout seed)
    (hmissing : ¬ ∃ host, SharesMaterialsBranch codec snapshot seed.hostTxid host) :
    stampPreUnrollRecordsFundingLostForAspSwept codec snapshot records false
      virtualTxIsMarkedUnrolled = (.error .autonomousExitMaterialsMissing, records) := by
  have hloop : (preUnrollOutpoints records).mapM
      (aspSweptKeys codec snapshot records virtualTxIsMarkedUnrolled) =
        .error .autonomousExitMaterialsMissing := by
    apply mapM_eq_error
    · intro outpoint _ error herror
      obtain ⟨txid, vout⟩ := outpoint
      by_cases hswept : SweptOutpoint snapshot virtualTxIsMarkedUnrolled txid vout
      · rw [aspSweptKeys_of_swept codec hswept] at herror
        rcases preUnrollRecordKeysOnSameBranch_cases codec howns txid vout with
          ⟨-, hkeys⟩ | ⟨-, keys, hkeys, -⟩
        · rw [hkeys] at herror
          cases herror
          rfl
        · rw [hkeys] at herror
          cases herror
      · rw [aspSweptKeys_of_not_swept codec hswept] at herror
        cases herror
    · refine ⟨(seed.hostTxid, vout), hseed.mem howns, ?_⟩
      rw [aspSweptKeys_of_swept codec hseed.swept]
      rcases preUnrollRecordKeysOnSameBranch_cases codec howns seed.hostTxid vout with
        ⟨-, hkeys⟩ | ⟨hsome, -⟩
      · exact hkeys
      · exact absurd hsome hmissing
  rw [stamp_eq, hloop]

/-- The record at a key is a seed of this outpoint or a pre-unroll record on its branch. -/
def KeyOfSeed (snapshot : OffchainVtxoSnapshot) (records : VtxoExitRecords)
    (virtualTxIsMarkedUnrolled : String → Bool) (outpoint : String × UInt32) (key : String) :
    Prop :=
  ∃ seed, seed.hostTxid = outpoint.1 ∧
    SweptSeed snapshot records virtualTxIsMarkedUnrolled outpoint.2 seed ∧
      (key = vtxoExitRecordKey seed.hostTxid outpoint.2 ∨
        ∃ record, records[key]? = some record ∧ record.phase.isPreUnroll = true ∧
          SharesMaterialsBranch codec snapshot seed.hostTxid record.hostTxid)

theorem keyOfSeed_iff {key : String} {record : VtxoExitRecord}
    (hrecord : records[key]? = some record) (hpre : record.phase.isPreUnroll = true) :
    (∃ outpoint, KeyOfSeed codec snapshot records virtualTxIsMarkedUnrolled outpoint key) ↔
      OnSweptBranch codec snapshot records virtualTxIsMarkedUnrolled key record := by
  constructor
  · intro h
    obtain ⟨outpoint, seed, -, hseed, hkey | ⟨other, hother, -, hshares⟩⟩ := h
    · exact ⟨outpoint.2, seed, hseed, Or.inl hkey⟩
    · obtain rfl := Option.some.inj (hrecord.symm.trans hother)
      exact ⟨outpoint.2, seed, hseed, Or.inr hshares⟩
  · intro h
    obtain ⟨vout, seed, hseed, hkey | hshares⟩ := h
    · exact ⟨(seed.hostTxid, vout), seed, rfl, hseed, Or.inl hkey⟩
    · exact ⟨(seed.hostTxid, vout), seed, rfl, hseed, Or.inr ⟨record, hrecord, hpre, hshares⟩⟩

/-- With the materials of its branch, an outpoint gives the keys of its seed. -/
theorem exists_aspSweptKeys (howns : OwnsKeys records)
    (hknown : ∀ vout seed, SweptSeed snapshot records virtualTxIsMarkedUnrolled vout seed →
      ∃ host, SharesMaterialsBranch codec snapshot seed.hostTxid host)
    (outpoint : String × UInt32) (hmem : outpoint ∈ preUnrollOutpoints records) :
    ∃ keys : Finset String,
      aspSweptKeys codec snapshot records virtualTxIsMarkedUnrolled outpoint = .ok keys ∧
        ∀ key, key ∈ keys ↔
          KeyOfSeed codec snapshot records virtualTxIsMarkedUnrolled outpoint key := by
  obtain ⟨txid, vout⟩ := outpoint
  by_cases hswept : SweptOutpoint snapshot virtualTxIsMarkedUnrolled txid vout
  · rw [aspSweptKeys_of_swept codec hswept]
    obtain ⟨seed, rfl, hseed⟩ := sweptSeed_of_mem howns hmem hswept
    rcases preUnrollRecordKeysOnSameBranch_cases codec howns seed.hostTxid vout with
      ⟨hnone, -⟩ | ⟨-, keys, hkeys, hin⟩
    · exact absurd (hknown vout seed hseed) hnone
    · refine ⟨keys, hkeys, ?_⟩
      intro key
      rw [hin]
      constructor
      · intro hkey
        exact ⟨seed, rfl, hseed, hkey⟩
      · intro hkey
        obtain ⟨other, hhost, -, hkey⟩ := hkey
        rw [hhost] at hkey
        exact hkey
  · refine ⟨∅, aspSweptKeys_of_not_swept codec hswept, ?_⟩
    intro key
    constructor
    · intro hkey
      simp at hkey
    · intro hkey
      obtain ⟨seed, rfl, hseed, -⟩ := hkey
      exact absurd hseed.swept hswept

/-- With the materials of all branches that are needed, the stamp is that of the keys of all
seeds. -/
theorem exists_keysToStamp (howns : OwnsKeys records)
    (hknown : ∀ vout seed, SweptSeed snapshot records virtualTxIsMarkedUnrolled vout seed →
      ∃ host, SharesMaterialsBranch codec snapshot seed.hostTxid host) :
    ∃ keys : Finset String,
      stampPreUnrollRecordsFundingLostForAspSwept codec snapshot records false
          virtualTxIsMarkedUnrolled =
        (if keys = ∅ then (.ok false, records)
        else (.ok true, stampPreUnrollRecordsFundingLost records keys)) ∧
      ∀ key, key ∈ keys ↔
        ∃ outpoint, KeyOfSeed codec snapshot records virtualTxIsMarkedUnrolled outpoint key := by
  have hcollects := exists_aspSweptKeys codec howns hknown
  choose! keysOf hkeysOf hin using hcollects
  refine ⟨((preUnrollOutpoints records).map keysOf).foldl (· ∪ ·) ∅, ?_, ?_⟩
  · rw [stamp_eq, mapM_eq_ok hkeysOf]
  · intro key
    rw [mem_foldl_union]
    simp only [Finset.notMem_empty, false_or, List.mem_map]
    constructor
    · intro hkey
      obtain ⟨keys, ⟨outpoint, hmem, rfl⟩, hkey⟩ := hkey
      exact ⟨outpoint, (hin outpoint hmem key).mp hkey⟩
    · intro hkey
      obtain ⟨outpoint, hkey⟩ := hkey
      have hmem : outpoint ∈ preUnrollOutpoints records := by
        obtain ⟨seed, hhost, hseed, -⟩ := hkey
        have hseedmem := hseed.mem howns
        rw [hhost] at hseedmem
        exact hseedmem
      exact ⟨_, ⟨outpoint, hmem, rfl⟩, (hin outpoint hmem key).mpr hkey⟩

/-- The stamp that the viability pass makes for an outpoint it finds seized on chain. The
pass works on a copy of the records and stores it at its end, so an error leaves the stored
records as they are. -/
def stampSeizedBranch (snapshot : OffchainVtxoSnapshot) (records : VtxoExitRecords)
    (txid : String) (vout : UInt32) : ArkResult VtxoExitRecords := do
  let keys ← preUnrollRecordKeysOnSameBranch codec snapshot records txid vout
  return stampPreUnrollRecordsFundingLost records keys

open Classical in
/-- A seizure stamps the pre-unroll records of the seized outpoint and of its branch. -/
theorem stampSeizedBranch_cases (howns : OwnsKeys records) (txid : String) (vout : UInt32) :
    (¬ (∃ host, SharesMaterialsBranch codec snapshot txid host) ∧
        stampSeizedBranch codec snapshot records txid vout =
          .error .autonomousExitMaterialsMissing) ∨
      (∃ host, SharesMaterialsBranch codec snapshot txid host) ∧
        ∃ stamped, stampSeizedBranch codec snapshot records txid vout = .ok stamped ∧
          ∀ key, stamped[key]? = records[key]?.map fun record =>
            if record.phase.isPreUnroll = true ∧ (key = vtxoExitRecordKey txid vout ∨
                SharesMaterialsBranch codec snapshot txid record.hostTxid) then
              { record with phase := .fundingLost }
            else record := by
  rcases preUnrollRecordKeysOnSameBranch_cases codec howns txid vout with
    ⟨hnone, hkeys⟩ | ⟨hsome, keys, hkeys, hin⟩
  · refine Or.inl ⟨hnone, ?_⟩
    rw [stampSeizedBranch, hkeys]
    rfl
  · refine Or.inr ⟨hsome, stampPreUnrollRecordsFundingLost records keys, ?_, ?_⟩
    · rw [stampSeizedBranch, hkeys]
      rfl
    · intro key
      rw [getElem?_stampPreUnrollRecordsFundingLost]
      cases hrecord : records[key]? with
      | none => rfl
      | some record =>
        have hiff : (key ∈ keys ∧ record.phase.isPreUnroll = true) ↔
            record.phase.isPreUnroll = true ∧ (key = vtxoExitRecordKey txid vout ∨
              SharesMaterialsBranch codec snapshot txid record.hostTxid) := by
          rw [and_comm, hin, hrecord]
          apply and_congr_right
          intro hpre
          simp [hpre]
        simp only [Option.map_some, fundingLostRecord, hiff]

/-- The loop of the viability pass for one outpoint. `seized` is what Esplora tells of it: whether
a transaction that is not a step of the wallet's own exits spends it or the input of the first
step of its host. -/
def stampOutpointIfSeized (snapshot : OffchainVtxoSnapshot)
    (seized : String → UInt32 → ArkResult Bool) (records : VtxoExitRecords)
    (outpoint : String × UInt32) : ArkResult VtxoExitRecords :=
  let record := records[vtxoExitRecordKey outpoint.1 outpoint.2]?
  if record.any (fun record => !record.phase.isPreUnroll) || (Txid.fromStr outpoint.1).isNone then
    .ok records
  else
    match seized outpoint.1 outpoint.2 with
    | .error error => .error error
    | .ok false => .ok records
    | .ok true => stampSeizedBranch codec snapshot records outpoint.1 outpoint.2

/-- `reconcile_vtxo_exit_viability` with a snapshot: the stamp for swept VTXOs, then the loop over
the outpoints that were pre-unroll at the start. An error stores nothing. -/
def reconcileVtxoExitViability (snapshot : OffchainVtxoSnapshot) (records : VtxoExitRecords)
    (autonomousMode : Bool) (virtualTxIsMarkedUnrolled : String → Bool)
    (seized : String → UInt32 → ArkResult Bool) : ArkResult VtxoExitRecords :=
  match stampPreUnrollRecordsFundingLostForAspSwept codec snapshot records autonomousMode
      virtualTxIsMarkedUnrolled with
  | (.error error, _) => .error error
  | (.ok _, swept) =>
    (preUnrollOutpoints records).foldlM (stampOutpointIfSeized codec snapshot seized) swept

open Classical in
/-- The stamp for swept VTXOs: nothing in autonomous mode, an error without a change if the
materials of a branch that is needed are missing, and else `funding_lost` on exactly the
pre-unroll records that are swept or share a branch with a swept one. The stamp for a VTXO
that was seized on chain reaches its own branch in the same way. -/
theorem stampAspSwept_contract (snapshot : OffchainVtxoSnapshot) (records : VtxoExitRecords)
    (howns : OwnsKeys records) (virtualTxIsMarkedUnrolled : String → Bool) :
    stampPreUnrollRecordsFundingLostForAspSwept codec snapshot records true
        virtualTxIsMarkedUnrolled = (.ok false, records) ∧
      ((∃ vout seed, SweptSeed snapshot records virtualTxIsMarkedUnrolled vout seed ∧
          ¬ ∃ host, SharesMaterialsBranch codec snapshot seed.hostTxid host) →
        stampPreUnrollRecordsFundingLostForAspSwept codec snapshot records false
          virtualTxIsMarkedUnrolled = (.error .autonomousExitMaterialsMissing, records)) ∧
      ((∀ vout seed, SweptSeed snapshot records virtualTxIsMarkedUnrolled vout seed →
          ∃ host, SharesMaterialsBranch codec snapshot seed.hostTxid host) →
        (stampPreUnrollRecordsFundingLostForAspSwept codec snapshot records false
            virtualTxIsMarkedUnrolled).1 =
          .ok (decide (∃ vout seed,
            SweptSeed snapshot records virtualTxIsMarkedUnrolled vout seed)) ∧
        ∀ key, (stampPreUnrollRecordsFundingLostForAspSwept codec snapshot records false
            virtualTxIsMarkedUnrolled).2[key]? =
          records[key]?.map fun record =>
            if record.phase.isPreUnroll = true ∧
                OnSweptBranch codec snapshot records virtualTxIsMarkedUnrolled key record then
              { record with phase := .fundingLost }
            else record) ∧
      ∀ txid vout,
        (¬ (∃ host, SharesMaterialsBranch codec snapshot txid host) ∧
            stampSeizedBranch codec snapshot records txid vout =
              .error .autonomousExitMaterialsMissing) ∨
          (∃ host, SharesMaterialsBranch codec snapshot txid host) ∧
            ∃ stamped, stampSeizedBranch codec snapshot records txid vout = .ok stamped ∧
              ∀ key, stamped[key]? = records[key]?.map fun record =>
                if record.phase.isPreUnroll = true ∧ (key = vtxoExitRecordKey txid vout ∨
                    SharesMaterialsBranch codec snapshot txid record.hostTxid) then
                  { record with phase := .fundingLost }
                else record := by
  refine ⟨rfl, ?_, ?_, fun txid vout => stampSeizedBranch_cases codec howns txid vout⟩
  · intro hmissing
    obtain ⟨vout, seed, hseed, hmissing⟩ := hmissing
    exact stamp_eq_error codec howns hseed hmissing
  · intro hknown
    obtain ⟨keys, hstamp, hkeys⟩ := exists_keysToStamp codec howns hknown
    rw [hstamp]
    by_cases hseeds : ∃ vout seed, SweptSeed snapshot records virtualTxIsMarkedUnrolled vout seed
    · have hsome : keys ≠ ∅ := by
        obtain ⟨vout, seed, hseed⟩ := hseeds
        have hmem := (hkeys (vtxoExitRecordKey seed.hostTxid vout)).mpr
          ⟨(seed.hostTxid, vout), seed, rfl, hseed, Or.inl rfl⟩
        exact Finset.nonempty_iff_ne_empty.mp ⟨_, hmem⟩
      simp only [hsome, if_false, hseeds, decide_true, true_and]
      intro key
      rw [getElem?_stampPreUnrollRecordsFundingLost]
      cases hrecord : records[key]? with
      | none => rfl
      | some record =>
          have hiff : (key ∈ keys ∧ record.phase.isPreUnroll = true) ↔
              record.phase.isPreUnroll = true ∧
                OnSweptBranch codec snapshot records virtualTxIsMarkedUnrolled key record := by
            rw [and_comm, hkeys]
            apply and_congr_right
            intro hpre
            exact keyOfSeed_iff codec hrecord hpre
          simp only [Option.map_some, fundingLostRecord, hiff]
    · have hnone : keys = ∅ := by
        rw [Finset.eq_empty_iff_forall_notMem]
        intro key hkey
        obtain ⟨outpoint, seed, -, hseed, -⟩ := (hkeys key).mp hkey
        exact hseeds ⟨outpoint.2, seed, hseed⟩
      simp only [hnone, if_true, hseeds, decide_false, true_and]
      intro key
      cases hrecord : records[key]? with
      | none => rfl
      | some record =>
          have hoff : ¬ OnSweptBranch codec snapshot records virtualTxIsMarkedUnrolled key
              record := by
            intro hon
            obtain ⟨vout, seed, hseed, -⟩ := hon
            exact hseeds ⟨vout, seed, hseed⟩
          simp [hoff]

end Stamp

def sweptSnapshot : OffchainVtxoSnapshot :=
  { sampleSnapshot with
    virtualTxOutpoints := [{ sampleRow sampleHost.text 0 with isSwept := true }] }

def taggedSampleRecord : VtxoExitRecord where
  phase := .tagged
  taggedAt := 0
  hostTxid := sampleHost.text
  amountSats := 1000

def taggedSampleRecords : VtxoExitRecords :=
  (singleton (vtxoExitRecordKey sampleHost.text 0) taggedSampleRecord).insert
    (vtxoExitRecordKey sampleHost.text 1) taggedSampleRecord

theorem getElem?_taggedSampleRecords {key : String} {record : VtxoExitRecord}
    (h : taggedSampleRecords[key]? = some record) :
    record = taggedSampleRecord ∧ ∃ vout, key = vtxoExitRecordKey sampleHost.text vout := by
  simp only [taggedSampleRecords, getElem?_insert_eq_ite, getElem?_singleton_eq_ite] at h
  split at h
  · rename_i hkey
    cases h
    exact ⟨rfl, 1, hkey.symm⟩
  · split at h
    · rename_i hkey
      cases h
      exact ⟨rfl, 0, hkey.symm⟩
    · cases h

theorem ownsKeys_taggedSampleRecords : OwnsKeys taggedSampleRecords := by
  intro key record hrecord
  obtain ⟨rfl, vout, hkey⟩ := getElem?_taggedSampleRecords hrecord
  exact ⟨vout, hkey⟩

theorem sharesMaterialsBranch_sampleHost :
    SharesMaterialsBranch sampleCodec sweptSnapshot sampleHost.text sampleHost.text := by
  refine ⟨sampleHost.text, sampleMaterials, sampleChains, ?_, vtxoChainsFromJson_sample, ?_⟩
  · simp [sweptSnapshot, sampleSnapshot]
  · exact ⟨⟨_, List.mem_cons_self, rfl⟩, _, List.mem_cons_self, rfl, by decide⟩

theorem sweptSeed_taggedSampleRecord :
    SweptSeed sweptSnapshot taggedSampleRecords (fun _ => false) 0 taggedSampleRecord where
  stored := by
    simp only [taggedSampleRecords, getElem?_insert_eq_ite,
      getElem?_singleton_eq_ite, vtxoExitRecordKey_inj]
    simp [taggedSampleRecord]
  preUnroll := rfl
  swept :=
    { unmarked := rfl
      swept := ⟨{ sampleRow sampleHost.text 0 with isSwept := true },
        by simp [snapshotRecord, sweptSnapshot, sampleRow, taggedSampleRecord,
          VirtualTxOutPointRecord.isAt], rfl, rfl⟩ }

theorem stampAspSwept_taggedSampleRecords :
    (stampPreUnrollRecordsFundingLostForAspSwept sampleCodec sweptSnapshot taggedSampleRecords
        false (fun _ => false)).2[vtxoExitRecordKey sampleHost.text 1]? =
      some { taggedSampleRecord with phase := .fundingLost } := by
  have hknown : ∀ vout seed,
      SweptSeed sweptSnapshot taggedSampleRecords (fun _ => false) vout seed →
      ∃ host, SharesMaterialsBranch sampleCodec sweptSnapshot seed.hostTxid host := by
    intro vout seed hseed
    obtain ⟨rfl, -⟩ := getElem?_taggedSampleRecords hseed.stored
    exact ⟨_, sharesMaterialsBranch_sampleHost⟩
  have hbeside : OnSweptBranch sampleCodec sweptSnapshot taggedSampleRecords (fun _ => false)
      (vtxoExitRecordKey sampleHost.text 1) taggedSampleRecord :=
    ⟨0, taggedSampleRecord, sweptSeed_taggedSampleRecord, Or.inr sharesMaterialsBranch_sampleHost⟩
  have hstored : taggedSampleRecords[vtxoExitRecordKey sampleHost.text 1]? =
      some taggedSampleRecord := by
    simp [taggedSampleRecords]
  have hcontract := ((stampAspSwept_contract sampleCodec sweptSnapshot taggedSampleRecords
    ownsKeys_taggedSampleRecords (fun _ => false)).2.2.1 hknown).2
    (vtxoExitRecordKey sampleHost.text 1)
  rw [hstored, Option.map_some, if_pos ⟨rfl, hbeside⟩] at hcontract
  exact hcontract

/-- The branch of a VTXO that is found seized is stamped in autonomous mode as well, and although
the snapshot lists none of its rows as swept. -/
theorem seized_branch_stamped_in_autonomous_mode :
    (∀ row ∈ sampleSnapshot.virtualTxOutpoints, row.isSwept = false) ∧
      OwnsKeys (singleton (vtxoExitRecordKey sampleHost.text 0) taggedSampleRecord) ∧
      reconcileVtxoExitViability sampleCodec sampleSnapshot
          (singleton (vtxoExitRecordKey sampleHost.text 0) taggedSampleRecord) true
          (fun _ => false) (fun _ _ => .ok true) =
        .ok (singleton (vtxoExitRecordKey sampleHost.text 0)
          { taggedSampleRecord with phase := .fundingLost }) := by
  have howns : OwnsKeys
      (singleton (vtxoExitRecordKey sampleHost.text 0) taggedSampleRecord) := by
    intro key record hrecord
    rw [getElem?_singleton_eq_ite] at hrecord
    split at hrecord
    · rename_i hkey
      cases hrecord
      exact ⟨0, hkey.symm⟩
    · cases hrecord
  refine ⟨by simp [sampleSnapshot, sampleRow], howns, ?_⟩
  have houtpoints : preUnrollOutpoints
      (singleton (vtxoExitRecordKey sampleHost.text 0) taggedSampleRecord) =
        [(sampleHost.text, 0)] := by
    have hlist : (singleton (vtxoExitRecordKey sampleHost.text 0)
        taggedSampleRecord).toList =
          [(vtxoExitRecordKey sampleHost.text 0, taggedSampleRecord)] := rfl
    rw [preUnrollOutpoints, hlist]
    simp [taggedSampleRecord, VtxoExitPhase.isPreUnroll, parseVtxoExitRecordKey_vtxoExitRecordKey]
  rcases @stampSeizedBranch_cases sampleCodec sampleSnapshot _ howns
    sampleHost.text 0 with ⟨hnone, -⟩ | ⟨-, stamped, hstamped, hrecords⟩
  · exact absurd ⟨_, sharesMaterialsBranch_sampleHost⟩ hnone
  · have hloop : stampOutpointIfSeized sampleCodec sampleSnapshot (fun _ _ => .ok true)
        (singleton (vtxoExitRecordKey sampleHost.text 0) taggedSampleRecord)
        (sampleHost.text, 0) = .ok stamped := by
      simp [stampOutpointIfSeized, Txid.fromStr_text, taggedSampleRecord,
        VtxoExitPhase.isPreUnroll, ← hstamped]
    have hstamp : stamped = singleton (vtxoExitRecordKey sampleHost.text 0)
        { taggedSampleRecord with phase := .fundingLost } := by
      apply Std.ExtTreeMap.ext_getElem?
      intro key
      rw [hrecords, getElem?_singleton_eq_ite, getElem?_singleton_eq_ite]
      split
      · rename_i hkey
        simp [← hkey, taggedSampleRecord, VtxoExitPhase.isPreUnroll]
      · rfl
    rw [reconcileVtxoExitViability, houtpoints]
    simp only [stampPreUnrollRecordsFundingLostForAspSwept, if_true, List.foldlM_cons,
      List.foldlM_nil, hloop, hstamp]
    rfl

end Bitboard.Arkade
