/-
# Upserting operator rows into a snapshot

A light sync fetches some rows from the operator and merges them into the stored snapshot.
At one outpoint the merge is a fold over the rows fetched for it: each replaces the row
before it, and only a known public key of the server is carried on. Every law of the merge
follows from this fold.
-/

import Bitboard.Arkade.OffchainSnapshot

namespace Bitboard.Arkade

open Bitboard.Lib
open VirtualTxOutPointRecord

variable {pks : ServerPks} {point : VirtualTxOutPoint} {fetched points : List VirtualTxOutPoint}
  {existing : Option VirtualTxOutPointRecord} {serverPk : Option String}

/-- The stored public key as it reads, or as it stands where it does not read. -/
def rereadServerPk (pks : ServerPks) (serverPk : Option String) : Option String :=
  (serverPk.bind pks.xOnlyPublicKeyFromStr).or serverPk

/-- The public key with the fetched row: the one behind its script, or the one known before. -/
def upsertedServerPk (pks : ServerPks) (serverPk : Option String) (point : VirtualTxOutPoint) :
    Option String :=
  (pks.scriptToServerPk point.script).or (rereadServerPk pks serverPk)

theorem upsertedRecord_eq : upsertedRecord pks existing point =
    virtualTxOutpointToRecord point
      (upsertedServerPk pks (existing.bind (·.serverPkHex)) point) := by
  cases hlookup : pks.scriptToServerPk point.script with
  | some pk => simp [upsertedRecord, upsertedServerPk, virtualTxOutpointToRecord, hlookup]
  | none =>
    cases hread : (existing.bind (·.serverPkHex)).bind pks.xOnlyPublicKeyFromStr with
    | some | none =>
      simp [upsertedRecord, upsertedServerPk, rereadServerPk, virtualTxOutpointToRecord,
        hlookup, hread]

def upsertedRecords (pks : ServerPks) (existing : Option VirtualTxOutPointRecord)
    (points : List VirtualTxOutPoint) : Option VirtualTxOutPointRecord :=
  points.foldl (fun existing point => some (upsertedRecord pks existing point)) existing

theorem upsertedRecords_concat : upsertedRecords pks existing (points ++ [point]) =
    some (upsertedRecord pks (upsertedRecords pks existing points) point) := by
  simp [upsertedRecords]

theorem isSome_upsertedRecords (pks : ServerPks) (points : List VirtualTxOutPoint)
    (hexisting : existing.isSome) : (upsertedRecords pks existing points).isSome := by
  induction points using List.reverseRecOn with
  | nil => exact hexisting
  | append_singleton points point ih =>
    rw [upsertedRecords_concat]
    rfl

/-- The public key after all rows fetched for the outpoint. -/
def upsertedServerPks (pks : ServerPks) (serverPk : Option String)
    (points : List VirtualTxOutPoint) : Option String :=
  points.foldl (upsertedServerPk pks) serverPk

theorem upsertedServerPks_concat : upsertedServerPks pks serverPk (points ++ [point]) =
    upsertedServerPk pks (upsertedServerPks pks serverPk points) point := by
  simp [upsertedServerPks]

theorem serverPkHex_upsertedRecords (pks : ServerPks)
    (existing : Option VirtualTxOutPointRecord) (points : List VirtualTxOutPoint) :
    (upsertedRecords pks existing points).bind (·.serverPkHex) =
      upsertedServerPks pks (existing.bind (·.serverPkHex)) points := by
  induction points using List.reverseRecOn with
  | nil => rfl
  | append_singleton points point ih =>
    rw [upsertedRecords_concat, upsertedServerPks_concat, ← ih, Option.bind_some, upsertedRecord_eq]
    rfl

theorem isSome_upsertedServerPks (pks : ServerPks) (points : List VirtualTxOutPoint)
    (hknown : serverPk.isSome) : (upsertedServerPks pks serverPk points).isSome := by
  induction points using List.reverseRecOn with
  | nil => exact hknown
  | append_singleton points point ih =>
    rw [upsertedServerPks_concat, upsertedServerPk]
    simp [rereadServerPk, ih]

/-- Public keys are given by the texts they print, and such a text is read back. -/
structure ServerPks.RoundTrips (pks : ServerPks) : Prop where
  read : ∀ text pk, pks.xOnlyPublicKeyFromStr text = some pk →
    pks.xOnlyPublicKeyFromStr pk = some pk
  lookup : ∀ script pk, pks.scriptToServerPk script = some pk →
    pks.xOnlyPublicKeyFromStr pk = some pk

theorem rereadServerPk_of_read {pk : String} (hread : pks.xOnlyPublicKeyFromStr pk = some pk) :
    rereadServerPk pks (some pk) = some pk := by
  simp [rereadServerPk, hread]

theorem rereadServerPk_twice (hpks : pks.RoundTrips) :
    rereadServerPk pks (rereadServerPk pks serverPk) = rereadServerPk pks serverPk := by
  cases hread : serverPk.bind pks.xOnlyPublicKeyFromStr with
  | some pk =>
    obtain ⟨text, -, htext⟩ := Option.bind_eq_some_iff.mp hread
    have hreread : rereadServerPk pks serverPk = some pk := by rw [rereadServerPk, hread]; rfl
    rw [hreread, rereadServerPk_of_read (hpks.read _ _ htext)]
  | none =>
    have hreread : rereadServerPk pks serverPk = serverPk := by rw [rereadServerPk, hread]; rfl
    rw [hreread, hreread]

/-- The key of the last row whose script is known, or else the key from before, read once. -/
theorem upsertedServerPks_eq (hpks : pks.RoundTrips) (hpoints : points ≠ []) :
    upsertedServerPks pks serverPk points =
      (points.reverse.findSome? fun point => pks.scriptToServerPk point.script).or
        (rereadServerPk pks serverPk) := by
  induction points using List.reverseRecOn with
  | nil => exact absurd rfl hpoints
  | append_singleton points point ih =>
    rw [upsertedServerPks_concat, upsertedServerPk, List.reverse_append, List.reverse_singleton,
      List.singleton_append, List.findSome?_cons]
    cases hlookup : pks.scriptToServerPk point.script with
    | some pk => rfl
    | none =>
      by_cases hfirst : points = []
      · rw [hfirst]
        rfl
      rw [Option.none_or, ih hfirst]
      cases hfound : points.reverse.findSome? fun point =>
        pks.scriptToServerPk point.script with
      | some pk =>
        obtain ⟨known, -, hknown⟩ := List.exists_of_findSome?_eq_some hfound
        exact rereadServerPk_of_read (hpks.lookup _ _ hknown)
      | none => exact rereadServerPk_twice hpks

theorem upsertedServerPks_twice (hpks : pks.RoundTrips) :
    upsertedServerPks pks (upsertedServerPks pks serverPk points) points =
      upsertedServerPks pks serverPk points := by
  by_cases hpoints : points = []
  · rw [hpoints]
    rfl
  rw [upsertedServerPks_eq hpks hpoints, upsertedServerPks_eq hpks hpoints]
  cases points.reverse.findSome? fun point => pks.scriptToServerPk point.script with
  | some pk => rfl
  | none => exact rereadServerPk_twice hpks

theorem upsertedRecords_concat_eq : upsertedRecords pks existing (points ++ [point]) =
    some (virtualTxOutpointToRecord point
      (upsertedServerPks pks (existing.bind (·.serverPkHex)) (points ++ [point]))) := by
  rw [upsertedRecords_concat, upsertedRecord_eq, serverPkHex_upsertedRecords,
    upsertedServerPks_concat]

theorem upsertedRecords_twice (hpks : pks.RoundTrips) :
    upsertedRecords pks (upsertedRecords pks existing points) points =
      upsertedRecords pks existing points := by
  cases points using List.reverseRecOn with
  | nil => rfl
  | append_singleton points point =>
    rw [upsertedRecords_concat_eq, serverPkHex_upsertedRecords, upsertedServerPks_twice hpks,
      ← upsertedRecords_concat_eq]

section Merge

variable {prior : OffchainVtxoSnapshot} {syncedAt : Int}

def fetchedAt (fetched : List VirtualTxOutPoint) (key : String × UInt32) : List VirtualTxOutPoint :=
  fetched.filter fun point => (point.outpoint.txid.text, point.outpoint.vout) = key

theorem getElem?_foldl_upsertPoint
    (table : BTreeMap (String × UInt32) VirtualTxOutPointRecord) (key : String × UInt32) :
    (fetched.foldl (upsertPoint pks) table)[key]? =
      upsertedRecords pks table[key]? (fetchedAt fetched key) := by
  induction fetched generalizing table with
  | nil => rfl
  | cons point fetched ih =>
    rw [List.foldl_cons, ih, upsertPoint, BTreeMap.getElem?_insert_eq_ite, fetchedAt, fetchedAt,
      List.filter_cons]
    by_cases hkey : (point.outpoint.txid.text, point.outpoint.vout) = key
    · subst hkey
      simp [upsertedRecords]
    · simp [hkey]

theorem keyedBy_foldl_upsertPoint (pks : ServerPks) (fetched : List VirtualTxOutPoint)
    {table : BTreeMap (String × UInt32) VirtualTxOutPointRecord}
    (htable : KeyedBy outpointKey table) :
    KeyedBy outpointKey (fetched.foldl (upsertPoint pks) table) := by
  induction fetched generalizing table with
  | nil => exact htable
  | cons point fetched ih =>
    apply ih
    intro key row hrow
    rw [upsertPoint, BTreeMap.getElem?_insert_eq_ite] at hrow
    split at hrow
    · rename_i hkey
      cases hrow
      rw [upsertedRecord_eq, ← hkey]
      rfl
    · exact htable key row hrow

theorem sortedByOutpoint_mergeIncremental :
    SortedByOutpoint (mergeIncrementalVtxoSnapshot pks prior fetched syncedAt) :=
  keySorted_vals (keyedBy_foldl_upsertPoint _ _ (keyedBy_indexRows _ _))

theorem snapshotRecord_mergeIncremental (pks : ServerPks) (fetched : List VirtualTxOutPoint)
    (syncedAt : Int) (hprior : UniqueOutpoints prior) (txid : String) (vout : UInt32) :
    snapshotRecord (mergeIncrementalVtxoSnapshot pks prior fetched syncedAt) txid vout =
      upsertedRecords pks (snapshotRecord prior txid vout) (fetchedAt fetched (txid, vout)) := by
  rw [snapshotRecord_eq_rowAt sortedByOutpoint_mergeIncremental.uniqueOutpoints,
    snapshotRecord_eq_rowAt hprior]
  refine (rowAt_vals (keyedBy_foldl_upsertPoint _ _ (keyedBy_indexRows _ _)) (txid, vout)).trans ?_
  rw [getElem?_foldl_upsertPoint, getElem?_indexRows]

/-- What an upsert of fetched rows into a snapshot is. -/
structure UpsertMerge (prior : OffchainVtxoSnapshot) (fetched : List VirtualTxOutPoint)
    (result : OffchainVtxoSnapshot) : Prop where
  /-- No outpoint is lost. -/
  prior_kept : ∀ row ∈ prior.virtualTxOutpoints,
    ∃ kept ∈ result.virtualTxOutpoints, kept.outpointKey = row.outpointKey
  /-- An outpoint that was not fetched has the row it had. -/
  unfetched : ∀ txid vout,
    (∀ point ∈ fetched, (point.outpoint.txid.text, point.outpoint.vout) ≠ (txid, vout)) →
      snapshotRecord result txid vout = snapshotRecord prior txid vout
  /-- A fetched outpoint has the row that was fetched for it last. -/
  fetched_taken : ∀ before point after, fetched = before ++ point :: after →
    (∀ later ∈ after, later.outpoint ≠ point.outpoint) →
      ∃ serverPk, snapshotRecord result point.outpoint.txid.text point.outpoint.vout =
        some (virtualTxOutpointToRecord point serverPk)
  /-- A known public key of the server stays known. -/
  serverPk_known : ∀ txid vout row, snapshotRecord prior txid vout = some row →
    row.serverPkHex.isSome → ∃ kept, snapshotRecord result txid vout = some kept ∧
      kept.serverPkHex.isSome
  sorted : SortedByOutpoint result
  unique : UniqueOutpoints result

theorem fetchedAt_eq_nil {key : String × UInt32}
    (hnone : ∀ point ∈ fetched, (point.outpoint.txid.text, point.outpoint.vout) ≠ key) :
    fetchedAt fetched key = [] := by
  rw [fetchedAt, List.filter_eq_nil_iff]
  intro point hpoint
  simpa using hnone point hpoint

theorem fetchedAt_eq_concat {before after : List VirtualTxOutPoint}
    (hlast : ∀ later ∈ after, later.outpoint ≠ point.outpoint) :
    fetchedAt (before ++ point :: after) (point.outpoint.txid.text, point.outpoint.vout) =
      fetchedAt before (point.outpoint.txid.text, point.outpoint.vout) ++ [point] := by
  have hafter : fetchedAt after (point.outpoint.txid.text, point.outpoint.vout) = [] := by
    apply fetchedAt_eq_nil
    intro later hlater heq
    apply hlast later hlater
    obtain ⟨⟨⟨text, _, _⟩, vout⟩⟩ := later
    obtain ⟨⟨⟨text', _, _⟩, vout'⟩⟩ := point
    cases heq
    rfl
  rw [fetchedAt, fetchedAt, List.filter_append, List.filter_cons_of_pos (by simp)]
  rw [fetchedAt] at hafter
  rw [hafter]

variable {reordered : List VirtualTxOutPoint}

theorem fetchedAt_perm (hperm : reordered.Perm fetched)
    (hdistinct : (fetched.map (·.outpoint)).Nodup) (key : String × UInt32) :
    fetchedAt reordered key = fetchedAt fetched key := by
  have hfiltered : (fetchedAt reordered key).Perm (fetchedAt fetched key) := hperm.filter _
  have hsame : ∀ first ∈ fetchedAt fetched key, ∀ second ∈ fetchedAt fetched key,
      first = second := by
    intro first hfirst second hsecond
    rw [fetchedAt, List.mem_filter, decide_eq_true_eq] at hfirst hsecond
    apply List.inj_on_of_nodup_map hdistinct hfirst.1 hsecond.1
    have hkeys := hfirst.2.trans hsecond.2.symm
    obtain ⟨⟨⟨text, _, _⟩, vout⟩⟩ := first
    obtain ⟨⟨⟨text', _, _⟩, vout'⟩⟩ := second
    cases hkeys
    rfl
  have hall : ∀ points : List VirtualTxOutPoint, points.Pairwise fun _ _ => True :=
    fun _ => List.pairwise_of_forall fun _ _ => trivial
  apply hfiltered.eq_of_pairwise _ (hall _) (hall _)
  intro first second hfirst hsecond _ _
  exact hsame first (hfiltered.mem_iff.mp hfirst) second hsecond

theorem upsertMerge_mergeIncremental (hprior : UniqueOutpoints prior) :
    UpsertMerge prior fetched (mergeIncrementalVtxoSnapshot pks prior fetched syncedAt) where
  prior_kept := by
    intro row hrow
    have hfound : (snapshotRecord prior row.txid row.vout).isSome := by
      have hrowAt := (rowAt_eq_some_iff _ hprior).mpr ⟨hrow, rfl⟩
      rw [snapshotRecord_eq_rowAt hprior]
      exact Option.isSome_of_eq_some hrowAt
    have hkept := isSome_upsertedRecords pks (fetchedAt fetched (row.txid, row.vout)) hfound
    rw [← snapshotRecord_mergeIncremental pks fetched syncedAt hprior] at hkept
    obtain ⟨kept, hkept⟩ := Option.isSome_iff_exists.mp hkept
    have hmem := mem_of_snapshotRecord hkept
    exact ⟨kept, hmem.1, isAt_iff_outpointKey.mp hmem.2⟩
  unfetched := by
    intro txid vout hnone
    rw [snapshotRecord_mergeIncremental pks fetched syncedAt hprior, fetchedAt_eq_nil hnone]
    rfl
  fetched_taken := by
    intro before point after heq hlast
    have hrow := snapshotRecord_mergeIncremental pks fetched syncedAt hprior
      point.outpoint.txid.text point.outpoint.vout
    have hfetched : fetchedAt fetched (point.outpoint.txid.text, point.outpoint.vout) =
        fetchedAt before (point.outpoint.txid.text, point.outpoint.vout) ++ [point] := by
      rw [heq]
      exact fetchedAt_eq_concat hlast
    rw [hfetched, upsertedRecords_concat_eq] at hrow
    exact ⟨_, hrow⟩
  serverPk_known := by
    intro txid vout row hrow hknown
    rw [snapshotRecord_mergeIncremental pks fetched syncedAt hprior, hrow]
    have hsome : (upsertedRecords pks (some row) (fetchedAt fetched (txid, vout))).isSome :=
      isSome_upsertedRecords _ _ rfl
    obtain ⟨kept, hkept⟩ := Option.isSome_iff_exists.mp hsome
    have hkey := isSome_upsertedServerPks pks (fetchedAt fetched (txid, vout)) hknown
    have hchain := serverPkHex_upsertedRecords pks (some row) (fetchedAt fetched (txid, vout))
    rw [hkept] at hchain
    refine ⟨kept, hkept, ?_⟩
    rw [show kept.serverPkHex = _ from hchain]
    exact hkey
  sorted := sortedByOutpoint_mergeIncremental
  unique := sortedByOutpoint_mergeIncremental.uniqueOutpoints

theorem indexRows_mergeIncremental (pks : ServerPks) (prior : OffchainVtxoSnapshot)
    (fetched : List VirtualTxOutPoint) (syncedAt : Int) :
    indexRows outpointKey
        (mergeIncrementalVtxoSnapshot pks prior fetched syncedAt).virtualTxOutpoints =
      fetched.foldl (upsertPoint pks)
        (indexRows outpointKey prior.virtualTxOutpoints) := by
  apply Std.ExtTreeMap.ext_getElem?
  intro key
  rw [getElem?_indexRows]
  exact rowAt_vals (keyedBy_foldl_upsertPoint pks fetched (keyedBy_indexRows _ _)) key

theorem mergeIncremental_twice (hpks : pks.RoundTrips) (again : Int) :
    mergeIncrementalVtxoSnapshot pks (mergeIncrementalVtxoSnapshot pks prior fetched syncedAt)
        fetched again =
      { mergeIncrementalVtxoSnapshot pks prior fetched syncedAt with syncedAt := again } := by
  have htables : fetched.foldl (upsertPoint pks)
      (indexRows outpointKey
        (mergeIncrementalVtxoSnapshot pks prior fetched syncedAt).virtualTxOutpoints) =
      fetched.foldl (upsertPoint pks)
        (indexRows outpointKey prior.virtualTxOutpoints) := by
    apply Std.ExtTreeMap.ext_getElem?
    intro key
    rw [indexRows_mergeIncremental, getElem?_foldl_upsertPoint, getElem?_foldl_upsertPoint,
      upsertedRecords_twice hpks]
  rw [mergeIncrementalVtxoSnapshot, htables]
  rfl

/-- A list that is merged page by page is merged as a whole. -/
theorem mergeIncremental_pages (pks : ServerPks) (prior : OffchainVtxoSnapshot)
    (page : List VirtualTxOutPoint) (pages : List (List VirtualTxOutPoint)) (syncedAt : Int) :
    (page :: pages).foldl
        (fun snapshot page => mergeIncrementalVtxoSnapshot pks snapshot page syncedAt) prior =
      mergeIncrementalVtxoSnapshot pks prior (page :: pages).flatten syncedAt := by
  rw [List.foldl_cons, List.flatten_cons]
  induction pages generalizing page with
  | nil => simp
  | cons next pages ih =>
    have hpage : mergeIncrementalVtxoSnapshot pks
        (mergeIncrementalVtxoSnapshot pks prior page syncedAt) next syncedAt =
        mergeIncrementalVtxoSnapshot pks prior (page ++ next) syncedAt := by
      rw [mergeIncrementalVtxoSnapshot, indexRows_mergeIncremental, ← List.foldl_append]
      rfl
    rw [List.foldl_cons, hpage, ih, List.append_assoc, List.flatten_cons]

theorem mergeIncremental_perm
    (hperm : reordered.Perm fetched) (hdistinct : (fetched.map (·.outpoint)).Nodup) :
    mergeIncrementalVtxoSnapshot pks prior reordered syncedAt =
      mergeIncrementalVtxoSnapshot pks prior fetched syncedAt := by
  have htables : reordered.foldl (upsertPoint pks)
      (indexRows outpointKey prior.virtualTxOutpoints) =
      fetched.foldl (upsertPoint pks)
        (indexRows outpointKey prior.virtualTxOutpoints) := by
    apply Std.ExtTreeMap.ext_getElem?
    intro key
    rw [getElem?_foldl_upsertPoint, getElem?_foldl_upsertPoint, fetchedAt_perm hperm hdistinct]
  rw [mergeIncrementalVtxoSnapshot, htables]
  rfl

/-- A light merge keeps every stored outpoint, takes every fetched row, keeps known keys and
leaves unique outpoints in order. It can be repeated, and the order of rows of distinct
outpoints makes no difference. -/
theorem merge_incremental_upserts (pks : ServerPks) (prior : OffchainVtxoSnapshot)
    (fetched : List VirtualTxOutPoint) (syncedAt : Int) (hprior : UniqueOutpoints prior)
    (hpks : pks.RoundTrips) :
    UpsertMerge prior fetched (mergeIncrementalVtxoSnapshot pks prior fetched syncedAt) ∧
      (∀ again, mergeIncrementalVtxoSnapshot pks
          (mergeIncrementalVtxoSnapshot pks prior fetched syncedAt) fetched again =
        { mergeIncrementalVtxoSnapshot pks prior fetched syncedAt with syncedAt := again }) ∧
      ((fetched.map (·.outpoint)).Nodup → ∀ reordered, reordered.Perm fetched →
        mergeIncrementalVtxoSnapshot pks prior reordered syncedAt =
          mergeIncrementalVtxoSnapshot pks prior fetched syncedAt) := by
  refine ⟨upsertMerge_mergeIncremental hprior, mergeIncremental_twice hpks, ?_⟩
  intro hdistinct reordered hperm
  exact mergeIncremental_perm hperm hdistinct

def upsertPointSample : VirtualTxOutPoint where
  outpoint := { txid := sampleHost, vout := 0 }
  createdAt := 0
  expiresAt := 100
  amount := 1000
  script := [81]
  isPreconfirmed := true
  isSwept := false
  isUnrolled := false
  isSpent := false
  spentBy := none
  commitmentTxids := []
  settledBy := none
  arkTxid := none
  assets := []

def upsertServerPk : String := "79be667ef9dcbbac55a06295ce870b07029bfcdb2dce28d959f2815b16f81798"

def upsertServerPks : ServerPks where
  scriptToServerPk := fun _ => none
  xOnlyPublicKeyFromStr := fun text => if text = upsertServerPk then some upsertServerPk else none

/-- The coin is fetched again, spent: the row is taken and the key stays. -/
theorem merge_incremental_upserts_spent_coin :
    let prior := snapshotWithRows [virtualTxOutpointToRecord upsertPointSample upsertServerPk]
    let spent := { upsertPointSample with isSpent := true }
    let result := mergeIncrementalVtxoSnapshot upsertServerPks prior [spent] 7
    (∃ serverPk, snapshotRecord result spent.outpoint.txid.text 0 =
      some (virtualTxOutpointToRecord spent serverPk)) ∧
      mergeIncrementalVtxoSnapshot upsertServerPks result [spent] 7 = result := by
  intro prior spent result
  have hprior : UniqueOutpoints prior := List.nodup_singleton _
  have hread : ∀ text pk, upsertServerPks.xOnlyPublicKeyFromStr text = some pk →
      upsertServerPks.xOnlyPublicKeyFromStr pk = some pk := by
    intro text pk hpk
    simp only [upsertServerPks, Option.ite_none_right_eq_some, Option.some.injEq] at hpk ⊢
    exact ⟨hpk.2.symm, hpk.2⟩
  have hpks : upsertServerPks.RoundTrips := ⟨hread, by intro script pk hpk; cases hpk⟩
  obtain ⟨hmerge, hagain, -⟩ :=
    merge_incremental_upserts upsertServerPks prior [spent] 7 hprior hpks
  exact ⟨hmerge.fetched_taken [] spent [] rfl (List.forall_mem_nil _), hagain 7⟩

end Merge

end Bitboard.Arkade
