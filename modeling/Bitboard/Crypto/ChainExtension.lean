/-
# The chain update covers the anchors

The chain that `build_local_chain_extension` returns starts at the oldest local
checkpoint and goes on with the entries of a map of heights above it. The map has
every local height, and at the height of an anchor it has the anchor's block. The
update therefore covers every anchor above the oldest local checkpoint, shares
that checkpoint with the local chain and leaves out no local height.
-/

import Bitboard.Crypto.AnchorReconcile
import Bitboard.Arkade.ExitMaterials

namespace Bitboard.Crypto

open Bitboard.Lib
open Bitboard.Arkade (Txid)

variable {CheckPoint : Type} {api : CheckPointApi CheckPoint}
variable {walk cover : BlockHashLookup} {latestBlocks : BTreeMap Nat BlockHash}
variable {localTip tip : CheckPoint} {anchors : List (ConfirmationBlockTime × Txid)}

def AnchorsAgree (anchors : List (ConfirmationBlockTime × Txid)) : Prop :=
  ∀ first ∈ anchors, ∀ second ∈ anchors,
    first.1.blockId.height = second.1.blockId.height → first.1.blockId = second.1.blockId

/-- A chain of strictly ascending height that has the block of every anchor, shares a block
with the local chain and has a block at every local height above that one. -/
structure CoversAnchors (api : CheckPointApi CheckPoint) (localTip : CheckPoint)
    (anchors : List (ConfirmationBlockTime × Txid)) (update : CheckPoint) : Prop where
  descends : Descends (api.blocks update)
  anchored : ∀ anchor ∈ anchors, anchor.1.blockId ∈ api.blocks update
  connected : ∃ agreed ∈ api.blocks localTip, agreed ∈ api.blocks update ∧
    ∀ checkpoint ∈ api.iter localTip, agreed.height < api.height checkpoint →
      ∃ block ∈ api.blocks update, block.height = api.height checkpoint

/-- The anchors above the oldest checkpoint of the local chain. -/
def anchorsAboveOldest (api : CheckPointApi CheckPoint) (localTip : CheckPoint)
    (anchors : List (ConfirmationBlockTime × Txid)) : List (ConfirmationBlockTime × Txid) :=
  anchors.filter fun anchor =>
    api.height ((api.iter localTip).getLast?.getD localTip) < anchor.1.blockId.height

theorem mem_coverHeight {locked : List Nat} {blocks covered : BTreeMap Nat BlockHash}
    {height k : Nat} (h : coverHeight cover latestBlocks locked blocks height = .ok covered)
    (hk : k ∈ blocks) : k ∈ covered := by
  unfold coverHeight at h
  split at h
  · cases h
    exact hk
  · obtain ⟨fetched, -, hfetched⟩ := bind_eq_ok.mp h
    cases fetched with
    | none =>
      cases hfetched
      exact hk
    | some esploraHash =>
      cases hfetched
      exact Std.ExtTreeMap.mem_insert.mpr (.inr hk)

variable {desired : BTreeMap Nat BlockHash}

theorem mem_desiredBlocks
    (h : desiredBlocks api cover latestBlocks localTip tip anchors = .ok desired)
    {checkpoint : CheckPoint} (hlocal : checkpoint ∈ api.iter localTip) :
    api.height checkpoint ∈ desired := by
  obtain ⟨covered, hcovered, hdesired⟩ := bind_eq_ok.mp h
  cases hdesired
  have hentry : (api.height checkpoint, api.hash checkpoint) ∈ checkpointEntries api localTip :=
    List.mem_map.mpr ⟨checkpoint, hlocal, rfl⟩
  have hkept : api.height checkpoint ∈ covered := by
    apply foldlM_invariant (fun blocks => api.height checkpoint ∈ blocks) ?_ ?_ hcovered
    · intro blocks height _ next hnext hblocks
      exact mem_coverHeight hnext hblocks
    · rw [BTreeMap.mem_insertMany_iff, BTreeMap.mem_insertMany_iff]
      exact .inl (.inr ⟨_, hentry⟩)
  rw [BTreeMap.mem_insertMany_iff, BTreeMap.mem_insertMany_iff]
  exact .inl (.inl hkept)

theorem getElem?_desiredBlocks (hagree : AnchorsAgree anchors)
    (h : desiredBlocks api cover latestBlocks localTip tip anchors = .ok desired)
    {anchor : ConfirmationBlockTime × Txid} (hanchor : anchor ∈ anchors) :
    desired[anchor.1.blockId.height]? = some anchor.1.blockId.hash := by
  obtain ⟨covered, -, hdesired⟩ := bind_eq_ok.mp h
  cases hdesired
  apply BTreeMap.getElem?_insertMany_of_agree
  · exact List.mem_map.mpr ⟨anchor, hanchor, rfl⟩
  · intro hash hmem
    obtain ⟨other, hother, heq⟩ := List.mem_map.mp hmem
    rw [Prod.mk.injEq] at heq
    rw [← heq.2, hagree other hother anchor hanchor heq.1]

theorem mem_blocksAbove_iff {height : Nat} {blocks : BTreeMap Nat BlockHash} {block : BlockId} :
    block ∈ blocksAbove height blocks ↔
      height < block.height ∧ blocks[block.height]? = some block.hash := by
  obtain ⟨blockHeight, hash⟩ := block
  simp only [blocksAbove, List.mem_map, List.mem_filter, Prod.exists, BTreeMap.mem_toList_iff,
    BlockId.mk.injEq, decide_eq_true_eq, Nat.add_one_le_iff]
  grind

theorem ascendsFrom_blocksAbove (height : Nat) (blocks : BTreeMap Nat BlockHash) :
    AscendsFrom height (blocksAbove height blocks) := by
  constructor
  · intro block hblock
    exact (mem_blocksAbove_iff.mp hblock).1
  · apply List.pairwise_map.mpr
    apply List.Pairwise.filter
    apply List.Pairwise.imp _ Std.ExtTreeMap.ordered_keys_toList
    intro lower upper hlt
    exact Nat.compare_eq_lt.mp hlt

theorem exists_ensure_of_desiredBlocks (hapi : api.Documented) {oldest : CheckPoint}
    (holdest : (api.iter localTip).getLast? = some oldest)
    (h : desiredBlocks api cover latestBlocks localTip tip anchors = .ok desired) :
    ∃ update,
      ensureEsploraBlocksCoveringAnchors api cover latestBlocks localTip tip anchors = .ok update ∧
      api.blocks update =
        (blocksAbove (api.height oldest) desired).reverse ++ [api.blockId oldest] := by
  obtain ⟨update, hupdate, hblocks⟩ := hapi.extend_ascending oldest _
    (ascendsFrom_blocksAbove (api.height oldest) desired)
  have hlone : api.blocks oldest = [api.blockId oldest] := by
    rw [CheckPointApi.blocks, hapi.iter_getLast holdest, List.map_singleton]
  rw [hlone] at hblocks
  refine ⟨update, bind_eq_ok.mpr ⟨desired, h, ?_⟩, hblocks⟩
  simp only [holdest, Option.getD_some, hupdate]

variable {update : CheckPoint}

theorem coversAnchors_of_ensure (hapi : api.Documented) (hagree : AnchorsAgree anchors)
    (h : ensureEsploraBlocksCoveringAnchors api cover latestBlocks localTip tip anchors =
      .ok update) :
    CoversAnchors api localTip (anchorsAboveOldest api localTip anchors) update := by
  obtain ⟨oldest, holdest⟩ := hapi.exists_getLast localTip
  obtain ⟨desired, hdesired, -⟩ := bind_eq_ok.mp h
  obtain ⟨rebuilt, hrebuilt, hblocks⟩ :=
    exists_ensure_of_desiredBlocks hapi holdest hdesired
  rw [h, Except.ok.injEq] at hrebuilt
  subst hrebuilt
  have hmem : ∀ block : BlockId, api.height oldest < block.height →
      desired[block.height]? = some block.hash → block ∈ api.blocks update := by
    intro block habove hentry
    rw [hblocks, List.mem_append, List.mem_reverse]
    exact .inl (mem_blocksAbove_iff.mpr ⟨habove, hentry⟩)
  constructor
  · exact hapi.iter_descends update
  · intro anchor hanchor
    obtain ⟨hanchor, habove⟩ := List.mem_filter.mp hanchor
    rw [holdest, Option.getD_some, decide_eq_true_eq] at habove
    exact hmem _ habove (getElem?_desiredBlocks hagree hdesired hanchor)
  · refine ⟨api.blockId oldest, List.mem_map_of_mem (List.mem_of_getLast? holdest), ?_, ?_⟩
    · rw [hblocks]
      simp
    · intro checkpoint hlocal habove
      have hkey := mem_desiredBlocks hdesired hlocal
      rw [Std.ExtTreeMap.mem_iff_isSome_getElem?, Option.isSome_iff_exists] at hkey
      obtain ⟨hash, hhash⟩ := hkey
      exact ⟨⟨api.height checkpoint, hash⟩, hmem _ habove hhash, rfl⟩

/-- Esplora answers every lookup, if only by saying that there is no such block. -/
def Answers (lookup : BlockHashLookup) : Prop :=
  ∀ height message, lookup height ≠ .error (.other message)

theorem exists_fetchBlockHashAtHeight {lookup : BlockHashLookup} (hanswers : Answers lookup)
    (latestBlocks : BTreeMap Nat BlockHash) (height : Nat) :
    ∃ fetched, fetchBlockHashAtHeight lookup latestBlocks height = .ok fetched := by
  unfold fetchBlockHashAtHeight
  split
  · exact ⟨_, rfl⟩
  · split
    · exact ⟨_, rfl⟩
    · split
      · exact ⟨_, rfl⟩
      · split
        · exact ⟨_, rfl⟩
        · exact ⟨_, rfl⟩
        · rename_i message hlookup
          exact absurd hlookup (hanswers height message)

theorem exists_desiredBlocks (hanswers : Answers cover) (api : CheckPointApi CheckPoint)
    (latestBlocks : BTreeMap Nat BlockHash) (localTip tip : CheckPoint)
    (anchors : List (ConfirmationBlockTime × Txid)) :
    ∃ desired, desiredBlocks api cover latestBlocks localTip tip anchors = .ok desired := by
  have hround : ∀ blocks height,
      ∃ next, coverHeight cover latestBlocks (lockedAnchorHeights anchors) blocks height =
        .ok next := by
    intro blocks height
    unfold coverHeight
    split
    · exact ⟨_, rfl⟩
    · obtain ⟨fetched, hfetched⟩ := exists_fetchBlockHashAtHeight hanswers latestBlocks height
      rw [hfetched]
      cases fetched with
      | none | some => exact ⟨_, rfl⟩
  obtain ⟨covered, hcovered⟩ := exists_foldlM_eq_ok hround _ _
  exact ⟨_, bind_eq_ok.mpr ⟨covered, hcovered, rfl⟩⟩

theorem exists_bootstrap (hanswers : Answers walk) (hlatest : latestBlocks.isEmpty = false) :
    ∃ tip, bootstrapCheckpointsFromEsplora api walk latestBlocks = .ok tip := by
  have hround : ∀ tip height,
      ∃ next, bootstrapHeight api walk latestBlocks tip height = .ok next := by
    intro tip height
    unfold bootstrapHeight
    obtain ⟨fetched, hfetched⟩ := exists_fetchBlockHashAtHeight hanswers latestBlocks height
    rw [hfetched]
    cases fetched with
    | none | some => exact ⟨_, rfl⟩
  obtain ⟨bootstrapped, hbootstrapped⟩ := exists_foldlM_eq_ok hround
    (List.range (latestBlocks.maxKey?.getD 0 + 1)) none
  cases bootstrapped with
  | some tip => exact ⟨tip, bind_eq_ok.mpr ⟨_, hbootstrapped, rfl⟩⟩
  | none =>
    -- The loop over a nonempty map leaves a tip.
    have hne : latestBlocks.toList ≠ [] := by
      intro hnil
      rw [← Std.ExtTreeMap.isEmpty_toList, hnil] at hlatest
      cases hlatest
    have hlast : latestBlocks.toList =
        latestBlocks.toList.dropLast ++ [latestBlocks.toList.getLast hne] :=
      (List.dropLast_append_getLast hne).symm
    have honly : ∃ tip, bootstrapCheckpointsFromLatestBlocksOnly api latestBlocks = .ok tip := by
      simp only [bootstrapCheckpointsFromLatestBlocksOnly]
      rw [hlast, List.foldl_append, List.foldl_cons, List.foldl_nil]
      exact ⟨_, rfl⟩
    obtain ⟨tip, htip⟩ := honly
    exact ⟨tip, bind_eq_ok.mpr ⟨_, hbootstrapped, htip⟩⟩

/-- Esplora has the hash of the checkpoint at its height. -/
def EsploraAgrees (api : CheckPointApi CheckPoint) (walk : BlockHashLookup)
    (latestBlocks : BTreeMap Nat BlockHash) (checkpoint : CheckPoint) : Prop :=
  fetchBlockHashAtHeight walk latestBlocks (api.height checkpoint) =
    .ok (some (api.hash checkpoint))

variable {checkpoints : List CheckPoint}

/-- The walk stops at the latest when it comes to a checkpoint Esplora agrees with. -/
theorem exists_findPointOfAgreement (hanswers : Answers walk)
    {agreed : CheckPoint} (hagreed : agreed ∈ checkpoints)
    (hagrees : EsploraAgrees api walk latestBlocks agreed) (conflicts : List BlockId) :
    ∃ found, findPointOfAgreement api walk latestBlocks checkpoints conflicts =
      .ok (some found) := by
  induction checkpoints generalizing conflicts with
  | nil => cases hagreed
  | cons checkpoint rest ih =>
    obtain ⟨fetched, hfetched⟩ :=
      exists_fetchBlockHashAtHeight hanswers latestBlocks (api.height checkpoint)
    cases List.mem_cons.mp hagreed with
    | inl heq =>
      subst heq
      refine ⟨(agreed, conflicts), bind_eq_ok.mpr ⟨_, hagrees, ?_⟩⟩
      simp only [if_true]
    | inr hrest =>
      cases fetched with
      | none =>
        obtain ⟨found, hfound⟩ := ih hrest conflicts
        exact ⟨found, bind_eq_ok.mpr ⟨_, hfetched, hfound⟩⟩
      | some remoteHash =>
        by_cases hremote : remoteHash = api.hash checkpoint
        · refine ⟨(checkpoint, conflicts), bind_eq_ok.mpr ⟨_, hfetched, ?_⟩⟩
          simp only [hremote, if_true]
        · obtain ⟨found, hfound⟩ := ih hrest
            (conflicts ++ [{ height := api.height checkpoint, hash := remoteHash }])
          refine ⟨found, bind_eq_ok.mpr ⟨_, hfetched, ?_⟩⟩
          simp only [hremote, if_false]
          exact hfound

variable {found : CheckPoint × List BlockId}

/-- The conflicts the walk passes stand in descending order above the checkpoint it finds:
at every point they are above all that is still to come. -/
theorem ascendsFrom_of_findPointOfAgreement
    {conflicts : List BlockId} (hcheckpoints : Descends (checkpoints.map api.blockId))
    (hconflicts : Descends conflicts)
    (habove : ∀ conflict ∈ conflicts, ∀ checkpoint ∈ checkpoints,
      api.height checkpoint < conflict.height)
    (h : findPointOfAgreement api walk latestBlocks checkpoints conflicts = .ok (some found)) :
    AscendsFrom (api.height found.1) found.2.reverse := by
  induction checkpoints generalizing conflicts with
  | nil => cases h
  | cons checkpoint rest ih =>
    obtain ⟨fetched, -, hfetched⟩ := bind_eq_ok.mp h
    have hrest : ∀ conflict ∈ conflicts, ∀ lower ∈ rest, api.height lower < conflict.height :=
      fun conflict hconflict lower hlower =>
        habove conflict hconflict lower (List.mem_cons_of_mem _ hlower)
    cases fetched with
    | none => exact ih hcheckpoints.below hconflicts hrest hfetched
    | some remoteHash =>
      simp only at hfetched
      split at hfetched
      · cases hfetched
        constructor
        · intro conflict hconflict
          exact habove conflict (List.mem_reverse.mp hconflict) checkpoint
            List.mem_cons_self
        · exact List.pairwise_reverse.mpr hconflicts
      · apply ih hcheckpoints.below _ _ hfetched
        · apply List.pairwise_append.mpr
          refine ⟨hconflicts, List.pairwise_singleton _ _, ?_⟩
          intro conflict hconflict passed hpassed
          rw [List.mem_singleton.mp hpassed]
          exact habove conflict hconflict checkpoint List.mem_cons_self
        · intro conflict hconflict lower hlower
          cases List.mem_append.mp hconflict with
          | inl hearlier => exact hrest conflict hearlier lower hlower
          | inr hpassed =>
            rw [List.mem_singleton.mp hpassed]
            exact hcheckpoints.lt_tip (List.mem_map_of_mem hlower)

theorem exists_connectToEsplora (hapi : api.Documented) (hanswers : Answers walk)
    {agreed : CheckPoint} (hagreed : agreed ∈ api.iter localTip)
    (hagrees : EsploraAgrees api walk latestBlocks agreed) :
    ∃ tip, connectToEsplora api walk latestBlocks localTip = .ok tip := by
  obtain ⟨⟨checkpoint, conflicts⟩, hfound⟩ :=
    exists_findPointOfAgreement hanswers hagreed hagrees []
  have hascends := ascendsFrom_of_findPointOfAgreement (hapi.iter_descends localTip)
    List.Pairwise.nil (fun _ h => by cases h) hfound
  obtain ⟨connected, hconnected, -⟩ := hapi.extend_ascending checkpoint _ hascends
  refine ⟨connected, bind_eq_ok.mpr ⟨_, hfound, ?_⟩⟩
  simp only [hconnected]

theorem esploraAgrees_of_findPointOfAgreement {conflicts : List BlockId}
    (h : findPointOfAgreement api walk latestBlocks checkpoints conflicts = .ok (some found)) :
    found.1 ∈ checkpoints ∧ EsploraAgrees api walk latestBlocks found.1 := by
  induction checkpoints generalizing conflicts with
  | nil => cases h
  | cons checkpoint rest ih =>
    obtain ⟨fetched, hfetch, hfetched⟩ := bind_eq_ok.mp h
    cases fetched with
    | none =>
      obtain ⟨hmem, hagrees⟩ := ih hfetched
      exact ⟨List.mem_cons_of_mem _ hmem, hagrees⟩
    | some remoteHash =>
      simp only at hfetched
      split at hfetched
      · rename_i hremote
        cases hfetched
        rw [hremote] at hfetch
        exact ⟨List.mem_cons_self, hfetch⟩
      · obtain ⟨hmem, hagrees⟩ := ih hfetched
        exact ⟨List.mem_cons_of_mem _ hmem, hagrees⟩

/-! ## The extension -/

/-- The local chain has only its first block, or Esplora agrees with one of its
checkpoints. -/
def Connects (api : CheckPointApi CheckPoint) (walk : BlockHashLookup)
    (latestBlocks : BTreeMap Nat BlockHash) (localTip : CheckPoint) : Prop :=
  api.height localTip = 0 ∨
    ∃ checkpoint ∈ api.iter localTip, EsploraAgrees api walk latestBlocks checkpoint

theorem buildLocalChainExtension_eq_ok_iff :
    buildLocalChainExtension api walk cover latestBlocks localTip anchors = .ok update ↔
      latestBlocks.isEmpty = false ∧ ∃ tip,
        esploraTip api walk latestBlocks localTip = .ok tip ∧
        ensureEsploraBlocksCoveringAnchors api cover latestBlocks localTip tip anchors =
          .ok update := by
  unfold buildLocalChainExtension
  cases latestBlocks.isEmpty with
  | true => simp
  | false => simp [bind_eq_ok]

theorem connects_of_esploraTip (h : esploraTip api walk latestBlocks localTip = .ok tip) :
    Connects api walk latestBlocks localTip := by
  unfold esploraTip at h
  split at h
  · rename_i hheight
    exact .inl hheight
  · obtain ⟨found, hfound, hextended⟩ := bind_eq_ok.mp h
    cases found with
    | none => cases hextended
    | some found =>
      obtain ⟨hmem, hagrees⟩ := esploraAgrees_of_findPointOfAgreement hfound
      exact .inr ⟨found.1, hmem, hagrees⟩

theorem exists_esploraTip (hapi : api.Documented) (hanswers : Answers walk)
    (hlatest : latestBlocks.isEmpty = false) (hconnects : Connects api walk latestBlocks localTip) :
    ∃ tip, esploraTip api walk latestBlocks localTip = .ok tip := by
  unfold esploraTip
  split
  · exact exists_bootstrap hanswers hlatest
  · rename_i hheight
    cases hconnects with
    | inl hzero => exact absurd hzero hheight
    | inr hagreed =>
      obtain ⟨checkpoint, hmem, hagrees⟩ := hagreed
      exact exists_connectToEsplora hapi hanswers hmem hagrees

theorem exists_buildLocalChainExtension (hapi : api.Documented) (hwalk : Answers walk)
    (hcover : Answers cover) (hlatest : latestBlocks.isEmpty = false)
    (hconnects : Connects api walk latestBlocks localTip) :
    ∃ update, buildLocalChainExtension api walk cover latestBlocks localTip anchors =
      .ok update := by
  obtain ⟨oldest, holdest⟩ := hapi.exists_getLast localTip
  obtain ⟨tip, htip⟩ := exists_esploraTip hapi hwalk hlatest hconnects
  obtain ⟨desired, hdesired⟩ :=
    exists_desiredBlocks hcover api latestBlocks localTip tip anchors
  obtain ⟨update, hupdate, -⟩ := exists_ensure_of_desiredBlocks hapi holdest hdesired
  exact ⟨update, buildLocalChainExtension_eq_ok_iff.mpr ⟨hlatest, tip, htip, hupdate⟩⟩

/-- An update covers the anchors above the oldest local checkpoint, and where Esplora
answers there is one exactly if it knows a block and the local chain connects to it. -/
theorem buildLocalChainExtension_coversAnchors (hapi : api.Documented)
    (walk cover : BlockHashLookup) (latestBlocks : BTreeMap Nat BlockHash)
    (localTip : CheckPoint) (anchors : List (ConfirmationBlockTime × Txid))
    (hagree : AnchorsAgree anchors) :
    (∀ update, buildLocalChainExtension api walk cover latestBlocks localTip anchors = .ok update →
      CoversAnchors api localTip (anchorsAboveOldest api localTip anchors) update) ∧
    (Answers walk → Answers cover →
      ((∃ update, buildLocalChainExtension api walk cover latestBlocks localTip anchors =
          .ok update) ↔
        latestBlocks.isEmpty = false ∧ Connects api walk latestBlocks localTip)) := by
  constructor
  · intro update h
    obtain ⟨-, tip, -, hensure⟩ := buildLocalChainExtension_eq_ok_iff.mp h
    exact coversAnchors_of_ensure hapi hagree hensure
  · intro hwalk hcover
    constructor
    · intro h
      obtain ⟨update, hupdate⟩ := h
      obtain ⟨hlatest, tip, htip, -⟩ := buildLocalChainExtension_eq_ok_iff.mp hupdate
      exact ⟨hlatest, connects_of_esploraTip htip⟩
    · intro h
      exact exists_buildLocalChainExtension hapi hwalk hcover h.1 h.2

def blockAt (height : Nat) (text : String) : BlockId where
  height := height
  hash := { text }

def prunedChain : BlockChain where
  tip := blockAt 7 "seven"
  below := [blockAt 5 "five"]
  descends := by simp [Descends, blockAt]

def anchorAt (block : BlockId) : ConfirmationBlockTime × Txid :=
  ({ blockId := block, confirmationTime := 0 }, Bitboard.Arkade.sampleHost)

def agreeingBlocks : BTreeMap Nat BlockHash := BTreeMap.singleton 7 { text := "seven" }

def foreignBlocks : BTreeMap Nat BlockHash := BTreeMap.singleton 7 { text := "other" }

def constantLookup (text : String) : BlockHashLookup := fun _ => .ok { text }

theorem answers_constantLookup (text : String) : Answers (constantLookup text) := by
  intro height message h
  cases h

theorem connects_prunedChain (walk : BlockHashLookup) :
    Connects BlockChain.api walk agreeingBlocks prunedChain :=
  .inr ⟨prunedChain, List.mem_cons_self, by
    simp [EsploraAgrees, fetchBlockHashAtHeight, agreeingBlocks, CheckPointApi.height,
      CheckPointApi.hash, BlockChain.api, prunedChain, blockAt]⟩

theorem isEmpty_singleton_blocks (height : Nat) (hash : BlockHash) :
    (BTreeMap.singleton height hash).isEmpty = false := by
  simp [BTreeMap.singleton]

/-- An anchor above the pruned chain's oldest checkpoint is covered. -/
theorem coversAnchors_prunedChain :
    BlockChain.api.Documented ∧ AnchorsAgree [anchorAt (blockAt 6 "six")] ∧
      ∃ update, buildLocalChainExtension BlockChain.api (constantLookup "five")
          (constantLookup "five") agreeingBlocks prunedChain [anchorAt (blockAt 6 "six")] =
            .ok update ∧
        CoversAnchors BlockChain.api prunedChain
          (anchorsAboveOldest BlockChain.api prunedChain [anchorAt (blockAt 6 "six")])
          update := by
  have hagree : AnchorsAgree [anchorAt (blockAt 6 "six")] := by simp [AnchorsAgree]
  have hspec := buildLocalChainExtension_coversAnchors BlockChain.documented_api
    (constantLookup "five") (constantLookup "five") agreeingBlocks prunedChain
    [anchorAt (blockAt 6 "six")] hagree
  obtain ⟨update, hupdate⟩ := (hspec.2 (answers_constantLookup _) (answers_constantLookup _)).mpr
    ⟨isEmpty_singleton_blocks _ _, connects_prunedChain _⟩
  exact ⟨BlockChain.documented_api, hagree, update, hupdate, hspec.1 update hupdate⟩

theorem height_le_of_build (hapi : api.Documented) {oldest : CheckPoint}
    (holdest : (api.iter localTip).getLast? = some oldest)
    (h : buildLocalChainExtension api walk cover latestBlocks localTip anchors = .ok update)
    {block : BlockId} (hblock : block ∈ api.blocks update) : api.height oldest ≤ block.height := by
  obtain ⟨-, tip, -, hensure⟩ := buildLocalChainExtension_eq_ok_iff.mp h
  obtain ⟨desired, hdesired, -⟩ := bind_eq_ok.mp hensure
  obtain ⟨rebuilt, hrebuilt, hblocks⟩ := exists_ensure_of_desiredBlocks hapi holdest hdesired
  rw [hensure, Except.ok.injEq] at hrebuilt
  rw [← hrebuilt] at hblocks
  rw [hblocks, List.mem_append, List.mem_reverse] at hblock
  cases hblock with
  | inl habove => exact Nat.le_of_lt (mem_blocksAbove_iff.mp habove).1
  | inr hlast =>
    rw [List.mem_singleton.mp hlast]
    exact Nat.le_refl _

/-- An anchor below the oldest checkpoint of the local chain is left out of the update, and
a local chain that Esplora contradicts at every checkpoint gets no update. -/
theorem not_coversAnchors_below_oldest :
    AnchorsAgree [anchorAt (blockAt 3 "three")] ∧
      (∃ update, buildLocalChainExtension BlockChain.api (constantLookup "five")
          (constantLookup "five") agreeingBlocks prunedChain [anchorAt (blockAt 3 "three")] =
            .ok update ∧
        ¬ CoversAnchors BlockChain.api prunedChain [anchorAt (blockAt 3 "three")] update) ∧
      ¬ ∃ update, buildLocalChainExtension BlockChain.api (constantLookup "other")
          (constantLookup "other") foreignBlocks prunedChain [] = .ok update := by
  refine ⟨by simp [AnchorsAgree], ?_, ?_⟩
  · obtain ⟨update, hupdate⟩ := exists_buildLocalChainExtension BlockChain.documented_api
      (answers_constantLookup "five") (answers_constantLookup "five")
      (isEmpty_singleton_blocks _ _) (connects_prunedChain _)
    refine ⟨update, hupdate, ?_⟩
    intro hcovers
    have hblock := hcovers.anchored _ (List.mem_singleton_self _)
    have hheight := height_le_of_build BlockChain.documented_api rfl hupdate hblock
    exact absurd hheight (by decide)
  · intro h
    obtain ⟨update, hupdate⟩ := h
    obtain ⟨-, tip, htip, -⟩ := buildLocalChainExtension_eq_ok_iff.mp hupdate
    cases connects_of_esploraTip htip with
    | inl hheight => exact absurd hheight (by decide)
    | inr hagreed =>
        obtain ⟨checkpoint, hmem, hagrees⟩ := hagreed
        simp only [BlockChain.api, BlockChain.toList, prunedChain, BlockChain.chainsOf,
          List.mem_cons, List.not_mem_nil, or_false] at hmem
        rcases hmem with rfl | rfl
        · simp [EsploraAgrees, fetchBlockHashAtHeight, foreignBlocks, CheckPointApi.height,
            CheckPointApi.hash, BlockChain.api, blockAt] at hagrees
        · revert hagrees
          unfold EsploraAgrees fetchBlockHashAtHeight
          simp only [foreignBlocks, CheckPointApi.height, constantLookup, CheckPointApi.hash,
            BlockChain.api, blockAt, BTreeMap.getElem?_singleton_eq_ite]
          cases (BTreeMap.singleton 7 (BlockHash.mk "other")).maxKey? with
          | none => simp
          | some tipHeight => by_cases hlower : tipHeight < 5 <;> simp [hlower]

end Bitboard.Crypto
