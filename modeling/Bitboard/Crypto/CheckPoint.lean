/-
# Checkpoints of the local chain

The wallet keeps its view of the best chain as a linked list of checkpoints, a
sparse list of blocks of ascending height. The type and its operations belong to
`bdk`; `CheckPointApi` names the operations that the wallet's own code calls and
`CheckPointApi.Documented` states what their documentation promises. Block heights
are natural numbers: they stay far below the bound of `u32`.

`BlockChain` is a chain that carries its order as a field, with the operations
computed on it; it has the documented behaviour.
-/

import Mathlib.Data.List.Basic

namespace Bitboard.Crypto

/-- `bitcoin::BlockHash`, by its printed text. -/
structure BlockHash where
  text : String
  deriving DecidableEq

structure BlockId where
  height : Nat
  hash : BlockHash

/-- The blocks stand in strictly ascending order above the given height. -/
def AscendsFrom (height : Nat) (blocks : List BlockId) : Prop :=
  (∀ block ∈ blocks, height < block.height) ∧
    blocks.Pairwise fun lower upper => lower.height < upper.height

instance (height : Nat) (blocks : List BlockId) : Decidable (AscendsFrom height blocks) :=
  inferInstanceAs (Decidable (_ ∧ _))

def Descends (blocks : List BlockId) : Prop :=
  blocks.Pairwise fun upper lower => lower.height < upper.height

theorem Descends.below {tip : BlockId} {below : List BlockId} (h : Descends (tip :: below)) :
    Descends below :=
  (List.pairwise_cons.mp h).2

variable {block : BlockId}

theorem Descends.lt_tip {tip : BlockId} {below : List BlockId} (h : Descends (tip :: below))
    (hblock : block ∈ below) : block.height < tip.height :=
  (List.pairwise_cons.mp h).1 block hblock

theorem AscendsFrom.descends_append {tip : BlockId} {below above : List BlockId}
    (hascends : AscendsFrom tip.height above) (hdescends : Descends (tip :: below)) :
    Descends (above.reverse ++ tip :: below) := by
  unfold Descends
  rw [List.pairwise_append]
  refine ⟨List.pairwise_reverse.mpr hascends.2, hdescends, ?_⟩
  intro upper hupper lower hlower
  have htip := hascends.1 upper (List.mem_reverse.mp hupper)
  cases List.mem_cons.mp hlower with
  | inl heq => rw [heq]; exact htip
  | inr hmem => exact Nat.lt_trans (hdescends.lt_tip hmem) htip

/-- What the wallet calls of `CheckPoint`. `iter` runs from the tip down and `extend` fails
on a block that is not higher than the one before it. -/
structure CheckPointApi (CheckPoint : Type) where
  blockId : CheckPoint → BlockId
  iter : CheckPoint → List CheckPoint
  new : BlockId → CheckPoint
  insert : CheckPoint → BlockId → CheckPoint
  extend : CheckPoint → List BlockId → Option CheckPoint

namespace CheckPointApi

variable {CheckPoint : Type} (api : CheckPointApi CheckPoint)

def height (checkpoint : CheckPoint) : Nat := (api.blockId checkpoint).height

def hash (checkpoint : CheckPoint) : BlockHash := (api.blockId checkpoint).hash

def blocks (checkpoint : CheckPoint) : List BlockId :=
  (api.iter checkpoint).map api.blockId

structure Documented : Prop where
  /-- Iteration starts at the checkpoint itself. -/
  iter_head : ∀ checkpoint, (api.iter checkpoint).head? = some checkpoint
  /-- Iteration runs through the checkpoints below in descending height. -/
  iter_descends : ∀ checkpoint, Descends (api.blocks checkpoint)
  /-- From a checkpoint that was reached, iteration goes on alike. -/
  iter_suffix : ∀ checkpoint, ∀ lower ∈ api.iter checkpoint, api.iter lower <:+ api.iter checkpoint
  /-- A new checkpoint is alone. -/
  blocks_new : ∀ block, api.blocks (api.new block) = [block]
  /-- A block above the tip becomes the tip. -/
  blocks_insert : ∀ checkpoint block, api.height checkpoint < block.height →
    api.blocks (api.insert checkpoint block) = block :: api.blocks checkpoint
  /-- Blocks in ascending order above the tip are put on top of the chain. -/
  extend_ascending : ∀ checkpoint blocks, AscendsFrom (api.height checkpoint) blocks →
    ∃ extended, api.extend checkpoint blocks = some extended ∧
      api.blocks extended = blocks.reverse ++ api.blocks checkpoint

variable {api}

theorem Documented.iter_eq_cons (hapi : api.Documented) (checkpoint : CheckPoint) :
    ∃ below, api.iter checkpoint = checkpoint :: below := by
  obtain ⟨below, hbelow⟩ := List.head?_eq_some_iff.mp (hapi.iter_head checkpoint)
  exact ⟨below, hbelow⟩

theorem Documented.iter_getLast (hapi : api.Documented) {checkpoint oldest : CheckPoint}
    (holdest : (api.iter checkpoint).getLast? = some oldest) : api.iter oldest = [oldest] := by
  obtain ⟨below, hbelow⟩ := hapi.iter_eq_cons oldest
  have hsuffix := hapi.iter_suffix checkpoint oldest (List.mem_of_getLast? holdest)
  have hlast : (api.iter oldest).getLast? = some oldest := by
    obtain ⟨above, habove⟩ := hsuffix
    rw [← habove, hbelow, List.getLast?_append_of_ne_nil _ (by simp), ← hbelow] at holdest
    exact holdest
  rw [hbelow] at hlast ⊢
  cases below with
  | nil => rfl
  | cons next below =>
    -- The last checkpoint would be lower than itself.
    rw [List.getLast?_cons_cons] at hlast
    have hlower := hapi.iter_descends oldest
    rw [blocks, hbelow] at hlower
    have hmem : api.blockId oldest ∈ (next :: below).map api.blockId :=
      List.mem_map_of_mem (List.mem_of_getLast? hlast)
    exact absurd (Descends.lt_tip hlower hmem) (Nat.lt_irrefl _)

theorem Documented.exists_getLast (hapi : api.Documented) (checkpoint : CheckPoint) :
    ∃ oldest, (api.iter checkpoint).getLast? = some oldest := by
  obtain ⟨below, hbelow⟩ := hapi.iter_eq_cons checkpoint
  rw [hbelow]
  exact ⟨_, List.getLast?_eq_some_getLast (by simp)⟩

end CheckPointApi

structure BlockChain where
  tip : BlockId
  below : List BlockId
  descends : Descends (tip :: below)

namespace BlockChain

def toList (chain : BlockChain) : List BlockId := chain.tip :: chain.below

def chainsOf : (blocks : List BlockId) → Descends blocks → List BlockChain
  | [], _ => []
  | tip :: below, h =>
    { tip, below, descends := h } :: chainsOf below h.below

theorem map_tip_chainsOf (blocks : List BlockId) (h : Descends blocks) :
    (chainsOf blocks h).map BlockChain.tip = blocks := by
  induction blocks with
  | nil => rfl
  | cons tip below ih =>
    rw [chainsOf, List.map_cons, ih]

def insertBlock (block : BlockId) (blocks : List BlockId) : List BlockId :=
  let lower := blocks.filter fun other => other.height < block.height
  if blocks.any fun other => other.height = block.height ∧ other.hash ≠ block.hash then
    block :: lower
  else
    (blocks.filter fun other => block.height < other.height) ++ block :: lower

variable {blocks : List BlockId}

theorem descends_insertBlock (h : Descends blocks) : Descends (insertBlock block blocks) := by
  have hlower : Descends (block :: blocks.filter fun other => other.height < block.height) := by
    apply List.pairwise_cons.mpr
    constructor
    · intro other hother
      simpa using (List.mem_filter.mp hother).2
    · exact List.Pairwise.filter _ h
  unfold insertBlock
  split
  · exact hlower
  · apply List.pairwise_append.mpr
    refine ⟨List.Pairwise.filter _ h, hlower, ?_⟩
    intro upper hupper lower hlower
    have habove : block.height < upper.height := by simpa using (List.mem_filter.mp hupper).2
    cases List.mem_cons.mp hlower with
    | inl heq => rw [heq]; exact habove
    | inr hmem =>
      have hbelow : lower.height < block.height := by simpa using (List.mem_filter.mp hmem).2
      omega

theorem insertBlock_ne_nil : insertBlock block blocks ≠ [] := by
  unfold insertBlock
  split <;> simp

theorem insertBlock_of_above (h : ∀ other ∈ blocks, other.height < block.height) :
    insertBlock block blocks = block :: blocks := by
  have hlower : (blocks.filter fun other => other.height < block.height) = blocks := by
    rw [List.filter_eq_self]
    intro other hother
    simpa using h other hother
  have hupper : (blocks.filter fun other => block.height < other.height) = [] := by
    rw [List.filter_eq_nil_iff]
    intro other hother
    simpa using Nat.le_of_lt (h other hother)
  have hconflict : (blocks.any fun other =>
      other.height = block.height ∧ other.hash ≠ block.hash) = false := by
    rw [List.any_eq_false]
    intro other hother
    have := h other hother
    simp only [decide_eq_true_eq, not_and]
    omega
  simp only [insertBlock, hlower, hupper, hconflict, Bool.false_eq_true, if_false, List.nil_append]

def ofList : (blocks : List BlockId) → blocks ≠ [] → Descends blocks → BlockChain
  | tip :: below, _, h => { tip, below, descends := h }

@[simp]
theorem toList_ofList (blocks : List BlockId) (hne : blocks ≠ []) (h : Descends blocks) :
    (ofList blocks hne h).toList = blocks := by
  cases blocks with
  | nil => exact absurd rfl hne
  | cons tip below => rfl

def api : CheckPointApi BlockChain where
  blockId chain := chain.tip
  iter chain := chainsOf chain.toList chain.descends
  new block := { tip := block, below := [], descends := List.pairwise_singleton _ _ }
  insert chain block :=
    ofList (insertBlock block chain.toList) insertBlock_ne_nil
      (descends_insertBlock chain.descends)
  extend chain blocks :=
    if h : AscendsFrom chain.tip.height blocks then
      some (ofList (blocks.reverse ++ chain.toList)
        (List.append_ne_nil_of_right_ne_nil _ (List.cons_ne_nil _ _))
        (h.descends_append chain.descends))
    else none

@[simp]
theorem blocks_api (chain : BlockChain) : api.blocks chain = chain.toList :=
  map_tip_chainsOf chain.toList chain.descends

theorem chainsOf_suffix {h : Descends blocks} {chain : BlockChain}
    (hmem : chain ∈ chainsOf blocks h) :
    chainsOf chain.toList chain.descends <:+ chainsOf blocks h := by
  induction blocks with
  | nil => cases hmem
  | cons tip below ih =>
    cases List.mem_cons.mp hmem with
    | inl heq =>
      rw [heq]
      exact List.suffix_refl _
    | inr hlower => exact (ih hlower).trans (List.suffix_cons _ _)

theorem documented_api : api.Documented where
  iter_head _ := rfl
  iter_descends chain := by
    rw [blocks_api]
    exact chain.descends
  iter_suffix _ _ hlower := chainsOf_suffix hlower
  blocks_new block := by
    rw [blocks_api]
    rfl
  blocks_insert chain block habove := by
    rw [blocks_api, blocks_api, api, toList_ofList, insertBlock_of_above]
    intro other hother
    cases List.mem_cons.mp hother with
    | inl heq => rw [heq]; exact habove
    | inr hmem =>
      exact Nat.lt_trans (chain.descends.lt_tip hmem) habove
  extend_ascending chain blocks hascends := by
    have hascends : AscendsFrom chain.tip.height blocks := hascends
    refine ⟨_, dif_pos hascends, ?_⟩
    rw [blocks_api, blocks_api]
    exact toList_ofList _ _ _

end BlockChain

end Bitboard.Crypto
