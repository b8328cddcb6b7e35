/-
# Placing nodes after their parents

An order of nodes grows from the front. A node is ready when it is not placed yet and all
of its parents are. Placing the least ready node until none is left gives an order that
depends on the set of nodes and on their parents only. No node of it comes before one of
its parents, and where the parents have no cycle it holds every node.
-/

import Mathlib.Data.Finset.Max
import Mathlib.Data.Fintype.EquivFin

namespace Bitboard.Lib

variable {Node : Type*}

section ParentsFirst

variable {parents : Node → Finset Node} {placed : List Node} {node : Node}

/-- Every node of the order comes after all of its parents. -/
def ParentsFirst (parents : Node → Finset Node) (order : List Node) : Prop :=
  ∀ before node after, order = before ++ node :: after → ∀ parent ∈ parents node, parent ∈ before

theorem parentsFirst_nil : ParentsFirst parents ([] : List Node) := by
  intro before node after heq
  simp at heq

/-- A node may follow once its parents are placed. -/
theorem ParentsFirst.concat (hplaced : ParentsFirst parents placed)
    (hnode : ∀ parent ∈ parents node, parent ∈ placed) :
    ParentsFirst parents (placed ++ [node]) := by
  intro before other after heq parent hparent
  cases after using List.reverseRecOn with
  | nil =>
    obtain ⟨rfl, hlast⟩ := List.append_inj' heq rfl
    cases hlast
    exact hnode parent hparent
  | append_singleton after last =>
    rw [← List.cons_append, ← List.append_assoc] at heq
    obtain ⟨hplacedEq, -⟩ := List.append_inj' heq rfl
    exact hplaced before other after hplacedEq parent hparent

/-- The parents of a placed node are placed. -/
theorem ParentsFirst.mem_of_mem (hplaced : ParentsFirst parents placed) (hnode : node ∈ placed) :
    ∀ parent ∈ parents node, parent ∈ placed := by
  intro parent hparent
  obtain ⟨before, after, rfl⟩ := List.append_of_mem hnode
  exact List.mem_append_left _ (hplaced before node after rfl parent hparent)

end ParentsFirst

variable [LinearOrder Node] (nodes : Finset Node) (parents : Node → Finset Node)

def readyNodes (placed : List Node) : Finset Node :=
  nodes.filter fun node => node ∉ placed ∧ ∀ parent ∈ parents node, parent ∈ placed

variable {nodes parents} {placed : List Node} {node : Node}

/-- A node is ready if it is not placed and its parents are. -/
theorem mem_readyNodes :
    node ∈ readyNodes nodes parents placed ↔
      node ∈ nodes ∧ node ∉ placed ∧ ∀ parent ∈ parents node, parent ∈ placed := by
  simp [readyNodes]

/-- Placing a ready node leaves fewer to place. -/
theorem card_unplaced_lt (hready : node ∈ readyNodes nodes parents placed) :
    (nodes.filter fun other => other ∉ placed ++ [node]).card <
      (nodes.filter fun other => other ∉ placed).card := by
  rw [mem_readyNodes] at hready
  apply Finset.card_lt_card
  rw [Finset.ssubset_iff_of_subset]
  · exact ⟨node, by simp [hready.1, hready.2.1], by simp⟩
  · intro other hother
    simp only [Finset.mem_filter, List.mem_append, not_or] at hother ⊢
    exact ⟨hother.1, hother.2.1⟩

variable (nodes parents)

/-- Places the least ready node until none is ready. -/
def placeReady (placed : List Node) : List Node :=
  if hready : (readyNodes nodes parents placed).Nonempty then
    placeReady (placed ++ [(readyNodes nodes parents placed).min' hready])
  else placed
termination_by (nodes.filter fun node => node ∉ placed).card
decreasing_by exact card_unplaced_lt (Finset.min'_mem _ hready)

variable {nodes parents}

/-- What placing a ready node keeps holds at the end. -/
theorem placeReady_induct {motive : List Node → Prop}
    (hstep : ∀ placed node, node ∈ readyNodes nodes parents placed → motive placed →
      motive (placed ++ [node]))
    (placed : List Node) (hplaced : motive placed) : motive (placeReady nodes parents placed) := by
  induction placed using placeReady.induct nodes parents with
  | case1 placed hready ih =>
    rw [placeReady, dif_pos hready]
    exact ih (hstep placed _ (Finset.min'_mem _ hready) hplaced)
  | case2 placed hready =>
    rwa [placeReady, dif_neg hready]

/-- At the end no node is ready. -/
theorem readyNodes_placeReady (placed : List Node) :
    readyNodes nodes parents (placeReady nodes parents placed) = ∅ := by
  induction placed using placeReady.induct nodes parents with
  | case1 placed hready ih =>
    rw [placeReady, dif_pos hready]
    exact ih
  | case2 placed hready =>
    rw [placeReady, dif_neg hready]
    exact Finset.not_nonempty_iff_eq_empty.mp hready

/-- No node is placed twice. -/
theorem nodup_placeReady (hplaced : placed.Nodup) : (placeReady nodes parents placed).Nodup := by
  apply placeReady_induct _ placed hplaced
  intro placed node hready hnodup
  rw [List.nodup_append]
  refine ⟨hnodup, List.nodup_singleton node, ?_⟩
  intro other hother last hlast heq
  rw [List.mem_singleton.mp hlast] at heq
  exact (mem_readyNodes.mp hready).2.1 (heq ▸ hother)

theorem placeReady_subset (hplaced : ∀ node ∈ placed, node ∈ nodes) :
    ∀ node ∈ placeReady nodes parents placed, node ∈ nodes := by
  apply placeReady_induct (motive := fun placed => ∀ node ∈ placed, node ∈ nodes) _ placed hplaced
  intro placed node hready hsubset other hother
  cases List.mem_append.mp hother with
  | inl hmem => exact hsubset other hmem
  | inr hlast =>
    rw [List.mem_singleton.mp hlast]
    exact (mem_readyNodes.mp hready).1

/-- Parents are placed before their children. -/
theorem parentsFirst_placeReady (hplaced : ParentsFirst parents placed) :
    ParentsFirst parents (placeReady nodes parents placed) := by
  apply placeReady_induct _ placed hplaced
  intro placed node hready hfirst
  exact hfirst.concat (mem_readyNodes.mp hready).2.2

/-- The parent relation among the nodes has no cycle. -/
def AcyclicOn (nodes : Finset Node) (parents : Node → Finset Node) : Prop :=
  ∀ node, ¬Relation.TransGen
    (fun parent child => parent ∈ nodes ∧ child ∈ nodes ∧ parent ∈ parents child) node node

theorem acyclic_of_rank {α : Type*} {r : α → α → Prop} (rank : α → Nat)
    (hrank : ∀ a b, r a b → rank a < rank b) (a : α) : ¬Relation.TransGen r a a := by
  intro hcycle
  have hlt : ∀ b, Relation.TransGen r a b → rank a < rank b := by
    intro b hpath
    induction hpath with
    | single hedge => exact hrank _ _ hedge
    | tail _ hedge ih => exact ih.trans (hrank _ _ hedge)
  exact Nat.lt_irrefl _ (hlt a hcycle)

/-- Among finitely many members of an acyclic relation one has no predecessor. -/
theorem exists_first_of_acyclic {α : Type*} {r : α → α → Prop}
    (hacyclic : ∀ a, ¬Relation.TransGen r a a) (members : Finset α) (p : α → Prop)
    (hexists : ∃ a ∈ members, p a) :
    ∃ first ∈ members, p first ∧ ∀ a ∈ members, p a → ¬Relation.TransGen r a first := by
  let Before : members → members → Prop := fun a b => Relation.TransGen r a b
  have htrans : IsTrans members Before := ⟨fun _ _ _ hfirst hsecond => hfirst.trans hsecond⟩
  have hirrefl : Std.Irrefl Before := ⟨fun a => hacyclic a⟩
  have hwf : WellFounded Before := Finite.wellFounded_of_trans_of_irrefl Before
  obtain ⟨a, ha, hp⟩ := hexists
  obtain ⟨first, hfirst, hminimal⟩ := hwf.has_min {a | p a.1} ⟨⟨a, ha⟩, hp⟩
  refine ⟨first.1, first.2, hfirst, ?_⟩
  intro b hb hpb
  exact hminimal ⟨b, hb⟩ hpb

/-- While a node is missing, some node is ready. -/
theorem exists_ready_of_acyclicOn (hacyclic : AcyclicOn nodes parents)
    (hparents : ∀ node ∈ nodes, parents node ⊆ nodes) (hnode : node ∈ nodes)
    (hmissing : node ∉ placed) : (readyNodes nodes parents placed).Nonempty := by
  obtain ⟨first, hmem, hunplaced, hminimal⟩ :=
    exists_first_of_acyclic hacyclic nodes (· ∉ placed) ⟨node, hnode, hmissing⟩
  refine ⟨first, mem_readyNodes.mpr ⟨hmem, hunplaced, ?_⟩⟩
  intro parent hparent
  by_contra hparentUnplaced
  have hparentMem : parent ∈ nodes := hparents first hmem hparent
  exact hminimal parent hparentMem hparentUnplaced (.single ⟨hparentMem, hmem, hparent⟩)

/-- On acyclic nodes every node is placed. -/
theorem mem_placeReady_of_acyclicOn (placed : List Node) (hacyclic : AcyclicOn nodes parents)
    (hparents : ∀ node ∈ nodes, parents node ⊆ nodes) (hnode : node ∈ nodes) :
    node ∈ placeReady nodes parents placed := by
  by_contra hmissing
  have hready := exists_ready_of_acyclicOn hacyclic hparents hnode hmissing
  rw [readyNodes_placeReady] at hready
  exact Finset.not_nonempty_empty hready

end Bitboard.Lib
