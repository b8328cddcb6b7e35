/-
# Searching a finite graph with a stack

The search takes a node from a stack, skips it when it was visited before, and otherwise
looks at its children in order: the first one that is a goal ends the search, and the
children before that are pushed. The graph may have cycles; every node is expanded at most
once. The search finds a goal exactly when some goal is a child of a node that is reachable
from the stack.
-/

import Mathlib.Data.Finset.Card

namespace Bitboard.Lib

/-- A graph whose children all belong to a finite set. -/
structure FiniteGraph (Node : Type*) where
  nodes : Finset Node
  children : Node → List Node
  mem_nodes : ∀ node child, child ∈ children node → child ∈ nodes

namespace FiniteGraph

variable {Node : Type*} (graph : FiniteGraph Node)

/-- `child` is one step below `node`. -/
def Edge (node child : Node) : Prop := child ∈ graph.children node

/-- The children are pushed until one of them is a goal. -/
def pushChildren (isGoal : Node → Bool) : List Node → List Node → Option (List Node)
  | [], stack => some stack
  | child :: children, stack =>
    if isGoal child then none else pushChildren isGoal children (child :: stack)

variable {graph} {isGoal : Node → Bool} {children stack pushed : List Node}

/-- The search ends when a child is a goal. -/
theorem pushChildren_eq_none_iff :
    pushChildren isGoal children stack = none ↔ ∃ child ∈ children, isGoal child = true := by
  induction children generalizing stack with
  | nil => simp [pushChildren]
  | cons child children ih =>
    rw [pushChildren]
    split
    · rename_i hgoal
      simp [hgoal]
    · rename_i hgoal
      simp [ih, hgoal]

/-- What is on the stack after a push. -/
theorem mem_of_pushChildren (hpushed : pushChildren isGoal children stack = some pushed)
    {node : Node} : node ∈ pushed ↔ node ∈ children ∨ node ∈ stack := by
  induction children generalizing stack with
  | nil =>
    cases hpushed
    simp
  | cons child children ih =>
    rw [pushChildren] at hpushed
    split at hpushed
    · cases hpushed
    · rw [ih hpushed, List.mem_cons, List.mem_cons]
      constructor
      · intro h
        rcases h with h | h | h
        · exact .inl (.inr h)
        · exact .inl (.inl h)
        · exact .inr h
      · intro h
        rcases h with (h | h) | h
        · exact .inr (.inl h)
        · exact .inl h
        · exact .inr (.inr h)

variable [DecidableEq Node] (graph isGoal)

def unvisited (stack : List Node) (visited : Finset Node) : Finset Node :=
  (stack.toFinset ∪ graph.nodes) \ visited

variable {graph isGoal} {visited : Finset Node} {current : Node}

/-- Dropping a visited node does not add to what is left to visit. -/
theorem card_unvisited_tail_le (graph : FiniteGraph Node) (current : Node) (stack : List Node)
    (visited : Finset Node) :
    (graph.unvisited stack visited).card ≤ (graph.unvisited (current :: stack) visited).card := by
  apply Finset.card_le_card
  apply Finset.sdiff_subset_sdiff _ (Finset.Subset.refl _)
  apply Finset.union_subset_union_left
  rw [List.toFinset_cons]
  exact Finset.subset_insert _ _

/-- Expanding a node leaves less to visit. -/
theorem card_unvisited_expand_lt (hcurrent : current ∉ visited)
    (hpushed : pushChildren isGoal (graph.children current) stack = some pushed) :
    (graph.unvisited pushed (insert current visited)).card <
      (graph.unvisited (current :: stack) visited).card := by
  apply Finset.card_lt_card
  rw [Finset.ssubset_iff_of_subset]
  · exact ⟨current, by simp [unvisited, hcurrent], by simp [unvisited]⟩
  · intro node hnode
    simp only [unvisited, Finset.mem_sdiff, Finset.mem_union, List.mem_toFinset,
      Finset.mem_insert, not_or, List.mem_cons] at hnode ⊢
    refine ⟨?_, hnode.2.2⟩
    cases hnode.1 with
    | inl hmem =>
      cases (mem_of_pushChildren hpushed).mp hmem with
      | inl hchild => exact .inr (graph.mem_nodes current node hchild)
      | inr hstack => exact .inl (.inr hstack)
    | inr hnodes => exact .inr hnodes

variable (graph isGoal)

/-- Some goal is found below the nodes of the stack. -/
def findsGoal : List Node → Finset Node → Bool
  | [], _ => false
  | current :: stack, visited =>
    if _ : current ∈ visited then findsGoal stack visited
    else
      match _ : pushChildren isGoal (graph.children current) stack with
      | none => true
      | some pushed => findsGoal pushed (insert current visited)
termination_by stack visited => ((graph.unvisited stack visited).card, stack.length)
decreasing_by
  · rw [Prod.lex_iff]
    have hle := graph.card_unvisited_tail_le current stack visited
    simp only [List.length_cons]
    omega
  · exact .left _ _ (card_unvisited_expand_lt (by assumption) (by assumption))

variable {graph isGoal}

/-- What the search finds is there. -/
theorem exists_goal_of_findsGoal (hfound : graph.findsGoal isGoal stack visited = true) :
    ∃ start ∈ stack, ∃ node child, Relation.ReflTransGen graph.Edge start node ∧
      graph.Edge node child ∧ isGoal child = true := by
  induction stack, visited using findsGoal.induct graph isGoal with
  | case1 visited => simp [findsGoal] at hfound
  | case2 current stack visited hvisited ih =>
    rw [findsGoal, dif_pos hvisited] at hfound
    obtain ⟨start, hstart, hreach⟩ := ih hfound
    exact ⟨start, List.mem_cons_of_mem _ hstart, hreach⟩
  | case3 current stack visited hvisited hpushed =>
    obtain ⟨child, hchild, hgoal⟩ := pushChildren_eq_none_iff.mp hpushed
    exact ⟨current, List.mem_cons_self, current, child, .refl, hchild, hgoal⟩
  | case4 current stack visited hvisited pushed hpushed ih =>
    rw [findsGoal, dif_neg hvisited] at hfound
    split at hfound
    · rename_i hnone
      rw [hnone] at hpushed
      cases hpushed
    rename_i other hother
    rw [hother] at hpushed
    cases hpushed
    obtain ⟨start, hstart, node, child, hreach, hedge, hgoal⟩ := ih hfound
    cases (mem_of_pushChildren hother).mp hstart with
    | inl hchild =>
      exact ⟨current, List.mem_cons_self, node, child, hreach.head hchild, hedge, hgoal⟩
    | inr hstack =>
      exact ⟨start, List.mem_cons_of_mem _ hstack, node, child, hreach, hedge, hgoal⟩

/-- A search without a goal leaves a set that holds the stack, is closed under the edges and
has no goal among its children. -/
theorem exists_closed_of_not_findsGoal (hfound : graph.findsGoal isGoal stack visited = false)
    (hvisited : ∀ node ∈ visited, ∀ child, graph.Edge node child →
      isGoal child = false ∧ (child ∈ visited ∨ child ∈ stack)) :
    ∃ closed : Finset Node, (∀ node ∈ stack, node ∈ closed) ∧ visited ⊆ closed ∧
      ∀ node ∈ closed, ∀ child, graph.Edge node child → isGoal child = false ∧ child ∈ closed := by
  induction stack, visited using findsGoal.induct graph isGoal with
  | case1 visited =>
    refine ⟨visited, by simp, Finset.Subset.refl _, ?_⟩
    intro node hnode child hedge
    obtain ⟨hgoal, hmem⟩ := hvisited node hnode child hedge
    exact ⟨hgoal, hmem.resolve_right (List.not_mem_nil)⟩
  | case2 current stack visited hmem ih =>
    rw [findsGoal, dif_pos hmem] at hfound
    obtain ⟨closed, hstack, hsubset, hclosed⟩ := ih hfound (by
      intro node hnode child hedge
      obtain ⟨hgoal, hchild⟩ := hvisited node hnode child hedge
      refine ⟨hgoal, ?_⟩
      rcases hchild with hchild | hchild
      · exact .inl hchild
      · rcases List.mem_cons.mp hchild with rfl | hstack
        · exact .inl hmem
        · exact .inr hstack)
    refine ⟨closed, ?_, hsubset, hclosed⟩
    intro node hnode
    rcases List.mem_cons.mp hnode with rfl | htail
    · exact hsubset hmem
    · exact hstack node htail
  | case3 current stack visited hmem hpushed =>
    rw [findsGoal, dif_neg hmem] at hfound
    split at hfound
    · cases hfound
    · rename_i pushed hsome
      rw [hsome] at hpushed
      cases hpushed
  | case4 current stack visited hmem pushed hpushed ih =>
    rw [findsGoal, dif_neg hmem] at hfound
    split at hfound
    · cases hfound
    rename_i other hother
    rw [hother] at hpushed
    cases hpushed
    obtain ⟨closed, hstack, hsubset, hclosed⟩ := ih hfound (by
      intro node hnode child hedge
      rcases Finset.mem_insert.mp hnode with rfl | hold
      · -- The children of the node just expanded are all pushed, and none is a goal.
        refine ⟨?_, .inr ((mem_of_pushChildren hother).mpr (.inl hedge))⟩
        by_contra hgoal
        have hnone : pushChildren isGoal (graph.children node) stack = none :=
          pushChildren_eq_none_iff.mpr ⟨child, hedge, by simpa using hgoal⟩
        rw [hnone] at hother
        cases hother
      · obtain ⟨hgoal, hchild⟩ := hvisited node hold child hedge
        refine ⟨hgoal, ?_⟩
        rcases hchild with hchild | hchild
        · exact .inl (Finset.mem_insert_of_mem hchild)
        · rcases List.mem_cons.mp hchild with rfl | htail
          · exact .inl (Finset.mem_insert_self _ _)
          · exact .inr ((mem_of_pushChildren hother).mpr (.inr htail)))
    refine ⟨closed, ?_, (Finset.subset_insert _ _).trans hsubset, hclosed⟩
    intro node hnode
    rcases List.mem_cons.mp hnode with rfl | htail
    · exact hsubset (Finset.mem_insert_self _ _)
    · exact hstack node ((mem_of_pushChildren hother).mpr (.inr htail))

/-- The search from one node finds a goal exactly when a goal is some steps below it. -/
theorem findsGoal_iff {start : Node} :
    graph.findsGoal isGoal [start] ∅ = true ↔
      ∃ goal, Relation.TransGen graph.Edge start goal ∧ isGoal goal = true := by
  constructor
  · intro hfound
    obtain ⟨first, hfirst, node, child, hreach, hedge, hgoal⟩ := exists_goal_of_findsGoal hfound
    rw [List.mem_singleton.mp hfirst] at hreach
    exact ⟨child, .tail' hreach hedge, hgoal⟩
  · intro hreach
    by_contra hmissing
    rw [Bool.not_eq_true] at hmissing
    obtain ⟨closed, hstack, -, hclosed⟩ :=
      exists_closed_of_not_findsGoal hmissing
        (fun node hnode => absurd hnode (Finset.notMem_empty _))
    obtain ⟨goal, htrans, hgoal⟩ := hreach
    have hinside : isGoal goal = false ∧ goal ∈ closed := by
      clear hgoal
      induction htrans with
      | single hedge => exact hclosed start (hstack start (by simp)) _ hedge
      | tail _ hedge ih => exact hclosed _ ih.2 _ hedge
    rw [hinside.1] at hgoal
    cases hgoal

end FiniteGraph

end Bitboard.Lib
