/-
# The order of a unilateral exit

The leaves of an exit share the upper part of their branches. The plan merges the branches
into one serial order of transactions and broadcasts them one after the other, so that a
transaction must not come before one that it spends.

This module models `merge_exit_branch_txids` and `topological_order_step_txids`. The map of
transactions may lack entries, and an operator could even send transactions that spend each
other in a circle; the order is then completed by what is left, in the order of the ids.
-/

import Bitboard.Arkade.ExitMaterials
import Bitboard.Lib.TopologicalOrder
import Mathlib.Algebra.GroupWithZero.Nat
import Mathlib.Data.Char
import Mathlib.Data.List.Lex

namespace Bitboard.Arkade

open Bitboard.Lib

structure TxIn where
  previousOutput : OutPoint

/-- `bitcoin::Transaction`, with what the plan's order reads. -/
structure Transaction where
  input : List TxIn

/-- The digits of each byte, in the order of the text. -/
def digitPairs : List Char → List (List Char)
  | high :: low :: digits => [high, low] :: digitPairs digits
  | _ => []

/-- The bytes of the hash. The text prints the last byte first. -/
def Txid.hashBytes (txid : Txid) : List (List Char) :=
  (digitPairs txid.text.toList).reverse

theorem flatten_digitPairs (pairs : Nat) (digits : List Char)
    (hlength : digits.length = 2 * pairs) : (digitPairs digits).flatten = digits := by
  induction pairs generalizing digits with
  | zero =>
    rw [List.length_eq_zero_iff.mp hlength]
    rfl
  | succ pairs ih =>
    cases digits with
    | nil => simp at hlength
    | cons high digits =>
      cases digits with
      | nil =>
        simp only [List.length_cons, List.length_nil] at hlength
        omega
      | cons low digits =>
        have hrest : digits.length = 2 * pairs := by
          simp only [List.length_cons] at hlength
          omega
        rw [digitPairs, List.flatten_cons, ih digits hrest]
        rfl

theorem Txid.hashBytes_injective : Function.Injective Txid.hashBytes := by
  intro first second heq
  have hpairs := List.reverse_injective heq
  have htext : first.text.toList = second.text.toList := by
    rw [← flatten_digitPairs 32 _ first.length_text, ← flatten_digitPairs 32 _ second.length_text,
      hpairs]
  cases first
  cases second
  simpa using String.toList_injective htext

/-- Transaction ids are compared by the bytes of the hash. -/
@[reducible]
def Txid.linearOrder : LinearOrder Txid :=
  { LinearOrder.lift' Txid.hashBytes Txid.hashBytes_injective with
    toDecidableEq := inferInstance
    compare_eq_compareOfLessAndEq := by
      intro first second
      convert (LinearOrder.lift' Txid.hashBytes
        Txid.hashBytes_injective).compare_eq_compareOfLessAndEq first second }

attribute [local instance] Txid.linearOrder

/-- The transactions a plan still has to place, each with its parents that are not placed
yet. -/
abbrev RemainingParents := List (Txid × Finset Txid)

/-- The transactions of the plan that the transaction spends, as far as the map knows. -/
def inPlanParents (planned : List Txid) (txById : Txid → Option Transaction) (txid : Txid) :
    Finset Txid :=
  match txById txid with
  | none => ∅
  | some transaction =>
    ((transaction.input.map (·.previousOutput.txid)).filter (· ∈ planned)).toFinset

/-- The transaction is no parent of any other from now on. -/
def removeParent (txid : Txid) (remaining : RemainingParents) : RemainingParents :=
  remaining.map fun entry => (entry.1, entry.2.erase txid)

/-- The children for which the transaction was the last parent. -/
def newlyReady (txid : Txid) (remaining : RemainingParents) : Finset Txid :=
  ((remaining.filter fun entry => txid ∈ entry.2 ∧ entry.2.erase txid = ∅).map (·.1)).toFinset

/-- The number of parents still to be placed, over all transactions. -/
def parentCount (remaining : RemainingParents) : Nat :=
  (remaining.map fun entry => entry.2.card).sum

theorem parentCount_removeParent (txid : Txid) (remaining : RemainingParents) :
    parentCount (removeParent txid remaining) + (newlyReady txid remaining).card ≤
      parentCount remaining := by
  have hcard : (newlyReady txid remaining).card ≤
      (remaining.filter fun entry => txid ∈ entry.2 ∧ entry.2.erase txid = ∅).length := by
    rw [newlyReady]
    exact (List.toFinset_card_le _).trans (by simp)
  refine (Nat.add_le_add_left hcard _).trans ?_
  clear hcard
  induction remaining with
  | nil => simp [parentCount, removeParent]
  | cons entry remaining ih =>
    simp only [parentCount, removeParent, List.map_cons, List.sum_cons, List.filter_cons] at ih ⊢
    split
    · rename_i hlast
      simp only [decide_eq_true_eq] at hlast
      have hpos : 0 < entry.2.card := Finset.card_pos.mpr ⟨txid, hlast.1⟩
      rw [hlast.2, Finset.card_empty, List.length_cons]
      omega
    · have herase := Finset.card_erase_le (s := entry.2) (a := txid)
      omega

/-- The loop over `ready`: the least ready transaction is placed, and the children it was the
last parent of become ready. -/
def orderLoop (remaining : RemainingParents) (ready : Finset Txid) (ordered : List Txid) :
    List Txid :=
  if hready : ready.Nonempty then
    let txid := ready.min' hready
    orderLoop (removeParent txid remaining) (ready.erase txid ∪ newlyReady txid remaining)
      (ordered ++ [txid])
  else ordered
termination_by parentCount remaining + ready.card
decreasing_by
  have hparents := parentCount_removeParent (ready.min' hready) remaining
  have hunion := Finset.card_union_le (ready.erase (ready.min' hready))
    (newlyReady (ready.min' hready) remaining)
  have herase := Finset.card_erase_lt_of_mem (ready.min'_mem hready)
  omega

def topologicalOrderStepTxids (planned : List Txid) (txById : Txid → Option Transaction) :
    List Txid :=
  let remaining : RemainingParents :=
    planned.map fun txid => (txid, inPlanParents planned txById txid)
  let ready := ((remaining.filter fun entry => entry.2 = ∅).map (·.1)).toFinset
  let ordered := orderLoop remaining ready []
  if ordered.length < planned.length then
    ordered ++ (planned.filter fun txid => txid ∉ ordered).mergeSort (· ≤ ·)
  else ordered

/-- The transaction ids of the branches, each where it occurs first. -/
def planUniverse (branchLists : List (List Txid)) : List Txid :=
  branchLists.flatten.foldl
    (fun planned txid => if txid ∈ planned then planned else planned ++ [txid]) []

def mergeExitBranchTxids (branchLists : List (List Txid)) (txById : Txid → Option Transaction) :
    List Txid :=
  topologicalOrderStepTxids (planUniverse branchLists) txById

/-! ## What the loop computes -/

section Loop

variable {planned ordered : List Txid} {txById : Txid → Option Transaction} {txid child : Txid}

theorem mem_inPlanParents {parent : Txid} :
    parent ∈ inPlanParents planned txById child ↔
      parent ∈ planned ∧ ∃ transaction, txById child = some transaction ∧
        ∃ input ∈ transaction.input, input.previousOutput.txid = parent := by
  rw [inPlanParents]
  cases htx : txById child with
  | none => simp
  | some transaction =>
    simp only [List.mem_toFinset, List.mem_filter, List.mem_map, decide_eq_true_eq,
      Option.some.injEq, exists_eq_left']
    exact and_comm

/-- The parents that are left once the transactions of `ordered` are placed. -/
def remainingAfter (planned : List Txid) (txById : Txid → Option Transaction)
    (ordered : List Txid) : RemainingParents :=
  planned.map fun txid => (txid, (inPlanParents planned txById txid).filter (· ∉ ordered))

theorem removeParent_remainingAfter :
    removeParent txid (remainingAfter planned txById ordered) =
      remainingAfter planned txById (ordered ++ [txid]) := by
  simp only [removeParent, remainingAfter, List.map_map]
  apply List.map_congr_left
  intro other _
  simp only [Function.comp_apply, Prod.mk.injEq, true_and]
  ext parent
  simp only [Finset.mem_erase, Finset.mem_filter, List.mem_append, List.mem_singleton, not_or]
  exact ⟨fun h => ⟨h.2.1, h.2.2, h.1⟩, fun h => ⟨h.2.2, h.1, h.2.1⟩⟩

theorem mem_newlyReady :
    child ∈ newlyReady txid (remainingAfter planned txById ordered) ↔
      child ∈ planned ∧ txid ∈ inPlanParents planned txById child ∧ txid ∉ ordered ∧
        ∀ parent ∈ inPlanParents planned txById child, parent ∈ ordered ++ [txid] := by
  simp only [newlyReady, remainingAfter, List.mem_toFinset, List.mem_map, List.mem_filter,
    decide_eq_true_eq]
  constructor
  · intro h
    obtain ⟨_, ⟨⟨other, hother, rfl⟩, hlast, hempty⟩, rfl⟩ := h
    rw [Finset.mem_filter] at hlast
    refine ⟨hother, hlast.1, of_decide_eq_true (by simpa using hlast.2), ?_⟩
    intro parent hparent
    by_contra hunplaced
    rw [List.mem_append, List.mem_singleton, not_or] at hunplaced
    have hmem : parent ∈
        ((inPlanParents planned txById other).filter (· ∉ ordered)).erase txid := by
      simp [hparent, hunplaced.1, hunplaced.2]
    rw [hempty] at hmem
    exact Finset.notMem_empty _ hmem
  · intro h
    obtain ⟨hplanned, hparent, hunplaced, hrest⟩ := h
    refine ⟨_, ⟨⟨child, hplanned, rfl⟩, by simp [hparent, hunplaced], ?_⟩, rfl⟩
    apply Finset.eq_empty_of_forall_notMem
    intro parent hmem
    simp only [Finset.mem_erase, Finset.mem_filter] at hmem
    have hplaced := hrest parent hmem.2.1
    rw [List.mem_append, List.mem_singleton] at hplaced
    cases hplaced with
    | inl hold => exact hmem.2.2 hold
    | inr heq => exact hmem.1 heq

/-- Placing a ready transaction makes ready what waited for it only. -/
theorem readyNodes_concat (hfirst : ParentsFirst (inPlanParents planned txById) ordered)
    (hready : txid ∈ readyNodes planned.toFinset (inPlanParents planned txById) ordered) :
    (readyNodes planned.toFinset (inPlanParents planned txById) ordered).erase txid ∪
        newlyReady txid (remainingAfter planned txById ordered) =
      readyNodes planned.toFinset (inPlanParents planned txById) (ordered ++ [txid]) := by
  rw [mem_readyNodes, List.mem_toFinset] at hready
  ext other
  simp only [Finset.mem_union, Finset.mem_erase, mem_readyNodes, List.mem_toFinset, mem_newlyReady]
  constructor
  · intro h
    rcases h with ⟨hne, hplanned, hunplaced, hparents⟩ | ⟨hplanned, hparent, -, hparents⟩
    · refine ⟨hplanned, by simp [hne, hunplaced], ?_⟩
      exact fun parent hmem => List.mem_append_left _ (hparents parent hmem)
    · -- A placed child, or the transaction itself, would have its parents placed before.
      refine ⟨hplanned, ?_, hparents⟩
      intro hplaced
      rw [List.mem_append, List.mem_singleton] at hplaced
      cases hplaced with
      | inl hold => exact hready.2.1 (hfirst.mem_of_mem hold txid hparent)
      | inr heq => exact hready.2.1 (hready.2.2 txid (heq ▸ hparent))
  · intro h
    obtain ⟨hplanned, hunplaced, hparents⟩ := h
    rw [List.mem_append, List.mem_singleton, not_or] at hunplaced
    by_cases hparent : txid ∈ inPlanParents planned txById other
    · exact .inr ⟨hplanned, hparent, hready.2.1, hparents⟩
    · refine .inl ⟨hunplaced.2, hplanned, hunplaced.1, ?_⟩
      intro parent hmem
      have hplaced := hparents parent hmem
      rw [List.mem_append, List.mem_singleton] at hplaced
      exact hplaced.resolve_right fun heq => hparent (heq ▸ hmem)

theorem orderLoop_eq_placeReady (hfirst : ParentsFirst (inPlanParents planned txById) ordered) :
    orderLoop (remainingAfter planned txById ordered)
        (readyNodes planned.toFinset (inPlanParents planned txById) ordered) ordered =
      placeReady planned.toFinset (inPlanParents planned txById) ordered := by
  induction ordered using placeReady.induct planned.toFinset (inPlanParents planned txById) with
  | case1 ordered hready ih =>
    have hmin := Finset.min'_mem _ hready
    rw [orderLoop, dif_pos hready, placeReady, dif_pos hready,
      ← ih (hfirst.concat (mem_readyNodes.mp hmin).2.2)]
    dsimp only
    rw [removeParent_remainingAfter, readyNodes_concat hfirst hmin]
  | case2 ordered hready =>
    rw [orderLoop, dif_neg hready, placeReady, dif_neg hready]

/-- The order is what can be placed after its parents, and then what is left. -/
theorem topologicalOrderStepTxids_eq : topologicalOrderStepTxids planned txById =
      let ordered := placeReady planned.toFinset (inPlanParents planned txById) []
      ordered ++ (planned.filter fun txid => txid ∉ ordered).mergeSort (· ≤ ·) := by
  have hremaining : (planned.map fun txid => (txid, inPlanParents planned txById txid)) =
      remainingAfter planned txById [] := by
    simp [remainingAfter]
  have hready : (((remainingAfter planned txById []).filter
      fun entry => entry.2 = ∅).map (·.1)).toFinset =
      readyNodes planned.toFinset (inPlanParents planned txById) [] := by
    ext txid
    simp [remainingAfter, mem_readyNodes, Finset.eq_empty_iff_forall_notMem]
  simp only [topologicalOrderStepTxids, hremaining, hready,
    orderLoop_eq_placeReady parentsFirst_nil]
  split
  · rfl
  · rename_i hlength
    -- As many transactions as are planned, without repetition: none is left.
    have hplaced : (placeReady planned.toFinset (inPlanParents planned txById) []).Nodup :=
      nodup_placeReady List.nodup_nil
    have hsubset : placeReady planned.toFinset (inPlanParents planned txById) [] ⊆ planned := by
      intro txid hmem
      exact List.mem_toFinset.mp (placeReady_subset (List.forall_mem_nil _) txid hmem)
    have hperm := (List.subperm_of_subset hplaced hsubset).perm_of_length_le
      (Nat.le_of_not_lt hlength)
    have hleft : (planned.filter fun txid =>
        txid ∉ placeReady planned.toFinset (inPlanParents planned txById) []) = [] := by
      rw [List.filter_eq_nil_iff]
      intro txid hmem
      simpa using hperm.mem_iff.mpr hmem
    rw [hleft, List.mergeSort_nil, List.append_nil]

theorem mem_placeReady_planned
    (hmem : txid ∈ placeReady planned.toFinset (inPlanParents planned txById) []) :
    txid ∈ planned :=
  List.mem_toFinset.mp (placeReady_subset (List.forall_mem_nil _) txid hmem)

theorem mem_topologicalOrderStepTxids :
    txid ∈ topologicalOrderStepTxids planned txById ↔ txid ∈ planned := by
  rw [topologicalOrderStepTxids_eq]
  dsimp only
  rw [List.mem_append, (List.mergeSort_perm _ _).mem_iff, List.mem_filter, decide_eq_true_eq]
  constructor
  · intro h
    cases h with
    | inl hplaced => exact mem_placeReady_planned hplaced
    | inr hleft => exact hleft.1
  · intro hplanned
    by_cases hplaced : txid ∈ placeReady planned.toFinset (inPlanParents planned txById) []
    · exact .inl hplaced
    · exact .inr ⟨hplanned, hplaced⟩

theorem nodup_topologicalOrderStepTxids (hnodup : planned.Nodup) :
    (topologicalOrderStepTxids planned txById).Nodup := by
  rw [topologicalOrderStepTxids_eq]
  dsimp only
  rw [List.nodup_append, (List.mergeSort_perm _ _).nodup_iff]
  refine ⟨nodup_placeReady List.nodup_nil, hnodup.filter _, ?_⟩
  intro first hfirst second hsecond heq
  rw [(List.mergeSort_perm _ _).mem_iff, List.mem_filter, decide_eq_true_eq] at hsecond
  exact hsecond.2 (heq ▸ hfirst)

theorem parentsFirst_topologicalOrderStepTxids
    (hacyclic : AcyclicOn planned.toFinset (inPlanParents planned txById)) :
    ParentsFirst (inPlanParents planned txById) (topologicalOrderStepTxids planned txById) := by
  have hparents : ∀ txid ∈ planned.toFinset,
      inPlanParents planned txById txid ⊆ planned.toFinset := by
    intro txid _ parent hparent
    exact List.mem_toFinset.mpr (mem_inPlanParents.mp hparent).1
  have hleft : (planned.filter fun txid =>
      txid ∉ placeReady planned.toFinset (inPlanParents planned txById) []) = [] := by
    rw [List.filter_eq_nil_iff]
    intro txid hmem
    have hplaced := mem_placeReady_of_acyclicOn [] hacyclic hparents
      (List.mem_toFinset.mpr hmem)
    simpa using hplaced
  rw [topologicalOrderStepTxids_eq]
  dsimp only
  rw [hleft, List.mergeSort_nil, List.append_nil]
  exact parentsFirst_placeReady parentsFirst_nil

end Loop

section Plan

variable {branchLists : List (List Txid)} {txById : Txid → Option Transaction} {txid : Txid}

theorem planUniverse_invariant (txids planned : List Txid) (hplanned : planned.Nodup) :
    let final := txids.foldl
      (fun planned txid => if txid ∈ planned then planned else planned ++ [txid]) planned
    final.Nodup ∧ ∀ txid, txid ∈ final ↔ txid ∈ planned ∨ txid ∈ txids := by
  induction txids generalizing planned with
  | nil => simp [hplanned]
  | cons first txids ih =>
    rw [List.foldl_cons]
    split
    · rename_i hmem
      refine ⟨(ih planned hplanned).1, ?_⟩
      intro txid
      rw [(ih planned hplanned).2, List.mem_cons]
      constructor
      · exact Or.imp_right .inr
      · intro h
        rcases h with h | rfl | h
        · exact .inl h
        · exact .inl hmem
        · exact .inr h
    · rename_i hmem
      have hnext : (planned ++ [first]).Nodup := by
        rw [List.nodup_append]
        refine ⟨hplanned, List.nodup_singleton first, ?_⟩
        intro other hother last hlast heq
        rw [List.mem_singleton.mp hlast] at heq
        exact hmem (heq ▸ hother)
      refine ⟨(ih _ hnext).1, ?_⟩
      intro txid
      rw [(ih _ hnext).2, List.mem_append, List.mem_singleton, List.mem_cons, or_assoc]

theorem nodup_planUniverse : (planUniverse branchLists).Nodup :=
  (planUniverse_invariant branchLists.flatten [] List.nodup_nil).1

theorem mem_planUniverse :
    txid ∈ planUniverse branchLists ↔ ∃ branch ∈ branchLists, txid ∈ branch := by
  rw [planUniverse, (planUniverse_invariant branchLists.flatten [] List.nodup_nil).2]
  simp

/-- The parent and the child are in the plan and the child spends the parent. -/
def SpendsInPlan (branchLists : List (List Txid)) (txById : Txid → Option Transaction)
    (parent child : Txid) : Prop :=
  (∃ branch ∈ branchLists, parent ∈ branch) ∧ (∃ branch ∈ branchLists, child ∈ branch) ∧
    ∃ transaction, txById child = some transaction ∧
      ∃ input ∈ transaction.input, input.previousOutput.txid = parent

/-- No transaction of the plan spends itself through others of the plan. -/
def PlanAcyclic (branchLists : List (List Txid)) (txById : Txid → Option Transaction) : Prop :=
  ∀ txid, ¬Relation.TransGen (SpendsInPlan branchLists txById) txid txid

theorem acyclicOn_of_planAcyclic (hacyclic : PlanAcyclic branchLists txById) :
    AcyclicOn (planUniverse branchLists).toFinset
      (inPlanParents (planUniverse branchLists) txById) := by
  intro txid hcycle
  apply hacyclic txid
  apply Relation.TransGen.mono _ _ _ hcycle
  intro parent child hedge
  obtain ⟨hparent, hchild, hspends⟩ := hedge
  rw [List.mem_toFinset] at hparent hchild
  exact ⟨mem_planUniverse.mp hparent, mem_planUniverse.mp hchild, (mem_inPlanParents.mp hspends).2⟩

theorem inPlanParents_congr {first second : List Txid}
    (hsame : ∀ txid, txid ∈ first ↔ txid ∈ second) :
    inPlanParents first txById = inPlanParents second txById := by
  funext child
  ext parent
  rw [mem_inPlanParents, mem_inPlanParents, hsame]

theorem topologicalOrderStepTxids_congr {first second : List Txid} (hfirst : first.Nodup)
    (hsecond : second.Nodup) (hsame : ∀ txid, txid ∈ first ↔ txid ∈ second) :
    topologicalOrderStepTxids first txById = topologicalOrderStepTxids second txById := by
  have hset : first.toFinset = second.toFinset := by
    ext txid
    rw [List.mem_toFinset, List.mem_toFinset, hsame]
  have hperm : first.Perm second := (List.perm_ext_iff_of_nodup hfirst hsecond).mpr hsame
  rw [topologicalOrderStepTxids_eq, topologicalOrderStepTxids_eq, hset, inPlanParents_congr hsame]
  dsimp only
  congr 1
  apply List.Perm.eq_of_pairwise' (List.pairwise_mergeSort' _ _) (List.pairwise_mergeSort' _ _)
  exact (List.mergeSort_perm _ _).trans ((hperm.filter _).trans (List.mergeSort_perm _ _).symm)

/-- The merged order has every transaction of the branches once. Where the transactions spend
each other without a cycle, each comes after all it spends, and the order of the branches makes
no difference. -/
theorem merge_exit_branch_txids_orders_the_plan (branchLists : List (List Txid))
    (txById : Txid → Option Transaction) :
    (mergeExitBranchTxids branchLists txById).Nodup ∧
      (∀ txid, txid ∈ mergeExitBranchTxids branchLists txById ↔
        ∃ branch ∈ branchLists, txid ∈ branch) ∧
      (PlanAcyclic branchLists txById →
        (∀ before child after,
          mergeExitBranchTxids branchLists txById = before ++ child :: after →
            ∀ parent, SpendsInPlan branchLists txById parent child → parent ∈ before) ∧
        ∀ reordered, reordered.Perm branchLists →
          mergeExitBranchTxids reordered txById = mergeExitBranchTxids branchLists txById) := by
  refine ⟨nodup_topologicalOrderStepTxids nodup_planUniverse, ?_, ?_⟩
  · intro txid
    rw [mergeExitBranchTxids, mem_topologicalOrderStepTxids, mem_planUniverse]
  · intro hacyclic
    refine ⟨?_, ?_⟩
    · intro before child after heq parent hspends
      obtain ⟨hparent, -, hinput⟩ := hspends
      apply parentsFirst_topologicalOrderStepTxids
        (acyclicOn_of_planAcyclic hacyclic) before child after heq
      exact mem_inPlanParents.mpr ⟨mem_planUniverse.mpr hparent, hinput⟩
    · intro reordered hperm
      apply topologicalOrderStepTxids_congr nodup_planUniverse nodup_planUniverse
      intro txid
      simp only [mem_planUniverse, hperm.mem_iff]

theorem f_mem_lowerHexDigits : 'f' ∈ lowerHexDigits := by decide

theorem one_mem_lowerHexDigits : '1' ∈ lowerHexDigits := by decide

theorem two_mem_lowerHexDigits : '2' ∈ lowerHexDigits := by decide

def sharedTx : Txid := sampleTxid 'f' f_mem_lowerHexDigits

def firstLeafTx : Txid := sampleTxid '1' one_mem_lowerHexDigits

def secondLeafTx : Txid := sampleTxid '2' two_mem_lowerHexDigits

def sharedTxById (txid : Txid) : Option Transaction :=
  if txid = sharedTx then none
  else some { input := [{ previousOutput := { txid := sharedTx, vout := 0 } }] }

theorem planAcyclic_sharedTxById (branchLists : List (List Txid)) :
    PlanAcyclic branchLists sharedTxById := by
  apply acyclic_of_rank fun txid => if txid = sharedTx then 0 else 1
  intro parent child hedge
  obtain ⟨-, -, transaction, htx, input, hinput, hparent⟩ := hedge
  rw [sharedTxById] at htx
  split at htx
  · cases htx
  · rename_i hne
    cases htx
    rw [List.mem_singleton.mp hinput] at hparent
    rw [if_pos hparent.symm, if_neg hne]
    exact Nat.zero_lt_one

/-- Two branches with a common root, in either order. -/
theorem merge_exit_branch_txids_orders_two_branches :
    PlanAcyclic [[sharedTx, firstLeafTx], [sharedTx, secondLeafTx]] sharedTxById ∧
      mergeExitBranchTxids [[sharedTx, secondLeafTx], [sharedTx, firstLeafTx]] sharedTxById =
        mergeExitBranchTxids [[sharedTx, firstLeafTx], [sharedTx, secondLeafTx]] sharedTxById := by
  have hplan := merge_exit_branch_txids_orders_the_plan
    [[sharedTx, firstLeafTx], [sharedTx, secondLeafTx]] sharedTxById
  have hacyclic := planAcyclic_sharedTxById [[sharedTx, firstLeafTx], [sharedTx, secondLeafTx]]
  exact ⟨hacyclic, (hplan.2.2 hacyclic).2 _ (.swap _ _ _)⟩

end Plan

end Bitboard.Arkade
