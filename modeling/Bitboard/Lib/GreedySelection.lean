/-
# Greedy selection

Items with weights are selected within a budget, where a selected item can rule others out. A
selection in rounds takes the first item that can still be selected, again and again; a selection
in one pass goes through the items once. Since an item that cannot be selected can never be selected
later, both select the same.

What is selected is a sublist of the items, fits the budget, has no two items that rule each other
out, and cannot be extended.
-/

import Mathlib.Algebra.BigOperators.Group.List.Basic
import Mathlib.Algebra.GroupWithZero.Nat

namespace Bitboard.Lib

universe u

variable {α : Type u} (weight : α → Nat) (rulesOut : α → α → Bool)

/-- The item fits what is left of the budget, and no selected item rules it out. -/
def canSelect (selected : List α) (budget : Nat) (item : α) : Bool :=
  decide (weight item ≤ budget) && !(selected.any fun other => rulesOut other item)

/-- In each round the first item is taken that can be. -/
def selectInRounds (items : List α) : Nat → List α → Nat → List α
  | 0, selected, _ => selected
  | rounds + 1, selected, budget =>
    match items.find? (canSelect weight rulesOut selected budget) with
    | none => selected
    | some item => selectInRounds items rounds (selected ++ [item]) (budget - weight item)

/-- Each item is taken when it is reached, if it can be. -/
def selectInOnePass : List α → List α → Nat → List α
  | [], selected, _ => selected
  | item :: items, selected, budget =>
    if canSelect weight rulesOut selected budget item then
      selectInOnePass items (selected ++ [item]) (budget - weight item)
    else selectInOnePass items selected budget

variable {weight rulesOut} {items selected : List α} {budget : Nat} {item other : α}

/-- An item can be selected if it fits and no selected one rules it out. -/
theorem canSelect_eq_true_iff :
    canSelect weight rulesOut selected budget item = true ↔
      weight item ≤ budget ∧ ∀ taken ∈ selected, rulesOut taken item = false := by
  simp [canSelect]

/-- What cannot be selected cannot be selected later. -/
theorem canSelect_eq_false_of_append
    (h : canSelect weight rulesOut selected budget item = false) (taken : List α) (used : Nat) :
    canSelect weight rulesOut (selected ++ taken) (budget - used) item = false := by
  rw [Bool.eq_false_iff] at h ⊢
  intro hlater
  apply h
  obtain ⟨hweight, hfree⟩ := canSelect_eq_true_iff.mp hlater
  apply canSelect_eq_true_iff.mpr
  constructor
  · omega
  · intro earlier hearlier
    exact hfree earlier (List.mem_append_left _ hearlier)

/-- A selected item cannot be selected again. -/
theorem canSelect_eq_false_of_self (hself : ∀ item, rulesOut item item = true) (used : Nat) :
    canSelect weight rulesOut (selected ++ [item]) (budget - used) item = false := by
  rw [Bool.eq_false_iff]
  intro hselect
  have hfree := (canSelect_eq_true_iff.mp hselect).2 item (by simp)
  rw [hself] at hfree
  cases hfree

/-- Rounds and one pass select the same. What stands before the rest has been passed: it cannot
be selected. -/
theorem selectInRounds_eq_selectInOnePass (hself : ∀ item, rulesOut item item = true)
    {passed rest : List α}
    (hpassed : ∀ item ∈ passed, canSelect weight rulesOut selected budget item = false)
    {rounds : Nat} (hrounds : rest.length ≤ rounds) :
    selectInRounds weight rulesOut (passed ++ rest) rounds selected budget =
      selectInOnePass weight rulesOut rest selected budget := by
  induction rest generalizing passed selected budget rounds with
  | nil =>
    cases rounds with
    | zero => rfl
    | succ rounds =>
      have hnone : (passed ++ []).find? (canSelect weight rulesOut selected budget) = none := by
        rw [List.append_nil, List.find?_eq_none]
        intro item hitem
        rw [hpassed item hitem]
        exact Bool.false_ne_true
      rw [selectInRounds, hnone]
      rfl
  | cons item rest ih =>
    rw [selectInOnePass]
    have hregroup : passed ++ item :: rest = (passed ++ [item]) ++ rest := by
      rw [List.append_assoc, List.singleton_append]
    split
    · rename_i hselect
      cases rounds with
      | zero => cases hrounds
      | succ rounds =>
        have hfind : (passed ++ item :: rest).find?
            (canSelect weight rulesOut selected budget) = some item := by
          rw [List.find?_append, List.find?_eq_none.mpr, Option.none_or,
            List.find?_cons_of_pos hselect]
          intro earlier hearlier
          rw [hpassed earlier hearlier]
          exact Bool.false_ne_true
        rw [selectInRounds, hfind]
        dsimp only
        rw [hregroup]
        apply ih
        · intro earlier hearlier
          cases List.mem_append.mp hearlier with
          | inl hold => exact canSelect_eq_false_of_append (hpassed earlier hold) _ _
          | inr hnew =>
            rw [List.mem_singleton.mp hnew]
            exact canSelect_eq_false_of_self hself _
        · exact Nat.le_of_succ_le_succ hrounds
    · rename_i hselect
      rw [hregroup]
      apply ih
      · intro earlier hearlier
        cases List.mem_append.mp hearlier with
        | inl hold => exact hpassed earlier hold
        | inr hnew =>
          rw [List.mem_singleton.mp hnew]
          exact Bool.eq_false_iff.mpr hselect
      · exact Nat.le_of_succ_le hrounds

structure SelectsMaximally (weight : α → Nat) (rulesOut : α → α → Bool) (items selected : List α)
    (budget : Nat) (added : List α) : Prop where
  sublist : added.Sublist items
  fits : (added.map weight).sum ≤ budget
  free : added.Pairwise fun first second => rulesOut first second = false
  apart : ∀ taken ∈ selected, ∀ item ∈ added, rulesOut taken item = false
  maximal : ∀ item ∈ items, canSelect weight rulesOut (selected ++ added)
    (budget - (added.map weight).sum) item = false

/-- One pass selects maximally, in the order of the items. -/
theorem selectInOnePass_spec (hself : ∀ item, rulesOut item item = true) (items : List α)
    (selected : List α) (budget : Nat) :
    ∃ added, selectInOnePass weight rulesOut items selected budget = selected ++ added ∧
      SelectsMaximally weight rulesOut items selected budget added := by
  induction items generalizing selected budget with
  | nil =>
    refine ⟨[], ?_, ?_⟩
    · rw [selectInOnePass, List.append_nil]
    · constructor <;> simp
  | cons item items ih =>
    rw [selectInOnePass]
    split
    · rename_i hselect
      obtain ⟨hweight, hfree⟩ := canSelect_eq_true_iff.mp hselect
      obtain ⟨added, heq, hadded⟩ := ih (selected ++ [item]) (budget - weight item)
      refine ⟨item :: added, ?_, ?_⟩
      · rw [heq, List.append_assoc, List.singleton_append]
      have hbudget : budget - weight item - (added.map weight).sum =
          budget - ((item :: added).map weight).sum := by
        rw [List.map_cons, List.sum_cons, Nat.sub_sub]
      constructor
      · exact hadded.sublist.cons_cons item
      · have hfits := hadded.fits
        rw [List.map_cons, List.sum_cons]
        omega
      · apply List.pairwise_cons.mpr
        refine ⟨?_, hadded.free⟩
        intro later hlater
        exact hadded.apart item (by simp) later hlater
      · intro taken htaken later hlater
        cases List.mem_cons.mp hlater with
        | inl hsame =>
          rw [hsame]
          exact hfree taken htaken
        | inr hmem => exact hadded.apart taken (List.mem_append_left _ htaken) later hmem
      · intro other hother
        rw [← hbudget, ← List.singleton_append, ← List.append_assoc]
        cases List.mem_cons.mp hother with
        | inl hsame =>
          have htaken : canSelect weight rulesOut (selected ++ [item])
              (budget - weight item) item = false := canSelect_eq_false_of_self hself _
          rw [hsame]
          exact canSelect_eq_false_of_append htaken added _
        | inr hmem => exact hadded.maximal other hmem
    · rename_i hselect
      obtain ⟨added, heq, hadded⟩ := ih selected budget
      refine ⟨added, heq, ?_⟩
      constructor
      · exact hadded.sublist.cons item
      · exact hadded.fits
      · exact hadded.free
      · exact hadded.apart
      · intro other hother
        cases List.mem_cons.mp hother with
        | inl hsame =>
          rw [hsame]
          exact canSelect_eq_false_of_append (Bool.eq_false_iff.mpr hselect) added _
        | inr hmem => exact hadded.maximal other hmem

/-- What is selected first stays selected when more items follow. -/
theorem exists_selectInOnePass_append (items more selected : List α) (budget : Nat) :
    ∃ taken : List α, taken.Sublist more ∧
      selectInOnePass weight rulesOut (items ++ more) selected budget =
        selectInOnePass weight rulesOut items selected budget ++ taken := by
  induction items generalizing selected budget with
  | nil =>
    rw [List.nil_append, selectInOnePass]
    induction more generalizing selected budget with
    | nil => exact ⟨[], .slnil, by rw [selectInOnePass, List.append_nil]⟩
    | cons item more ih =>
      rw [selectInOnePass]
      split
      · obtain ⟨taken, hmore, htaken⟩ := ih (selected ++ [item]) (budget - weight item)
        refine ⟨item :: taken, hmore.cons_cons item, ?_⟩
        rw [htaken, List.append_assoc, List.singleton_append]
      · obtain ⟨taken, hmore, htaken⟩ := ih selected budget
        exact ⟨taken, hmore.cons item, htaken⟩
  | cons item items ih =>
    rw [List.cons_append, selectInOnePass, selectInOnePass]
    split
    · exact ih _ _
    · exact ih _ _

end Bitboard.Lib
