/-
# Histories whose entries are allowed by what came before

A system that writes down what it does leaves a list of entries, oldest first. A safety
property of such a history says of each entry what may stand before it. A history that grows
by one entry keeps the property if the new entry is allowed after all the old ones.
-/

import Mathlib.Data.List.Basic

namespace Bitboard.Lib

universe u

variable {ρ : Type u}

/-- Every entry is allowed by the entries before it. -/
def EachAllowed (allowed : List ρ → ρ → Prop) (history : List ρ) : Prop :=
  ∀ before entry after, history = before ++ entry :: after → allowed before entry

theorem eachAllowed_nil (allowed : List ρ → ρ → Prop) : EachAllowed allowed [] := by
  intro before entry after h
  have hlength := congrArg List.length h
  simp at hlength

/-- A history is extended by an entry that it allows, and by no other. -/
theorem eachAllowed_append_singleton {allowed : List ρ → ρ → Prop} {history : List ρ} {entry : ρ} :
    EachAllowed allowed (history ++ [entry]) ↔
      EachAllowed allowed history ∧ allowed history entry := by
  constructor
  · intro h
    constructor
    · intro before other after hsplit
      apply h before other (after ++ [entry])
      rw [hsplit, List.append_assoc, List.cons_append]
    · exact h history entry [] rfl
  · intro h before other after hsplit
    cases List.eq_nil_or_concat after with
    | inl hnil =>
      rw [hnil] at hsplit
      have hparts := List.append_inj' hsplit rfl
      rw [← hparts.1, ← (List.cons.inj hparts.2).1]
      exact h.2
    | inr hconcat =>
      obtain ⟨rest, last, hafter⟩ := hconcat
      rw [hafter, List.concat_eq_append, ← List.cons_append, ← List.append_assoc] at hsplit
      have hparts := List.append_inj' hsplit rfl
      exact h.1 before other rest hparts.1

end Bitboard.Lib
