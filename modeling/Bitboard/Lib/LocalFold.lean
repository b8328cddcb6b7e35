/-
# Folds whose steps act on disjoint parts of the state

A loop over distinct indices often touches, at index `i`, only the part of the
state that belongs to `i`. Seen through a projection that a single index can
change, such a loop acts at most once. The statement is about an arbitrary
projection, so the same rule serves one entry of a map, one row of a table or a
pair of both.
-/

import Mathlib.Data.List.Nodup

namespace Bitboard.Lib

universe u v w

variable {σ : Type u} {ι : Type v} {α : Type w}

/-- A fold that leaves an index out does not change its part. -/
theorem foldl_project_of_notMem {step : σ → ι → σ} (inv : σ → Prop) {project : σ → α} {index : ι}
    (hinv : ∀ state i, inv state → inv (step state i))
    (hother : ∀ state i, inv state → i ≠ index →
      project (step state i) = project state)
    {indices : List ι} (hmem : index ∉ indices) {start : σ} (hstart : inv start) :
    project (indices.foldl step start) = project start := by
  induction indices generalizing start with
  | nil => rfl
  | cons i indices ih =>
    rw [List.mem_cons, not_or] at hmem
    rw [List.foldl_cons, ih hmem.2 (hinv start i hstart)]
    exact hother start i hstart (Ne.symm hmem.1)

/-- A fold over distinct indices changes the part of each once. -/
theorem foldl_project [DecidableEq ι] {step : σ → ι → σ} (inv : σ → Prop)
    {project : σ → α} (effect : α → α) {index : ι}
    (hinv : ∀ state i, inv state → inv (step state i))
    (hself : ∀ state, inv state → project (step state index) = effect (project state))
    (hother : ∀ state i, inv state → i ≠ index →
      project (step state i) = project state)
    {indices : List ι} (hnodup : indices.Nodup) {start : σ} (hstart : inv start) :
    project (indices.foldl step start) =
      if index ∈ indices then effect (project start) else project start := by
  induction indices generalizing start with
  | nil => rfl
  | cons i indices ih =>
    rw [List.nodup_cons] at hnodup
    rw [List.foldl_cons]
    by_cases hi : i = index
    · subst i
      rw [foldl_project_of_notMem inv hinv hother hnodup.1 (hinv start index hstart),
        hself start hstart, if_pos List.mem_cons_self]
    · rw [ih hnodup.2 (hinv start i hstart), hother start i hstart hi]
      simp only [List.mem_cons, Ne.symm hi, false_or]

end Bitboard.Lib
