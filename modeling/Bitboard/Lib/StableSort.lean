/-
# Sorting with a comparator

A comparator answers with a negative number where the first argument belongs before the second
one. A stable sort orders items on which the comparator is a strict weak order, and promises no
more than a permutation of any others. Insertion is such a sort.
-/

import Mathlib.Data.List.Sort

namespace Bitboard.Lib

universe u

variable {α : Type u} {cmp : α → α → Int} {items : List α}

/-- The comparator is a strict weak order on the items. -/
structure StrictWeakOrderOn (cmp : α → α → Int) (items : List α) : Prop where
  self_eq : ∀ x ∈ items, cmp x x = 0
  pos_iff : ∀ x ∈ items, ∀ y ∈ items, 0 < cmp x y ↔ cmp y x < 0
  trans : ∀ x ∈ items, ∀ y ∈ items, ∀ z ∈ items, cmp x y < 0 → cmp y z < 0 → cmp x z < 0
  tie_trans : ∀ x ∈ items, ∀ y ∈ items, ∀ z ∈ items, cmp x y = 0 → cmp y z = 0 → cmp x z = 0

namespace StrictWeakOrderOn

/-- Not belonging behind is transitive on the items. -/
theorem le_trans (h : StrictWeakOrderOn cmp items) {x y z : α} (hx : x ∈ items) (hy : y ∈ items)
    (hz : z ∈ items) (hxy : cmp x y ≤ 0) (hyz : cmp y z ≤ 0) : cmp x z ≤ 0 := by
  by_contra hlt
  have hzx : cmp z x < 0 := (h.pos_iff x hx z hz).mp (Int.not_le.mp hlt)
  cases Int.lt_or_eq_of_le hxy with
  | inl hbefore =>
    have hzy : cmp z y < 0 := h.trans z hz x hx y hy hzx hbefore
    have hpos : 0 < cmp y z := (h.pos_iff y hy z hz).mpr hzy
    omega
  | inr htie =>
    cases Int.lt_or_eq_of_le hyz with
    | inl hbefore =>
      have hyx : cmp y x < 0 := h.trans y hy z hz x hx hbefore hzx
      have hpos : 0 < cmp x y := (h.pos_iff x hx y hy).mpr hyx
      omega
    | inr hsame =>
      have hzero : cmp x z = 0 := h.tie_trans x hx y hy z hz htie hsame
      omega

end StrictWeakOrderOn

/-- A stable sort permutes the items. Where the comparator is a strict weak order, the result is
in order, and items that belong nowhere before each other stay as they were. -/
structure IsStableSort (sort : (α → α → Int) → List α → List α) : Prop where
  perm : ∀ cmp items, (sort cmp items).Perm items
  sorted : ∀ cmp items, StrictWeakOrderOn cmp items →
    (sort cmp items).Pairwise fun x y => cmp x y ≤ 0
  stable : ∀ cmp items, StrictWeakOrderOn cmp items →
    ∀ x y, cmp x y = 0 → [x, y].Sublist items → [x, y].Sublist (sort cmp items)

/-- Insertion by a comparator that puts an item before those it ties with. -/
def insertionSort (cmp : α → α → Int) : List α → List α :=
  List.insertionSort fun x y => cmp x y ≤ 0

/-- On the items themselves the comparator is a total preorder, so that they are sorted as a list
of members, whose values are then taken. -/
theorem insertionSort_pairwise (h : StrictWeakOrderOn cmp items) :
    (insertionSort cmp items).Pairwise fun x y => cmp x y ≤ 0 := by
  let before (x y : { x // x ∈ items }) : Prop := cmp x y ≤ 0
  have htotal : Std.Total before := by
    refine ⟨fun x y => ?_⟩
    by_contra hneither
    have hpos := (h.pos_iff x x.2 y y.2).mp (Int.not_le.mp fun hle => hneither (.inl hle))
    exact hneither (.inr (Int.le_of_lt hpos))
  have htrans : IsTrans _ before :=
    ⟨fun x y z hxy hyz => h.le_trans x.2 y.2 z.2 hxy hyz⟩
  have hvalues : (items.attach.insertionSort before).map Subtype.val = insertionSort cmp items := by
    rw [List.map_insertionSort before (fun x y => cmp x y ≤ 0) Subtype.val items.attach
      fun _ _ _ _ => Iff.rfl, List.attach_map_subtype_val]
    rfl
  rw [← hvalues, List.pairwise_map]
  exact List.pairwise_insertionSort before items.attach

/-- Insertion keeps every promise of a stable sort. -/
theorem insertionSort_isStableSort : IsStableSort (insertionSort (α := α)) where
  perm _ items := List.perm_insertionSort _ items
  sorted _ _ := insertionSort_pairwise
  stable _ _ _ _ _ htie hsub :=
    List.pair_sublist_insertionSort (Int.le_of_eq htie) hsub

end Bitboard.Lib
