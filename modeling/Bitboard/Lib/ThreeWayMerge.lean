/-
# Three-way merges of keyed tables

A writer reads a table as `base`, works on it for a while and ends with `finalized`.
Meanwhile the stored table became `latest`. The merge applies what changed between
`base` and `finalized` to `latest` and leaves the rest of `latest` alone.

Two tables are merged here: lists of rows that carry their own key, where a row is
never removed, and ordered maps, where a key that the writer dropped is removed.
`threeWay` and `threeWayOrRemove` say what happens at one key; the lookups of the
merged tables are these.
-/

import Bitboard.Lib.OrderedMap

namespace Bitboard.Lib

open BTreeMap

universe u v

section OneKey

variable {ρ : Type u} [DecidableEq ρ]

/-- The merged entry when an absence in `finalized` means no change. -/
def threeWay (latest base finalized : Option ρ) : Option ρ :=
  match finalized with
  | none => latest
  | some row => if base = some row then latest else some row

/-- The merged entry when an absence in `finalized` removes what `base` had. -/
def threeWayOrRemove (latest base finalized : Option ρ) : Option ρ :=
  match finalized with
  | none => if base.isSome then none else latest
  | some row => if base = some row then latest else some row

/-- A side that has not changed leaves the latest value. -/
@[simp]
theorem threeWay_self (latest base : Option ρ) : threeWay latest base base = latest := by
  cases base <;> simp [threeWay]

@[simp]
theorem threeWayOrRemove_self (latest base : Option ρ) :
    threeWayOrRemove latest base base = latest := by
  cases base <;> simp [threeWayOrRemove]

end OneKey

section Rows

variable {κ : Type u} {ρ : Type v} [Ord κ] [Std.TransOrd κ] [Std.LawfulEqOrd κ] [DecidableEq κ]
  (key : ρ → κ)

/-- The rows indexed by their key; a later row replaces an earlier one. -/
def indexRows (rows : List ρ) : BTreeMap κ ρ :=
  rows.foldl (fun table row => table.insert (key row) row) ∅

def rowAt (rows : List ρ) (k : κ) : Option ρ := rows.reverse.find? fun row => key row = k

def KeyedBy (table : BTreeMap κ ρ) : Prop := ∀ k row, table[k]? = some row → key row = k

/-- Rows in strictly increasing order of their keys, so no key occurs twice. -/
def KeySorted (rows : List ρ) : Prop :=
  rows.Pairwise fun left right => compare (key left) (key right) = .lt

theorem getElem?_foldl_insert (table : BTreeMap κ ρ) (rows : List ρ) (k : κ) :
    (rows.foldl (fun table row => table.insert (key row) row) table)[k]? =
      (rowAt key rows k).or table[k]? := by
  induction rows generalizing table with
  | nil => rfl
  | cons row rows ih =>
    rw [List.foldl_cons, ih, getElem?_insert_eq_ite, rowAt, rowAt, List.reverse_cons,
      List.find?_append, Option.or_assoc]
    congr 1
    by_cases h : key row = k <;> simp [h]

/-- A table made of rows has the last row of each key. -/
@[simp]
theorem getElem?_indexRows (rows : List ρ) (k : κ) :
    (indexRows key rows)[k]? = rowAt key rows k := by
  rw [indexRows, getElem?_foldl_insert, Std.ExtTreeMap.getElem?_empty, Option.or_none]

variable {rows : List ρ}

omit [Ord κ] [Std.TransOrd κ] [Std.LawfulEqOrd κ] in
/-- The row at a key is one of the rows and has the key. -/
theorem key_of_rowAt {k : κ} {row : ρ} (h : rowAt key rows k = some row) :
    row ∈ rows ∧ key row = k := by
  refine ⟨List.mem_reverse.mp (List.mem_of_find?_eq_some h), ?_⟩
  simpa using List.find?_some h

omit [Ord κ] [Std.TransOrd κ] [Std.LawfulEqOrd κ] in
/-- Where keys do not repeat, the row with a key is the one that is there. -/
theorem rowAt_eq_some_iff (hunique : (rows.map key).Nodup) {k : κ} {row : ρ} :
    rowAt key rows k = some row ↔ row ∈ rows ∧ key row = k := by
  refine ⟨key_of_rowAt key, ?_⟩
  rintro ⟨hmem, rfl⟩
  cases hrow : rowAt key rows (key row) with
  | none =>
    have hnone := List.find?_eq_none.mp hrow row (List.mem_reverse.mpr hmem)
    simp at hnone
  | some found =>
    obtain ⟨hfound, hkey⟩ := key_of_rowAt key hrow
    rw [List.inj_on_of_nodup_map hunique hfound hmem hkey]

omit [Ord κ] [Std.TransOrd κ] [Std.LawfulEqOrd κ] in
/-- No row is at a key that no row has. -/
theorem rowAt_eq_none_iff {k : κ} : rowAt key rows k = none ↔ ∀ row ∈ rows, key row ≠ k := by
  simp [rowAt]

/-- Each row of the table stands under its own key. -/
theorem keyedBy_indexRows (rows : List ρ) : KeyedBy key (indexRows key rows) := by
  intro k row hrow
  rw [getElem?_indexRows] at hrow
  exact (key_of_rowAt key hrow).2

variable {key}

omit [DecidableEq κ] in
/-- The values of a table in key order. -/
theorem keySorted_vals {table : BTreeMap κ ρ} (h : KeyedBy key table) :
    KeySorted key table.vals := by
  unfold KeySorted vals
  rw [List.pairwise_map]
  refine List.Pairwise.imp_of_mem ?_ (Std.ExtTreeMap.ordered_keys_toList (t := table))
  rintro ⟨k, row⟩ ⟨k', row'⟩ hrow hrow' hlt
  rw [h k row (mem_toList_iff.mp hrow), h k' row' (mem_toList_iff.mp hrow')]
  exact hlt

omit [Std.LawfulEqOrd κ] [DecidableEq κ] in
/-- Sorted rows have distinct keys. -/
theorem KeySorted.nodup (h : KeySorted key rows) : (rows.map key).Nodup := by
  rw [List.nodup_iff_pairwise_ne, List.pairwise_map]
  refine h.imp ?_
  intro left right hlt heq
  rw [heq, Std.ReflOrd.compare_self] at hlt
  cases hlt

/-- Looking among the rows of a table is looking into it. -/
theorem rowAt_vals {table : BTreeMap κ ρ} (h : KeyedBy key table) (k : κ) :
    rowAt key table.vals k = table[k]? := by
  have hunique := (keySorted_vals h).nodup
  cases hentry : table[k]? with
  | none =>
    rw [rowAt_eq_none_iff]
    intro row hrow heq
    obtain ⟨k', hk'⟩ := mem_vals_iff.mp hrow
    rw [← h k' row hk', heq, hentry] at hk'
    cases hk'
  | some row =>
    rw [rowAt_eq_some_iff key hunique]
    exact ⟨mem_vals_iff.mpr ⟨k, hentry⟩, h k row hentry⟩

/-- Rows with distinct keys are the rows of their table. -/
theorem vals_indexRows_perm (hunique : (rows.map key).Nodup) :
    (indexRows key rows).vals.Perm rows := by
  have hsorted := keySorted_vals (keyedBy_indexRows key rows)
  rw [List.perm_ext_iff_of_nodup hsorted.nodup.of_map hunique.of_map]
  intro row
  rw [mem_vals_iff]
  simp only [getElem?_indexRows, rowAt_eq_some_iff key hunique]
  exact ⟨fun ⟨_, hmem, _⟩ => hmem, fun hmem => ⟨key row, hmem, rfl⟩⟩

/-- Sorted rows come out of their table as they went in. -/
theorem vals_indexRows_of_keySorted (h : KeySorted key rows) :
    (indexRows key rows).vals = rows := by
  refine List.Perm.eq_of_pairwise ?_ (keySorted_vals (keyedBy_indexRows key rows)) h
    (vals_indexRows_perm h.nodup)
  intro left right _ _ hlt hgt
  rw [Std.OrientedOrd.eq_swap, hgt] at hlt
  cases hlt

end Rows

section MergeRows

variable {κ : Type u} {ρ : Type v} [Ord κ] [Std.TransOrd κ] [Std.LawfulEqOrd κ] [DecidableEq κ]
  [DecidableEq ρ] (key : ρ → κ)

/-- The rows of `finalized` that differ from `base` written over `latest`. -/
def overlayRows (latest base finalized : List ρ) : BTreeMap κ ρ :=
  finalized.foldl
    (fun table row =>
      if (indexRows key base)[key row]? = some row then table else table.insert (key row) row)
    (indexRows key latest)

/-- The overlay writes the changed rows over the latest ones. -/
theorem overlayRows_eq (latest base finalized : List ρ) :
    overlayRows key latest base finalized =
      (finalized.filter fun row => rowAt key base (key row) ≠ some row).foldl
        (fun table row => table.insert (key row) row) (indexRows key latest) := by
  simp only [overlayRows, getElem?_indexRows, List.foldl_filter]
  congr 1
  funext table row
  by_cases h : rowAt key base (key row) = some row <;> simp [h]

theorem keyedBy_overlayRows (latest base finalized : List ρ) :
    KeyedBy key (overlayRows key latest base finalized) := by
  intro k row hrow
  rw [overlayRows_eq, getElem?_foldl_insert, Option.or_eq_some_iff] at hrow
  rcases hrow with hnew | ⟨-, hlatest⟩
  · exact (key_of_rowAt key hnew).2
  · exact keyedBy_indexRows key latest k row hlatest

variable {latest : List ρ}

/-- The merge at one key, when `finalized` has no key twice. -/
theorem getElem?_overlayRows {base finalized : List ρ} (hunique : (finalized.map key).Nodup)
    (k : κ) :
    (overlayRows key latest base finalized)[k]? =
      threeWay (rowAt key latest k) (rowAt key base k) (rowAt key finalized k) := by
  rw [overlayRows_eq, getElem?_foldl_insert, getElem?_indexRows]
  have hfiltered : ((finalized.filter fun row =>
      rowAt key base (key row) ≠ some row).map key).Nodup :=
    hunique.sublist (List.filter_sublist.map key)
  cases hfinal : rowAt key finalized k with
  | none =>
    have hnone : rowAt key (finalized.filter fun row =>
        rowAt key base (key row) ≠ some row) k = none := by
      rw [rowAt_eq_none_iff] at hfinal ⊢
      exact fun row hrow => hfinal row (List.mem_of_mem_filter hrow)
    rw [hnone]
    rfl
  | some row =>
    obtain ⟨hmem, rfl⟩ := key_of_rowAt key hfinal
    by_cases hsame : rowAt key base (key row) = some row
    · have hnone : rowAt key (finalized.filter fun row =>
          rowAt key base (key row) ≠ some row) (key row) = none := by
        rw [rowAt_eq_none_iff]
        intro other hother heq
        obtain ⟨hotherMem, hchanged⟩ := List.mem_filter.mp hother
        cases List.inj_on_of_nodup_map hunique hotherMem hmem heq
        simp [hsame] at hchanged
      rw [hnone, threeWay, if_pos hsame]
      rfl
    · have hsome : rowAt key (finalized.filter fun row =>
          rowAt key base (key row) ≠ some row) (key row) = some row := by
        rw [rowAt_eq_some_iff key hfiltered]
        exact ⟨List.mem_filter.mpr ⟨hmem, by simpa using hsame⟩, rfl⟩
      rw [hsome, threeWay, if_neg hsame]
      rfl

/-- A row of the overlay is a latest one, or one that has changed. -/
theorem mem_vals_overlayRows {base finalized : List ρ} {row : ρ}
    (h : row ∈ (overlayRows key latest base finalized).vals) :
    row ∈ latest ∨ (row ∈ finalized ∧ rowAt key base (key row) ≠ some row) := by
  obtain ⟨k, hrow⟩ := mem_vals_iff.mp h
  rw [overlayRows_eq, getElem?_foldl_insert, Option.or_eq_some_iff] at hrow
  rcases hrow with hnew | ⟨-, hlatest⟩
  · obtain ⟨hfinalized, hchanged⟩ := List.mem_filter.mp (key_of_rowAt key hnew).1
    exact Or.inr ⟨hfinalized, of_decide_eq_true hchanged⟩
  · rw [getElem?_indexRows] at hlatest
    exact Or.inl (key_of_rowAt key hlatest).1

/-- Without a change the overlay is the latest table. -/
theorem overlayRows_self {base : List ρ} (hunique : (base.map key).Nodup) :
    overlayRows key latest base base = indexRows key latest := by
  refine Std.ExtTreeMap.ext_getElem? fun k => ?_
  rw [getElem?_overlayRows key hunique, threeWay_self, getElem?_indexRows]

/-- Merges of different rows may come in either order. -/
theorem overlayRows_comm {firstBase first secondBase second : List ρ}
    (hfirst : (first.map key).Nodup) (hsecond : (second.map key).Nodup)
    (happart : ∀ k, rowAt key first k = rowAt key firstBase k ∨
      rowAt key second k = rowAt key secondBase k) :
    overlayRows key (overlayRows key latest firstBase first).vals secondBase second =
      overlayRows key (overlayRows key latest secondBase second).vals firstBase first := by
  apply Std.ExtTreeMap.ext_getElem?
  intro k
  rw [getElem?_overlayRows key hsecond, getElem?_overlayRows key hfirst,
    rowAt_vals (keyedBy_overlayRows key _ _ _), rowAt_vals (keyedBy_overlayRows key _ _ _),
    getElem?_overlayRows key hfirst, getElem?_overlayRows key hsecond]
  rcases happart k with hsame | hsame
  · rw [hsame, threeWay_self, threeWay_self]
  · rw [hsame, threeWay_self, threeWay_self]

end MergeRows

section MergeMaps

variable {κ : Type u} {ρ : Type v} [Ord κ] [Std.TransOrd κ] [Std.LawfulEqOrd κ] [DecidableEq κ]
  [DecidableEq ρ]

/-- The entries of `finalized` that differ from `base` written over `latest`, and the keys that
`finalized` dropped removed. -/
def overlayMap (latest base finalized : BTreeMap κ ρ) : BTreeMap κ ρ :=
  let written := finalized.toList.foldl
    (fun table (k, row) => if base[k]? = some row then table else table.insert k row) latest
  base.keys.foldl
    (fun table k => if finalized.contains k then table else table.erase k) written

variable (table : BTreeMap κ ρ)

/-- Writing the changed entries merges every key in three ways. -/
theorem getElem?_foldl_write (base : BTreeMap κ ρ) {entries : List (κ × ρ)}
    (hunique : (entries.map Prod.fst).Nodup) (k : κ) :
    (entries.foldl
      (fun table (k, row) => if base[k]? = some row then table else table.insert k row)
      table)[k]? =
      threeWay table[k]? base[k]? (entries.lookup k) := by
  induction entries generalizing table with
  | nil => rfl
  | cons entry entries ih =>
    obtain ⟨k', row⟩ := entry
    rw [List.map_cons, List.nodup_cons] at hunique
    rw [List.foldl_cons, ih _ hunique.2, List.lookup_cons]
    by_cases hkey : k = k'
    · subst hkey
      have hnone : entries.lookup k = none := by
        rw [List.lookup_eq_none_iff]
        intro entry hmem
        refine bne_iff_ne.mpr fun heq => hunique.1 ?_
        exact List.mem_map.mpr ⟨entry, hmem, heq.symm⟩
      rw [hnone, beq_self_eq_true]
      by_cases hsame : base[k]? = some row <;> simp [threeWay, hsame]
    · rw [beq_eq_false_iff_ne.mpr hkey]
      by_cases hsame : base[k']? = some row <;> simp [hsame, Ne.symm hkey]

omit [DecidableEq ρ] in
/-- Keys that were dropped and not written again are removed. -/
theorem getElem?_foldl_remove (finalized : BTreeMap κ ρ) (dropped : List κ) (k : κ) :
    (dropped.foldl
      (fun table k => if finalized.contains k then table else table.erase k) table)[k]? =
      if k ∈ dropped ∧ finalized[k]? = none then none else table[k]? := by
  induction dropped generalizing table with
  | nil => simp
  | cons k' dropped ih =>
    rw [List.foldl_cons, ih]
    by_cases hkey : k' = k
    · subst hkey
      cases hcontains : finalized.contains k' with
      | false => simp [contains_eq_false_iff.mp hcontains]
      | true =>
        have hsome : finalized[k']? ≠ none := fun hnone => by
          rw [contains_eq_false_iff.mpr hnone] at hcontains
          cases hcontains
        simp [hsome]
    · cases finalized.contains k' <;> simp [hkey, Ne.symm hkey]

omit [DecidableEq ρ] in
theorem lookup_toList (k : κ) : table.toList.lookup k = table[k]? := by
  cases hfound : table.toList.lookup k with
  | none =>
    rw [List.lookup_eq_none_iff] at hfound
    cases hentry : table[k]? with
    | none => rfl
    | some row =>
      exact absurd rfl (bne_iff_ne.mp (hfound (k, row) (mem_toList_iff.mpr hentry)))
  | some row =>
    obtain ⟨before, after, hsplit, -⟩ := List.lookup_eq_some_iff.mp hfound
    have hmem : (k, row) ∈ table.toList := by
      rw [hsplit]
      exact List.mem_append_right before List.mem_cons_self
    exact (mem_toList_iff.mp hmem).symm

/-- The overlay merges every key in three ways, removals included. -/
theorem getElem?_overlayMap (latest base finalized : BTreeMap κ ρ) (k : κ) :
    (overlayMap latest base finalized)[k]? =
      threeWayOrRemove latest[k]? base[k]? finalized[k]? := by
  have hwritten := getElem?_foldl_write latest base (nodup_map_fst_toList finalized) k
  rw [lookup_toList] at hwritten
  have hkeys : k ∈ base.keys ↔ base[k]?.isSome = true := by
    rw [Std.ExtTreeMap.mem_keys, Std.ExtTreeMap.mem_iff_isSome_getElem?]
  unfold overlayMap
  rw [getElem?_foldl_remove, hwritten]
  simp only [hkeys]
  cases finalized[k]? <;> cases base[k]? <;> simp [threeWay, threeWayOrRemove]

end MergeMaps

end Bitboard.Lib
