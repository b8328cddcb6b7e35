/-
# Ordered maps

`Std.ExtTreeMap` is the extensional ordered map: two maps with the same lookups
are equal and iteration follows the key order. This module adds the few facts
about it that a model of an ordered dictionary needs and the library leaves in
a dependent form: lookups after `filter`, lookups after a loop that updates
entries by key, and decidable equality.
-/

import Mathlib.Data.Finset.Basic

namespace Bitboard.Lib

/-- The ordered dictionary on keys compared by their `Ord` instance. -/
abbrev BTreeMap (α : Type*) (β : Type*) [Ord α] := Std.ExtTreeMap α β compare

/-- The ordered set on elements compared by their `Ord` instance. -/
abbrev BTreeSet (α : Type*) [Ord α] := Std.ExtTreeSet α compare

theorem lawfulEqCmp_compareOn {α β : Type*} [Ord β] [Std.LawfulEqOrd β] {f : α → β}
    (hf : ∀ a b, f a = f b → a = b) : Std.LawfulEqCmp (compareOn f) where
  compare_self := Std.ReflOrd.compare_self
  eq_of_compare h := hf _ _ (Std.LawfulEqOrd.eq_of_compare h)

namespace BTreeMap

variable {α β γ : Type*} [Ord α] [Std.TransOrd α] [Std.LawfulEqOrd α]

instance [DecidableEq α] [DecidableEq β] : DecidableEq (BTreeMap α β) :=
  fun _ _ => decidable_of_iff _ Std.ExtTreeMap.toList_inj

/-- What an insertion stores under a key. -/
@[simp]
theorem getElem?_insert_eq_ite [DecidableEq α] (t : BTreeMap α β) (k a : α) (v : β) :
    (t.insert k v)[a]? = if k = a then some v else t[a]? := by
  simp [Std.ExtTreeMap.getElem?_insert]

/-- What a removal leaves under a key. -/
@[simp]
theorem getElem?_erase_eq_ite [DecidableEq α] (t : BTreeMap α β) (k a : α) :
    (t.erase k)[a]? = if k = a then none else t[a]? := by
  simp [Std.ExtTreeMap.getElem?_erase]

/-- What an update makes of a key. -/
@[simp]
theorem getElem?_modify_eq_ite [DecidableEq α] (t : BTreeMap α β) (k a : α) (f : β → β) :
    (t.modify k f)[a]? = if k = a then t[a]?.map f else t[a]? := by
  rw [Std.ExtTreeMap.getElem?_modify]
  by_cases h : k = a
  · subst h
    simp
  · simp [h]

/-- A filter looks at each entry alone. -/
@[simp]
theorem getElem?_filter_eq (t : BTreeMap α β) (f : α → β → Bool) (k : α) :
    (t.filter f)[k]? = t[k]?.filter (f k) := by
  rw [Std.ExtTreeMap.getElem?_filter']

omit [Std.LawfulEqOrd α] in
theorem contains_eq_false_iff {t : BTreeMap α β} {k : α} : t.contains k = false ↔ t[k]? = none := by
  rw [Std.ExtTreeMap.contains_eq_isSome_getElem?, Option.isSome_eq_false_iff,
    Option.isNone_iff_eq_none]

variable {t : BTreeMap α β}

theorem mem_toList_iff {k : α} {v : β} : (k, v) ∈ t.toList ↔ t[k]? = some v :=
  Std.ExtTreeMap.mem_toList_iff_getElem?_eq_some

/-- The keys after several insertions. -/
theorem mem_insertMany_iff [DecidableEq α] {entries : List (α × β)} {k : α} :
    k ∈ t.insertMany entries ↔ k ∈ t ∨ ∃ v, (k, v) ∈ entries := by
  rw [Std.ExtTreeMap.mem_insertMany_list, List.contains_iff_mem]
  simp

/-- Where the entered values of a key agree, the map has that value. -/
theorem getElem?_insertMany_of_agree [DecidableEq α]
    {entries : List (α × β)} {k : α} {v : β} (hmem : (k, v) ∈ entries)
    (hagree : ∀ w, (k, w) ∈ entries → w = v) : (t.insertMany entries)[k]? = some v := by
  induction entries generalizing t with
  | nil => cases hmem
  | cons entry entries ih =>
    obtain ⟨key, value⟩ := entry
    rw [Std.ExtTreeMap.insertMany_cons]
    by_cases hlater : ∃ w, (k, w) ∈ entries
    · obtain ⟨w, hw⟩ := hlater
      have hwv : w = v := hagree w (List.mem_cons_of_mem _ hw)
      exact ih (hwv ▸ hw) fun other hother => hagree other (List.mem_cons_of_mem _ hother)
    · -- Nothing later touches the key, so the entry itself is the one that counts.
      have hhead : (k, v) = (key, value) := by
        cases List.mem_cons.mp hmem with
        | inl heq => exact heq
        | inr hin => exact absurd ⟨v, hin⟩ hlater
      cases hhead
      have huntouched : (entries.map Prod.fst).contains k = false := by
        rw [← Bool.not_eq_true, List.contains_iff_mem, List.mem_map]
        intro h
        obtain ⟨⟨_, w⟩, hw, rfl⟩ := h
        exact hlater ⟨w, hw⟩
      rw [Std.ExtTreeMap.getElem?_insertMany_list_of_contains_eq_false huntouched]
      simp

def singleton (k : α) (v : β) : BTreeMap α β := (∅ : BTreeMap α β).insert k v

@[simp]
theorem getElem?_singleton_eq_ite [DecidableEq α] (k a : α) (v : β) :
    (singleton k v)[a]? = if k = a then some v else none := by
  simp [singleton]

omit [Std.LawfulEqOrd α] in
@[simp]
theorem keys_singleton (k : α) (v : β) : (singleton k v).keys = [k] := rfl

def vals (t : BTreeMap α β) : List β := t.toList.map Prod.snd

/-- A value of the map stands under some key. -/
theorem mem_vals_iff {v : β} : v ∈ vals t ↔ ∃ k : α, t[k]? = some v := by
  simp only [vals, List.mem_map, Prod.exists, mem_toList_iff, exists_eq_right]

/-- Enter every item under its key, in order, unless the key is already taken. -/
def orInsertAll (key : β → α) (t : BTreeMap α β) (items : List β) : BTreeMap α β :=
  items.foldl (fun t item => t.insertIfNew (key item) item) t

/-- The first item of each new key is kept. -/
@[simp]
theorem getElem?_orInsertAll [DecidableEq α] (key : β → α) (t : BTreeMap α β)
    (items : List β) (k : α) :
    (orInsertAll key t items)[k]? = t[k]?.or (items.find? fun item => key item = k) := by
  induction items generalizing t with
  | nil => simp [orInsertAll]
  | cons item items ih =>
    rw [orInsertAll, List.foldl_cons, ← orInsertAll, ih, List.find?_cons,
      Std.ExtTreeMap.getElem?_insertIfNew]
    by_cases hkey : key item = k
    · subst hkey
      cases hget : t[key item]? with
      | none | some => simp [Std.ExtTreeMap.mem_iff_isSome_getElem?, hget]
    · simp [hkey]

/-- From the empty map on, the values are the first items of their keys. -/
theorem mem_vals_orInsertAll [DecidableEq α] {key : β → α} {items : List β} {item : β} :
    item ∈ vals (orInsertAll key ∅ items) ↔
      (items.find? fun other => key other = key item) = some item := by
  simp only [mem_vals_iff, getElem?_orInsertAll, Std.ExtTreeMap.getElem?_empty, Option.none_or]
  constructor
  · intro h
    obtain ⟨k, hk⟩ := h
    have hkey : key item = k := by simpa using List.find?_some hk
    rw [hkey]
    exact hk
  · intro h
    exact ⟨key item, h⟩

/-- Looking among the values finds what looking among the items finds. -/
@[simp]
theorem find?_vals_orInsertAll [DecidableEq α] (key : β → α) (items : List β) (k : α) :
    ((vals (orInsertAll key ∅ items)).find? fun item => key item = k) =
      items.find? fun item => key item = k := by
  cases hfind : (vals (orInsertAll key ∅ items)).find? fun item => key item = k with
  | some item =>
    have hkey : key item = k := by simpa using List.find?_some hfind
    have hmem := mem_vals_orInsertAll.mp (List.mem_of_find?_eq_some hfind)
    rw [← hkey, hmem]
  | none =>
    cases hitem : items.find? fun item => key item = k with
    | none => rfl
    | some item =>
      have hkey : key item = k := by simpa using List.find?_some hitem
      have hmem : item ∈ vals (orInsertAll key ∅ items) :=
        mem_vals_orInsertAll.mpr (by rw [hkey]; exact hitem)
      have hnone := List.find?_eq_none.mp hfind item hmem
      exact absurd hkey (by simpa using hnone)

/-- No key is listed twice. -/
theorem nodup_map_fst_toList (t : BTreeMap α β) : (t.toList.map Prod.fst).Nodup := by
  rw [Std.ExtTreeMap.map_fst_toList_eq_keys]
  refine List.Pairwise.imp ?_ (Std.ExtTreeMap.distinct_keys (t := t))
  intro a b hab heq
  exact hab (by simp [heq])

end BTreeMap

namespace BTreeSet

variable {α : Type*} [Ord α] [Std.TransOrd α] [Std.LawfulEqOrd α]

/-- A set made of a list has its elements. -/
@[simp]
theorem mem_toList_ofList [DecidableEq α] (items : List α) (a : α) :
    a ∈ (Std.ExtTreeSet.ofList items compare).toList ↔ a ∈ items := by
  rw [Std.ExtTreeSet.mem_toList, Std.ExtTreeSet.mem_ofList, List.contains_iff_mem]

theorem nodup_toList (t : BTreeSet α) : t.toList.Nodup := by
  refine List.Pairwise.imp ?_ (Std.ExtTreeSet.distinct_toList (t := t))
  intro a b hab heq
  exact hab (by simp [heq])

end BTreeSet

end Bitboard.Lib
