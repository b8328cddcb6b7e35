/-
# Rows under a key

A list holds rows that are found by a key of theirs. Writing a row replaces the first row
of its key in place, or appends the row where the key has none. Two rows of different
keys can be written in either order; only when both are appended does their order in the
list remember which came first.
-/

import Mathlib.Data.List.Nodup

namespace Bitboard.Lib

variable {Row Key : Type*} [DecidableEq Key] (key : Row → Key)

def getRow (k : Key) (rows : List Row) : Option Row :=
  rows.find? fun row => key row = k

/-- The first row of the key is replaced; without one the row is appended. -/
def putRow (row : Row) : List Row → List Row
  | [] => [row]
  | first :: rows => if key first = key row then row :: rows else first :: putRow row rows

variable {key} {row first second : Row} {rows : List Row} {k : Key}

/-- The row found has the key. -/
theorem key_of_getRow (hrow : getRow key k rows = some row) : key row = k := by
  simpa using List.find?_some hrow

/-- No row is found exactly if none has the key. -/
theorem getRow_eq_none_iff : getRow key k rows = none ↔ k ∉ rows.map key := by
  simp [getRow]

/-- Under distinct keys each row is found. -/
theorem getRow_of_mem (hnodup : (rows.map key).Nodup) (hrow : row ∈ rows) :
    getRow key (key row) rows = some row := by
  induction rows with
  | nil => cases hrow
  | cons head rows ih =>
    rw [List.map_cons, List.nodup_cons] at hnodup
    rw [getRow, List.find?_cons]
    cases List.mem_cons.mp hrow with
    | inl heq => simp [heq]
    | inr hmem =>
      have hne : ¬key head = key row := by
        intro heq
        exact hnodup.1 (heq ▸ List.mem_map_of_mem hmem)
      simp only [hne, decide_false]
      exact ih hnodup.2 hmem

/-- A row that was put is found. -/
theorem getRow_putRow_self : getRow key (key row) (putRow key row rows) = some row := by
  induction rows with
  | nil => simp [getRow, putRow]
  | cons head rows ih =>
    rw [putRow]
    split
    · simp [getRow]
    · rename_i hne
      rw [getRow, List.find?_cons_of_neg (by simpa using hne)]
      exact ih

/-- Rows under other keys stay. -/
theorem getRow_putRow_of_ne (hne : k ≠ key row) :
    getRow key k (putRow key row rows) = getRow key k rows := by
  induction rows with
  | nil =>
    have hne' : ¬key row = k := Ne.symm hne
    simp [getRow, putRow, hne']
  | cons head rows ih =>
    rw [putRow]
    split
    · rename_i heq
      have hrow : ¬key row = k := Ne.symm hne
      have hhead : ¬key head = k := by rwa [heq]
      simp [getRow, hrow, hhead]
    · rw [getRow, getRow, List.find?_cons, List.find?_cons]
      split
      · rfl
      · exact ih

/-- Without its key, the rows are as they were before the put. -/
theorem filter_putRow :
    (putRow key row rows).filter (fun other => key other ≠ key row) =
      rows.filter fun other => key other ≠ key row := by
  induction rows with
  | nil => simp [putRow]
  | cons head rows ih =>
    rw [putRow]
    split
    · rename_i heq
      simp [heq]
    · rw [List.filter_cons, List.filter_cons, ih]

/-- A removal under another key is not seen. -/
theorem getRow_filter_of_ne {removed : Key} (hne : k ≠ removed) :
    getRow key k (rows.filter fun other => key other ≠ removed) = getRow key k rows := by
  rw [getRow, getRow, List.find?_filter]
  congr 1
  funext other
  by_cases hother : key other = k
  · simp [hother, hne]
  · simp [hother]

/-- A put brings no other row in. -/
theorem mem_putRow {other : Row} (hother : other ∈ putRow key row rows) :
    other = row ∨ other ∈ rows := by
  induction rows with
  | nil => exact .inl (List.mem_singleton.mp hother)
  | cons head rows ih =>
    rw [putRow] at hother
    split at hother
    · cases List.mem_cons.mp hother with
      | inl heq => exact .inl heq
      | inr hmem => exact .inr (List.mem_cons_of_mem head hmem)
    · cases List.mem_cons.mp hother with
      | inl heq => exact .inr (heq ▸ List.mem_cons_self)
      | inr hmem =>
        cases ih hmem with
        | inl heq => exact .inl heq
        | inr hold => exact .inr (List.mem_cons_of_mem head hold)

/-- A row with a new key is appended. -/
theorem putRow_of_notMem (hnew : key row ∉ rows.map key) : putRow key row rows = rows ++ [row] := by
  induction rows with
  | nil => rfl
  | cons head rows ih =>
    rw [List.map_cons, List.mem_cons, not_or] at hnew
    rw [putRow, if_neg (Ne.symm hnew.1), ih hnew.2, List.cons_append]

/-- A row with a key that is there takes its place. -/
theorem map_putRow_of_mem (hold : key row ∈ rows.map key) :
    (putRow key row rows).map key = rows.map key := by
  induction rows with
  | nil => cases hold
  | cons head rows ih =>
    rw [putRow]
    split
    · rename_i heq
      rw [List.map_cons, List.map_cons, heq]
    · rename_i hne
      rw [List.map_cons, List.mem_cons] at hold
      rw [List.map_cons, List.map_cons, ih (hold.resolve_left (Ne.symm hne))]

/-- Keys stay distinct. -/
theorem nodup_map_putRow (hnodup : (rows.map key).Nodup) :
    ((putRow key row rows).map key).Nodup := by
  by_cases hold : key row ∈ rows.map key
  · rwa [map_putRow_of_mem hold]
  · rw [putRow_of_notMem hold, List.map_append]
    apply List.Nodup.append hnodup (List.nodup_singleton _)
    simpa [List.disjoint_singleton] using hold

/-- The later of two puts under one key counts. -/
theorem putRow_putRow_self (hkey : key first = key second) :
    putRow key first (putRow key second rows) = putRow key first rows := by
  induction rows with
  | nil => simp [putRow, hkey]
  | cons head rows ih =>
    by_cases heq : key head = key second
    · simp [putRow, heq, hkey]
    · simp [putRow, heq, hkey, ih]

/-- Putting back what is there changes nothing. -/
theorem putRow_of_getRow (hrow : getRow key (key row) rows = some row) :
    putRow key row rows = rows := by
  induction rows with
  | nil => cases hrow
  | cons head rows ih =>
    rw [getRow, List.find?_cons] at hrow
    rw [putRow]
    by_cases heq : key head = key row
    · have hhead : head = row := by simpa [heq] using hrow
      rw [if_pos heq, hhead]
    · simp only [heq, decide_false] at hrow
      rw [if_neg heq, ih hrow]

/-- The keys are the old ones and that of the row. -/
theorem mem_keys_putRow (k : Key) :
    k ∈ (putRow key row rows).map key ↔ k = key row ∨ k ∈ rows.map key := by
  by_cases hold : key row ∈ rows.map key
  · rw [map_putRow_of_mem hold]
    constructor
    · exact .inr
    · intro hk
      cases hk with
      | inl heq => rwa [heq]
      | inr hmem => exact hmem
  · rw [putRow_of_notMem hold]
    simp [or_comm]

/-- Puts under two keys commute, unless both append. -/
theorem putRow_comm (hne : key first ≠ key second)
    (hplace : key first ∈ rows.map key ∨ key second ∈ rows.map key) :
    putRow key first (putRow key second rows) = putRow key second (putRow key first rows) := by
  induction rows with
  | nil => simp at hplace
  | cons head rows ih =>
    by_cases hfirst : key head = key first
    · have hsecond : key head ≠ key second := by rwa [hfirst]
      simp [putRow, hfirst, hne]
    · by_cases hsecond : key head = key second
      · simp [putRow, hsecond, Ne.symm hne]
      · rw [List.map_cons, List.mem_cons, List.mem_cons] at hplace
        have hrest : key first ∈ rows.map key ∨ key second ∈ rows.map key := by
          cases hplace with
          | inl hmem => exact .inl (hmem.resolve_left (Ne.symm hfirst))
          | inr hmem => exact .inr (hmem.resolve_left (Ne.symm hsecond))
        simp [putRow, hfirst, hsecond, ih hrest]

/-- Puts under two keys commute up to the order of the rows. -/
theorem putRow_comm_perm (hne : key first ≠ key second) :
    (putRow key first (putRow key second rows)).Perm
      (putRow key second (putRow key first rows)) := by
  by_cases hplace : key first ∈ rows.map key ∨ key second ∈ rows.map key
  · rw [putRow_comm hne hplace]
  · rw [not_or] at hplace
    have hfirst : key first ∉ (putRow key second rows).map key := by
      rw [mem_keys_putRow, not_or]
      exact ⟨hne, hplace.1⟩
    have hsecond : key second ∉ (putRow key first rows).map key := by
      rw [mem_keys_putRow, not_or]
      exact ⟨Ne.symm hne, hplace.2⟩
    rw [putRow_of_notMem hfirst, putRow_of_notMem hsecond, putRow_of_notMem hplace.1,
      putRow_of_notMem hplace.2, List.append_assoc, List.append_assoc]
    exact (List.Perm.swap second first []).symm.append_left rows

end Bitboard.Lib
