/-
# Values under a version counter

A store that keeps a counter beside a value and raises it with every write lets a
writer find out whether the value it has read is still the stored one: a snapshot that
was once taken is either the present cell or has an older version. Writers that put a
new value only if the version is the one they have read therefore act one after the
other, in the order of their puts.
-/

import Bitboard.Lib.FallibleLoop

namespace Bitboard.Lib

universe u

structure Versioned (α : Type u) where
  value : α
  version : Nat

namespace Versioned

variable {α : Type u} {cell snapshot : Versioned α} {next : α}

def put (cell : Versioned α) (next : α) : Versioned α where
  value := next
  version := cell.version + 1

/-- A snapshot that was taken of the cell, now or before its last writes. -/
def Saw (cell snapshot : Versioned α) : Prop :=
  snapshot = cell ∨ snapshot.version < cell.version

theorem saw_self (cell : Versioned α) : cell.Saw cell :=
  Or.inl rfl

/-- A write keeps what was seen in the past. -/
theorem Saw.put (h : cell.Saw snapshot) (next : α) : (cell.put next).Saw snapshot := by
  apply Or.inr
  show snapshot.version < cell.version + 1
  rcases h with rfl | hold
  · exact Nat.lt_succ_self _
  · exact Nat.lt_succ_of_lt hold

/-- What was seen at the present version is the present contents. -/
theorem Saw.eq_of_version_eq (h : cell.Saw snapshot) (hversion : cell.version = snapshot.version) :
    snapshot = cell := by
  rcases h with rfl | hold
  · rfl
  · rw [hversion] at hold
    exact absurd hold (Nat.lt_irrefl _)

end Versioned

section Sequence

variable {ε σ ι : Type u} {step : σ → ι → Except ε σ} {start middle final : σ}

/-- A successful loop goes on with one more successful round. -/
theorem foldlM_concat_eq_ok {inputs : List ι} {input : ι}
    (hbefore : inputs.foldlM step start = .ok middle) (hstep : step middle input = .ok final) :
    (inputs ++ [input]).foldlM step start = .ok final := by
  rw [List.foldlM_append, hbefore]
  show (List.foldlM step middle [input] : Except ε σ) = .ok final
  rw [List.foldlM_cons, hstep]
  rfl

end Sequence

end Bitboard.Lib
