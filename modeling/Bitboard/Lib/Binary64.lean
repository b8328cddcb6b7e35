/-
# Numbers of binary64

A finite number of the binary64 format is a rational: an integer of at most 53 bits times a power
of two. A result that is no such number is rounded to the nearest one, and to the one with an even
significand if two are equally near. Rationals beyond the range are rounded to an infinity.
-/

import Mathlib.Algebra.Order.Field.Power
import Mathlib.Data.Int.Log
import Mathlib.Data.Rat.Floor
import Mathlib.Tactic.Positivity

namespace Bitboard.Lib

def roundHalfEven (q : ℚ) : ℤ :=
  if q - ⌊q⌋ < 1 / 2 then ⌊q⌋
  else if 1 / 2 < q - ⌊q⌋ then ⌊q⌋ + 1
  else if ⌊q⌋ % 2 = 0 then ⌊q⌋
  else ⌊q⌋ + 1

/-- An integer is rounded to itself. -/
theorem roundHalfEven_intCast (n : ℤ) : roundHalfEven n = n := by
  rw [roundHalfEven, Int.floor_intCast, sub_self, if_pos (by norm_num)]

/-- Rounding never falls below the floor. -/
theorem floor_le_roundHalfEven (q : ℚ) : ⌊q⌋ ≤ roundHalfEven q := by
  unfold roundHalfEven
  split
  · exact le_refl _
  · split
    · omega
    · split <;> omega

/-- Rounding goes up by one integer at most. -/
theorem roundHalfEven_le (q : ℚ) : roundHalfEven q ≤ ⌊q⌋ + 1 := by
  unfold roundHalfEven
  split
  · omega
  · split
    · exact le_refl _
    · split <;> omega

theorem roundHalfEven_mono {p q : ℚ} (h : p ≤ q) : roundHalfEven p ≤ roundHalfEven q := by
  cases lt_or_eq_of_le (Int.floor_le_floor h) with
  | inl hlt =>
    calc roundHalfEven p ≤ ⌊p⌋ + 1 := roundHalfEven_le p
      _ ≤ ⌊q⌋ := hlt
      _ ≤ roundHalfEven q := floor_le_roundHalfEven q
  | inr heq =>
    unfold roundHalfEven
    rw [heq]
    split
    · rename_i hlow
      split
      · exact le_refl _
      · split
        · omega
        · split <;> omega
    · rename_i hlow
      have hhigh : ¬ q - ⌊q⌋ < 1 / 2 := by linarith
      rw [if_neg hhigh]
      split
      · rename_i hup
        have hupper : 1 / 2 < q - ⌊q⌋ := by linarith
        rw [if_pos hupper]
      · split <;> split <;> omega

/-- Rounding to an integer moves a number by a half at most. -/
theorem abs_sub_roundHalfEven_le (q : ℚ) : |q - roundHalfEven q| ≤ 1 / 2 := by
  have hfloor := Int.floor_le q
  have hlt := Int.lt_floor_add_one q
  rw [abs_le]
  unfold roundHalfEven
  split
  · constructor <;> linarith
  · split
    · push_cast
      constructor <;> linarith
    · split
      · constructor <;> linarith
      · push_cast
        constructor <;> linarith

/-- A tie goes to an even integer, so the half below it still reaches it. -/
theorem le_roundHalfEven_iff {q : ℚ} {n : ℤ} (heven : n % 2 = 0) :
    n ≤ roundHalfEven q ↔ n - 1 / 2 ≤ q := by
  constructor
  · intro h
    have habs := abs_le.mp (abs_sub_roundHalfEven_le q)
    have hcast : (n : ℚ) ≤ roundHalfEven q := by exact_mod_cast h
    linarith
  · intro h
    have htie : roundHalfEven ((n : ℚ) - 1 / 2) = n := by
      have hfloor : ⌊(n : ℚ) - 1 / 2⌋ = n - 1 := by
        rw [Int.floor_eq_iff]
        push_cast
        constructor <;> linarith
      rw [roundHalfEven, hfloor]
      push_cast
      rw [if_neg (by linarith), if_neg (by linarith), if_neg (by omega)]
      omega
    calc n = roundHalfEven ((n : ℚ) - 1 / 2) := htie.symm
      _ ≤ roundHalfEven q := roundHalfEven_mono h

/-- The exponent of the last place of the doubles around a rational. -/
def lastPlace (q : ℚ) : ℤ := max (Int.log 2 |q| - 52) (-1074)

/-- The nearest double, as if there were no largest one. -/
def nearestDouble (q : ℚ) : ℚ := roundHalfEven (q / 2 ^ lastPlace q) * 2 ^ lastPlace q

/-- From this magnitude on, the nearest double is an infinity. -/
def DOUBLE_LIMIT : ℚ := 2 ^ 1024 - 2 ^ 970

def binary64 (q : ℚ) : Option ℚ := if |q| < DOUBLE_LIMIT then some (nearestDouble q) else none

theorem nearestDouble_zero : nearestDouble 0 = 0 := by
  have hround := roundHalfEven_intCast 0
  rw [Int.cast_zero] at hround
  rw [nearestDouble, zero_div, hround, Int.cast_zero, zero_mul]

end Bitboard.Lib
