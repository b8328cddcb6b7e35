/-
# How far rounding goes

The nearest double lies within half a unit of the last place. A multiple of that unit bounds the
nearest double of every rational that it bounds, and an even one is reached from half a unit away.
-/

import Bitboard.Lib.Binary64

namespace Bitboard.Lib

/-- The half above an even integer is still rounded down to it. -/
theorem roundHalfEven_le_iff {q : ℚ} {n : ℤ} (heven : n % 2 = 0) :
    roundHalfEven q ≤ n ↔ q ≤ n + 1 / 2 := by
  constructor
  · intro h
    have habs := abs_le.mp (abs_sub_roundHalfEven_le q)
    have hcast : (roundHalfEven q : ℚ) ≤ n := by exact_mod_cast h
    linarith
  · intro h
    have htie : roundHalfEven ((n : ℚ) + 1 / 2) = n := by
      have hfloor : ⌊(n : ℚ) + 1 / 2⌋ = n := by
        rw [Int.floor_eq_iff]
        constructor <;> linarith
      rw [roundHalfEven, hfloor, if_neg (by linarith), if_neg (by linarith), if_pos heven]
    calc roundHalfEven q ≤ roundHalfEven ((n : ℚ) + 1 / 2) := roundHalfEven_mono h
      _ = n := htie

/-- A number closer than a half to an integer is rounded to it. -/
theorem roundHalfEven_eq {q : ℚ} {n : ℤ} (h : |q - n| < 1 / 2) : roundHalfEven q = n := by
  have hq := abs_lt.mp h
  have hround := abs_le.mp (abs_sub_roundHalfEven_le q)
  have hlow : ((n - 1 : ℤ) : ℚ) < roundHalfEven q := by
    push_cast
    linarith
  have hhigh : (roundHalfEven q : ℚ) < ((n + 1 : ℤ) : ℚ) := by
    push_cast
    linarith
  have hlowInt : n - 1 < roundHalfEven q := by exact_mod_cast hlow
  have hhighInt : roundHalfEven q < n + 1 := by exact_mod_cast hhigh
  omega

section Doubles

variable {q : ℚ}

/-- The doubles around a rational are the multiples of this unit. -/
def unitInLastPlace (q : ℚ) : ℚ := 2 ^ lastPlace q

theorem unitInLastPlace_pos (q : ℚ) : 0 < unitInLastPlace q := by
  unfold unitInLastPlace
  positivity

theorem nearestDouble_eq (q : ℚ) :
    nearestDouble q = roundHalfEven (q / unitInLastPlace q) * unitInLastPlace q := rfl

/-- A double lies within half a unit in the last place of what it stands for. -/
theorem abs_sub_nearestDouble_le (q : ℚ) : |q - nearestDouble q| ≤ unitInLastPlace q / 2 := by
  have hpos := unitInLastPlace_pos q
  have hround := abs_sub_roundHalfEven_le (q / unitInLastPlace q)
  have hscaled : q - nearestDouble q =
      (q / unitInLastPlace q - roundHalfEven (q / unitInLastPlace q)) * unitInLastPlace q := by
    rw [sub_mul, div_mul_cancel₀ _ hpos.ne', nearestDouble_eq]
  rw [hscaled, abs_mul, abs_of_pos hpos]
  nlinarith

variable {k : ℤ}

/-- A multiple of the unit is a double, which rounding does not pass from above. -/
theorem le_nearestDouble (h : k * unitInLastPlace q ≤ q) :
    k * unitInLastPlace q ≤ nearestDouble q := by
  have hpos := unitInLastPlace_pos q
  have hround : k ≤ roundHalfEven (q / unitInLastPlace q) := by
    rw [← roundHalfEven_intCast k]
    apply roundHalfEven_mono
    rwa [le_div_iff₀ hpos]
  rw [nearestDouble_eq]
  apply mul_le_mul_of_nonneg_right _ hpos.le
  exact_mod_cast hround

/-- A multiple of the unit is a double, which rounding does not pass from below. -/
theorem nearestDouble_le (h : q ≤ k * unitInLastPlace q) :
    nearestDouble q ≤ k * unitInLastPlace q := by
  have hpos := unitInLastPlace_pos q
  have hround : roundHalfEven (q / unitInLastPlace q) ≤ k := by
    rw [← roundHalfEven_intCast k]
    apply roundHalfEven_mono
    rwa [div_le_iff₀ hpos]
  rw [nearestDouble_eq]
  apply mul_le_mul_of_nonneg_right _ hpos.le
  exact_mod_cast hround

/-- Rounding reaches an even multiple of the unit from half a unit below. -/
theorem le_nearestDouble_iff (heven : k % 2 = 0) :
    k * unitInLastPlace q ≤ nearestDouble q ↔
      k * unitInLastPlace q - unitInLastPlace q / 2 ≤ q := by
  have hpos := unitInLastPlace_pos q
  rw [nearestDouble_eq, mul_le_mul_iff_left₀ hpos, Int.cast_le, le_roundHalfEven_iff heven,
    le_div_iff₀ hpos, sub_mul, div_mul_eq_mul_div, one_mul]

/-- Rounding comes down to an even multiple of the unit from half a unit above. -/
theorem nearestDouble_le_iff (heven : k % 2 = 0) :
    nearestDouble q ≤ k * unitInLastPlace q ↔
      q ≤ k * unitInLastPlace q + unitInLastPlace q / 2 := by
  have hpos := unitInLastPlace_pos q
  rw [nearestDouble_eq, mul_le_mul_iff_left₀ hpos, Int.cast_le, roundHalfEven_le_iff heven,
    div_le_iff₀ hpos, add_mul, div_mul_eq_mul_div, one_mul]

theorem nearestDouble_nonneg (h : 0 ≤ q) : 0 ≤ nearestDouble q := by
  have hzero := le_nearestDouble (q := q) (k := 0) (by simpa using h)
  simpa using hzero

/-- Between two powers of two the unit is that of the lower one, 52 bits below it. -/
theorem unitInLastPlace_of_log {e : ℤ} (hlow : (2 : ℚ) ^ e ≤ q) (hhigh : q < 2 ^ (e + 1))
    (hnormal : -1022 ≤ e) : unitInLastPlace q = 2 ^ (e - 52) := by
  have hpos : 0 < q := lt_of_lt_of_le (by positivity) hlow
  have hlog : Int.log 2 |q| = e := by
    rw [abs_of_pos hpos]
    apply le_antisymm
    · apply Int.lt_add_one_iff.mp
      apply (Int.lt_zpow_iff_log_lt (by norm_num) hpos).mp
      exact_mod_cast hhigh
    · apply (Int.zpow_le_iff_le_log (by norm_num) hpos).mp
      exact_mod_cast hlow
  rw [unitInLastPlace, lastPlace, hlog, max_eq_left (by omega)]

/-- The relative error of a normal number is at most one part in `2 ^ 53`. -/
theorem abs_sub_nearestDouble_le_mul (hnormal : (2 : ℚ) ^ (-1022 : ℤ) ≤ q) :
    |q - nearestDouble q| ≤ q / 2 ^ 53 := by
  have hpos : 0 < q := lt_of_lt_of_le (by positivity) hnormal
  have hlow : (2 : ℚ) ^ Int.log 2 q ≤ q := by
    have h := Int.zpow_log_le_self (b := 2) (by norm_num) hpos
    exact_mod_cast h
  have hhigh : q < 2 ^ (Int.log 2 q + 1) := by
    have h := Int.lt_zpow_succ_log_self (b := 2) (by norm_num) q
    exact_mod_cast h
  have hlog : -1022 ≤ Int.log 2 q := by
    apply (Int.zpow_le_iff_le_log (by norm_num) hpos).mp
    exact_mod_cast hnormal
  have hunit := unitInLastPlace_of_log hlow hhigh hlog
  calc |q - nearestDouble q| ≤ unitInLastPlace q / 2 := abs_sub_nearestDouble_le q
    _ = 2 ^ Int.log 2 q / 2 ^ 53 := by
        rw [hunit, zpow_sub₀ (by norm_num)]
        norm_num
        ring
    _ ≤ q / 2 ^ 53 := by
        apply div_le_div_of_nonneg_right hlow
        positivity

end Doubles

end Bitboard.Lib
