/-
# What rounding does to an amount

An amount is divided by the size of a unit and multiplied by it again. How far the product of the
rounded quotient is below the amount can be told from a remainder, and from that follows whether
the rounded product reaches the amount.
-/

import Bitboard.Frontend.DisplayAmountTexts
import Bitboard.Lib.Binary64Bounds
import Mathlib.Tactic.LinearCombination

namespace Bitboard.Frontend.DisplayAmount

open Bitboard.Lib

/-- The binary places of the double of an amount in a unit. -/
def binaryPlaces (sats satsPerUnit : Nat) : Nat :=
  (52 - Int.log 2 ((sats : ℚ) / satsPerUnit)).toNat

/-- The remainder closest to zero that is left when the amount, with the binary places of its
double, is divided by the unit: by so many satoshis the double stands for less than the amount. -/
def shortfall (sats satsPerUnit : Nat) : ℚ :=
  Int.bmod (sats * 2 ^ binaryPlaces sats satsPerUnit) satsPerUnit /
    2 ^ binaryPlaces sats satsPerUnit

/-- Half of the distance to the next smaller double. -/
def halfGapBelow (sats : Nat) : ℚ := 2 ^ ((Nat.log 2 (2 * sats - 1) : ℤ) - 54)

section Halves

variable {value : ℚ}

theorem exists_mul_unitInLastPlace {places : ℕ} (hpos : 0 < value)
    (hlt : value < 2 ^ (53 - (places : ℤ))) (hplaces : places ≤ 53) :
    ∃ j : ℕ, (2 : ℚ) ^ j * unitInLastPlace value = 1 / 2 ^ places := by
  have hlog : Int.log 2 value < 53 - places := by
    apply (Int.lt_zpow_iff_log_lt (by norm_num) hpos).mp
    exact_mod_cast hlt
  have hle : lastPlace value ≤ -places := by
    unfold lastPlace
    rw [abs_of_pos hpos]
    omega
  refine ⟨(-places - lastPlace value).toNat, ?_⟩
  rw [unitInLastPlace, ← zpow_natCast, Int.toNat_of_nonneg (by omega), ← zpow_add₀ (by norm_num)]
  rw [sub_add_cancel, zpow_neg, zpow_natCast, one_div]

theorem le_nearestDouble_of_lt (places : ℕ) (m : ℤ) (hpos : 0 < value)
    (hlt : value < 2 ^ (53 - (places : ℤ))) (hplaces : places ≤ 53)
    (hle : (m : ℚ) / 2 ^ places ≤ value) : (m : ℚ) / 2 ^ places ≤ nearestDouble value := by
  obtain ⟨j, hj⟩ := exists_mul_unitInLastPlace hpos hlt hplaces
  have hmultiple : (m : ℚ) / 2 ^ places = (m * 2 ^ j : ℤ) * unitInLastPlace value := by
    push_cast
    rw [mul_assoc, hj, mul_one_div]
  rw [hmultiple] at hle ⊢
  exact le_nearestDouble hle

theorem nearestDouble_le_of_lt (places : ℕ) (m : ℤ) (hpos : 0 < value)
    (hlt : value < 2 ^ (53 - (places : ℤ))) (hplaces : places ≤ 53)
    (hle : value ≤ (m : ℚ) / 2 ^ places) : nearestDouble value ≤ (m : ℚ) / 2 ^ places := by
  obtain ⟨j, hj⟩ := exists_mul_unitInLastPlace hpos hlt hplaces
  have hmultiple : (m : ℚ) / 2 ^ places = (m * 2 ^ j : ℤ) * unitInLastPlace value := by
    push_cast
    rw [mul_assoc, hj, mul_one_div]
  rw [hmultiple] at hle ⊢
  exact nearestDouble_le hle

theorem exists_nearestDouble_eq_intCast (hle : 2 ^ 52 ≤ value) :
    ∃ m : ℤ, nearestDouble value = m := by
  have hpos : 0 < value := lt_of_lt_of_le (by norm_num) hle
  have hlog : 52 ≤ Int.log 2 value := by
    apply (Int.zpow_le_iff_le_log (by norm_num) hpos).mp
    exact_mod_cast hle
  have hplace : 0 ≤ lastPlace value := by
    unfold lastPlace
    rw [abs_of_pos hpos]
    omega
  refine ⟨roundHalfEven (value / unitInLastPlace value) * 2 ^ (lastPlace value).toNat, ?_⟩
  rw [nearestDouble_eq]
  push_cast
  congr 1
  rw [unitInLastPlace, ← zpow_natCast, Int.toNat_of_nonneg hplace]

/-- A little below an integer, the nearest double reaches it from half a gap away. -/
theorem natCast_le_nearestDouble_iff {sats : ℕ} (hpos : 0 < sats) (hle : sats ≤ 2 ^ 52)
    (hnear : (sats : ℚ) - 1 / 2 ≤ value) (hlt : value < sats) :
    (sats : ℚ) ≤ nearestDouble value ↔ (sats : ℚ) - halfGapBelow sats ≤ value := by
  have hodd : 2 * sats - 1 ≠ 0 := by omega
  have hlogLe := Nat.pow_log_le_self 2 hodd
  have hlogLt := Nat.lt_pow_succ_log_self (b := 2) (by norm_num) (2 * sats - 1)
  generalize hg : Nat.log 2 (2 * sats - 1) = g at hlogLe hlogLt
  have hsats : sats ≤ 2 ^ g := by
    rw [pow_succ] at hlogLt
    omega
  have hgLe : g ≤ 52 := by
    by_contra hgt
    have hpow : 2 ^ 53 ≤ 2 ^ g := Nat.pow_le_pow_right (by norm_num) (by omega)
    omega
  have hlow : (2 : ℚ) ^ ((g : ℤ) - 1) ≤ value := by
    have hcast : (2 : ℚ) ^ g ≤ 2 * sats - 1 := by
      have h : (2 : ℕ) ^ g + 1 ≤ 2 * sats := by omega
      have hcast : ((2 ^ g + 1 : ℕ) : ℚ) ≤ (2 * sats : ℕ) := by exact_mod_cast h
      push_cast at hcast
      linarith
    rw [zpow_sub₀ (by norm_num), zpow_natCast, zpow_one]
    linarith
  have hhigh : value < 2 ^ ((g : ℤ) - 1 + 1) := by
    rw [sub_add_cancel, zpow_natCast]
    have hcast : (sats : ℚ) ≤ 2 ^ g := by exact_mod_cast hsats
    linarith
  have hunit := unitInLastPlace_of_log hlow hhigh (by omega)
  have hmultiple : (sats : ℚ) = (sats * 2 ^ (53 - g) : ℤ) * unitInLastPlace value := by
    have hexponent : (2 : ℚ) ^ (53 - g) * 2 ^ ((g : ℤ) - 1 - 52) = 1 := by
      rw [← zpow_natCast, ← zpow_add₀ (by norm_num), Nat.cast_sub (by omega)]
      push_cast
      have hzero : (53 : ℤ) - g + (g - 1 - 52) = 0 := by ring
      rw [hzero, zpow_zero]
    rw [hunit]
    push_cast
    rw [mul_assoc, hexponent, mul_one]
  have heven : ((sats : ℤ) * 2 ^ (53 - g)) % 2 = 0 := by
    obtain ⟨j, hj⟩ : ∃ j, 53 - g = j + 1 := ⟨52 - g, by omega⟩
    rw [hj, pow_succ, ← mul_assoc]
    omega
  have hhalf : unitInLastPlace value / 2 = halfGapBelow sats := by
    rw [hunit, halfGapBelow, hg, div_eq_mul_inv, ← zpow_neg_one, ← zpow_add₀ (by norm_num)]
    congr 1
    ring
  have hiff := le_nearestDouble_iff (q := value) heven
  rw [← hmultiple, hhalf] at hiff
  exact hiff

end Halves

section Product

variable {sats decimals : ℕ}

/-- The remainder is never exactly half of the unit: a half has too few factors of five. -/
theorem two_mul_bmod_ne (hplaces : decimals ≤ binaryPlaces sats (10 ^ decimals)) :
    2 * Int.bmod (sats * 2 ^ binaryPlaces sats (10 ^ decimals)) (10 ^ decimals) ≠
      -(10 ^ decimals : ℕ) := by
  generalize binaryPlaces sats (10 ^ decimals) = places at hplaces
  intro htie
  have hsplit := Int.bmod_add_bdiv (sats * 2 ^ places) (10 ^ decimals)
  generalize Int.bdiv (sats * 2 ^ places) (10 ^ decimals) = quotient at hsplit
  have hpow : (10 : ℤ) ^ decimals = 2 ^ decimals * 5 ^ decimals := by
    rw [← mul_pow]
    norm_num
  have hfactors : (2 : ℤ) ^ decimals * (sats * 2 ^ (places - decimals) * 2) =
      2 ^ decimals * (5 ^ decimals * (2 * quotient - 1)) := by
    have hplacesPow : (2 : ℤ) ^ places = 2 ^ decimals * 2 ^ (places - decimals) := by
      rw [← pow_add, Nat.add_sub_cancel' hplaces]
    have hdouble : 2 * ((sats : ℤ) * 2 ^ places) = 10 ^ decimals * (2 * quotient - 1) := by
      push_cast at hsplit htie
      linear_combination -2 * hsplit + htie
    rw [hplacesPow, hpow] at hdouble
    linear_combination hdouble
  have hcancel := mul_left_cancel₀ (by positivity) hfactors
  have hodd : Odd ((5 : ℤ) ^ decimals * (2 * quotient - 1)) := by
    apply Odd.mul (Odd.pow (by decide))
    exact ⟨quotient - 1, by ring⟩
  rw [← hcancel] at hodd
  exact Int.not_odd_iff_even.mpr ⟨sats * 2 ^ (places - decimals), by ring⟩ hodd

theorem quotient_bounds (hpos : 0 < sats) (hle : sats ≤ 2 ^ 52) (hdecimals : decimals ≤ 8) :
    (2 : ℚ) ^ (-27 : ℤ) ≤ (sats : ℚ) / (10 ^ decimals : ℕ) ∧
      (sats : ℚ) / (10 ^ decimals : ℕ) ≤ 2 ^ (52 - (decimals : ℤ)) := by
  have hcast : (1 : ℚ) ≤ sats := by exact_mod_cast hpos
  have hcastLe : (sats : ℚ) ≤ 2 ^ 52 := by exact_mod_cast hle
  have hunit : (0 : ℚ) < (10 ^ decimals : ℕ) := by positivity
  constructor
  · have hten : ((10 ^ decimals : ℕ) : ℚ) ≤ 10 ^ 8 := by
      exact_mod_cast Nat.pow_le_pow_right (by norm_num) hdecimals
    rw [le_div_iff₀ hunit]
    calc (2 : ℚ) ^ (-27 : ℤ) * (10 ^ decimals : ℕ) ≤ 2 ^ (-27 : ℤ) * 10 ^ 8 := by gcongr
      _ ≤ 1 := by norm_num
      _ ≤ sats := hcast
  · have htwo : (2 : ℚ) ^ decimals ≤ (10 ^ decimals : ℕ) := by
      exact_mod_cast Nat.pow_le_pow_left (by norm_num) decimals
    rw [div_le_iff₀ hunit, zpow_sub₀ (by norm_num), zpow_natCast, div_mul_eq_mul_div,
      le_div_iff₀ (by positivity)]
    calc (sats : ℚ) * 2 ^ decimals ≤ 2 ^ 52 * (10 ^ decimals : ℕ) := by gcongr
      _ = 2 ^ (52 : ℤ) * (10 ^ decimals : ℕ) := by norm_num

/-- The double of the quotient, times the unit, is less than the amount by the shortfall. -/
theorem nearestDouble_mul_eq (hpos : 0 < sats) (hle : sats ≤ 2 ^ 52) (hdecimals : decimals ≤ 8) :
    nearestDouble ((sats : ℚ) / (10 ^ decimals : ℕ)) * (10 ^ decimals : ℕ) =
      sats - shortfall sats (10 ^ decimals) := by
  obtain ⟨hlow, hhigh⟩ := quotient_bounds hpos hle hdecimals
  have hquotient : 0 < (sats : ℚ) / (10 ^ decimals : ℕ) := lt_of_lt_of_le (by positivity) hlow
  have hlogLow : -27 ≤ Int.log 2 ((sats : ℚ) / (10 ^ decimals : ℕ)) := by
    apply (Int.zpow_le_iff_le_log (by norm_num) hquotient).mp
    exact_mod_cast hlow
  have hlogHigh : Int.log 2 ((sats : ℚ) / (10 ^ decimals : ℕ)) ≤ 52 - decimals := by
    have h := Int.log_mono_right (b := 2) hquotient hhigh
    have hpow := Int.log_zpow (R := ℚ) (b := 2) (by norm_num) (52 - decimals)
    rw [Nat.cast_ofNat] at hpow
    rwa [hpow] at h
  have hplaces : decimals ≤ binaryPlaces sats (10 ^ decimals) := by
    unfold binaryPlaces
    omega
  have hunit : unitInLastPlace ((sats : ℚ) / (10 ^ decimals : ℕ)) =
      1 / 2 ^ binaryPlaces sats (10 ^ decimals) := by
    have hlogLe := Int.zpow_log_le_self (b := 2) (by norm_num) hquotient
    have hlogLt := Int.lt_zpow_succ_log_self (b := 2) (by norm_num)
      ((sats : ℚ) / (10 ^ decimals : ℕ))
    rw [Nat.cast_ofNat] at hlogLe hlogLt
    rw [unitInLastPlace_of_log hlogLe hlogLt (by omega), one_div, ← zpow_natCast, ← zpow_neg,
      binaryPlaces, Int.toNat_of_nonneg (by omega)]
    congr 1
    ring
  have hsplit := Int.bmod_add_bdiv (sats * 2 ^ binaryPlaces sats (10 ^ decimals)) (10 ^ decimals)
  have htie := two_mul_bmod_ne hplaces
  have hlowBmod := Int.le_bmod (x := sats * 2 ^ binaryPlaces sats (10 ^ decimals))
    (m := 10 ^ decimals) (by positivity)
  have hhighBmod := Int.bmod_lt (x := sats * 2 ^ binaryPlaces sats (10 ^ decimals))
    (m := 10 ^ decimals) (by positivity)
  rw [shortfall, nearestDouble_eq, hunit]
  generalize binaryPlaces sats (10 ^ decimals) = places at *
  generalize Int.bmod (sats * 2 ^ places) (10 ^ decimals) = remainder at *
  generalize Int.bdiv (sats * 2 ^ places) (10 ^ decimals) = quotient at *
  generalize htenDef : 10 ^ decimals = ten at *
  have hten : (0 : ℚ) < ten := by
    rw [← htenDef]
    positivity
  have hsplitRat : (remainder : ℚ) + ten * quotient = sats * 2 ^ places := by
    exact_mod_cast hsplit
  have hpow : (0 : ℚ) < 2 ^ places := by positivity
  have hround : roundHalfEven ((sats : ℚ) / ten / (1 / 2 ^ places)) = quotient := by
    apply roundHalfEven_eq
    have hdifference : (sats : ℚ) / ten / (1 / 2 ^ places) - quotient = remainder / ten := by
      rw [div_div_eq_mul_div, div_one, div_mul_eq_mul_div, ← hsplitRat]
      field_simp
      ring
    have htwiceHigh : 2 * remainder < ten := by omega
    have htwiceLow : -(ten : ℤ) < 2 * remainder := by omega
    have htwiceHighRat : 2 * (remainder : ℚ) < ten := by exact_mod_cast htwiceHigh
    have htwiceLowRat : -(ten : ℚ) < 2 * remainder := by exact_mod_cast htwiceLow
    rw [hdifference, abs_lt, lt_div_iff₀ hten, div_lt_iff₀ hten]
    constructor <;> linarith
  rw [hround]
  field_simp
  linarith

/-- The product is as close to the amount as the quotient was to its double. -/
theorem abs_sub_mul_nearestDouble_le (satsPerUnit : ℕ) (hunit : 0 < satsPerUnit)
    (hle : satsPerUnit ≤ 10 ^ 8) (hpos : 0 < sats) :
    |(sats : ℚ) - nearestDouble ((sats : ℚ) / satsPerUnit) * satsPerUnit| ≤ sats / 2 ^ 53 := by
  have hunitRat : (0 : ℚ) < satsPerUnit := by exact_mod_cast hunit
  have hleRat : (satsPerUnit : ℚ) ≤ 10 ^ 8 := by exact_mod_cast hle
  have hcast : (1 : ℚ) ≤ sats := by exact_mod_cast hpos
  have hnormal : (2 : ℚ) ^ (-1022 : ℤ) ≤ (sats : ℚ) / satsPerUnit := by
    rw [le_div_iff₀ hunitRat]
    calc (2 : ℚ) ^ (-1022 : ℤ) * satsPerUnit ≤ 2 ^ (-27 : ℤ) * 10 ^ 8 := by
          apply mul_le_mul _ hleRat hunitRat.le (by positivity)
          exact zpow_le_zpow_right₀ (by norm_num) (by norm_num)
      _ ≤ 1 := by norm_num
      _ ≤ sats := hcast
  have herror := abs_sub_nearestDouble_le_mul hnormal
  have hscaled : (sats : ℚ) - nearestDouble ((sats : ℚ) / satsPerUnit) * satsPerUnit =
      ((sats : ℚ) / satsPerUnit - nearestDouble ((sats : ℚ) / satsPerUnit)) * satsPerUnit := by
    rw [sub_mul, div_mul_cancel₀ _ hunitRat.ne']
  rw [hscaled, abs_mul, abs_of_pos hunitRat]
  calc |(sats : ℚ) / satsPerUnit - nearestDouble ((sats : ℚ) / satsPerUnit)| * satsPerUnit ≤
        (sats : ℚ) / satsPerUnit / 2 ^ 53 * satsPerUnit := by gcongr
    _ = sats / 2 ^ 53 := by
        field_simp

theorem abs_shortfall_le (hpos : 0 < sats) (hle : sats ≤ 2 ^ 52) (hdecimals : decimals ≤ 8) :
    |shortfall sats (10 ^ decimals)| ≤ sats / 2 ^ 53 := by
  have hten : 10 ^ decimals ≤ 10 ^ 8 := Nat.pow_le_pow_right (by norm_num) hdecimals
  have hclose := abs_sub_mul_nearestDouble_le (10 ^ decimals) (by positivity) hten hpos
  rwa [nearestDouble_mul_eq hpos hle hdecimals, sub_sub_cancel] at hclose

end Product

end Bitboard.Frontend.DisplayAmount
