/-
# Reading an amount back

An amount that is shown in a unit is read back as the same amount unless rounding has left the
product short of it: the form rounds down, so that it then reads one satoshi less. The amount of a
payment link is rounded to the nearest satoshi, so that the two agree on a decimal of bitcoins
unless the product ends half a satoshi or more above an integer.
-/

import Bitboard.Frontend.DisplayAmountRounding

namespace Bitboard.Frontend.DisplayAmount

open Bitboard.Lib

section Products

variable {sats decimals : ℕ}

theorem halfGapBelow_pos (sats : ℕ) : 0 < halfGapBelow sats := by
  unfold halfGapBelow
  positivity

theorem shortfall_one (sats : ℕ) : shortfall sats 1 = 0 := by
  rw [shortfall, Int.bmod_one, Int.cast_zero, zero_div]

/-- The product reaches the amount where the shortfall is at most half a gap. -/
theorem le_nearestDouble_product_iff (hpos : 0 < sats) (hle : sats ≤ 2 ^ 52)
    (hdecimals : decimals ≤ 8) :
    (sats : ℚ) ≤ nearestDouble (sats - shortfall sats (10 ^ decimals)) ↔
      shortfall sats (10 ^ decimals) ≤ halfGapBelow sats := by
  have hcast : (1 : ℚ) ≤ sats := by exact_mod_cast hpos
  have hcastLe : (sats : ℚ) ≤ 2 ^ 52 := by exact_mod_cast hle
  have hclose := abs_le.mp (abs_shortfall_le hpos hle hdecimals)
  have hgap := halfGapBelow_pos sats
  by_cases hlt : 0 < shortfall sats (10 ^ decimals)
  · rw [natCast_le_nearestDouble_iff hpos hle (by linarith) (by linarith)]
    constructor <;> intro h <;> linarith
  · have hnonneg : (0 : ℚ) < sats - shortfall sats (10 ^ decimals) := by linarith
    have hbelow : sats - shortfall sats (10 ^ decimals) < 2 ^ (53 - ((0 : ℕ) : ℤ)) := by
      norm_num
      linarith
    have hreached := le_nearestDouble_of_lt 0 sats hnonneg hbelow (by norm_num) (by
      norm_num
      linarith)
    constructor
    · intro _
      linarith
    · intro _
      simpa using hreached

theorem nearestDouble_product_bounds (hpos : 0 < sats) (hlt : sats < 2 ^ 52)
    (hdecimals : decimals ≤ 8) :
    (sats : ℚ) - 1 / 2 ≤ nearestDouble (sats - shortfall sats (10 ^ decimals)) ∧
      nearestDouble (sats - shortfall sats (10 ^ decimals)) ≤ sats + 1 / 2 := by
  have hcast : (1 : ℚ) ≤ sats := by exact_mod_cast hpos
  have hcastLe : (sats : ℚ) + 1 ≤ 2 ^ 52 := by exact_mod_cast hlt
  have hclose := abs_le.mp (abs_shortfall_le hpos hlt.le hdecimals)
  have hnonneg : (0 : ℚ) < sats - shortfall sats (10 ^ decimals) := by linarith
  have hbelow : sats - shortfall sats (10 ^ decimals) < 2 ^ (53 - ((1 : ℕ) : ℤ)) := by
    norm_num
    linarith
  have hlow := le_nearestDouble_of_lt 1 (2 * sats - 1) hnonneg hbelow (by norm_num) (by
    push_cast
    linarith)
  have hhigh := nearestDouble_le_of_lt 1 (2 * sats + 1) hnonneg hbelow (by norm_num) (by
    push_cast
    linarith)
  push_cast at hlow hhigh
  constructor <;> linarith

theorem floor_nearestDouble_product_iff (hpos : 0 < sats) (hlt : sats < 2 ^ 52)
    (hdecimals : decimals ≤ 8) :
    ⌊nearestDouble (sats - shortfall sats (10 ^ decimals))⌋ = sats ↔
      shortfall sats (10 ^ decimals) ≤ halfGapBelow sats := by
  have hbounds := nearestDouble_product_bounds hpos hlt hdecimals
  rw [← le_nearestDouble_product_iff hpos hlt.le hdecimals, Int.floor_eq_iff, Int.cast_natCast]
  constructor
  · intro h
    exact h.1
  · intro h
    exact ⟨h, by linarith⟩

/-- Above `2 ^ 51` the doubles are the halves, so that a product less than a half above an
amount is rounded down to it exactly when it is at most a quarter above it. -/
theorem nearestDouble_lt_add_half_iff (hpos : 0 < sats) (hlt : sats < 2 ^ 52) {product : ℚ}
    (hle : (sats : ℚ) ≤ product) (hclose : product ≤ sats + sats / 2 ^ 53) :
    nearestDouble product < sats + 1 / 2 ↔ product ≤ sats + 1 / 4 := by
  have hcast : (1 : ℚ) ≤ sats := by exact_mod_cast hpos
  have hcastLe : (sats : ℚ) + 1 ≤ 2 ^ 52 := by exact_mod_cast hlt
  have hproduct : 0 < product := by linarith
  by_cases hsmall : product < 2 ^ 51
  · have hquarter : product ≤ sats + 1 / 4 := by linarith
    have hhigh := nearestDouble_le_of_lt 2 (4 * sats + 1) hproduct
      (by norm_num; linarith) (by norm_num) (by push_cast; linarith)
    push_cast at hhigh
    constructor
    · intro _
      exact hquarter
    · intro _
      linarith
  · have hunit : unitInLastPlace product = 1 / 2 := by
      rw [unitInLastPlace_of_log (e := 51) (by norm_num; linarith) (by norm_num; linarith)
        (by norm_num)]
      norm_num
    have hiff := nearestDouble_le_iff (q := product) (k := 2 * sats) (by omega)
    rw [hunit] at hiff
    push_cast at hiff
    constructor
    · intro h
      -- A half below `sats + 1 / 2` is at most `sats`.
      have hhalves : nearestDouble product ≤ 2 * (sats : ℚ) * (1 / 2) := by
        rw [nearestDouble_eq, hunit] at h ⊢
        have hint : roundHalfEven (product / (1 / 2)) < 2 * sats + 1 := by
          have hrat : (roundHalfEven (product / (1 / 2)) : ℚ) < 2 * sats + 1 := by linarith
          exact_mod_cast hrat
        have hintLe : roundHalfEven (product / (1 / 2)) ≤ 2 * sats := by omega
        have hratLe : (roundHalfEven (product / (1 / 2)) : ℚ) ≤ 2 * sats := by
          exact_mod_cast hintLe
        linarith
      have h := hiff.mp hhalves
      linarith
    · intro h
      have hle := hiff.mpr (by linarith)
      linarith

theorem floor_eq_round_iff (value : ℚ) : ⌊value⌋ = mathRound value ↔ value < ⌊value⌋ + 1 / 2 := by
  have hfloor := Int.floor_le value
  have hlt := Int.lt_floor_add_one value
  unfold mathRound
  constructor
  · intro h
    have hround := Int.lt_floor_add_one (value + 1 / 2)
    rw [← h] at hround
    linarith
  · intro h
    symm
    rw [Int.floor_eq_iff]
    constructor <;> linarith

/-- The floor of the product of an amount below `2 ^ 52` is its nearest integer exactly when the
shortfall is neither above half a gap nor below a quarter under zero. -/
theorem floor_eq_round_product_iff (hpos : 0 < sats) (hlt : sats < 2 ^ 52)
    (hdecimals : decimals ≤ 8) :
    ⌊nearestDouble (sats - shortfall sats (10 ^ decimals))⌋ =
        mathRound (nearestDouble (sats - shortfall sats (10 ^ decimals))) ↔
      -(1 / 4) ≤ shortfall sats (10 ^ decimals) ∧
        shortfall sats (10 ^ decimals) ≤ halfGapBelow sats := by
  have hclose := abs_le.mp (abs_shortfall_le hpos hlt.le hdecimals)
  have hbounds := nearestDouble_product_bounds hpos hlt hdecimals
  have hreach := le_nearestDouble_product_iff hpos hlt.le hdecimals
  have hcastLe : (sats : ℚ) + 1 ≤ 2 ^ 52 := by exact_mod_cast hlt
  have hgap := halfGapBelow_pos sats
  rw [floor_eq_round_iff]
  by_cases hreached : (sats : ℚ) ≤ nearestDouble (sats - shortfall sats (10 ^ decimals))
  · have hfloor : ⌊nearestDouble (sats - shortfall sats (10 ^ decimals))⌋ = sats := by
      rw [Int.floor_eq_iff, Int.cast_natCast]
      exact ⟨hreached, by linarith⟩
    rw [hfloor, Int.cast_natCast]
    by_cases hbelow : 0 < shortfall sats (10 ^ decimals)
    · have hatMost : nearestDouble (sats - shortfall sats (10 ^ decimals)) ≤ sats := by
        have hnonneg : (0 : ℚ) < sats - shortfall sats (10 ^ decimals) := by linarith
        have h := nearestDouble_le_of_lt 0 sats hnonneg (by norm_num; linarith) (by norm_num)
          (by norm_num; linarith)
        simpa using h
      constructor
      · intro _
        exact ⟨by linarith, hreach.mp hreached⟩
      · intro _
        linarith
    · rw [nearestDouble_lt_add_half_iff hpos hlt (by linarith) (by linarith)]
      constructor
      · intro h
        exact ⟨by linarith, by linarith⟩
      · intro h
        linarith [h.1]
  · have hfloor : ⌊nearestDouble (sats - shortfall sats (10 ^ decimals))⌋ = (sats : ℤ) - 1 := by
      rw [Int.floor_eq_iff]
      push_cast
      constructor <;> linarith
    rw [hfloor]
    push_cast
    constructor
    · intro h
      linarith
    · intro h
      exact absurd (hreach.mpr h.2) hreached

end Products

section Units

variable {sats : ℕ}

def decimals : BitcoinDisplayUnit → ℕ
  | .btc => 8
  | .mBtc => 5
  | .uBtc => 2
  | .sat => 0
  | .ksat => 3

theorem decimals_le (unit : BitcoinDisplayUnit) : decimals unit ≤ 8 := by
  cases unit <;> decide

theorem ofRat_of_lt {value : ℚ} (hnonneg : 0 ≤ value) (hlt : value < DOUBLE_LIMIT) :
    Number.ofRat value = .finite (nearestDouble value) := by
  rw [Number.ofRat, binary64, abs_of_nonneg hnonneg, if_pos hlt]

theorem limit_eq : DOUBLE_LIMIT = (2 ^ 54 - 1) * 2 ^ 970 := by
  have hsplit : (2 : ℚ) ^ 1024 = 2 ^ 54 * 2 ^ 970 := by rw [← pow_add]
  rw [DOUBLE_LIMIT, hsplit, sub_mul, one_mul]

theorem two_pow_fifty_four_lt_limit : (2 : ℚ) ^ 54 < DOUBLE_LIMIT := by
  have hlarge : (2 : ℚ) ≤ 2 ^ 970 := by
    calc (2 : ℚ) = 2 ^ 1 := (pow_one 2).symm
      _ ≤ 2 ^ 970 := pow_le_pow_right₀ (by norm_num) (by norm_num)
  rw [limit_eq]
  calc (2 : ℚ) ^ 54 < (2 ^ 54 - 1) * 2 := by norm_num
    _ ≤ (2 ^ 54 - 1) * 2 ^ 970 := mul_le_mul_of_nonneg_left hlarge (by norm_num)

theorem ofRat_of_le {value : ℚ} (hle : DOUBLE_LIMIT ≤ value) : Number.ofRat value = .infinity := by
  have hlimit := two_pow_fifty_four_lt_limit
  have hpos : 0 < value := by linarith
  rw [Number.ofRat, binary64, abs_of_pos hpos, if_neg (not_lt.mpr hle)]
  exact if_pos hpos

theorem clampSats_finite {value : ℚ} (hnonneg : 0 ≤ value) :
    clampSats (.finite value) = min ⌊value⌋.toNat MAX_SAFE_SATS :=
  if_neg (not_lt.mpr hnonneg)

/-- The double of an amount in a unit is read as the floor of the rounded product. -/
theorem satsOfUnits_ofRat (hpos : 0 < sats) (hle : sats ≤ 2 ^ 52) {places : ℕ}
    (hplaces : places ≤ 8) :
    satsOfUnits (.ofRat ((sats : ℚ) / (10 ^ places : ℕ))) (10 ^ places) =
      min ⌊nearestDouble (sats - shortfall sats (10 ^ places))⌋.toNat MAX_SAFE_SATS := by
  have hcastLe : (sats : ℚ) ≤ 2 ^ 52 := by exact_mod_cast hle
  have hcast : (1 : ℚ) ≤ sats := by exact_mod_cast hpos
  have hlimit := two_pow_fifty_four_lt_limit
  have hclose := abs_le.mp (abs_shortfall_le hpos hle hplaces)
  have hquotient : (0 : ℚ) ≤ (sats : ℚ) / (10 ^ places : ℕ) := by positivity
  have hquotientLt : (sats : ℚ) / (10 ^ places : ℕ) < DOUBLE_LIMIT := by
    have hone : (1 : ℚ) ≤ (10 ^ places : ℕ) := by
      exact_mod_cast Nat.one_le_pow _ _ (by norm_num)
    have hdiv : (sats : ℚ) / (10 ^ places : ℕ) ≤ sats := div_le_self (by linarith) hone
    linarith
  have hproduct : (0 : ℚ) ≤ sats - shortfall sats (10 ^ places) := by linarith
  rw [ofRat_of_lt hquotient hquotientLt]
  unfold satsOfUnits
  dsimp only
  rw [if_neg (not_lt.mpr (nearestDouble_nonneg hquotient)),
    nearestDouble_mul_eq hpos hle hplaces, ofRat_of_lt hproduct (by linarith),
    clampSats_finite (nearestDouble_nonneg hproduct)]

theorem floor_toFixed (hpos : 0 < sats) (hlt : sats < 2 ^ 52) {places : ℕ} (hplaces : places ≤ 8) :
    ⌊nearestDouble ((sats : ℚ) / (10 ^ places : ℕ)) * 10 ^ places + 1 / 2⌋ = sats := by
  have hmul := nearestDouble_mul_eq hpos hlt.le hplaces
  have hclose := abs_le.mp (abs_shortfall_le hpos hlt.le hplaces)
  have hcastLt : (sats : ℚ) < 2 ^ 52 := by exact_mod_cast hlt
  push_cast at hmul ⊢
  rw [hmul, Int.floor_eq_iff, Int.cast_natCast]
  constructor <;> linarith

theorem parse_toFixed (hpos : 0 < sats) (hlt : sats < 2 ^ 52) {places : ℕ} (hzero : 0 < places)
    (hplaces : places ≤ 8) :
    satsOfUnits (parseFloat (toFixed (nearestDouble ((sats : ℚ) / (10 ^ places : ℕ))) places))
        (10 ^ places) =
      min ⌊nearestDouble (sats - shortfall sats (10 ^ places))⌋.toNat MAX_SAFE_SATS := by
  rw [← satsOfUnits_ofRat hpos hlt.le hplaces, parseFloat_toFixed _ hzero,
    floor_toFixed hpos hlt hplaces, Int.toNat_natCast]
  push_cast
  rfl

/-- An amount in satoshis is written and read as an integer. -/
theorem parse_formatSats (hle : sats < 2 ^ 52) :
    parseAmountToSatsFromBitcoinDisplayUnit (formatSats sats) .sat = sats := by
  have hmin : min sats MAX_SAFE_SATS = sats := by
    unfold MAX_SAFE_SATS
    omega
  have hdigits := List.all_eq_true.mp (all_isDigit_toDigits sats)
  have hfilter : (Nat.toDigits 10 sats).filter (fun character => character ≠ ',') =
      Nat.toDigits 10 sats := by
    rw [List.filter_eq_self]
    intro c hc
    have hcomma : c ≠ ',' := ne_of_isDigit (hdigits c hc) (by decide)
    simpa using hcomma
  have htrim : trim (Nat.toDigits 10 sats) = Nat.toDigits 10 sats :=
    trim_eq_self fun c hc => isStrWhiteSpace_of_isDigit (hdigits c hc)
  have hcastLt : (sats : ℚ) < 2 ^ 52 := by exact_mod_cast hle
  have hlimit := two_pow_fifty_four_lt_limit
  have hexact : nearestDouble (sats : ℚ) = sats := by
    cases Nat.eq_zero_or_pos sats with
    | inl hzero =>
      rw [hzero, Nat.cast_zero]
      exact nearestDouble_zero
    | inr hpos =>
      have hposRat : (0 : ℚ) < sats := by exact_mod_cast hpos
      have hlow := le_nearestDouble_of_lt 0 sats hposRat (by norm_num; linarith) (by norm_num)
        (by norm_num)
      have hhigh := nearestDouble_le_of_lt 0 sats hposRat (by norm_num; linarith) (by norm_num)
        (by norm_num)
      rw [pow_zero, div_one, Int.cast_natCast] at hlow hhigh
      exact le_antisymm hhigh hlow
  unfold parseAmountToSatsFromBitcoinDisplayUnit formatSats
  dsimp only
  rw [hmin, htrim, if_neg Nat.toDigits_ne_nil, hfilter,
    parseInt_digits (all_isDigit_toDigits sats) Nat.toDigits_ne_nil, digitsValue_toDigits,
    ofRat_of_lt (by positivity) (by linarith), hexact]
  unfold satsOfSats
  dsimp only
  have hnonneg : (0 : ℚ) ≤ sats := by positivity
  rw [if_neg (not_lt.mpr hnonneg), clampSats_finite hnonneg, Int.floor_natCast, Int.toNat_natCast,
    hmin]

/-- Reading what has been formatted, in each unit. -/
theorem parse_format (hpos : 0 < sats) (hlt : sats < 2 ^ 52) (unit : BitcoinDisplayUnit)
    (hunit : unit ≠ .sat) :
    parseAmountToSatsFromBitcoinDisplayUnit (formatAmountInBitcoinDisplayUnit sats unit) unit =
      min ⌊nearestDouble (sats - shortfall sats (10 ^ decimals unit))⌋.toNat MAX_SAFE_SATS := by
  rw [← parse_toFixed hpos hlt _ (decimals_le unit)]
  · cases unit with
    | sat => exact absurd rfl hunit
    | btc | mBtc | uBtc | ksat =>
      unfold parseAmountToSatsFromBitcoinDisplayUnit formatAmountInBitcoinDisplayUnit
      dsimp only
      rw [trim_toFixed, if_neg (toFixed_ne_nil _ _)]
      rfl
  · cases unit with
    | sat => exact absurd rfl hunit
    | btc | mBtc | uBtc | ksat => decide

/-- An amount is read back exactly when its shortfall in the unit is at most half a gap. -/
theorem parse_format_eq_iff (hlt : sats < 2 ^ 52) (unit : BitcoinDisplayUnit) :
    parseAmountToSatsFromBitcoinDisplayUnit (formatAmountInBitcoinDisplayUnit sats unit) unit =
        sats ↔ shortfall sats (10 ^ decimals unit) ≤ halfGapBelow sats := by
  have hgap := halfGapBelow_pos sats
  cases Nat.eq_zero_or_pos sats with
  | inl hzero =>
    subst hzero
    constructor
    · intro _
      have hnone : shortfall 0 (10 ^ decimals unit) = 0 := by simp [shortfall]
      rw [hnone]
      exact hgap.le
    · intro _
      cases unit <;> decide +kernel
  | inr hpos =>
    by_cases hunit : unit = .sat
    · subst hunit
      constructor
      · intro _
        have hnone : shortfall sats (10 ^ decimals .sat) = 0 := shortfall_one sats
        rw [hnone]
        exact hgap.le
      · intro _
        exact parse_formatSats hlt
    · rw [parse_format hpos hlt unit hunit,
        ← floor_nearestDouble_product_iff hpos hlt (decimals_le unit)]
      have hbounds := nearestDouble_product_bounds hpos hlt (decimals_le unit)
      have hcast : (1 : ℚ) ≤ sats := by exact_mod_cast hpos
      have hnonneg : 0 ≤ ⌊nearestDouble (sats - shortfall sats (10 ^ decimals unit))⌋ :=
        Int.floor_nonneg.mpr (by linarith)
      unfold MAX_SAFE_SATS
      omega

end Units

end Bitboard.Frontend.DisplayAmount
