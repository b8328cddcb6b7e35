/-
# Amounts of payment links

The amount of a link and a decimal of bitcoins in the form go through the same doubles. They differ
where rounding down and rounding to the nearest satoshi differ, and where the product is an
infinity: the form takes it for nothing and the link for the largest amount.
-/

import Bitboard.Frontend.DisplayAmountReading

namespace Bitboard.Frontend.DisplayAmount

open Bitboard.Lib

/-- Half of the unit in the last place of the quotients whose products overflow. -/
def OVERFLOW_UNIT : ℕ := 2 ^ 944

/-- From this number of satoshis on the product is an infinity. -/
def OVERFLOWING_SATS : ℕ := 12089258196146291 * OVERFLOW_UNIT * 10 ^ 8

/-- The amount is read back from what is formatted in the unit. -/
def ReadsBack (sats : ℕ) (unit : BitcoinDisplayUnit) : Prop :=
  shortfall sats (10 ^ decimals unit) ≤ halfGapBelow sats

/-- Rounding down and rounding to the nearest satoshi lead to the same amount. -/
def RoundsAlike (sats : ℕ) : Prop :=
  2 ^ 52 < sats ∨ (-(1 / 4) ≤ shortfall sats SATS_PER_BTC ∧
    shortfall sats SATS_PER_BTC ≤ halfGapBelow sats)

/-- A decimal of bitcoins is read alike by the form and as the amount of a link: as nothing where
it is an infinity itself, else where its product is none and is rounded alike. -/
def AgreesWithBip21 (sats : ℕ) : Prop :=
  DOUBLE_LIMIT * SATS_PER_BTC ≤ sats ∨ (sats < OVERFLOWING_SATS ∧ RoundsAlike sats)

section Large

variable {sats : ℕ}

theorem unitInLastPlace_of_large {q : ℚ} (hlow : 2 ^ 53 * 2 ^ 944 ≤ q)
    (hhigh : q < 2 ^ 54 * 2 ^ 944) : unitInLastPlace q = 2 * 2 ^ 944 := by
  have hlowPow : (2 : ℚ) ^ (997 : ℤ) ≤ q := by
    have hpow : (2 : ℚ) ^ (997 : ℤ) = 2 ^ 53 * 2 ^ 944 := by
      rw [← pow_add, ← zpow_natCast]
      rfl
    rw [hpow]
    exact hlow
  have hhighPow : q < (2 : ℚ) ^ ((997 : ℤ) + 1) := by
    have hpow : (2 : ℚ) ^ ((997 : ℤ) + 1) = 2 ^ 54 * 2 ^ 944 := by
      rw [← pow_add, ← zpow_natCast]
      rfl
    rw [hpow]
    exact hhigh
  have hexponent : (2 : ℚ) ^ ((997 : ℤ) - 52) = 2 * 2 ^ 944 := by
    rw [← pow_succ', ← zpow_natCast]
    rfl
  rw [unitInLastPlace_of_log hlowPow hhighPow (by norm_num), hexponent]

/-- A large product is an infinity exactly from the overflowing amount on. -/
theorem limit_le_product_iff {quotient : ℚ} (hnormal : (2 : ℚ) ^ (-1022 : ℤ) ≤ quotient) :
    DOUBLE_LIMIT ≤ nearestDouble quotient * 10 ^ 8 ↔ 12089258196146291 * 2 ^ 944 ≤ quotient := by
  have hpos : 0 < quotient := lt_of_lt_of_le (by positivity) hnormal
  have herror := abs_le.mp (abs_sub_nearestDouble_le_mul hnormal)
  have hreach := le_nearestDouble_iff (q := quotient) (k := 6044629098073146) (by norm_num)
  have hunit := unitInLastPlace_of_large (q := quotient)
  have hfactor : (2 : ℚ) ^ 970 = 2 ^ 26 * 2 ^ 944 := by rw [← pow_add]
  have hbase : (0 : ℚ) < 2 ^ 944 := by positivity
  rw [limit_eq, hfactor]
  clear hnormal hfactor
  generalize (2 : ℚ) ^ 944 = base at *
  constructor
  · intro hlimit
    by_contra hless
    by_cases hlow : 2 ^ 53 * base ≤ quotient
    · rw [hunit hlow (by linarith)] at hreach
      have hnot : ¬ ((6044629098073146 : ℤ) : ℚ) * (2 * base) ≤ nearestDouble quotient := by
        intro h
        have h := hreach.mp h
        push_cast at h
        linarith
      rw [nearestDouble_eq, hunit hlow (by linarith)] at hnot hlimit
      have hint : roundHalfEven (quotient / (2 * base)) < 6044629098073146 := by
        by_contra hge
        have hgeRat : ((6044629098073146 : ℤ) : ℚ) ≤ roundHalfEven (quotient / (2 * base)) := by
          exact_mod_cast not_lt.mp hge
        exact hnot (mul_le_mul_of_nonneg_right hgeRat (by linarith))
      have hintLe : roundHalfEven (quotient / (2 * base)) ≤ 6044629098073145 := by omega
      have hrat : (roundHalfEven (quotient / (2 * base)) : ℚ) ≤ 6044629098073145 := by
        exact_mod_cast hintLe
      have hbound := mul_le_mul_of_nonneg_right hrat (by linarith : (0 : ℚ) ≤ 2 * base)
      linarith
    · linarith
  · intro hge
    by_cases hhigh : quotient < 2 ^ 54 * base
    · rw [hunit (by linarith) hhigh] at hreach
      push_cast at hreach
      have h := hreach.mpr (by linarith)
      linarith
    · linarith

theorem cast_overflow_unit : ((OVERFLOW_UNIT : ℕ) : ℚ) = 2 ^ 944 :=
  (Nat.cast_pow 2 944).trans (by rw [Nat.cast_ofNat])

theorem cast_overflowing_sats :
    ((OVERFLOWING_SATS : ℕ) : ℚ) = 12089258196146291 * 2 ^ 944 * 10 ^ 8 := by
  have hcast : ∀ overflowUnit : ℕ, ((12089258196146291 * overflowUnit * 10 ^ 8 : ℕ) : ℚ) =
      12089258196146291 * overflowUnit * 10 ^ 8 := by
    intro overflowUnit
    simp only [Nat.cast_mul, Nat.cast_pow, Nat.cast_ofNat]
  rw [← cast_overflow_unit]
  exact hcast OVERFLOW_UNIT

theorem limit_le_amount_iff (hpos : 0 < sats) :
    DOUBLE_LIMIT ≤ nearestDouble ((sats : ℚ) / SATS_PER_BTC) * SATS_PER_BTC ↔
      OVERFLOWING_SATS ≤ sats := by
  have hunit : ((SATS_PER_BTC : ℕ) : ℚ) = 10 ^ 8 := by norm_num [SATS_PER_BTC]
  have hcast : (1 : ℚ) ≤ sats := by exact_mod_cast hpos
  have hquotient : (2 : ℚ) ^ (-1022 : ℤ) ≤ (sats : ℚ) / 10 ^ 8 := by
    calc (2 : ℚ) ^ (-1022 : ℤ) ≤ 2 ^ (-27 : ℤ) := zpow_le_zpow_right₀ (by norm_num) (by norm_num)
      _ ≤ 1 / 10 ^ 8 := by norm_num
      _ ≤ (sats : ℚ) / 10 ^ 8 := by gcongr
  have hscale : (0 : ℚ) < 10 ^ 8 := by norm_num
  rw [hunit, limit_le_product_iff hquotient, le_div_iff₀ hscale, ← cast_overflowing_sats,
    Nat.cast_le]

theorem floor_eq_round_of_large (hlarge : 2 ^ 52 < sats) :
    ⌊nearestDouble (nearestDouble ((sats : ℚ) / SATS_PER_BTC) * SATS_PER_BTC)⌋ =
      mathRound (nearestDouble (nearestDouble ((sats : ℚ) / SATS_PER_BTC) * SATS_PER_BTC)) := by
  have hcast : (2 : ℚ) ^ 52 + 1 ≤ sats := by exact_mod_cast hlarge
  have hpos : 0 < sats := by omega
  have hclose := abs_le.mp
    (abs_sub_mul_nearestDouble_le SATS_PER_BTC (by decide) (by decide) hpos)
  have hproduct : 2 ^ 52 ≤ nearestDouble ((sats : ℚ) / SATS_PER_BTC) * SATS_PER_BTC := by
    linarith
  obtain ⟨m, hm⟩ := exists_nearestDouble_eq_intCast hproduct
  rw [hm, floor_eq_round_iff, Int.floor_intCast]
  linarith

end Large

section Decimals

variable (amount : BtcDecimal)

theorem parse_text : parseAmountToSatsFromBitcoinDisplayUnit amount.text .btc =
    satsOfUnits (.ofRat ((amount.sats : ℚ) / SATS_PER_BTC)) SATS_PER_BTC := by
  unfold parseAmountToSatsFromBitcoinDisplayUnit
  dsimp only
  rw [amount.trim_text, if_neg amount.text_ne_nil, amount.parseFloat_text]

theorem bip21AmountBtc_text : bip21AmountBtc amount.text =
    match Number.ofRat ((amount.sats : ℚ) / SATS_PER_BTC) with
    | .finite parsedAmount => if 0 < parsedAmount then some parsedAmount else none
    | _ => none := by
  rewrite [bip21AmountBtc, if_neg amount.text_ne_nil, amount.parseFloat_text]
  rfl

theorem bip21AmountSats_of_finite {amountBtc sats : ℚ}
    (h : Number.ofRat (amountBtc * SATS_PER_BTC) = .finite sats) :
    bip21AmountSats amountBtc = min MAX_SAFE_SATS (mathRound sats).toNat := by
  unfold bip21AmountSats
  rw [h]

theorem bip21AmountSats_of_infinity {amountBtc : ℚ}
    (h : Number.ofRat (amountBtc * SATS_PER_BTC) = .infinity) :
    bip21AmountSats amountBtc = MAX_SAFE_SATS := by
  unfold bip21AmountSats
  rw [h]

theorem nearestDouble_amount_pos {sats : ℕ} (hpos : 0 < sats) :
    0 < nearestDouble ((sats : ℚ) / SATS_PER_BTC) := by
  have hunit : (0 : ℚ) < SATS_PER_BTC := by norm_num [SATS_PER_BTC]
  have hcast : (1 : ℚ) ≤ sats := by exact_mod_cast hpos
  have hclose := abs_le.mp
    (abs_sub_mul_nearestDouble_le SATS_PER_BTC (by decide) (by decide) hpos)
  apply pos_of_mul_pos_left _ hunit.le
  linarith

theorem satsFromBip21Amount_of_finite {amount : BtcDecimal} (hpos : 0 < amount.sats)
    (hdecimal : (amount.sats : ℚ) / SATS_PER_BTC < DOUBLE_LIMIT) :
    satsFromBip21Amount amount.text =
      bip21AmountSats (nearestDouble ((amount.sats : ℚ) / SATS_PER_BTC)) := by
  have hquotient : (0 : ℚ) ≤ (amount.sats : ℚ) / SATS_PER_BTC := by positivity
  unfold satsFromBip21Amount
  rw [bip21AmountBtc_text, ofRat_of_lt hquotient hdecimal]
  dsimp only
  rw [if_pos (nearestDouble_amount_pos hpos), Option.map_some, Option.getD_some]

theorem parse_text_of_finite {amount : BtcDecimal}
    (hdecimal : (amount.sats : ℚ) / SATS_PER_BTC < DOUBLE_LIMIT) :
    parseAmountToSatsFromBitcoinDisplayUnit amount.text .btc =
      clampSats (.ofRat (nearestDouble ((amount.sats : ℚ) / SATS_PER_BTC) * SATS_PER_BTC)) := by
  have hquotient : (0 : ℚ) ≤ (amount.sats : ℚ) / SATS_PER_BTC := by positivity
  rw [parse_text, ofRat_of_lt hquotient hdecimal]
  exact if_neg (not_lt.mpr (nearestDouble_nonneg hquotient))

/-- An amount up to `2 ^ 52` is rounded alike exactly under the condition on its shortfall. -/
theorem roundsAlike_iff {sats : ℕ} (hpos : 0 < sats) (hle : sats ≤ 2 ^ 52) :
    ⌊nearestDouble (sats - shortfall sats SATS_PER_BTC)⌋ =
        mathRound (nearestDouble (sats - shortfall sats SATS_PER_BTC)) ↔ RoundsAlike sats := by
  have hgap := halfGapBelow_pos sats
  cases Nat.lt_or_eq_of_le hle with
  | inl hlt =>
    have hiff := floor_eq_round_product_iff hpos hlt (le_refl 8)
    rw [RoundsAlike, or_iff_right (by omega)]
    exact hiff
  | inr heq =>
    -- The product of this single amount lies above it, where the doubles are integers.
    have hshort : -(1 / 4) ≤ shortfall (2 ^ 52) SATS_PER_BTC ∧
        shortfall (2 ^ 52) SATS_PER_BTC ≤ 0 := by
      decide +kernel
    rw [← heq] at hshort
    have hcast : (sats : ℚ) = 2 ^ 52 := by exact_mod_cast heq
    have hproduct : (2 : ℚ) ^ 52 ≤ sats - shortfall sats SATS_PER_BTC := by
      linarith [hshort.2]
    obtain ⟨m, hm⟩ := exists_nearestDouble_eq_intCast hproduct
    constructor
    · intro _
      exact .inr ⟨hshort.1, hshort.2.trans hgap.le⟩
    · intro _
      rw [hm, floor_eq_round_iff, Int.floor_intCast]
      linarith

/-- Where neither the decimal nor its product is an infinity, the two readings differ by how the
product is rounded. -/
theorem satsFromBip21Amount_eq_iff {amount : BtcDecimal} (hpos : 0 < amount.sats)
    (hdecimal : (amount.sats : ℚ) / SATS_PER_BTC < DOUBLE_LIMIT)
    (hproduct : nearestDouble ((amount.sats : ℚ) / SATS_PER_BTC) * SATS_PER_BTC < DOUBLE_LIMIT) :
    satsFromBip21Amount amount.text = parseAmountToSatsFromBitcoinDisplayUnit amount.text .btc ↔
      RoundsAlike amount.sats := by
  have hunit : (0 : ℚ) < SATS_PER_BTC := by norm_num [SATS_PER_BTC]
  have hcast : (1 : ℚ) ≤ amount.sats := by exact_mod_cast hpos
  have hclose := abs_le.mp
    (abs_sub_mul_nearestDouble_le SATS_PER_BTC (by decide) (by decide) hpos)
  have hpositive := nearestDouble_amount_pos hpos
  have hnonneg : 0 ≤ nearestDouble ((amount.sats : ℚ) / SATS_PER_BTC) * SATS_PER_BTC := by
    positivity
  rw [satsFromBip21Amount_of_finite hpos hdecimal, parse_text_of_finite hdecimal,
    bip21AmountSats_of_finite (ofRat_of_lt hnonneg hproduct), ofRat_of_lt hnonneg hproduct,
    clampSats_finite (nearestDouble_nonneg hnonneg)]
  by_cases hlarge : 2 ^ 52 < amount.sats
  · rw [floor_eq_round_of_large hlarge, min_comm]
    constructor
    · intro _
      exact .inl hlarge
    · intro _
      rfl
  · have hle : amount.sats ≤ 2 ^ 52 := not_lt.mp hlarge
    have hcastLe : (amount.sats : ℚ) ≤ 2 ^ 52 := by exact_mod_cast hle
    have hmul : nearestDouble ((amount.sats : ℚ) / SATS_PER_BTC) * SATS_PER_BTC =
        amount.sats - shortfall amount.sats SATS_PER_BTC := by
      have hproductEq := nearestDouble_mul_eq hpos hle (le_refl 8)
      exact hproductEq
    rw [← roundsAlike_iff hpos hle, hmul]
    rw [hmul] at hnonneg hclose
    have hvalue := nearestDouble_nonneg hnonneg
    have hpositive : (0 : ℚ) < amount.sats - shortfall amount.sats SATS_PER_BTC := by linarith
    have hbelow := nearestDouble_le_of_lt 0 (2 ^ 52 + 1) hpositive
      (by norm_num; linarith) (by norm_num) (by norm_num; linarith)
    rw [pow_zero, div_one] at hbelow
    push_cast at hbelow
    generalize nearestDouble (amount.sats - shortfall amount.sats SATS_PER_BTC) = value at *
    have hfloor : 0 ≤ ⌊value⌋ := Int.floor_nonneg.mpr hvalue
    have hround : ⌊value⌋ ≤ mathRound value := by
      apply Int.floor_le_floor
      linarith
    have hroundLe : mathRound value ≤ 2 ^ 52 + 1 := by
      have h := Int.floor_le (value + 1 / 2)
      have hlt : (mathRound value : ℚ) < 2 ^ 52 + 2 := by
        unfold mathRound
        linarith
      have hint : mathRound value < 2 ^ 52 + 2 := by exact_mod_cast hlt
      omega
    unfold MAX_SAFE_SATS
    omega

/-- The amount of a link and the form agree on a decimal of bitcoins exactly under the condition
on its satoshis. -/
theorem satsFromBip21Amount_text_iff (amount : BtcDecimal) :
    satsFromBip21Amount amount.text = parseAmountToSatsFromBitcoinDisplayUnit amount.text .btc ↔
      AgreesWithBip21 amount.sats := by
  have hunit : (0 : ℚ) < SATS_PER_BTC := by norm_num [SATS_PER_BTC]
  have hlimit := two_pow_fifty_four_lt_limit
  by_cases hinfinite : DOUBLE_LIMIT ≤ (amount.sats : ℚ) / SATS_PER_BTC
  · have hdecimal : DOUBLE_LIMIT * SATS_PER_BTC ≤ amount.sats := (le_div_iff₀ hunit).mp hinfinite
    constructor
    · intro _
      exact .inl hdecimal
    · intro _
      rw [parse_text, satsFromBip21Amount, bip21AmountBtc_text, ofRat_of_le hinfinite]
      rfl
  · have hdecimal : ¬ DOUBLE_LIMIT * SATS_PER_BTC ≤ amount.sats := by
      rw [← le_div_iff₀ hunit]
      exact hinfinite
    have hfinite : (amount.sats : ℚ) / SATS_PER_BTC < DOUBLE_LIMIT := not_le.mp hinfinite
    rw [AgreesWithBip21, or_iff_right hdecimal]
    by_cases hoverflow : DOUBLE_LIMIT ≤
        nearestDouble ((amount.sats : ℚ) / SATS_PER_BTC) * SATS_PER_BTC
    · have hpos : 0 < amount.sats := by
        by_contra hzero
        rw [Nat.eq_zero_of_not_pos hzero, Nat.cast_zero, zero_div, nearestDouble_zero,
          zero_mul] at hoverflow
        linarith
      have hlarge : OVERFLOWING_SATS ≤ amount.sats := (limit_le_amount_iff hpos).mp hoverflow
      rw [satsFromBip21Amount_of_finite hpos hfinite, parse_text_of_finite hfinite,
        ofRat_of_le hoverflow, bip21AmountSats_of_infinity (ofRat_of_le hoverflow)]
      constructor
      · intro h
        cases h
      · intro h
        exact absurd hlarge (not_le.mpr h.1)
    · cases Nat.eq_zero_or_pos amount.sats with
      | inl hzero =>
        have hzeroRat : (amount.sats : ℚ) / SATS_PER_BTC = 0 := by
          rw [hzero, Nat.cast_zero, zero_div]
        have hbelow : amount.sats < OVERFLOWING_SATS := by
          have hoverflowing : (0 : ℚ) < OVERFLOWING_SATS := by
            rw [cast_overflowing_sats]
            positivity
          rw [hzero]
          exact_mod_cast hoverflowing
        have hshort : shortfall amount.sats SATS_PER_BTC = 0 := by
          rw [hzero]
          simp [shortfall]
        have halike : RoundsAlike amount.sats := by
          right
          rw [hshort]
          exact ⟨by norm_num, (halfGapBelow_pos _).le⟩
        rw [iff_true_right ⟨hbelow, halike⟩, parse_text, satsFromBip21Amount,
          bip21AmountBtc_text, hzeroRat]
        decide +kernel
      | inr hpos =>
        have hbelow : amount.sats < OVERFLOWING_SATS := by
          rw [← not_le, ← limit_le_amount_iff hpos]
          exact hoverflow
        rw [and_iff_right hbelow]
        exact satsFromBip21Amount_eq_iff hpos hfinite (not_le.mp hoverflow)

end Decimals

/-- Exactly which amounts are read back in a unit, and on which decimals the two readings agree. -/
theorem readsBack_and_agreesWithBip21 (unit : BitcoinDisplayUnit) (sats : Nat)
    (hle : sats ≤ 21 * 10 ^ 14) (amount : BtcDecimal) :
    (parseAmountToSatsFromBitcoinDisplayUnit (formatAmountInBitcoinDisplayUnit sats unit) unit =
        sats ↔ ReadsBack sats unit) ∧
      (satsFromBip21Amount amount.text = parseAmountToSatsFromBitcoinDisplayUnit amount.text .btc ↔
        AgreesWithBip21 amount.sats) := by
  constructor
  · exact parse_format_eq_iff (by omega) unit
  · exact satsFromBip21Amount_text_iff amount

def twentyNineHundredths : BtcDecimal where
  whole := ['0']
  fraction := some ['2', '9', '0', '0', '0', '0', '0', '0']
  whole_digits := by decide
  fraction_digits := by decide
  some_digit := by decide
  decimals_le := by decide

theorem readsBack_and_agreesWithBip21_nine_satoshis :
    (parseAmountToSatsFromBitcoinDisplayUnit (formatAmountInBitcoinDisplayUnit 9 .btc) .btc =
        9 ↔ ReadsBack 9 .btc) ∧
      (satsFromBip21Amount twentyNineHundredths.text =
          parseAmountToSatsFromBitcoinDisplayUnit twentyNineHundredths.text .btc ↔
        AgreesWithBip21 twentyNineHundredths.sats) :=
  readsBack_and_agreesWithBip21 .btc 9 (by norm_num) twentyNineHundredths

/-- 0.29 bitcoins lose a satoshi in the form, and none as the amount of a link. -/
theorem twentyNineHundredths_loses_a_satoshi :
    formatAmountInBitcoinDisplayUnit 29000000 .btc = twentyNineHundredths.text ∧
      parseAmountToSatsFromBitcoinDisplayUnit twentyNineHundredths.text .btc = 28999999 ∧
      satsFromBip21Amount twentyNineHundredths.text = 29000000 ∧
      ¬ ((∀ unit sats, sats ≤ 21 * 10 ^ 14 →
          parseAmountToSatsFromBitcoinDisplayUnit (formatAmountInBitcoinDisplayUnit sats unit)
            unit = sats) ∧
        ∀ amount : BtcDecimal, satsFromBip21Amount amount.text =
          parseAmountToSatsFromBitcoinDisplayUnit amount.text .btc) := by
  have hformat : formatAmountInBitcoinDisplayUnit 29000000 .btc = twentyNineHundredths.text := by
    decide +kernel
  have hparse : parseAmountToSatsFromBitcoinDisplayUnit twentyNineHundredths.text .btc =
      28999999 := by
    decide +kernel
  have hlink : satsFromBip21Amount twentyNineHundredths.text = 29000000 := by
    decide +kernel
  refine ⟨hformat, hparse, hlink, ?_⟩
  intro hboth
  have hsame := hboth.2 twentyNineHundredths
  rw [hparse, hlink] at hsame
  omega

end Bitboard.Frontend.DisplayAmount
