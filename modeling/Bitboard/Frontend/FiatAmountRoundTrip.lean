/-
# Fiat amounts that are read back

What is written for a currency with decimals is read as the rounded fiat value. For a currency
without decimals it is so unless the value is a positive multiple of ten.
-/

import Bitboard.Frontend.FiatAmountTrim

namespace Bitboard.Frontend.FiatAmount

open DisplayAmount (digitsValue_toDigits all_isDigit_toDigits paddedDigits
  all_isDigit_paddedDigits length_paddedDigits digitsValue_paddedDigits toFixed_eq)

section Written

variable {digits : ℕ}

/-- What is written with decimals is read as the rounded number. -/
theorem parse_trim_toFixed (fiatAmount : ℚ) (hdigits : 0 < digits) :
    trimTrailingZeros (toFixed fiatAmount digits) ≠ [] ∧
      parsePositiveFiatAmountInput (trimTrailingZeros (toFixed fiatAmount digits)) =
        some ((⌊fiatAmount * 10 ^ digits + 1 / 2⌋.toNat : ℚ) / 10 ^ digits) := by
  rw [toFixed, if_neg (Nat.pos_iff_ne_zero.mp hdigits), toFixed_eq,
    trimTrailingZeros_append_point (all_isDigit_toDigits _)]
  generalize ⌊fiatAmount * 10 ^ digits + 1 / 2⌋.toNat = integer
  have hvalue : digitsValue (Nat.toDigits 10 (integer / 10 ^ digits) ++
      paddedDigits integer digits) = integer := digitsValue_paddedDigits hdigits
  have hwhole := all_isDigit_toDigits (integer / 10 ^ digits)
  have hne : Nat.toDigits 10 (integer / 10 ^ digits) ≠ [] := Nat.toDigits_ne_nil
  have hfraction := all_isDigit_paddedDigits integer digits
  have hlength : (paddedDigits integer digits).length = digits := length_paddedDigits hdigits
  constructor
  · intro hnil
    exact hne (List.append_eq_nil_iff.mp hnil).1
  · cases trimTrailingZeros_point hfraction with
    | inl hall =>
      obtain ⟨hnil, hzeros⟩ := hall
      rw [hzeros, hlength, digitsValue_append_zeros] at hvalue
      rw [hnil, List.append_nil, parse_digits hwhole hne]
      congr 1
      have hcast : (digitsValue (Nat.toDigits 10 (integer / 10 ^ digits)) : ℚ) * 10 ^ digits =
          integer := by exact_mod_cast hvalue
      field_simp
      exact hcast
    | inr hsome =>
      obtain ⟨kept, zeros, hkept, hzeros⟩ := hsome
      have hsplit : kept.length + zeros = digits := by
        rw [← hlength, hzeros, List.length_append, List.length_replicate]
      have hkeptDigits : kept.all Char.isDigit = true := by
        rw [hzeros, List.all_append, Bool.and_eq_true] at hfraction
        exact hfraction.1
      rw [hzeros, ← List.append_assoc, digitsValue_append_zeros] at hvalue
      rw [hkept, parse_point hwhole hkeptDigits hne]
      congr 1
      have hcast : (digitsValue (Nat.toDigits 10 (integer / 10 ^ digits) ++ kept) : ℚ) *
          10 ^ zeros = integer := by exact_mod_cast hvalue
      have hpower : (10 : ℚ) ^ zeros ≠ 0 := by positivity
      have hscale : (10 : ℚ) ^ digits = 10 ^ kept.length * 10 ^ zeros := by
        rw [← hsplit, pow_add]
      rw [hscale, ← hcast, mul_div_mul_right _ _ hpower]

/-- A whole number is read back unless it is a positive multiple of ten. -/
theorem parse_trim_toDigits (integer : ℕ) :
    parsePositiveFiatAmountInput
        (if trimTrailingZeros (Nat.toDigits 10 integer) = [] then ['0']
          else trimTrailingZeros (Nat.toDigits 10 integer)) = some (integer : ℚ) ↔
      integer = 0 ∨ integer % 10 ≠ 0 := by
  have hdigits := all_isDigit_toDigits integer
  have hvalue := digitsValue_toDigits integer
  by_cases hzero : integer = 0
  · rw [hzero]
    have hparse : parsePositiveFiatAmountInput ['0'] = some ((digitsValue ['0'] : ℕ) : ℚ) :=
      parse_digits (by decide) (by decide)
    have hnil : trimTrailingZeros (Nat.toDigits 10 0) = [] := by decide
    rw [if_pos hnil, hparse]
    exact ⟨fun _ => .inl rfl, fun _ => rfl⟩
  · obtain ⟨zeros, heq⟩ := trimTrailingZeros_digits hdigits
    have hkept : (trimTrailingZeros (Nat.toDigits 10 integer)).all Char.isDigit = true := by
      rw [heq, List.all_append, Bool.and_eq_true] at hdigits
      exact hdigits.1
    have hshift : digitsValue (trimTrailingZeros (Nat.toDigits 10 integer)) * 10 ^ zeros =
        integer := by
      rw [← digitsValue_append_zeros, ← heq, hvalue]
    have hne : trimTrailingZeros (Nat.toDigits 10 integer) ≠ [] := by
      intro hnil
      rw [hnil] at hshift
      have hnone : digitsValue [] * 10 ^ zeros = 0 := by
        rw [digitsValue, List.foldl_nil, Nat.zero_mul]
      omega
    rw [if_neg hne, parse_digits hkept hne, Option.some_inj, Nat.cast_inj]
    constructor
    · intro hsame
      apply Or.inr
      intro hten
      -- The last digit is cut off, so the value is another one.
      have hlast : Nat.toDigits 10 integer = Nat.toDigits 10 (integer / 10) ++ ['0'] := by
        rw [Nat.toDigits_of_base_le (by decide) (by omega), hten]
        rfl
      have hcut := trimTrailingZeros_append_zero (all_isDigit_toDigits (integer / 10))
      rw [← hlast] at hcut
      have hpos : zeros ≠ 0 := by
        intro hnone
        rw [hnone, List.replicate_zero, List.append_nil] at heq
        exact hcut heq.symm
      have hgrow : 1 < 10 ^ zeros := Nat.one_lt_pow hpos (by decide)
      rw [hsame] at hshift
      have hlarger : integer * 1 < integer * 10 ^ zeros :=
        Nat.mul_lt_mul_of_pos_left hgrow (Nat.pos_of_ne_zero hzero)
      omega
    · intro hcondition
      have hten : integer % 10 ≠ 0 := hcondition.resolve_left hzero
      have hnone : zeros = 0 := by
        by_contra hpos
        apply hten
        rw [← hshift]
        exact Nat.mod_eq_zero_of_dvd (Dvd.dvd.mul_left (dvd_pow_self 10 hpos) _)
      rw [hnone, Nat.pow_zero, Nat.mul_one] at hshift
      exact hshift

end Written

section Converting

variable {amountSats : ℕ} {btcPriceInFiat : ℚ} {digits : ℕ}

/-- The rounded fiat value is off by half a unit at most, and is no more than twice the value. -/
theorem fiatUnits_bounds (amountSats digits : ℕ) (hprice : 0 < btcPriceInFiat) :
    |(fiatUnits amountSats btcPriceInFiat digits : ℚ) -
        amountSats / SATS_PER_BTC * btcPriceInFiat * 10 ^ digits| ≤ 1 / 2 ∧
      (fiatUnits amountSats btcPriceInFiat digits : ℚ) ≤
        2 * (amountSats / SATS_PER_BTC * btcPriceInFiat * 10 ^ digits) := by
  have hnonneg : 0 ≤ (amountSats / SATS_PER_BTC * btcPriceInFiat * 10 ^ digits : ℚ) := by
    positivity
  unfold fiatUnits
  generalize (amountSats / SATS_PER_BTC * btcPriceInFiat * 10 ^ digits : ℚ) = units at hnonneg ⊢
  have hfloor : 0 ≤ ⌊units + 1 / 2⌋ := Int.floor_nonneg.mpr (by linarith)
  have hcast : ((⌊units + 1 / 2⌋.toNat : ℕ) : ℚ) = (⌊units + 1 / 2⌋ : ℚ) := by
    exact_mod_cast congrArg (Int.cast : ℤ → ℚ) (Int.toNat_of_nonneg hfloor)
  have hle := Int.floor_le (units + 1 / 2)
  have hlt := Int.lt_floor_add_one (units + 1 / 2)
  rw [hcast]
  constructor
  · rw [abs_le]
    constructor
    · linarith
    · linarith
  · by_cases hhalf : units < 1 / 2
    · have hzero : ⌊units + 1 / 2⌋ = 0 := Int.floor_eq_zero_iff.mpr ⟨by linarith, by linarith⟩
      rw [hzero]
      simpa using hnonneg
    · linarith

/-- The rounded fiat value is converted to the amount, up to half a unit and a satoshi. -/
theorem amountSats_of_fiatUnits (hamount : amountSats ≤ MAX_AMOUNT_SATS)
    (hprice : 0 < btcPriceInFiat) :
    ∃ sats, amountSatsFromFiatAndBtcPrice
        ((fiatUnits amountSats btcPriceInFiat digits : ℚ) / 10 ^ digits) btcPriceInFiat =
          some sats ∧
      |(sats : ℚ) - amountSats| ≤
        1 / 2 / 10 ^ digits / btcPriceInFiat * SATS_PER_BTC + 1 := by
  obtain ⟨hclose, htwice⟩ := fiatUnits_bounds amountSats digits hprice
  have hnonneg : (0 : ℚ) ≤ fiatUnits amountSats btcPriceInFiat digits := Nat.cast_nonneg _
  generalize (fiatUnits amountSats btcPriceInFiat digits : ℚ) = units at hclose htwice hnonneg ⊢
  have hpower : (0 : ℚ) < 10 ^ digits := by positivity
  have hbtc : (0 : ℚ) < SATS_PER_BTC := by norm_num [SATS_PER_BTC]
  have hscale : 0 < SATS_PER_BTC / (10 ^ digits * btcPriceInFiat) := by positivity
  have hexact : (amountSats / SATS_PER_BTC * btcPriceInFiat * 10 ^ digits : ℚ) *
      (SATS_PER_BTC / (10 ^ digits * btcPriceInFiat)) = amountSats := by
    field_simp
  have hworth : units / 10 ^ digits / btcPriceInFiat * SATS_PER_BTC =
      units * (SATS_PER_BTC / (10 ^ digits * btcPriceInFiat)) := by
    field_simp
  have hunit : 1 / 2 / 10 ^ digits / btcPriceInFiat * SATS_PER_BTC =
      1 / 2 * (SATS_PER_BTC / (10 ^ digits * btcPriceInFiat)) := by
    field_simp
  rw [hunit]
  generalize (SATS_PER_BTC / (10 ^ digits * btcPriceInFiat) : ℚ) = scale
    at hscale hexact hworth ⊢
  generalize (amountSats / SATS_PER_BTC * btcPriceInFiat * 10 ^ digits : ℚ) = exactUnits
    at hclose htwice hexact
  have hamountCast : (amountSats : ℚ) ≤ 21 * 10 ^ 14 := by exact_mod_cast hamount
  -- What is converted is off by half a unit, and within twice the amount.
  have hoff : |units * scale - amountSats| ≤ 1 / 2 * scale := by
    rw [← hexact, ← sub_mul, abs_mul, abs_of_pos hscale]
    exact mul_le_mul_of_nonneg_right hclose (le_of_lt hscale)
  have hbelow : units * scale ≤ 2 * amountSats := by
    rw [← hexact, ← mul_assoc]
    exact mul_le_mul_of_nonneg_right htwice (le_of_lt hscale)
  have habove : 0 ≤ units * scale := mul_nonneg hnonneg (le_of_lt hscale)
  have hfloorLe := Int.floor_le (units * scale + 1 / 2)
  have hltFloor := Int.lt_floor_add_one (units * scale + 1 / 2)
  have hfloorNonneg : 0 ≤ ⌊units * scale + 1 / 2⌋ := Int.floor_nonneg.mpr (by linarith)
  have hsafe : |⌊units * scale + 1 / 2⌋| ≤ (MAX_SAFE_SATS : ℤ) := by
    rw [abs_of_nonneg hfloorNonneg]
    have hcast : (⌊units * scale + 1 / 2⌋ : ℚ) ≤ (MAX_SAFE_SATS : ℤ) := by
      have hmax : (((MAX_SAFE_SATS : ℕ) : ℤ) : ℚ) = 9007199254740991 := by norm_num [MAX_SAFE_SATS]
      rw [hmax]
      linarith
    exact_mod_cast hcast
  apply Exists.intro ⌊units * scale + 1 / 2⌋
  constructor
  · have hfiat : ¬ units / 10 ^ digits < 0 := not_lt.mpr (by positivity)
    rw [amountSatsFromFiatAndBtcPrice, if_pos hprice, if_neg hfiat, hworth]
    exact if_pos hsafe
  · rw [abs_le] at hoff ⊢
    constructor
    · linarith [hoff.1]
    · linarith [hoff.2]

end Converting

section Field

variable {maxFractionDigitsFromIntl : String → ℕ} {amountSats : ℕ} {btcPriceInFiat : ℚ}
  {currencyInput : String}

/-- The text is read as the rounded fiat value, unless there are no decimals and the value is a
positive multiple of ten. -/
theorem parse_format_iff :
    parsePositiveFiatAmountInput (formatFiatInputStringFromSats maxFractionDigitsFromIntl
        amountSats btcPriceInFiat currencyInput) =
      some ((fiatUnits amountSats btcPriceInFiat
        (maxFractionDigits maxFractionDigitsFromIntl currencyInput) : ℚ) /
          10 ^ maxFractionDigits maxFractionDigitsFromIntl currencyInput) ↔
    0 < maxFractionDigits maxFractionDigitsFromIntl currencyInput ∨
      fiatUnits amountSats btcPriceInFiat 0 = 0 ∨
        fiatUnits amountSats btcPriceInFiat 0 % 10 ≠ 0 := by
  rw [formatFiatInputStringFromSats, formatFiatNumericStringForInput]
  generalize maxFractionDigits maxFractionDigitsFromIntl currencyInput = digits
  cases digits with
  | zero =>
    have hunits : ⌊(amountSats / SATS_PER_BTC * btcPriceInFiat : ℚ) + 1 / 2⌋.toNat =
        fiatUnits amountSats btcPriceInFiat 0 := by
      rw [fiatUnits, pow_zero, mul_one]
    rw [toFixed, if_pos rfl, hunits, pow_zero, div_one]
    rw [parse_trim_toDigits]
    constructor
    · intro h
      exact .inr h
    · intro h
      exact h.resolve_left (Nat.lt_irrefl 0)
  | succ digits =>
    obtain ⟨hne, hparse⟩ := parse_trim_toFixed
      (amountSats / SATS_PER_BTC * btcPriceInFiat : ℚ) (Nat.succ_pos digits)
    rw [if_neg hne, hparse]
    exact ⟨fun _ => .inl (Nat.succ_pos digits), fun _ => rfl⟩

/-- The field keeps what it promises for every currency with decimals, and for one without exactly
where the value is no positive multiple of ten. -/
theorem readsBackFiat_iff (hamount : amountSats ≤ MAX_AMOUNT_SATS) (hprice : 0 < btcPriceInFiat) :
    ReadsBackFiat maxFractionDigitsFromIntl amountSats btcPriceInFiat currencyInput ↔
      0 < maxFractionDigits maxFractionDigitsFromIntl currencyInput ∨
        fiatUnits amountSats btcPriceInFiat 0 = 0 ∨
          fiatUnits amountSats btcPriceInFiat 0 % 10 ≠ 0 := by
  constructor
  · intro hreads
    exact parse_format_iff.mp hreads.parses
  · intro hcondition
    have hparse := parse_format_iff.mpr hcondition
    refine ⟨hparse, ?_⟩
    intro fiatAmount hfiat
    rw [hparse] at hfiat
    cases hfiat
    exact amountSats_of_fiatUnits hamount hprice

/-- A hundred dollars are written as such. -/
theorem readsBackFiat_dollars : ReadsBackFiat (fun _ => 2) 200000 50000 "USD" :=
  (readsBackFiat_iff (by decide) (by norm_num)).mpr (.inl (by decide +kernel))

/-- At fifteen million yen, 200000 satoshis are 30000 yen. What is written is a 3. -/
theorem readsBackFiat_yen_fails : ¬ ReadsBackFiat (fun _ => 2) 200000 15000000 "JPY" := by
  intro hreads
  have hwritten : parsePositiveFiatAmountInput
      (formatFiatInputStringFromSats (fun _ => 2) 200000 15000000 "JPY") = some 3 := by
    decide +kernel
  have hexpected := hreads.parses
  rw [hwritten] at hexpected
  have hunits : (fiatUnits 200000 15000000 (maxFractionDigits (fun _ => 2) "JPY") : ℚ) /
      10 ^ maxFractionDigits (fun _ => 2) "JPY" = 30000 := by
    decide +kernel
  rw [hunits] at hexpected
  have hsame : (3 : ℚ) = 30000 := Option.some.inj hexpected
  norm_num at hsame

end Field

end Bitboard.Frontend.FiatAmount
