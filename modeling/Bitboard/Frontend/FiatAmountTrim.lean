/-
# Trailing zeros of a fiat amount

Zeros at the end are cut off after a point as well as before it. After a point they are worth
nothing. A whole amount that ends in a zero becomes a smaller one.
-/

import Bitboard.Frontend.FiatAmount
import Mathlib.Tactic.LinearCombination

namespace Bitboard.Frontend.FiatAmount

open DisplayAmount

variable {text whole fraction : List Char}

section Cut

theorem digitsValue_append_zeros (text : List Char) (zeros : Nat) :
    digitsValue (text ++ List.replicate zeros '0') = digitsValue text * 10 ^ zeros := by
  rw [digitsValue_eq_ofDigitChars, digitsValue_eq_ofDigitChars, Nat.ofDigitChars_append,
    Nat.ofDigitChars_replicate_zero, Nat.mul_comm]

theorem isZeroTail_iff_of_isDigit {first : Char} {rest : List Char}
    (hdigit : first.isDigit = true) :
    isZeroTail (first :: rest) = true ↔ ∀ c ∈ first :: rest, c = '0' := by
  have hpoint : first ≠ '.' := ne_of_isDigit hdigit (by decide)
  unfold isZeroTail
  split
  · rename_i heq
    cases heq
    exact absurd rfl hpoint
  · simp

theorem trimTrailingZeros_digits (htext : text.all Char.isDigit = true) :
    ∃ zeros, text = trimTrailingZeros text ++ List.replicate zeros '0' := by
  induction text with
  | nil => exact ⟨0, rfl⟩
  | cons first rest ih =>
    rw [List.all_cons, Bool.and_eq_true] at htext
    rw [trimTrailingZeros]
    split
    · rename_i hzeros
      rw [isZeroTail_iff_of_isDigit htext.1] at hzeros
      exact ⟨(first :: rest).length, List.eq_replicate_of_mem hzeros⟩
    · obtain ⟨zeros, heq⟩ := ih htext.2
      apply Exists.intro zeros
      rw [List.cons_append, ← heq]

theorem trimTrailingZeros_append_zero (htext : text.all Char.isDigit = true) :
    trimTrailingZeros (text ++ ['0']) ≠ text ++ ['0'] := by
  induction text with
  | nil => decide
  | cons first rest ih =>
    rw [List.all_cons, Bool.and_eq_true] at htext
    rw [List.cons_append, trimTrailingZeros]
    split
    · exact (List.cons_ne_nil _ _).symm
    · intro heq
      exact ih htext.2 (List.cons.inj heq).2

theorem trimTrailingZeros_append_point (hwhole : whole.all Char.isDigit = true) :
    trimTrailingZeros (whole ++ '.' :: fraction) =
      whole ++ trimTrailingZeros ('.' :: fraction) := by
  induction whole with
  | nil => rfl
  | cons first rest ih =>
    rw [List.all_cons, Bool.and_eq_true] at hwhole
    have hkept : ¬ isZeroTail (first :: (rest ++ '.' :: fraction)) = true := by
      rw [isZeroTail_iff_of_isDigit hwhole.1]
      intro hzeros
      have hpoint := hzeros '.' (by simp)
      exact absurd hpoint (by decide)
    rw [List.cons_append, trimTrailingZeros, if_neg hkept, ih hwhole.2, List.cons_append]

theorem trimTrailingZeros_point (hfraction : fraction.all Char.isDigit = true) :
    (trimTrailingZeros ('.' :: fraction) = [] ∧
        fraction = List.replicate fraction.length '0') ∨
      ∃ kept zeros, trimTrailingZeros ('.' :: fraction) = '.' :: kept ∧
        fraction = kept ++ List.replicate zeros '0' := by
  rw [trimTrailingZeros]
  split
  · rename_i hzeros
    apply Or.inl
    apply And.intro rfl
    apply List.eq_replicate_of_mem
    simp only [isZeroTail, Bool.and_eq_true, List.all_eq_true, decide_eq_true_iff] at hzeros
    exact hzeros.2
  · obtain ⟨zeros, heq⟩ := trimTrailingZeros_digits hfraction
    exact .inr ⟨trimTrailingZeros fraction, zeros, rfl, heq⟩

end Cut

section Reading

theorem parse_digits (hwhole : whole.all Char.isDigit = true) (hne : whole ≠ []) :
    parsePositiveFiatAmountInput whole = some (digitsValue whole : ℚ) := by
  have htrim : trim whole = whole := trim_eq_self fun c hc =>
    isStrWhiteSpace_of_isDigit (List.all_eq_true.mp hwhole c hc)
  have hshape : isDecimalText whole = true := by
    rw [isDecimalText, dropWhile_isDigit hwhole]
  have hnumber : numberOfDecimal whole = some (digitsValue whole : ℚ) := by
    rw [numberOfDecimal, dropWhile_isDigit hwhole, takeWhile_isDigit hwhole]
    simp [hne]
  have hnonneg : ¬ (digitsValue whole : ℚ) < 0 := not_lt.mpr (Nat.cast_nonneg _)
  rw [parsePositiveFiatAmountInput, htrim]
  simp only [if_neg hne, if_pos hshape, hnumber, if_neg hnonneg]

theorem parse_point (hwhole : whole.all Char.isDigit = true)
    (hfraction : fraction.all Char.isDigit = true) (hne : whole ≠ []) :
    parsePositiveFiatAmountInput (whole ++ '.' :: fraction) =
      some ((digitsValue (whole ++ fraction) : ℚ) / 10 ^ fraction.length) := by
  have htrim : trim (whole ++ '.' :: fraction) = whole ++ '.' :: fraction :=
    trim_eq_self (isStrWhiteSpace_of_mem_point hwhole hfraction)
  have hrest : (whole ++ '.' :: fraction).dropWhile Char.isDigit = '.' :: fraction := by
    rw [dropWhile_isDigit_append hwhole]
  have hstart : (whole ++ '.' :: fraction).takeWhile Char.isDigit = whole := by
    rw [takeWhile_isDigit_append hwhole]
  have hshape : isDecimalText (whole ++ '.' :: fraction) = true := by
    rw [isDecimalText, hrest]
    exact hfraction
  have hnumber : numberOfDecimal (whole ++ '.' :: fraction) =
      some ((digitsValue (whole ++ fraction) : ℚ) / 10 ^ fraction.length) := by
    rw [numberOfDecimal, hrest, hstart]
    simp [hne]
  have hnil : whole ++ '.' :: fraction ≠ [] := by simp
  have hnonneg : ¬ (digitsValue (whole ++ fraction) : ℚ) / 10 ^ fraction.length < 0 :=
    not_lt.mpr (by positivity)
  rw [parsePositiveFiatAmountInput, htrim]
  simp only [if_neg hnil, if_pos hshape, hnumber, if_neg hnonneg]

end Reading

end Bitboard.Frontend.FiatAmount
