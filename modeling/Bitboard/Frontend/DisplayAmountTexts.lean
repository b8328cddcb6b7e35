/-
# Texts of amounts

What `parseFloat` and `parseInt` read from a text of digits, and from digits with a point between
them, is the number that the digits stand for.
-/

import Bitboard.Frontend.DisplayAmount
import Mathlib.Data.List.TakeWhile

namespace Bitboard.Frontend.DisplayAmount

open Bitboard.Lib

section Characters

variable {character : Char}

theorem isStrWhiteSpace_of_isDigit (h : character.isDigit = true) :
    isStrWhiteSpace character = false := by
  have hbounds : 48 ≤ character.toNat ∧ character.toNat ≤ 57 := by
    simpa [Char.isDigit, UInt32.le_iff_toNat_le] using h
  simp only [isStrWhiteSpace, Bool.or_eq_false_iff, Bool.and_eq_false_iff, decide_eq_false_iff_not,
    beq_eq_false_iff_ne]
  omega

theorem ne_of_isDigit {other : Char} (h : character.isDigit = true)
    (hother : other.isDigit = false) : character ≠ other := by
  intro heq
  rw [heq, hother] at h
  cases h

theorem trim_eq_self {text : List Char} (h : ∀ c ∈ text, isStrWhiteSpace c = false) :
    trim text = text := by
  have hstart : ∀ text : List Char, (∀ c ∈ text, isStrWhiteSpace c = false) →
      trimStart text = text := by
    intro text htext
    cases text with
    | nil => rfl
    | cons first rest =>
      rw [trimStart, List.dropWhile_cons_of_neg]
      simp [htext first List.mem_cons_self]
  unfold trim
  rw [hstart text h, hstart text.reverse, List.reverse_reverse]
  intro c hc
  exact h c (List.mem_reverse.mp hc)

end Characters

section Reading

variable {whole fraction : List Char}

theorem trimStart_of_isDigit {first : Char} {rest : List Char}
    (h : isStrWhiteSpace first = false) : trimStart (first :: rest) = first :: rest := by
  rw [trimStart, List.dropWhile_cons_of_neg]
  simp [h]

section

variable (hwhole : whole.all Char.isDigit = true)
include hwhole

theorem parseInt_digits (hne : whole ≠ []) : parseInt whole = .ofRat (digitsValue whole) := by
  cases whole with
  | nil => exact absurd rfl hne
  | cons first rest =>
    have hfirst : first.isDigit = true := List.all_eq_true.mp hwhole first List.mem_cons_self
    have htake : (first :: rest).takeWhile Char.isDigit = first :: rest :=
      List.takeWhile_eq_self_iff.mpr (List.all_eq_true.mp hwhole)
    unfold parseInt
    rw [trimStart_of_isDigit (isStrWhiteSpace_of_isDigit hfirst)]
    split
    · rename_i heq
      rw [List.cons.injEq] at heq
      exact absurd heq.1 (ne_of_isDigit hfirst (by decide))
    · rename_i heq
      rw [List.cons.injEq] at heq
      exact absurd heq.1 (ne_of_isDigit hfirst (by decide))
    · simp [decimalDigits, htake]

theorem takeWhile_isDigit_append (rest : List Char) :
    (whole ++ '.' :: rest).takeWhile Char.isDigit = whole := by
  rw [List.takeWhile_append_of_pos (List.all_eq_true.mp hwhole)]
  simp [Char.isDigit]

theorem dropWhile_isDigit_append (rest : List Char) :
    (whole ++ '.' :: rest).dropWhile Char.isDigit = '.' :: rest := by
  rw [List.dropWhile_append_of_pos (List.all_eq_true.mp hwhole)]
  simp [Char.isDigit]

theorem dropWhile_isDigit : whole.dropWhile Char.isDigit = [] :=
  List.dropWhile_eq_nil_iff.mpr (List.all_eq_true.mp hwhole)

theorem takeWhile_isDigit : whole.takeWhile Char.isDigit = whole :=
  List.takeWhile_eq_self_iff.mpr (List.all_eq_true.mp hwhole)

theorem unsignedDecimal_point (hfraction : fraction.all Char.isDigit = true)
    (hne : whole ++ fraction ≠ []) :
    unsignedDecimal (whole ++ '.' :: fraction) =
      .ofRat (digitsValue (whole ++ fraction) / 10 ^ fraction.length) := by
  have hboth : ¬ (whole = [] ∧ fraction = []) := by
    intro h
    apply hne
    rw [h.1, h.2]
    rfl
  simp only [unsignedDecimal, takeWhile_isDigit_append hwhole, dropWhile_isDigit_append hwhole,
    takeWhile_isDigit hfraction, dropWhile_isDigit hfraction, if_neg hboth, exponentPart]
  congr 1
  rw [zero_sub, zpow_neg, zpow_natCast, div_eq_mul_inv]

theorem unsignedDecimal_digits (hne : whole ≠ []) :
    unsignedDecimal whole = .ofRat (digitsValue whole) := by
  simp only [unsignedDecimal, takeWhile_isDigit hwhole, dropWhile_isDigit hwhole, hne, false_and,
    if_false, List.append_nil, exponentPart, List.length_nil]
  congr 1
  simp

end

/-- Where a text begins with a digit or a point, it is read without a sign. -/
theorem parseFloat_unsigned {first : Char} {rest : List Char}
    (hfirst : first.isDigit = true ∨ first = '.') :
    parseFloat (first :: rest) = unsignedDecimal (first :: rest) := by
  have hnot : isStrWhiteSpace first = false ∧ first ≠ '-' ∧ first ≠ '+' := by
    cases hfirst with
    | inl hdigit =>
      exact ⟨isStrWhiteSpace_of_isDigit hdigit, ne_of_isDigit hdigit (by decide),
        ne_of_isDigit hdigit (by decide)⟩
    | inr hpoint =>
      rw [hpoint]
      decide
  unfold parseFloat
  rw [trimStart_of_isDigit hnot.1]
  split
  · rename_i heq
    rw [List.cons.injEq] at heq
    exact absurd heq.1 hnot.2.1
  · rename_i heq
    rw [List.cons.injEq] at heq
    exact absurd heq.1 hnot.2.2
  · rfl

theorem parseFloat_point (hwhole : whole.all Char.isDigit = true)
    (hfraction : fraction.all Char.isDigit = true) (hne : whole ++ fraction ≠ []) :
    parseFloat (whole ++ '.' :: fraction) =
      .ofRat (digitsValue (whole ++ fraction) / 10 ^ fraction.length) := by
  rw [← unsignedDecimal_point hwhole hfraction hne]
  cases whole with
  | nil => exact parseFloat_unsigned (.inr rfl)
  | cons first rest =>
    exact parseFloat_unsigned (.inl (List.all_eq_true.mp hwhole first List.mem_cons_self))

theorem parseFloat_digits (hwhole : whole.all Char.isDigit = true) (hne : whole ≠ []) :
    parseFloat whole = .ofRat (digitsValue whole) := by
  rw [← unsignedDecimal_digits hwhole hne]
  cases whole with
  | nil => exact absurd rfl hne
  | cons first rest =>
    exact parseFloat_unsigned (.inl (List.all_eq_true.mp hwhole first List.mem_cons_self))

end Reading

variable (value : ℚ)

section Writing

variable {integer digits : Nat}

theorem digitsValue_eq_ofDigitChars (text : List Char) :
    digitsValue text = Nat.ofDigitChars 10 text 0 := by
  rw [Nat.ofDigitChars_eq_foldl]
  rfl

theorem digitsValue_toDigits (integer : Nat) : digitsValue (Nat.toDigits 10 integer) = integer := by
  rw [digitsValue_eq_ofDigitChars, Nat.ofDigitChars_ten_toDigits]

theorem all_isDigit_toDigits (integer : Nat) :
    (Nat.toDigits 10 integer).all Char.isDigit = true := by
  rw [List.all_eq_true]
  intro c hc
  exact Nat.isDigit_of_mem_toDigits (by decide) (by decide) hc

/-- The decimals that `toFixed` writes. -/
def paddedDigits (integer digits : Nat) : List Char :=
  List.replicate (digits - (Nat.toDigits 10 (integer % 10 ^ digits)).length) '0' ++
    Nat.toDigits 10 (integer % 10 ^ digits)

theorem all_isDigit_paddedDigits (integer digits : Nat) :
    (paddedDigits integer digits).all Char.isDigit = true := by
  rw [paddedDigits, List.all_append, all_isDigit_toDigits, Bool.and_true, List.all_replicate]
  split <;> rfl

theorem length_paddedDigits (hdigits : 0 < digits) :
    (paddedDigits integer digits).length = digits := by
  have hle : (Nat.toDigits 10 (integer % 10 ^ digits)).length ≤ digits :=
    (Nat.length_toDigits_le_iff (by decide) hdigits).mpr (Nat.mod_lt _ (by positivity))
  rw [paddedDigits, List.length_append, List.length_replicate]
  omega

theorem digitsValue_paddedDigits (hdigits : 0 < digits) :
    digitsValue (Nat.toDigits 10 (integer / 10 ^ digits) ++ paddedDigits integer digits) =
      integer := by
  have hpadded : Nat.ofDigitChars 10 (paddedDigits integer digits) 0 = integer % 10 ^ digits := by
    rw [paddedDigits, Nat.ofDigitChars_append, Nat.ofDigitChars_replicate_zero, Nat.mul_zero,
      Nat.ofDigitChars_ten_toDigits]
  rw [digitsValue_eq_ofDigitChars, Nat.ofDigitChars_append, Nat.ofDigitChars_ten_toDigits,
    Nat.ofDigitChars_eq_ofDigitChars_zero, length_paddedDigits hdigits, hpadded,
    Nat.div_add_mod]

theorem toFixed_eq (digits : Nat) :
    toFixed value digits =
      Nat.toDigits 10 (⌊value * 10 ^ digits + 1 / 2⌋.toNat / 10 ^ digits) ++
        '.' :: paddedDigits ⌊value * 10 ^ digits + 1 / 2⌋.toNat digits := rfl

theorem parseFloat_toFixed (hdigits : 0 < digits) :
    parseFloat (toFixed value digits) =
      .ofRat (⌊value * 10 ^ digits + 1 / 2⌋.toNat / 10 ^ digits) := by
  rw [toFixed_eq, parseFloat_point (all_isDigit_toDigits _) (all_isDigit_paddedDigits _ _),
    digitsValue_paddedDigits hdigits, length_paddedDigits hdigits]
  intro h
  exact Nat.toDigits_ne_nil (List.append_eq_nil_iff.mp h).1

theorem isStrWhiteSpace_of_mem_point {whole fraction : List Char}
    (hwhole : whole.all Char.isDigit = true) (hfraction : fraction.all Char.isDigit = true) :
    ∀ c ∈ whole ++ '.' :: fraction, isStrWhiteSpace c = false := by
  intro c hc
  cases List.mem_append.mp hc with
  | inl hmem => exact isStrWhiteSpace_of_isDigit (List.all_eq_true.mp hwhole c hmem)
  | inr hmem =>
    cases List.mem_cons.mp hmem with
    | inl hpoint =>
      rw [hpoint]
      decide
    | inr hdigit => exact isStrWhiteSpace_of_isDigit (List.all_eq_true.mp hfraction c hdigit)

theorem trim_toFixed (digits : Nat) : trim (toFixed value digits) = toFixed value digits := by
  rw [toFixed_eq]
  exact trim_eq_self
    (isStrWhiteSpace_of_mem_point (all_isDigit_toDigits _) (all_isDigit_paddedDigits _ _))

theorem toFixed_ne_nil (digits : Nat) : toFixed value digits ≠ [] := by
  rw [toFixed_eq]
  intro h
  exact Nat.toDigits_ne_nil (List.append_eq_nil_iff.mp h).1

end Writing

namespace BtcDecimal

variable (amount : BtcDecimal)

theorem isStrWhiteSpace_of_mem_text : ∀ c ∈ amount.text, isStrWhiteSpace c = false := by
  have hfraction := amount.fraction_digits
  unfold text
  cases hpoint : amount.fraction with
  | none =>
    intro c hc
    rw [Option.map_none, Option.getD_none, List.append_nil] at hc
    exact isStrWhiteSpace_of_isDigit (List.all_eq_true.mp amount.whole_digits c hc)
  | some fraction =>
    rw [hpoint] at hfraction
    exact isStrWhiteSpace_of_mem_point amount.whole_digits hfraction

theorem text_ne_nil : amount.text ≠ [] := by
  have hdigit := amount.some_digit
  unfold text
  intro h
  cases hpoint : amount.fraction with
  | none =>
    rw [hpoint] at h hdigit
    exact hdigit h
  | some fraction =>
    rw [hpoint] at h
    cases (List.append_eq_nil_iff.mp h).2

theorem trim_text : trim amount.text = amount.text :=
  trim_eq_self amount.isStrWhiteSpace_of_mem_text

/-- A decimal of bitcoins is read as the double of its satoshis. -/
theorem parseFloat_text : parseFloat amount.text = .ofRat (amount.sats / SATS_PER_BTC) := by
  have hscale : ∀ {digits decimals : Nat}, decimals ≤ 8 →
      (digits : ℚ) / 10 ^ decimals = (digits * 10 ^ (8 - decimals) : Nat) / SATS_PER_BTC := by
    intro digits decimals hle
    have hsplit : (SATS_PER_BTC : ℚ) = 10 ^ decimals * 10 ^ (8 - decimals) := by
      rw [← pow_add, Nat.add_sub_cancel' hle]
      norm_num [SATS_PER_BTC]
    rw [hsplit]
    push_cast
    rw [mul_div_mul_right]
    positivity
  have hfraction := amount.fraction_digits
  have hdigit := amount.some_digit
  have hle := amount.decimals_le
  unfold text sats
  cases hpoint : amount.fraction with
  | none =>
    rw [hpoint, Option.getD_none, List.append_nil] at hdigit
    rw [Option.map_none, Option.getD_none, List.append_nil, List.length_nil,
      parseFloat_digits amount.whole_digits hdigit, ← hscale (Nat.zero_le 8),
      pow_zero, div_one]
  | some fraction =>
    rw [hpoint, Option.getD_some] at hfraction hdigit hle
    rw [Option.map_some, Option.getD_some, Option.getD_some,
      parseFloat_point amount.whole_digits hfraction hdigit, hscale hle]

end BtcDecimal

end Bitboard.Frontend.DisplayAmount
