/-
# Compact JSON texts

A serializer writes values without blanks and the properties of an object in the order it
is given. The text tells the value apart: two values with one text are equal. Texts are
lists of characters here, and a text may be followed by another one, so that the proof is
an induction over the value. What follows a number must not begin with a digit.

Numbers are integers; other numbers, booleans and `null` do not occur.
-/

import Mathlib.Data.List.Basic

namespace Bitboard.Lib

inductive JsonText where
  | string (text : List Char)
  | integer (value : Int)
  | array (items : List JsonText)
  | object (properties : List (List Char × JsonText))

variable {rest rest' : List Char}

namespace JsonText

def hexDigit (nibble : Nat) : Char := ("0123456789abcdef".toList).getD nibble '0'

/-- A character inside a string. Quotes, backslashes and control characters are escaped. -/
def escapeChar (c : Char) : List Char :=
  if c = '"' then ['\\', '"']
  else if c = '\\' then ['\\', '\\']
  else if c = '\n' then ['\\', 'n']
  else if c = '\r' then ['\\', 'r']
  else if c = '\t' then ['\\', 't']
  else if c.toNat = 8 then ['\\', 'b']
  else if c.toNat = 12 then ['\\', 'f']
  else if c.toNat < 32 then
    ['\\', 'u', '0', '0', hexDigit (c.toNat / 16), hexDigit (c.toNat % 16)]
  else [c]

def escapeText : List Char → List Char
  | [] => ['"']
  | c :: text => escapeChar c ++ escapeText text

mutual

def render : JsonText → List Char
  | .string text => '"' :: escapeText text
  | .integer value => (toString value).toList
  | .array items => '[' :: renderItems [] items
  | .object properties => '\x7b' :: renderProperties [] properties

/-- The items, each after the separator, and the closing bracket. -/
def renderItems (separator : List Char) : List JsonText → List Char
  | [] => [']']
  | item :: items => separator ++ (render item ++ renderItems [','] items)

/-- The properties, each after the separator, and the closing brace. -/
def renderProperties (separator : List Char) : List (List Char × JsonText) → List Char
  | [] => ['\x7d']
  | (name, value) :: properties =>
    separator ++ ('"' :: escapeText name ++ (':' :: render value ++
      renderProperties [','] properties))

end

def unescapeChar : List Char → Option (Char × List Char)
  | '\\' :: '"' :: rest => some ('"', rest)
  | '\\' :: '\\' :: rest => some ('\\', rest)
  | '\\' :: 'n' :: rest => some ('\n', rest)
  | '\\' :: 'r' :: rest => some ('\r', rest)
  | '\\' :: 't' :: rest => some ('\t', rest)
  | '\\' :: 'b' :: rest => some (Char.ofNat 8, rest)
  | '\\' :: 'f' :: rest => some (Char.ofNat 12, rest)
  | '\\' :: 'u' :: '0' :: '0' :: high :: low :: rest =>
    some (Char.ofNat (16 * ("0123456789abcdef".toList).idxOf high +
      ("0123456789abcdef".toList).idxOf low), rest)
  | '"' :: _ => none
  | c :: rest => some (c, rest)
  | [] => none

/-- A hexadecimal digit is read back as its value. -/
theorem idxOf_hexDigit : ∀ nibble < 16,
    ("0123456789abcdef".toList).idxOf (hexDigit nibble) = nibble := by
  decide

/-- An escaped character is read back, whatever follows. -/
theorem unescapeChar_escapeChar (c : Char) (rest : List Char) :
    unescapeChar (escapeChar c ++ rest) = some (c, rest) := by
  unfold escapeChar
  split
  · subst c
    rfl
  split
  · subst c
    rfl
  split
  · subst c
    rfl
  split
  · subst c
    rfl
  split
  · subst c
    rfl
  split
  · rename_i h
    have hc : Char.ofNat 8 = c := by rw [← h, Char.ofNat_toNat]
    rw [← hc]
    rfl
  split
  · rename_i h
    have hc : Char.ofNat 12 = c := by rw [← h, Char.ofNat_toNat]
    rw [← hc]
    rfl
  split
  · rename_i h
    have hhigh := idxOf_hexDigit (c.toNat / 16) (by omega)
    have hlow := idxOf_hexDigit (c.toNat % 16) (by omega)
    have hnat : 16 * (c.toNat / 16) + c.toNat % 16 = c.toNat := by omega
    simp only [List.cons_append, List.nil_append, unescapeChar, hhigh, hlow, hnat, Char.ofNat_toNat]
  · rename_i hquote hbackslash _ _ _ _ _ _
    rw [List.cons_append, List.nil_append]
    unfold unescapeChar
    split <;> simp_all

/-- Two texts that begin with escaped characters begin with the same ones if they are equal. -/
theorem escapeChar_append_inj {c d : Char} (heq : escapeChar c ++ rest = escapeChar d ++ rest') :
    c = d ∧ rest = rest' := by
  have hread := congrArg unescapeChar heq
  rw [unescapeChar_escapeChar, unescapeChar_escapeChar] at hread
  cases hread
  exact ⟨rfl, rfl⟩

/-- No escaped character begins with the quote that ends a string. -/
theorem escapeChar_append_ne_quote {c : Char} : escapeChar c ++ rest ≠ '"' :: rest' := by
  intro heq
  have hread := congrArg unescapeChar heq
  rw [unescapeChar_escapeChar] at hread
  cases hread

/-- A string ends at its closing quote. -/
theorem escapeText_append_inj {text text' : List Char}
    (heq : escapeText text ++ rest = escapeText text' ++ rest') : text = text' ∧ rest = rest' := by
  induction text generalizing text' with
  | nil =>
    cases text' with
    | nil =>
      cases heq
      exact ⟨rfl, rfl⟩
    | cons d text' =>
      rw [escapeText, escapeText, List.append_assoc] at heq
      exact absurd heq.symm escapeChar_append_ne_quote
  | cons c text ih =>
    cases text' with
    | nil =>
      rw [escapeText, escapeText, List.append_assoc] at heq
      exact absurd heq escapeChar_append_ne_quote
    | cons d text' =>
      rw [escapeText, escapeText, List.append_assoc, List.append_assoc] at heq
      obtain ⟨rfl, htail⟩ := escapeChar_append_inj heq
      obtain ⟨rfl, hrest⟩ := ih htail
      exact ⟨rfl, hrest⟩

def NoDigitHead (rest : List Char) : Prop := ∀ c tail, rest = c :: tail → c.isDigit = false

theorem noDigitHead_nil : NoDigitHead [] := by
  intro c tail heq
  cases heq

theorem noDigitHead_cons {c : Char} (hc : c.isDigit = false) : NoDigitHead (c :: rest) := by
  intro d tail heq
  cases heq
  exact hc

/-- Digits end where no digit follows. -/
theorem digits_append_inj {digits digits' : List Char} (hdigits : ∀ c ∈ digits, c.isDigit = true)
    (hdigits' : ∀ c ∈ digits', c.isDigit = true) (hrest : NoDigitHead rest)
    (hrest' : NoDigitHead rest') (heq : digits ++ rest = digits' ++ rest') :
    digits = digits' ∧ rest = rest' := by
  induction digits generalizing digits' with
  | nil =>
    cases digits' with
    | nil => exact ⟨rfl, heq⟩
    | cons d digits' =>
      have hd := hdigits' d List.mem_cons_self
      rw [hrest d (digits' ++ rest') heq] at hd
      cases hd
  | cons c digits ih =>
    cases digits' with
    | nil =>
      have hc := hdigits c List.mem_cons_self
      rw [hrest' c (digits ++ rest) heq.symm] at hc
      cases hc
    | cons d digits' =>
      obtain ⟨rfl, htail⟩ := List.cons.inj heq
      obtain ⟨rfl, hend⟩ := ih (fun c hc => hdigits c (List.mem_cons_of_mem _ hc))
        (fun c hc => hdigits' c (List.mem_cons_of_mem _ hc)) htail
      exact ⟨rfl, hend⟩

theorem isDigit_of_mem_toString {n : Nat} : ∀ c ∈ (toString n).toList, c.isDigit = true := by
  intro c hc
  rw [Nat.toString_eq_repr, Nat.toList_repr] at hc
  exact Nat.isDigit_of_mem_toDigits (by decide) (by decide) hc

theorem toString_natCast_inj {n m : Nat} (heq : (toString n).toList = (toString m).toList) :
    n = m := by
  have hread := congrArg (Nat.ofDigitChars 10 · 0) heq
  simpa [Nat.toString_eq_repr, Nat.toList_repr, Nat.ofDigitChars_ten_toDigits] using hread

/-- A printed number can be told from what follows it, if that is no digit. -/
theorem toString_natCast_append_inj {n m : Nat} (hrest : NoDigitHead rest)
    (hrest' : NoDigitHead rest')
    (heq : (toString n).toList ++ rest = (toString m).toList ++ rest') : n = m ∧ rest = rest' := by
  obtain ⟨hdigits, hend⟩ :=
    digits_append_inj isDigit_of_mem_toString isDigit_of_mem_toString hrest hrest' heq
  exact ⟨toString_natCast_inj hdigits, hend⟩

/-- A printed integer begins with a digit or its sign. -/
theorem exists_toString_cons (value : Int) : ∃ c tail, (toString value).toList = c :: tail ∧
    (c.isDigit = true ∨ c = '-') := by
  cases value with
  | ofNat n =>
    cases hdigits : (toString n).toList with
    | nil =>
      rw [Nat.toString_eq_repr, Nat.toList_repr] at hdigits
      exact absurd hdigits Nat.toDigits_ne_nil
    | cons c tail =>
      refine ⟨c, tail, hdigits, .inl (isDigit_of_mem_toString (n := n) c ?_)⟩
      rw [hdigits]
      exact List.mem_cons_self
  | negSucc n => exact ⟨'-', (toString (n + 1)).toList, by simp [toString, Int.repr], .inr rfl⟩

theorem toString_negSucc (n : Nat) :
    (toString (Int.negSucc n)).toList = '-' :: (toString (n + 1)).toList := by
  simp [toString, Int.repr]

/-- A printed integer can be told from what follows it, if that is no digit. -/
theorem toString_int_append_inj {value value' : Int} (hrest : NoDigitHead rest)
    (hrest' : NoDigitHead rest')
    (heq : (toString value).toList ++ rest = (toString value').toList ++ rest') :
    value = value' ∧ rest = rest' := by
  have hsign : ∀ (n : Nat) (tail tail' : List Char),
      (toString n).toList ++ tail = '-' :: tail' → NoDigitHead tail → False := by
    intro n tail tail' htext htail
    cases hdigits : (toString n).toList with
    | nil =>
      rw [Nat.toString_eq_repr, Nat.toList_repr] at hdigits
      exact Nat.toDigits_ne_nil hdigits
    | cons c digits =>
      have hc := isDigit_of_mem_toString (n := n) c (by rw [hdigits]; exact List.mem_cons_self)
      rw [hdigits] at htext
      cases htext
      exact absurd hc (by decide)
  cases value with
  | ofNat n =>
    cases value' with
    | ofNat m =>
      obtain ⟨rfl, hend⟩ := toString_natCast_append_inj hrest hrest' heq
      exact ⟨rfl, hend⟩
    | negSucc m =>
      rw [toString_negSucc] at heq
      exact (hsign n rest _ heq hrest).elim
  | negSucc n =>
    cases value' with
    | ofNat m =>
      rw [toString_negSucc] at heq
      exact (hsign m rest' _ heq.symm hrest').elim
    | negSucc m =>
      rw [toString_negSucc, toString_negSucc] at heq
      obtain ⟨hnat, hend⟩ := toString_natCast_append_inj hrest hrest' (List.cons.inj heq).2
      cases hnat
      exact ⟨rfl, hend⟩

/-! ## Values -/

/-- How the text of a value can begin. -/
theorem exists_render_cons (value : JsonText) : ∃ c tail, render value = c :: tail ∧
    (c = '"' ∨ c = '[' ∨ c = '\x7b' ∨ c.isDigit = true ∨ c = '-') := by
  cases value with
  | string text => exact ⟨'"', escapeText text, by rw [render], .inl rfl⟩
  | integer value =>
    obtain ⟨c, tail, htext, hc⟩ := exists_toString_cons value
    exact ⟨c, tail, by rw [render, htext], .inr (.inr (.inr hc))⟩
  | array items => exact ⟨'[', renderItems [] items, by rw [render], .inr (.inl rfl)⟩
  | object properties =>
    exact ⟨'\x7b', renderProperties [] properties, by rw [render], .inr (.inr (.inl rfl))⟩

/-- No value begins like the end of an array. -/
theorem render_append_ne_bracket {value : JsonText} : render value ++ rest ≠ ']' :: rest' := by
  intro heq
  obtain ⟨c, tail, htext, hc⟩ := exists_render_cons value
  rw [htext] at heq
  cases heq
  revert hc
  decide

theorem noDigitHead_renderItems {items : List JsonText} :
    NoDigitHead (renderItems [','] items ++ rest) := by
  cases items with
  | nil | cons =>
    rw [renderItems]
    exact noDigitHead_cons (by decide)

theorem noDigitHead_renderProperties {properties : List (List Char × JsonText)} :
    NoDigitHead (renderProperties [','] properties ++ rest) := by
  cases properties with
  | nil | cons =>
    rw [renderProperties]
    exact noDigitHead_cons (by decide)

theorem toString_append_ne {number : Int} {c : Char} (hdigit : c.isDigit = false)
    (hsign : c ≠ '-') : (toString number).toList ++ rest ≠ c :: rest' := by
  intro heq
  obtain ⟨d, tail, htext, hd⟩ := exists_toString_cons number
  rw [htext] at heq
  cases heq
  rw [hdigit] at hd
  exact hd.elim Bool.noConfusion hsign

mutual

/-- A value ends where its text ends. -/
theorem render_append_inj : ∀ (value value' : JsonText) (rest rest' : List Char),
    NoDigitHead rest → NoDigitHead rest' → render value ++ rest = render value' ++ rest' →
      value = value' ∧ rest = rest'
  | .string text, value', rest, rest', _, _, heq => by
      cases value' with
      | string text' =>
        rw [render, render] at heq
        obtain ⟨rfl, hend⟩ := escapeText_append_inj (List.cons.inj heq).2
        exact ⟨rfl, hend⟩
      | integer number =>
        rw [render, render] at heq
        exact absurd heq.symm (toString_append_ne (by decide) (by decide))
      | array | object => simp [render] at heq
  | .integer number, value', rest, rest', hrest, hrest', heq => by
      cases value' with
      | string | array | object =>
        rw [render, render] at heq
        exact absurd heq (toString_append_ne (by decide) (by decide))
      | integer number' =>
        rw [render, render] at heq
        obtain ⟨rfl, hend⟩ := toString_int_append_inj hrest hrest' heq
        exact ⟨rfl, hend⟩
  | .array items, value', rest, rest', _, _, heq => by
      cases value' with
      | string | object => simp [render] at heq
      | integer number =>
        rw [render, render] at heq
        exact absurd heq.symm (toString_append_ne (by decide) (by decide))
      | array items' =>
        have hitems := renderItems_append_inj [] items items' rest rest' (.inl rfl)
        rw [render, render] at heq
        obtain ⟨rfl, hend⟩ := hitems (List.cons.inj heq).2
        exact ⟨rfl, hend⟩
  | .object properties, value', rest, rest', _, _, heq => by
      cases value' with
      | string | array => simp [render] at heq
      | integer number =>
        rw [render, render] at heq
        exact absurd heq.symm (toString_append_ne (by decide) (by decide))
      | object properties' =>
        have hproperties := renderProperties_append_inj [] properties properties' rest rest'
          (.inl rfl)
        rw [render, render] at heq
        obtain ⟨rfl, hend⟩ := hproperties (List.cons.inj heq).2
        exact ⟨rfl, hend⟩

theorem renderItems_append_inj : ∀ (separator : List Char) (items items' : List JsonText)
    (rest rest' : List Char), (separator = [] ∨ separator = [',']) →
      renderItems separator items ++ rest = renderItems separator items' ++ rest' →
        items = items' ∧ rest = rest'
  | separator, [], items', rest, rest', hseparator, heq => by
      cases items' with
      | nil =>
        rw [renderItems] at heq
        exact ⟨rfl, List.append_cancel_left heq⟩
      | cons item' items' =>
        rw [renderItems, renderItems] at heq
        cases hseparator with
        | inl hnone =>
          subst separator
          rw [List.nil_append, List.append_assoc] at heq
          exact absurd heq.symm render_append_ne_bracket
        | inr hcomma =>
          subst separator
          cases heq
  | separator, item :: items, items', rest, rest', hseparator, heq => by
      cases items' with
      | nil =>
        rw [renderItems, renderItems] at heq
        cases hseparator with
        | inl hnone =>
          subst separator
          rw [List.nil_append, List.append_assoc] at heq
          exact absurd heq render_append_ne_bracket
        | inr hcomma =>
          subst separator
          cases heq
      | cons item' items' =>
        have hitem := render_append_inj item item' (renderItems [','] items ++ rest)
          (renderItems [','] items' ++ rest') noDigitHead_renderItems noDigitHead_renderItems
        have hitems := renderItems_append_inj [','] items items' rest rest' (.inr rfl)
        simp only [renderItems, List.append_assoc] at heq
        obtain ⟨rfl, htail⟩ := hitem (List.append_cancel_left heq)
        obtain ⟨rfl, hend⟩ := hitems htail
        exact ⟨rfl, hend⟩

theorem renderProperties_append_inj : ∀ (separator : List Char)
    (properties properties' : List (List Char × JsonText)) (rest rest' : List Char),
      (separator = [] ∨ separator = [',']) →
      renderProperties separator properties ++ rest =
        renderProperties separator properties' ++ rest' →
        properties = properties' ∧ rest = rest'
  | separator, [], properties', rest, rest', hseparator, heq => by
      cases properties' with
      | nil =>
        rw [renderProperties] at heq
        exact ⟨rfl, List.append_cancel_left heq⟩
      | cons property' properties' =>
        rw [renderProperties, renderProperties] at heq
        cases hseparator with
        | inl | inr =>
          subst separator
          cases heq
  | separator, (name, value) :: properties, properties', rest, rest', hseparator, heq => by
      cases properties' with
      | nil =>
        rw [renderProperties, renderProperties] at heq
        cases hseparator with
        | inl | inr =>
          subst separator
          cases heq
      | cons property' properties' =>
        obtain ⟨name', value'⟩ := property'
        have hvalue := render_append_inj value value' (renderProperties [','] properties ++ rest)
          (renderProperties [','] properties' ++ rest') noDigitHead_renderProperties
          noDigitHead_renderProperties
        have hproperties := renderProperties_append_inj [','] properties properties' rest rest'
          (.inr rfl)
        simp only [renderProperties, List.append_assoc, List.cons_append] at heq
        obtain ⟨rfl, hcolon⟩ :=
          escapeText_append_inj (List.cons.inj (List.append_cancel_left heq)).2
        obtain ⟨rfl, htail⟩ := hvalue (List.cons.inj hcolon).2
        obtain ⟨rfl, hend⟩ := hproperties htail
        exact ⟨rfl, hend⟩

end

/-- Different values have different texts. -/
theorem render_injective : Function.Injective render := by
  intro value value' heq
  have happend : render value ++ [] = render value' ++ [] := by
    rw [List.append_nil, List.append_nil, heq]
  exact (render_append_inj value value' [] [] noDigitHead_nil noDigitHead_nil happend).1

end JsonText

end Bitboard.Lib
