/-
# Amounts in a fiat currency

An amount of satoshis is written into the fiat field of a send, and the text is read back at the
same price. The currency says how many decimals are written. The numbers are exact.

The functions follow `format-fiat-display.ts`, `fiat-amount-to-sats.ts` and
`supported-fiat-currencies.ts`.
-/

import Bitboard.Frontend.DisplayAmountTexts

namespace Bitboard.Frontend.FiatAmount

def SATS_PER_BTC : Nat := 100000000

def normalizeFiatCurrencyCode (currencyInput : String) : String :=
  String.ofList ((trim currencyInput.toList).map Char.toUpper)

/-- The number of decimals of the curated currencies. -/
def FIAT_CURRENCY_UI_OVERRIDES : List (String × Nat) :=
  [("USD", 2), ("EUR", 2), ("GBP", 2), ("JPY", 0), ("CHF", 2), ("CAD", 2), ("AUD", 2), ("CNY", 2),
    ("INR", 2), ("KRW", 0), ("BRL", 2)]

variable (maxFractionDigitsFromIntl : String → Nat)

/-- The decimals of a currency: those that are curated, or those that the platform knows. -/
def maxFractionDigits (currencyInput : String) : Nat :=
  let normalizedFiatCode := normalizeFiatCurrencyCode currencyInput
  (FIAT_CURRENCY_UI_OVERRIDES.lookup normalizedFiatCode).getD
    (maxFractionDigitsFromIntl normalizedFiatCode)

/-- `toFixed` of a number that is not negative, which writes a point only before decimals. -/
def toFixed (value : ℚ) (digits : Nat) : List Char :=
  if digits = 0 then Nat.toDigits 10 ⌊value + 1 / 2⌋.toNat
  else DisplayAmount.toFixed value digits

/-- The whole text is a match of `\.?0+`. -/
def isZeroTail : List Char → Bool
  | '.' :: zeros => zeros ≠ [] && zeros.all fun character => character = '0'
  | zeros => zeros ≠ [] && zeros.all fun character => character = '0'

/-- The leftmost match of `\.?0+$` is cut off. -/
def trimTrailingZeros : List Char → List Char
  | [] => []
  | character :: rest =>
    if isZeroTail (character :: rest) then [] else character :: trimTrailingZeros rest

def formatFiatNumericStringForInput (fiatAmount : ℚ) (currencyInput : String) : List Char :=
  let trimmedFixedDecimal := trimTrailingZeros
    (toFixed fiatAmount (maxFractionDigits maxFractionDigitsFromIntl currencyInput))
  if trimmedFixedDecimal = [] then ['0'] else trimmedFixedDecimal

def formatFiatInputStringFromSats (amountSats : Nat) (btcPriceInFiat : ℚ) (currencyInput : String) :
    List Char :=
  formatFiatNumericStringForInput maxFractionDigitsFromIntl
    (amountSats / SATS_PER_BTC * btcPriceInFiat) currencyInput

/-- The whole text is a match of `\d*\.?\d*`. -/
def isDecimalText (text : List Char) : Bool :=
  match text.dropWhile Char.isDigit with
  | [] => true
  | '.' :: rest => rest.all Char.isDigit
  | _ => false

/-- `Number` of such a text. A point alone is no number. -/
def numberOfDecimal (text : List Char) : Option ℚ :=
  let whole := text.takeWhile Char.isDigit
  let fraction := (text.dropWhile Char.isDigit).drop 1
  if whole ++ fraction = [] then none
  else some (digitsValue (whole ++ fraction) / 10 ^ fraction.length)

def parsePositiveFiatAmountInput (raw : List Char) : Option ℚ :=
  let trimmedAmount := trim raw
  if trimmedAmount = [] then none
  else if isDecimalText trimmedAmount then
    match numberOfDecimal trimmedAmount with
    | none => none
    | some parsedNumber => if parsedNumber < 0 then none else some parsedNumber
  else none

def amountSatsFromFiatAndBtcPrice (fiatAmount btcPriceInFiat : ℚ) : Option Int :=
  if 0 < btcPriceInFiat then
    if fiatAmount < 0 then none
    else
      let sats := DisplayAmount.mathRound (fiatAmount / btcPriceInFiat * SATS_PER_BTC)
      if |sats| ≤ MAX_SAFE_SATS then some sats else none
  else none

def MAX_AMOUNT_SATS : Nat := 21 * 10 ^ 14

/-- The fiat value of an amount, rounded to units of the last decimal. -/
def fiatUnits (amountSats : Nat) (btcPriceInFiat : ℚ) (digits : Nat) : Nat :=
  ⌊amountSats / SATS_PER_BTC * btcPriceInFiat * 10 ^ digits + 1 / 2⌋.toNat

/-- The text is read as the rounded fiat value, which is worth the amount up to half a unit of the
last decimal and a satoshi. -/
structure ReadsBackFiat (maxFractionDigitsFromIntl : String → Nat) (amountSats : Nat)
    (btcPriceInFiat : ℚ) (currencyInput : String) : Prop where
  parses : parsePositiveFiatAmountInput (formatFiatInputStringFromSats maxFractionDigitsFromIntl
      amountSats btcPriceInFiat currencyInput) =
    some ((fiatUnits amountSats btcPriceInFiat
      (maxFractionDigits maxFractionDigitsFromIntl currencyInput) : ℚ) /
        10 ^ maxFractionDigits maxFractionDigitsFromIntl currencyInput)
  converts : ∀ fiatAmount, parsePositiveFiatAmountInput (formatFiatInputStringFromSats
      maxFractionDigitsFromIntl amountSats btcPriceInFiat currencyInput) = some fiatAmount →
    ∃ sats, amountSatsFromFiatAndBtcPrice fiatAmount btcPriceInFiat = some sats ∧
      |(sats : ℚ) - amountSats| ≤
        1 / 2 / 10 ^ maxFractionDigits maxFractionDigitsFromIntl currencyInput / btcPriceInFiat *
          SATS_PER_BTC + 1

end Bitboard.Frontend.FiatAmount
