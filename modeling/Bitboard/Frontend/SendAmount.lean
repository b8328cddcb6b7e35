/-
# The amount of a send

The send form keeps the amount as a text. The text is read as an amount of the fiat currency at
the current price where the form is in fiat mode, and as an amount in the selected unit
otherwise. The numbers in between are doubles.
-/

import Mathlib.Algebra.GroupWithZero.Nat
import Mathlib.Data.List.Basic

namespace Bitboard.Frontend

/-- White space and line terminators, which `trim` removes. -/
def isStrWhiteSpace (character : Char) : Bool :=
  let code := character.toNat
  (9 ≤ code && code ≤ 13) || code == 0x20 || code == 0xA0 || code == 0x1680 ||
    (0x2000 ≤ code && code ≤ 0x200A) || code == 0x2028 || code == 0x2029 || code == 0x202F ||
    code == 0x205F || code == 0x3000 || code == 0xFEFF

variable (text : List Char)

def trimStart : List Char :=
  text.dropWhile isStrWhiteSpace

def trim : List Char :=
  (trimStart (trimStart text).reverse).reverse

def digitsValue (digits : List Char) : Nat :=
  digits.foldl (fun value digit => 10 * value + (digit.toNat - '0'.toNat)) 0

/-- The double closest to `mantissa * 10 ^ exponent`. -/
def ofDecimal (mantissa : Nat) : Int → Float
  | .ofNat exponent => Float.ofScientific mantissa false exponent
  | .negSucc exponent => Float.ofScientific mantissa true (exponent + 1)

/-- The exponent that a decimal literal ends with. What is no exponent does not belong to the
literal. -/
def exponentPart : List Char → Int
  | 'e' :: '-' :: rest | 'E' :: '-' :: rest => -(digitsValue (rest.takeWhile Char.isDigit) : Int)
  | 'e' :: '+' :: rest | 'E' :: '+' :: rest | 'e' :: rest | 'E' :: rest =>
    digitsValue (rest.takeWhile Char.isDigit)
  | _ => 0

/-- The longest decimal literal without a sign that the text begins with. -/
def unsignedDecimal : Option Float :=
  let whole := text.takeWhile Char.isDigit
  let afterWhole := text.dropWhile Char.isDigit
  let fraction :=
    match afterWhole with
    | '.' :: rest => rest.takeWhile Char.isDigit
    | _ => []
  let afterFraction :=
    match afterWhole with
    | '.' :: rest => rest.dropWhile Char.isDigit
    | rest => rest
  if whole = [] ∧ fraction = [] then
    if ['I', 'n', 'f', 'i', 'n', 'i', 't', 'y'].isPrefixOf text then some (1 / 0) else none
  else
    some (ofDecimal (digitsValue (whole ++ fraction))
      (exponentPart afterFraction - fraction.length))

/-- `none` stands for `NaN`. -/
def parseFloat : Option Float :=
  match trimStart text with
  | '-' :: rest => (unsignedDecimal rest).map fun value => -value
  | '+' :: rest => unsignedDecimal rest
  | rest => unsignedDecimal rest

/-- `parseInt` with the radix 10. -/
def parseInt : Option Float :=
  match trimStart text with
  | '-' :: rest => (decimalDigits rest).map fun value => -value
  | '+' :: rest => decimalDigits rest
  | rest => decimalDigits rest
where
  decimalDigits (rest : List Char) : Option Float :=
    let digits := rest.takeWhile Char.isDigit
    if digits = [] then none else some (Float.ofNat (digitsValue digits))

/-- `Math.round` of a double that is neither negative nor too large for an integer. -/
def mathRound (value : Float) : Nat :=
  let low := value.toUInt64.toNat
  if 0.5 ≤ value - Float.ofNat low then low + 1 else low

/-- The integer that is closest to `value * 10 ^ digits`; of two such the larger one. -/
def toFixedInteger (value : Float) (digits : Nat) : Nat :=
  match value.toModel.unpack with
  | .finite _ mantissa (.ofNat exponent) _ => mantissa * 2 ^ exponent * 10 ^ digits
  | .finite _ mantissa (.negSucc exponent) _ =>
    (2 * mantissa * 10 ^ digits + 2 ^ (exponent + 1)) / 2 ^ (exponent + 2)
  | _ => 0

/-- `toFixed` of a double that is not negative. -/
def toFixed (value : Float) (digits : Nat) : List Char :=
  let integer := toFixedInteger value digits
  let fraction := Nat.toDigits 10 (integer % 10 ^ digits)
  Nat.toDigits 10 (integer / 10 ^ digits) ++
    '.' :: (List.replicate (digits - fraction.length) '0' ++ fraction)

inductive BitcoinDisplayUnit
  | btc
  | mBtc
  | uBtc
  | sat
  | ksat
  deriving DecidableEq

def MAX_SAFE_SATS : Nat := 9007199254740991

def SATS_PER_BTC : Float := 100000000
def SATS_PER_mBTC : Float := 100000
def SATS_PER_uBTC : Float := 100
def SATS_PER_ksat : Float := 1000

def clampSats (sats : Float) : Nat :=
  if sats.isFinite = false ∨ sats < 0 then 0 else min sats.toUInt64.toNat MAX_SAFE_SATS

/-- A number of units that was read from a text; what is no number of units counts as none. -/
def satsOfUnits (parsed : Option Float) (satsPerUnit : Float) : Nat :=
  match parsed with
  | none => 0
  | some units =>
    if units.isFinite = false ∨ units < 0 then 0 else clampSats (units * satsPerUnit)

variable (amountStr : List Char)
variable (unit : BitcoinDisplayUnit)

def parseAmountToSatsFromBitcoinDisplayUnit : Nat :=
  let trimmed := trim amountStr
  if trimmed = [] then 0
  else
    match unit with
    | .btc => satsOfUnits (parseFloat trimmed) SATS_PER_BTC
    | .mBtc => satsOfUnits (parseFloat trimmed) SATS_PER_mBTC
    | .uBtc => satsOfUnits (parseFloat trimmed) SATS_PER_uBTC
    | .ksat => satsOfUnits (parseFloat trimmed) SATS_PER_ksat
    | .sat => satsOfUnits (parseInt (trimmed.filter fun character => character ≠ ',')) 1

def formatSats (sats : Nat) : List Char :=
  Nat.toDigits 10 (min sats MAX_SAFE_SATS)

def formatAmountInBitcoinDisplayUnit (sats : Nat) : BitcoinDisplayUnit → List Char
  | .btc => toFixed (Float.ofNat sats / SATS_PER_BTC) 8
  | .mBtc => toFixed (Float.ofNat sats / SATS_PER_mBTC) 5
  | .uBtc => toFixed (Float.ofNat sats / SATS_PER_uBTC) 2
  | .sat => formatSats sats
  | .ksat => toFixed (Float.ofNat sats / SATS_PER_ksat) 3

def formatAmountInputFromSats (sats : Nat) (unit : BitcoinDisplayUnit) : List Char :=
  formatAmountInBitcoinDisplayUnit sats unit

def isUsableBtcSpotPriceInFiat (price : Float) : Bool :=
  price.isFinite && decide (0 < price)

def parsePositiveFiatAmountInput (raw : List Char) : Option Float :=
  let trimmed := trim raw
  let whole := trimmed.takeWhile Char.isDigit
  let afterWhole := trimmed.dropWhile Char.isDigit
  let fraction :=
    match afterWhole with
    | '.' :: rest => rest
    | rest => rest
  if fraction.all Char.isDigit = true ∧ ¬ (whole = [] ∧ fraction = []) then
    let value := ofDecimal (digitsValue (whole ++ fraction)) (-(fraction.length : Int))
    if value.isFinite then some value else none
  else none

def amountSatsFromFiatAndBtcPrice (fiatAmount btcPriceInFiat : Float) : Option Nat :=
  if isUsableBtcSpotPriceInFiat btcPriceInFiat = false then none
  else if fiatAmount.isFinite = false ∨ fiatAmount < 0 then none
  else
    let sats := fiatAmount / btcPriceInFiat * SATS_PER_BTC
    if sats.isFinite = true ∧ mathRound sats ≤ MAX_SAFE_SATS then some (mathRound sats) else none

structure AmountSatsFromSendFormOptions where
  useFiatAmountEntry : Bool
  btcPriceInFiat : Option Float

def amountSatsFromForm : Nat :=
  parseAmountToSatsFromBitcoinDisplayUnit amountStr unit

def amountSatsFromSendForm (options : AmountSatsFromSendFormOptions) : Nat :=
  match options.btcPriceInFiat with
  | some price =>
    if options.useFiatAmountEntry = true ∧ isUsableBtcSpotPriceInFiat price = true then
      match parsePositiveFiatAmountInput amountStr with
      | none => 0
      | some fiatAmount => (amountSatsFromFiatAndBtcPrice fiatAmount price).getD 0
    else amountSatsFromForm amountStr unit
  | none => amountSatsFromForm amountStr unit

/-- An amount that the form writes in bitcoins may be read back as a smaller one. -/
example : amountSatsFromForm (formatAmountInputFromSats 29000000 .btc) .btc = 28999999 := by
  decide +kernel

end Bitboard.Frontend
