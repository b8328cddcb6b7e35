/-
# Amounts in a display unit

An amount of satoshis is shown as a decimal of a unit and read back from such a text, and the
amount of a payment link is read as a decimal of bitcoins. The numbers in between are doubles:
rationals, rounded to the nearest one after each operation.

The functions follow `bitcoin-display-unit.ts` and `bip21.ts`.
-/

import Bitboard.Frontend.SendAmount
import Bitboard.Lib.Binary64

namespace Bitboard.Frontend.DisplayAmount

open Bitboard.Lib

inductive Number where
  | nan
  | infinity
  | negativeInfinity
  | finite (value : ℚ)

def Number.ofRat (value : ℚ) : Number :=
  match binary64 value with
  | some rounded => .finite rounded
  | none => if 0 < value then .infinity else .negativeInfinity

def Number.neg : Number → Number
  | .nan => .nan
  | .infinity => .negativeInfinity
  | .negativeInfinity => .infinity
  | .finite value => .finite (-value)

/-- The longest decimal literal without a sign that the text begins with. -/
def unsignedDecimal (text : List Char) : Number :=
  let whole := text.takeWhile Char.isDigit
  let afterWhole := text.dropWhile Char.isDigit
  let fraction :=
    match afterWhole with
    | '.' :: rest => rest.takeWhile Char.isDigit
    | _ => []
  let afterFraction :=
    match afterWhole with
    | '.' :: rest => rest.dropWhile Char.isDigit
    | rest => rest
  if whole = [] ∧ fraction = [] then
    if ['I', 'n', 'f', 'i', 'n', 'i', 't', 'y'].isPrefixOf text then .infinity else .nan
  else
    .ofRat (digitsValue (whole ++ fraction) *
      (10 : ℚ) ^ (exponentPart afterFraction - fraction.length))

def parseFloat (text : List Char) : Number :=
  match trimStart text with
  | '-' :: rest => (unsignedDecimal rest).neg
  | '+' :: rest => unsignedDecimal rest
  | rest => unsignedDecimal rest

def decimalDigits (text : List Char) : Number :=
  let digits := text.takeWhile Char.isDigit
  if digits = [] then .nan else .ofRat (digitsValue digits)

/-- `parseInt` with the radix 10. -/
def parseInt (text : List Char) : Number :=
  match trimStart text with
  | '-' :: rest => (decimalDigits rest).neg
  | '+' :: rest => decimalDigits rest
  | rest => decimalDigits rest

/-- `toFixed` of a double that is not negative and less than `10 ^ 21`: the integer that is closest
to `value * 10 ^ digits`, of two such the larger one, with a point before the last digits. -/
def toFixed (value : ℚ) (digits : Nat) : List Char :=
  let integer := ⌊value * 10 ^ digits + 1 / 2⌋.toNat
  let fraction := Nat.toDigits 10 (integer % 10 ^ digits)
  Nat.toDigits 10 (integer / 10 ^ digits) ++
    '.' :: (List.replicate (digits - fraction.length) '0' ++ fraction)

def SATS_PER_BTC : Nat := 100000000
def SATS_PER_mBTC : Nat := 100000
def SATS_PER_uBTC : Nat := 100
def SATS_PER_ksat : Nat := 1000

/-- What is shown in satoshis is an integer without a fraction. -/
def formatSats (sats : Nat) : List Char :=
  Nat.toDigits 10 (min sats MAX_SAFE_SATS)

def formatAmountInBitcoinDisplayUnit (sats : Nat) : BitcoinDisplayUnit → List Char
  | .btc => toFixed (nearestDouble (sats / SATS_PER_BTC)) 8
  | .mBtc => toFixed (nearestDouble (sats / SATS_PER_mBTC)) 5
  | .uBtc => toFixed (nearestDouble (sats / SATS_PER_uBTC)) 2
  | .sat => formatSats sats
  | .ksat => toFixed (nearestDouble (sats / SATS_PER_ksat)) 3

def clampSats : Number → Nat
  | .finite sats => if sats < 0 then 0 else min ⌊sats⌋.toNat MAX_SAFE_SATS
  | _ => 0

/-- A number of units that was read from a text; what is no number of units counts as none. -/
def satsOfUnits (parsed : Number) (satsPerUnit : Nat) : Nat :=
  match parsed with
  | .finite units => if units < 0 then 0 else clampSats (.ofRat (units * satsPerUnit))
  | _ => 0

def satsOfSats (parsed : Number) : Nat :=
  match parsed with
  | .nan => 0
  | .negativeInfinity => 0
  | .infinity => clampSats .infinity
  | .finite sats => if sats < 0 then 0 else clampSats (.finite sats)

def parseAmountToSatsFromBitcoinDisplayUnit (amountStr : List Char) (unit : BitcoinDisplayUnit) :
    Nat :=
  let trimmed := trim amountStr
  if trimmed = [] then 0
  else
    match unit with
    | .btc => satsOfUnits (parseFloat trimmed) SATS_PER_BTC
    | .mBtc => satsOfUnits (parseFloat trimmed) SATS_PER_mBTC
    | .uBtc => satsOfUnits (parseFloat trimmed) SATS_PER_uBTC
    | .ksat => satsOfUnits (parseFloat trimmed) SATS_PER_ksat
    | .sat => satsOfSats (parseInt (trimmed.filter fun character => character ≠ ','))

/-- The amount of a link in `tryParseBitcoinUri`. Only a positive amount is taken. -/
def bip21AmountBtc (amountStr : List Char) : Option ℚ :=
  if amountStr = [] then none
  else
    match parseFloat amountStr with
    | .finite parsedAmount => if 0 < parsedAmount then some parsedAmount else none
    | _ => none

/-- `Math.round` of a finite number. -/
def mathRound (value : ℚ) : Int := ⌊value + 1 / 2⌋

/-- The satoshis of the amount of a link in `recipientAndAmountFromScannedPayload`. -/
def bip21AmountSats (amountBtc : ℚ) : Nat :=
  match Number.ofRat (amountBtc * SATS_PER_BTC) with
  | .finite sats => min MAX_SAFE_SATS (mathRound sats).toNat
  | _ => MAX_SAFE_SATS

/-- The satoshis that the amount of a link stands for: none where the link has no amount. -/
def satsFromBip21Amount (amountStr : List Char) : Nat :=
  ((bip21AmountBtc amountStr).map bip21AmountSats).getD 0

/-- A decimal number of bitcoins with at most eight decimals. -/
structure BtcDecimal where
  whole : List Char
  fraction : Option (List Char)
  whole_digits : whole.all Char.isDigit = true
  fraction_digits : (fraction.getD []).all Char.isDigit = true
  some_digit : whole ++ fraction.getD [] ≠ []
  decimals_le : (fraction.getD []).length ≤ 8

/-- The decimal as it is written, with a point before the decimals. -/
def BtcDecimal.text (amount : BtcDecimal) : List Char :=
  amount.whole ++ (amount.fraction.map fun decimals => '.' :: decimals).getD []

/-- The number of satoshis that the decimal is exactly. -/
def BtcDecimal.sats (amount : BtcDecimal) : Nat :=
  digitsValue (amount.whole ++ amount.fraction.getD []) *
    10 ^ (8 - (amount.fraction.getD []).length)

end Bitboard.Frontend.DisplayAmount
