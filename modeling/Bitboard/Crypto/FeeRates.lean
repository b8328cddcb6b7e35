/-
# Fee rates

A fee rate comes as a double of satoshis per virtual byte and is kept in satoshis per thousand
weight units.
-/

import Bitboard.Lib.Binary64

namespace Bitboard.Crypto

open Bitboard.Lib

inductive CryptoError where
  | mnemonic (message : String)
  | descriptor (message : String)
  | wallet (message : String)
  | blockchain (message : String)
  | transaction (message : String)
  | serialization (message : String)
  deriving DecidableEq

def MAX_FEE_RATE_SAT_PER_VB : ℚ := 1000000

def SAT_PER_KWU_PER_SAT_VB : Nat := 250

/-- A rate that is no finite number is `none`. -/
def validateFeeRateSatPerVb : Option ℚ → Except CryptoError ℚ
  | none => .error (.transaction "Fee rate must be finite (not NaN or Infinity)")
  | some rate =>
    if rate ≤ 0 then .error (.transaction "Fee rate must be greater than zero")
    else if MAX_FEE_RATE_SAT_PER_VB < rate then
      .error (.transaction "Fee rate must not exceed 1000000 sat/vB")
    else .ok rate

/-- The rate in satoshis per thousand weight units. `scaled` is far from an infinity, as the rate
is bounded. -/
def feeRateFromSatPerVbFloat (rateSatPerVb : Option ℚ) : Except CryptoError Nat := do
  let rate ← validateFeeRateSatPerVb rateSatPerVb
  let scaled := nearestDouble (rate * SAT_PER_KWU_PER_SAT_VB)
  if scaled ≤ 0 then
    .error (.transaction "Fee rate too small after conversion")
  else
    let rounded := ⌊scaled + 1 / 2⌋
    if rounded ≤ 0 then
      .error (.transaction "Fee rate rounds to zero; increase sat/vB")
    else .ok rounded.toNat

/-- `FeeRate::fee_wu`, rounded up, unless a product does not fit 64 bits. -/
def feeWu (feeRate weight : Nat) : Option Nat :=
  if feeRate * weight + 999 < 2 ^ 64 then some ((feeRate * weight + 999) / 1000) else none

end Bitboard.Crypto
