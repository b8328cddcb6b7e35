/-
# The child that pays for an emergency exit

A child spends the anchor of a parent and confirmed coins of the wallet, and pays the fee of both.
As the fee depends on the weight of the child, it is built and signed until the weight stays. A
build that finds no funds is tried once more with the largest confirmed coin.

The functions follow `p2a_cpfp.rs`. The builder and the signer of the wallet library are
parameters.
-/

import Bitboard.Crypto.PrepareSend

namespace Bitboard.Crypto

structure Transaction where
  txid : String
  inputs : List OutPoint
  outputs : List TxOut
  weight : Nat
  weight_pos : 0 < weight
  deriving DecidableEq

/-- A coin with the height up to which it is confirmed. -/
structure LocalCoin where
  outpoint : OutPoint
  value : Nat
  confirmationHeightUpperBound : Option Nat
  deriving DecidableEq

structure ChildRequest where
  anchorOutpoint : OutPoint
  anchorOutput : TxOut
  anchorSpendWeight : Nat
  requiredOutpoint : Option OutPoint
  minConfirmations : Nat
  version : Nat
  drainTo : String
  feeAbsolute : Nat

structure ChildPsbt where
  txInputs : List OutPoint
  outputs : List TxOut
  witnessWeight : Nat

inductive CreateTxError where
  | coinSelection (needed : Nat) (text : String)
  | outputBelowDustLimit (index : Nat)
  | other (text : String)

/-- What the wallet library does. The builder shuffles and draws coins at random, so that its
answer may be another one each time. -/
structure BumperApi (Wallet : Type) where
  deserializeHex : String → Except String Transaction
  revealNextAddress : Wallet → KeychainKind → String × Wallet
  tipHeight : Wallet → Nat
  listUnspent : Wallet → List LocalCoin
  addForeignUtxo : OutPoint → TxOut → Nat → Except String Unit
  addUtxo : Wallet → OutPoint → Except String Unit
  finish : ChildRequest → Wallet → Except CreateTxError ChildPsbt × Wallet
  signTransaction : Wallet → ChildPsbt → Except CryptoError (Bool × ChildPsbt)
  extractTx : ChildPsbt → Except String Transaction
  dustLimit : String → Nat

def BARK_CPFP_INSUFFICIENT_FUNDS : String := "bark_cpfp_insufficient_funds"

def BARK_CPFP_NEEDED_SATS_LABEL : String := "needed_sats"

def FEE_ANCHOR_SPEND_WEIGHT : Nat := 1

def MAX_FEE_ITERATIONS : Nat := 100

def p2aScript : String := "51024e73"

def insufficientFunds (detail : String) : CryptoError :=
  .transaction (BARK_CPFP_INSUFFICIENT_FUNDS ++ ": " ++ detail)

def CryptoError.isInsufficientFunds : CryptoError → Bool
  | .transaction message => BARK_CPFP_INSUFFICIENT_FUNDS.toList.isPrefixOf message.toList
  | _ => false

def weightFee (feeRate weight : Nat) : Nat := (feeRate * weight + 999) / 1000

def feeAnchor (parentTx : Transaction) : Option (OutPoint × TxOut) :=
  (parentTx.outputs.zipIdx.find? fun output => output.1.scriptPubkey = p2aScript).map fun output =>
    ({ txid := parentTx.txid, vout := output.2 }, output.1)

/-- How many confirmations a coin has, in 32 bits that saturate. -/
def confirmations (tipHeight : Nat) (coin : LocalCoin) : Nat :=
  coin.confirmationHeightUpperBound.elim 0 fun height =>
    min (tipHeight + 1) (2 ^ 32 - 1) - height

section Api

variable {Wallet : Type} (api : BumperApi Wallet)

def coinsWithConfirmations (minConfirmations : Nat) (wallet : Wallet) : List LocalCoin :=
  (api.listUnspent wallet).filter fun coin =>
    minConfirmations ≤ confirmations (api.tipHeight wallet) coin

variable (wallet : Wallet)

def confirmedCoins : List LocalCoin := coinsWithConfirmations api 1 wallet

def largestCoin (coins : List LocalCoin) : Option LocalCoin :=
  coins.foldl (fun largest coin =>
    if largest.elim 0 LocalCoin.value ≤ coin.value then some coin else largest) none

def outpointWithLargestConfirmedValue : Option OutPoint :=
  (largestCoin (confirmedCoins api wallet)).map LocalCoin.outpoint

def addUtxos (request : ChildRequest) (wallet : Wallet) : Except CryptoError Unit :=
  match api.addForeignUtxo request.anchorOutpoint request.anchorOutput
      request.anchorSpendWeight with
  | .error text => .error (.transaction text)
  | .ok _ =>
    match request.requiredOutpoint with
    | none => .ok ()
    | some outpoint =>
      match api.addUtxo wallet outpoint with
      | .error text => .error (.transaction text)
      | .ok _ => .ok ()

def signedChild (request : ChildRequest) (psbt : ChildPsbt) : Except CryptoError Transaction :=
  match api.signTransaction wallet psbt with
  | .error error => .error error
  | .ok (finalized, signed) =>
    if finalized then
      match api.extractTx signed with
      | .error text => .error (.transaction text)
      | .ok childTx =>
        if request.anchorOutpoint ∈ childTx.inputs then .ok childTx
        else .error (.transaction "Pay-to-Anchor child does not spend the parent anchor")
    else .error (.transaction "Pay-to-Anchor child could not be fully signed")

/-- The error of a build. The message of a failed coin selection names the sats it needed. -/
def CreateTxError.toCryptoError : CreateTxError → CryptoError
  | .coinSelection needed text =>
    insufficientFunds (BARK_CPFP_NEEDED_SATS_LABEL ++ "=" ++ toString needed ++ "; " ++ text)
  | .outputBelowDustLimit _ =>
    insufficientFunds "Confirmed coins cannot cover the child fee and a non-dust change output"
  | .other text => .transaction text

def finishChild (request : ChildRequest) (wallet : Wallet) :
    Except CryptoError Transaction × Wallet :=
  match addUtxos api request wallet with
  | .error error => (.error error, wallet)
  | .ok _ =>
    match api.finish request wallet with
    | (.error error, after) => (.error error.toCryptoError, after)
    | (.ok psbt, after) => (signedChild api after request psbt, after)

/-- What `sign_p2a_cpfp_child` sets before the first build. -/
def childRequest (anchor : OutPoint × TxOut) (changeScript : String) (feeNeeded : Nat)
    (requiredOutpoint : Option OutPoint) : ChildRequest where
  anchorOutpoint := anchor.1
  anchorOutput := anchor.2
  anchorSpendWeight := FEE_ANCHOR_SPEND_WEIGHT
  requiredOutpoint := requiredOutpoint
  minConfirmations := 1
  version := 3
  drainTo := changeScript
  feeAbsolute := feeNeeded

def resultIsInsufficientFunds (result : Except CryptoError Transaction) : Bool :=
  match result with
  | .error error => error.isInsufficientFunds
  | .ok _ => false

def buildChild (anchor : OutPoint × TxOut) (changeScript : String) (feeNeeded : Nat)
    (wallet : Wallet) : Except CryptoError Transaction × Wallet :=
  match finishChild api (childRequest anchor changeScript feeNeeded none) wallet with
  | (firstTry, after) =>
    if resultIsInsufficientFunds firstTry then
      match outpointWithLargestConfirmedValue api after with
      | none => (firstTry, after)
      | some largest =>
        finishChild api (childRequest anchor changeScript feeNeeded (some largest))
          after
    else (firstTry, after)

/-- The loop of `sign_p2a_cpfp_child`, with the iterations that are left. -/
def settleChild (parentWeight feeRate : Nat) (anchor : OutPoint × TxOut) (changeScript : String) :
    Nat → Nat → Nat → Wallet → Except CryptoError Transaction × Wallet
  | 0, _, _, wallet =>
    (.error (.transaction "Could not settle a Pay-to-Anchor child fee"), wallet)
  | iterations + 1, settledChildWeight, feeNeeded, wallet =>
    match buildChild api anchor changeScript feeNeeded wallet with
    | (.error error, after) => (.error error, after)
    | (.ok childTx, after) =>
      if childTx.weight = settledChildWeight then (.ok childTx, after)
      else settleChild parentWeight feeRate anchor changeScript iterations childTx.weight
        (weightFee feeRate (parentWeight + childTx.weight)) after

/-- What is checked before the first build: the parent, its anchor and the fee rate. -/
structure ChildJob where
  parentTx : Transaction
  anchor : OutPoint × TxOut
  feeRate : Nat
  deriving DecidableEq

def childJob (parentTxHex : String) (effectiveFeeRateSatPerVb : Option ℚ) :
    Except CryptoError ChildJob :=
  match api.deserializeHex parentTxHex with
  | .error text => .error (.transaction ("Parent transaction is invalid: " ++ text))
  | .ok parentTx =>
    match feeAnchor parentTx with
    | none => .error (.transaction
        ("Parent " ++ parentTx.txid ++ " has no Pay-to-Anchor output"))
    | some anchor =>
      match feeRateFromSatPerVbFloat effectiveFeeRateSatPerVb with
      | .error error => .error error
      | .ok feeRate => .ok { parentTx := parentTx, anchor := anchor, feeRate := feeRate }

def signP2aCpfpChild (parentTxHex : String) (effectiveFeeRateSatPerVb : Option ℚ) :
    Except CryptoError Transaction × Wallet :=
  match childJob api parentTxHex effectiveFeeRateSatPerVb with
  | .error error => (.error error, wallet)
  | .ok job =>
    let (changeScript, revealed) := api.revealNextAddress wallet .internal
    settleChild api job.parentTx.weight job.feeRate job.anchor changeScript MAX_FEE_ITERATIONS 0
      (weightFee job.feeRate job.parentTx.weight) revealed

end Api

section Laws

variable {Wallet : Type} (api : BumperApi Wallet)

def fundsOf (request : ChildRequest) (coins : List LocalCoin) : Nat :=
  request.anchorOutput.value + (coins.map LocalCoin.value).sum

/-- The builder takes the required coin first, and adds confirmed coins only until the inputs cover
the fee. -/
structure BuilderTakes (wallet : Wallet) (request : ChildRequest)
    (required chosen : List LocalCoin) : Prop where
  required_eq : required.map LocalCoin.outpoint = request.requiredOutpoint.toList
  required_mem : ∀ coin ∈ required, coin ∈ api.listUnspent wallet
  nodup : ((required ++ chosen).map LocalCoin.outpoint).Nodup
  chosen_mem : ∀ coin ∈ chosen, coin ∈ coinsWithConfirmations api request.minConfirmations wallet
  covers : request.feeAbsolute ≤ fundsOf request (required ++ chosen)
  stops : ∀ fewer, fewer <+: chosen → fewer ≠ chosen →
    fundsOf request (required ++ fewer) < request.feeAbsolute

def CreateTxError.isShort : CreateTxError → Bool
  | .coinSelection _ _ => true
  | .outputBelowDustLimit _ => true
  | .other _ => false

/-- What the wallet library documents. The builder drains to a given script, so that it reveals no
address, and its other messages do not start with the marker. -/
structure BumperApi.Documented : Prop where
  reveal_unspent : ∀ wallet keychain,
    api.listUnspent (api.revealNextAddress wallet keychain).2 = api.listUnspent wallet
  reveal_tip : ∀ wallet keychain,
    api.tipHeight (api.revealNextAddress wallet keychain).2 = api.tipHeight wallet
  finish_unspent : ∀ request wallet,
    api.listUnspent (api.finish request wallet).2 = api.listUnspent wallet
  finish_tip : ∀ request wallet, api.tipHeight (api.finish request wallet).2 = api.tipHeight wallet
  unspent_nodup : ∀ wallet, ((api.listUnspent wallet).map LocalCoin.outpoint).Nodup
  finish_ok : ∀ request wallet psbt after, api.finish request wallet = (.ok psbt, after) →
    ∃ required chosen, BuilderTakes api wallet request required chosen ∧
      psbt.txInputs.Perm
        (request.anchorOutpoint :: (required ++ chosen).map LocalCoin.outpoint) ∧
      request.feeAbsolute + api.dustLimit request.drainTo ≤ fundsOf request (required ++ chosen) ∧
      psbt.outputs = [{
        scriptPubkey := request.drainTo
        value := fundsOf request (required ++ chosen) - request.feeAbsolute }]
  finish_short : ∀ request wallet error after,
    api.finish request wallet = (.error error, after) → error.isShort = true →
      fundsOf request (coinsWithConfirmations api request.minConfirmations wallet) <
          request.feeAbsolute ∨
        ∃ required chosen, BuilderTakes api wallet request required chosen ∧
          fundsOf request (required ++ chosen) < request.feeAbsolute + api.dustLimit request.drainTo
  signed : ∀ wallet psbt finalized signed,
    api.signTransaction wallet psbt = .ok (finalized, signed) →
    ∀ childTx, api.extractTx signed = .ok childTx →
      childTx.inputs = psbt.txInputs ∧ childTx.outputs = psbt.outputs
  finish_text : ∀ request wallet text after,
    api.finish request wallet = (.error (.other text), after) →
      (CryptoError.transaction text).isInsufficientFunds = false
  foreign_text : ∀ outpoint output weight text,
    api.addForeignUtxo outpoint output weight = .error text →
      (CryptoError.transaction text).isInsufficientFunds = false
  add_text : ∀ wallet outpoint text, api.addUtxo wallet outpoint = .error text →
    (CryptoError.transaction text).isInsufficientFunds = false
  sign_error : ∀ wallet psbt error, api.signTransaction wallet psbt = .error error →
    error.isInsufficientFunds = false
  extract_text : ∀ psbt text, api.extractTx psbt = .error text →
    (CryptoError.transaction text).isInsufficientFunds = false

variable (wallet : Wallet)
variable (job : ChildJob)

/-- The child spends the anchor and confirmed coins, and its fee is at least the one of parent and
child. -/
def PaysForBoth (childTx : Transaction) : Prop :=
  ∃ coins : List LocalCoin, (coins.map LocalCoin.outpoint).Nodup ∧
    (∀ coin ∈ coins, coin ∈ confirmedCoins api wallet) ∧
    childTx.inputs.Perm (job.anchor.1 :: coins.map LocalCoin.outpoint) ∧
    weightFee job.feeRate (job.parentTx.weight + childTx.weight) +
        (childTx.outputs.map TxOut.value).sum ≤
      job.anchor.2.value + (coins.map LocalCoin.value).sum

/-- Some confirmed coins pay the fee of the parent and of the child that spends them, and leave a
change output that is no dust. -/
def CanPay (changeScript : String) : Prop :=
  ∃ (coins : List LocalCoin) (change : Nat) (psbt signed : ChildPsbt) (childTx : Transaction),
    (coins.map LocalCoin.outpoint).Nodup ∧ (∀ coin ∈ coins, coin ∈ confirmedCoins api wallet) ∧
    psbt.txInputs.Perm (job.anchor.1 :: coins.map LocalCoin.outpoint) ∧
    psbt.outputs = [{ scriptPubkey := changeScript, value := change }] ∧
    api.signTransaction wallet psbt = .ok (true, signed) ∧ api.extractTx signed = .ok childTx ∧
    api.dustLimit changeScript ≤ change ∧
    weightFee job.feeRate (job.parentTx.weight + childTx.weight) + change ≤
      job.anchor.2.value + (coins.map LocalCoin.value).sum

/-- The wallet after its change address was revealed, and the script of that address. -/
def revealedChange : String × Wallet := api.revealNextAddress wallet .internal

structure SignsSoundly (wallet : Wallet) (parentTxHex : String) (rate : Option ℚ) : Prop where
  child : ∀ childTx, (signP2aCpfpChild api wallet parentTxHex rate).1 = .ok childTx →
    ∃ job, childJob api parentTxHex rate = .ok job ∧ PaysForBoth api wallet job childTx
  report : ∀ error, (signP2aCpfpChild api wallet parentTxHex rate).1 = .error error →
    error.isInsufficientFunds = true →
      ∃ job, childJob api parentTxHex rate = .ok job ∧
        ¬ CanPay api (revealedChange api wallet).2 job (revealedChange api wallet).1

/-- The fees that are asked for one after the other, with the weight of the last child. -/
inductive AsksFor (job : ChildJob) (changeScript : String) (start : Wallet) :
    Nat → Nat → Nat → Wallet → Prop where
  | start : AsksFor job changeScript start 0 0 (weightFee job.feeRate job.parentTx.weight) start
  | again {asked settledChildWeight feeNeeded wallet childTx after}
      (hasked : AsksFor job changeScript start asked settledChildWeight feeNeeded wallet)
      (hbuild : buildChild api job.anchor changeScript feeNeeded wallet = (.ok childTx, after))
      (hmoved : childTx.weight ≠ settledChildWeight) :
      AsksFor job changeScript start (asked + 1) childTx.weight
        (weightFee job.feeRate (job.parentTx.weight + childTx.weight)) after

/-- The builder finds no funds for a request, or no change that is not dust. -/
def RunsShort (request : ChildRequest) (wallet : Wallet) : Prop :=
  addUtxos api request wallet = .ok () ∧
    ∃ error, (api.finish request wallet).1 = .error error ∧ error.isShort = true

/-- Neither the coins that the builder takes nor those that it adds to the largest one do. -/
def IsDeadEnd (changeScript : String) (feeNeeded : Nat) (wallet : Wallet) : Prop :=
  RunsShort api (childRequest job.anchor changeScript feeNeeded none) wallet ∧
    ∀ largest ∈ outpointWithLargestConfirmedValue api wallet,
      RunsShort api (childRequest job.anchor changeScript feeNeeded (some largest))
        (api.finish (childRequest job.anchor changeScript feeNeeded none) wallet).2

/-- Where some coins can pay, no fee that is asked for is a dead end. -/
def FindsFundsThatAreThere (parentTxHex : String) (rate : Option ℚ) : Prop :=
  ∀ job, childJob api parentTxHex rate = .ok job →
    CanPay api (revealedChange api wallet).2 job (revealedChange api wallet).1 →
      ∀ asked settledChildWeight feeNeeded current,
        asked < MAX_FEE_ITERATIONS →
        AsksFor api job (revealedChange api wallet).1 (revealedChange api wallet).2 asked
          settledChildWeight feeNeeded current →
        ¬ IsDeadEnd api job (revealedChange api wallet).1 feeNeeded current

/-- Whatever coins the builder takes for a request, they leave change that is no dust. -/
def AlwaysLeavesChange (request : ChildRequest) : Prop :=
  ∀ required chosen, BuilderTakes api wallet request required chosen →
    request.feeAbsolute + api.dustLimit request.drainTo ≤ fundsOf request (required ++ chosen)

/-- The confirmed coins cover a fee, and they cannot leave dust in both builds: the one where the
builder begins with any coin, and the one where it begins with the largest. -/
structure FindsFunds (job : ChildJob) (changeScript : String) (feeNeeded : Nat)
    (wallet : Wallet) : Prop where
  covers : feeNeeded ≤ job.anchor.2.value + ((confirmedCoins api wallet).map LocalCoin.value).sum
  leaves : AlwaysLeavesChange api wallet (childRequest job.anchor changeScript feeNeeded none) ∨
    ∃ largest ∈ outpointWithLargestConfirmedValue api wallet,
      AlwaysLeavesChange api wallet
        (childRequest job.anchor changeScript feeNeeded (some largest))

/-- A signed child that spends the anchor and some coins. -/
def IsChildOf (anchorOutpoint : OutPoint) (changeScript : String) (coins : List LocalCoin)
    (childTx : Transaction) : Prop :=
  ∃ (signer : Wallet) (psbt signed : ChildPsbt) (change : Nat),
    psbt.txInputs.Perm (anchorOutpoint :: coins.map LocalCoin.outpoint) ∧
    psbt.outputs = [{ scriptPubkey := changeScript, value := change }] ∧
    api.signTransaction signer psbt = .ok (true, signed) ∧ api.extractTx signed = .ok childTx

def feeForBoth (childWeight : Nat) : Nat :=
  weightFee job.feeRate (job.parentTx.weight + childWeight)

/-- The weights of the children that a fee may be asked for, whatever coins the builder takes. The
first fee is the one of the parent. A further one is that of the parent and a child whose coins
pay the fee before and leave change. The largest coin is required only where dust may be left. -/
inductive MayAskFor (job : ChildJob) (changeScript : String) (wallet : Wallet) :
    Nat → Nat → Prop where
  | parent : MayAskFor job changeScript wallet 0 0
  | both {asked childWeight feeNeeded requiredOutpoint required chosen childTx}
      (hasked : MayAskFor job changeScript wallet asked childWeight)
      (hfee : feeNeeded = feeForBoth job childWeight)
      (hlargest : ∀ outpoint ∈ requiredOutpoint,
        outpointWithLargestConfirmedValue api wallet = some outpoint ∧
          ¬ AlwaysLeavesChange api wallet (childRequest job.anchor changeScript feeNeeded none))
      (htakes : BuilderTakes api wallet
        (childRequest job.anchor changeScript feeNeeded requiredOutpoint) required chosen)
      (hchange : feeNeeded + api.dustLimit changeScript ≤
        fundsOf (childRequest job.anchor changeScript feeNeeded requiredOutpoint)
          (required ++ chosen))
      (hchild : IsChildOf api job.anchor.1 changeScript (required ++ chosen) childTx)
      (hmoved : childTx.weight ≠ childWeight) :
      MayAskFor job changeScript wallet (asked + 1) childTx.weight

/-- Where some coins can pay, every fee that may be asked for is found. -/
def FindsEveryFee (parentTxHex : String) (rate : Option ℚ) : Prop :=
  ∀ job, childJob api parentTxHex rate = .ok job →
    CanPay api (revealedChange api wallet).2 job (revealedChange api wallet).1 →
      ∀ asked childWeight, asked < MAX_FEE_ITERATIONS →
        MayAskFor api job (revealedChange api wallet).1 (revealedChange api wallet).2 asked
          childWeight →
        FindsFunds api job (revealedChange api wallet).1 (feeForBoth job childWeight)
          (revealedChange api wallet).2

end Laws

end Bitboard.Crypto
