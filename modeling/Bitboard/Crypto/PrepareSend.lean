/-
# Preparing an on-chain send

The builder of the wallet library makes a draft that pays the amount. Where the draft has no
change output, a larger payment is offered that leaves the fee of the draft's weight only, and on
request a second draft is built for it.

The functions follow `transaction.rs`. The builder is a parameter.
-/

import Bitboard.Crypto.FeeRates

namespace Bitboard.Crypto

structure OutPoint where
  txid : String
  vout : Nat
  deriving DecidableEq

structure TxOut where
  scriptPubkey : String
  value : Nat
  deriving DecidableEq

/-- A draft: the inputs of the unsigned transaction, the values that the PSBT states for them, the
outputs, and the weight of the unsigned transaction. -/
structure Psbt where
  txInputs : List OutPoint
  witnessUtxoValues : List (Option Nat)
  outputs : List TxOut
  unsignedWeight : Nat
  deriving DecidableEq

inductive KeychainKind where
  | external
  | internal

structure LocalOutput where
  outpoint : OutPoint
  valueSats : Nat
  keychain : KeychainKind
  derivationIndex : Nat

structure WalletAddress where
  address : String
  scriptPubkey : String

structure ReviewInputUtxo where
  address : String
  amountSats : Nat
  txid : String
  vout : Nat

structure BuildRequest where
  recipientScriptPubkey : String
  paymentSats : Nat
  feeRate : Nat
  selectedOutpoints : Option (List OutPoint)
  deriving DecidableEq

/-- What the wallet library does: it builds drafts, lists coins and derives addresses. A build
takes the coins of `selectCoins`, out of those that it may take by itself where none are
selected. `draftFee` is the fee that it asks of a draft without change, `draftFeeWithChange` of
one with change, and `unsignedWeight` what a draft without change weighs before it is signed. -/
structure WalletApi (Wallet : Type) where
  parseAddress : String → String → Except CryptoError String
  buildTx : BuildRequest → Wallet → Except CryptoError Psbt × Wallet
  listUnspent : Wallet → List LocalOutput
  spendable : Wallet → List LocalOutput
  selectCoins : BuildRequest → Wallet → List LocalOutput
  peekAddress : Wallet → KeychainKind → Nat → WalletAddress
  nextDerivationIndex : Wallet → KeychainKind → Nat
  changeScript : Wallet → String
  signedWeight : Psbt → Nat
  unsignedWeight : String → List LocalOutput → Nat
  draftFee : BuildRequest → List LocalOutput → Option Nat
  draftFeeWithChange : BuildRequest → List LocalOutput → Option Nat
  changeDust : Nat

structure SendCall where
  toAddress : String
  amountSats : Nat
  feeRateSatPerVb : Option ℚ
  network : String
  selectedOutpoints : Option (List OutPoint)

structure PrepareOnchainSendOutcome where
  psbt : Psbt
  finalAmountSats : Nat
  originalAmountSats : Nat
  raisedToMinDust : Bool
  bumpedChangeFree : Bool
  changeFreeBumpAvailable : Bool
  changeFreeMaxSats : Nat
  feeSats : Nat
  changeSats : Nat
  totalInputSats : Nat
  inputUtxos : List ReviewInputUtxo

def UX_DUST_FLOOR_SATS : Nat := 546

/-- The loop of `sum_psbt_input_values`, whose sum has to fit 64 bits. -/
def sumInputValuesFrom : Nat → List (Option Nat) → Except CryptoError Nat
  | sum, [] => .ok sum
  | _, none :: _ => .error (.transaction "PSBT input missing witness_utxo")
  | sum, some value :: rest =>
    if sum + value < 2 ^ 64 then sumInputValuesFrom (sum + value) rest
    else .error (.transaction "Input value sum overflow")

variable (psbt : Psbt)

def sumPsbtInputValues : Except CryptoError Nat :=
  if psbt.witnessUtxoValues.length ≠ psbt.txInputs.length then
    .error (.transaction "PSBT input count mismatch")
  else sumInputValuesFrom 0 psbt.witnessUtxoValues

def sumUnsignedTxOutputValues : Nat := (psbt.outputs.map TxOut.value).sum

def feeSatsFromUnsignedPsbt : Except CryptoError Nat := do
  let inputValueSum ← sumPsbtInputValues psbt
  .ok (inputValueSum - sumUnsignedTxOutputValues psbt)

def changeSatsFromUnsignedPsbt (changeScriptPubkey : String) : Nat :=
  ((psbt.outputs.filter fun output => output.scriptPubkey = changeScriptPubkey).map
    TxOut.value).sum

section Api

variable {Wallet : Type} (api : WalletApi Wallet)
variable (wallet : Wallet)

def reviewInput (outpoint : OutPoint) : Option Nat → Except CryptoError ReviewInputUtxo
  | none => .error (.transaction "PSBT input missing witness_utxo")
  | some amountSats =>
    match (api.listUnspent wallet).find? fun output => output.outpoint = outpoint with
    | none => .error (.transaction ("PSBT input outpoint not found in wallet UTXOs: " ++
        outpoint.txid ++ ":" ++ toString outpoint.vout))
    | some output => .ok {
        address := (api.peekAddress wallet output.keychain output.derivationIndex).address
        amountSats := amountSats
        txid := outpoint.txid
        vout := outpoint.vout }

def reviewInputsFromWalletPsbt (psbt : Psbt) : Except CryptoError (List ReviewInputUtxo) :=
  if psbt.witnessUtxoValues.length ≠ psbt.txInputs.length then
    .error (.transaction "PSBT input count mismatch")
  else
    (psbt.txInputs.zip psbt.witnessUtxoValues).mapM fun input =>
      reviewInput api wallet input.1 input.2

def buildOnce (request : BuildRequest) (wallet : Wallet) : Except CryptoError Psbt × Wallet :=
  if request.selectedOutpoints = some [] then
    (.error (.transaction "At least one UTXO must be selected for manual coin control"), wallet)
  else api.buildTx request wallet

def singleRecipientOnly (recipientScriptPubkey : String) (psbt : Psbt) : Bool :=
  psbt.outputs.map TxOut.scriptPubkey = [recipientScriptPubkey]

/-- The payment that is offered instead of the one of the draft, if it is larger: the inputs less
the fee of the weight of the unsigned draft. -/
def changeFreeMax (request : BuildRequest) (psbt : Psbt) : Except CryptoError (Option Nat) :=
  if singleRecipientOnly request.recipientScriptPubkey psbt then do
    let inputValueSum ← sumPsbtInputValues psbt
    match feeWu request.feeRate psbt.unsignedWeight with
    | none => .error (.transaction "Fee overflow for transaction weight")
    | some minTotalFee =>
      let maxRecipient := inputValueSum - minTotalFee
      .ok (if request.paymentSats < maxRecipient then some maxRecipient else none)
  else .ok none

def nextChangeScript : String :=
  (api.peekAddress wallet .internal (api.nextDerivationIndex wallet .internal)).scriptPubkey

/-- The script of the change output, or of the next change address where there is none. -/
def changeScriptOf (recipientScriptPubkey : String) (psbt : Psbt) : String :=
  match psbt.outputs.find? fun output => output.scriptPubkey ≠ recipientScriptPubkey with
  | some output => output.scriptPubkey
  | none => nextChangeScript api wallet

/-- What the outcome says about the draft that is kept. -/
def outcomeOf (call : SendCall) (request : BuildRequest) (psbt : Psbt) (bumpedChangeFree : Bool)
    (changeFreeMaxSats : Option Nat) :
    Except CryptoError PrepareOnchainSendOutcome := do
  let feeSats ← feeSatsFromUnsignedPsbt psbt
  let totalInputSats ← sumPsbtInputValues psbt
  let inputUtxos ← reviewInputsFromWalletPsbt api wallet psbt
  .ok {
    psbt := psbt
    finalAmountSats := request.paymentSats
    originalAmountSats := call.amountSats
    raisedToMinDust := call.amountSats < UX_DUST_FLOOR_SATS
    bumpedChangeFree := bumpedChangeFree
    changeFreeBumpAvailable := changeFreeMaxSats.isSome
    changeFreeMaxSats := changeFreeMaxSats.getD 0
    feeSats := feeSats
    changeSats := changeSatsFromUnsignedPsbt psbt
      (changeScriptOf api wallet request.recipientScriptPubkey psbt)
    totalInputSats := totalInputSats
    inputUtxos := inputUtxos }

/-- The request of the first build: amounts below the dust floor are raised to it. -/
def firstRequest (call : SendCall) : Except CryptoError BuildRequest :=
  if call.amountSats = 0 then .error (.transaction "Amount must be greater than zero")
  else do
    let recipientScriptPubkey ← api.parseAddress call.toAddress call.network
    let feeRate ← feeRateFromSatPerVbFloat call.feeRateSatPerVb
    .ok {
      recipientScriptPubkey := recipientScriptPubkey
      paymentSats := max call.amountSats UX_DUST_FLOOR_SATS
      feeRate := feeRate
      selectedOutpoints := call.selectedOutpoints }

def prepareFromDraft (call : SendCall) (request : BuildRequest) (applyChangeFreeBump : Bool)
    (psbt : Psbt) : Except CryptoError PrepareOnchainSendOutcome × Wallet :=
  match changeFreeMax request psbt with
  | .error error => (.error error, wallet)
  | .ok none => (outcomeOf api wallet call request psbt false none, wallet)
  | .ok (some maxRecipient) =>
    if applyChangeFreeBump then
      let bumpedRequest := { request with paymentSats := maxRecipient }
      match buildOnce api bumpedRequest wallet with
      | (.ok changeFreePsbt, after) =>
        (outcomeOf api after call bumpedRequest changeFreePsbt true (some maxRecipient), after)
      | (.error _, after) =>
        -- The first draft is kept.
        (outcomeOf api after call request psbt false (some maxRecipient), after)
    else (outcomeOf api wallet call request psbt false (some maxRecipient), wallet)

def prepareOnchainSend (call : SendCall) (applyChangeFreeBump : Bool) :
    Except CryptoError PrepareOnchainSendOutcome × Wallet :=
  match firstRequest api call with
  | .error error => (.error error, wallet)
  | .ok request =>
    match buildOnce api request wallet with
    | (.error error, after) => (.error error, after)
    | (.ok psbt, after) => prepareFromDraft api after call request applyChangeFreeBump psbt

end Api

section Laws

variable {Wallet : Type} (api : WalletApi Wallet)

def Psbt.IsChangeFree : Prop := psbt.outputs.length = 1

instance (psbt : Psbt) : Decidable psbt.IsChangeFree :=
  inferInstanceAs (Decidable (psbt.outputs.length = 1))

def totalSats (coins : List LocalOutput) : Nat := (coins.map LocalOutput.valueSats).sum

/-- The coins that a build may spend. Under manual coin control these are the selected ones. -/
structure MaySpend (wallet : Wallet) (request : BuildRequest) (coins : List LocalOutput) :
    Prop where
  nodup : (coins.map LocalOutput.outpoint).Nodup
  listed : ∀ coin ∈ coins, coin ∈ api.listUnspent wallet
  spendable : request.selectedOutpoints = none → ∀ coin ∈ coins, coin ∈ api.spendable wallet
  selected : ∀ selected ∈ request.selectedOutpoints, ∀ outpoint,
    outpoint ∈ coins.map LocalOutput.outpoint ↔ outpoint ∈ selected

variable (request : BuildRequest)

/-- The coins are worth the payment and the fee of a draft without change. -/
def Funds (coins : List LocalOutput) : Prop :=
  ∃ fee ∈ api.draftFee request coins, request.paymentSats + fee ≤ totalSats coins

/-- What is left over of the coins, with the fee of a change output paid, is not dust. -/
def LeavesChange (coins : List LocalOutput) : Prop :=
  ∃ fee ∈ api.draftFeeWithChange request coins,
    request.paymentSats + fee + api.changeDust ≤ totalSats coins

/-- What the wallet library documents: a draft spends coins that it may spend and whose values it
states, pays the recipient exactly and at most one output of change, and no more than the coins
are worth less the fee of the signed weight. It has change exactly when what is left over is not
dust. A payment that is no dust is refused only where no coins fund it. Building spends nothing. -/
structure WalletApi.Documented : Prop where
  unspent_kept : ∀ request wallet,
    api.listUnspent (api.buildTx request wallet).2 = api.listUnspent wallet
  spends : ∀ request wallet psbt after, api.buildTx request wallet = (.ok psbt, after) →
    MaySpend api wallet request (api.selectCoins request wallet) ∧
      Funds api request (api.selectCoins request wallet) ∧
      totalSats (api.selectCoins request wallet) < 2 ^ 64
  inputs : ∀ request wallet psbt after, api.buildTx request wallet = (.ok psbt, after) →
    psbt.txInputs = (api.selectCoins request wallet).map LocalOutput.outpoint ∧
      psbt.witnessUtxoValues = (api.selectCoins request wallet).map fun coin => some coin.valueSats
  pays : ∀ request wallet psbt after, api.buildTx request wallet = (.ok psbt, after) →
    ∃ change : Option TxOut, psbt.outputs.Perm
        ({ scriptPubkey := request.recipientScriptPubkey, value := request.paymentSats } ::
          change.toList) ∧
      ∀ output ∈ change, 0 < output.value ∧ output.scriptPubkey = api.changeScript wallet
  fee : ∀ request wallet psbt after, api.buildTx request wallet = (.ok psbt, after) →
    ∃ fee, feeWu request.feeRate (api.signedWeight psbt) = some fee ∧
      sumUnsignedTxOutputValues psbt + fee ≤ totalSats (api.selectCoins request wallet)
  change : ∀ request wallet psbt after, api.buildTx request wallet = (.ok psbt, after) →
    (¬ psbt.IsChangeFree ↔ LeavesChange api request (api.selectCoins request wallet))
  unsigned : ∀ request wallet psbt after, api.buildTx request wallet = (.ok psbt, after) →
    psbt.IsChangeFree → psbt.unsignedWeight =
      api.unsignedWeight request.recipientScriptPubkey (api.selectCoins request wallet)
  insufficient : ∀ request wallet error after,
    api.buildTx request wallet = (.error error, after) →
      UX_DUST_FLOOR_SATS ≤ request.paymentSats →
        ∀ coins, MaySpend api wallet request coins → ¬ Funds api request coins

/-- What the outcomes of a call, with and without the larger payment, promise. -/
structure PreparesSoundly (wallet : Wallet) (call : SendCall) : Prop where
  balanced : ∀ applyBump outcome, (prepareOnchainSend api wallet call applyBump).1 = .ok outcome →
    outcome.finalAmountSats + outcome.changeSats + outcome.feeSats = outcome.totalInputSats
  bump : ∀ applyBump outcome, (prepareOnchainSend api wallet call applyBump).1 = .ok outcome →
    outcome.changeFreeBumpAvailable = true →
      ∃ bumped, (prepareOnchainSend api wallet call true).1 = .ok bumped ∧
        bumped.finalAmountSats = outcome.changeFreeMaxSats ∧ bumped.bumpedChangeFree = true ∧
        bumped.psbt.IsChangeFree
  changeFree : ∀ applyBump outcome,
    (prepareOnchainSend api wallet call applyBump).1 = .ok outcome →
      outcome.bumpedChangeFree = true → outcome.psbt.IsChangeFree

/-- The request for another payment. -/
def BuildRequest.paying (paymentSats : Nat) : BuildRequest :=
  { request with paymentSats := paymentSats }

/-- Coins that may be spent are worth `amountSats` and the fee of a draft, those that are taken
for it leave no change, and the recipient is not the next change address. -/
structure OfferIsFunded (wallet : Wallet) (request : BuildRequest) (amountSats : Nat) :
    Prop where
  funded : ∃ coins, MaySpend api wallet (request.paying amountSats) coins ∧
    Funds api (request.paying amountSats) coins
  changeFree : ¬ LeavesChange api (request.paying amountSats)
    (api.selectCoins (request.paying amountSats) wallet)
  apart : nextChangeScript api (api.buildTx (request.paying amountSats) wallet).2 ≠
    request.recipientScriptPubkey

/-- For a request that coins fund: with `coins` the ones that are taken for it, change goes to
another script than the payment. Without change the next change address is another one, and what
`coins` are worth less the fee of the unsigned weight is funded, if it is more than the payment. -/
def FundsWhatIsOffered (wallet : Wallet) (call : SendCall) : Prop :=
  ∀ request, firstRequest api call = .ok request → request.selectedOutpoints ≠ some [] →
    (∃ coins, MaySpend api wallet request coins ∧ Funds api request coins) →
      ∀ coins after, api.selectCoins request wallet = coins →
        (api.buildTx request wallet).2 = after →
          (LeavesChange api request coins →
            api.changeScript wallet ≠ request.recipientScriptPubkey) ∧
          (¬ LeavesChange api request coins →
            ∀ fee ∈ feeWu request.feeRate
                (api.unsignedWeight request.recipientScriptPubkey coins),
              nextChangeScript api after ≠ request.recipientScriptPubkey ∧
                (request.paymentSats < totalSats coins - fee →
                  OfferIsFunded api after request (totalSats coins - fee)))

end Laws

end Bitboard.Crypto
