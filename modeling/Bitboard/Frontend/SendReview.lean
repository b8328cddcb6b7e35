/-
# The review of a send

The send page asks for a PSBT and shows its review. The amount of the review is read from the
form each time, at the current price; its fee, change and inputs come from the last prepare call
that has finished. Manual coin selection keeps a list of its own, from which it asks for a PSBT
again after a delay. The networks here are all but the lab.
-/

import Bitboard.Frontend.SendAmount
import Bitboard.Lib.Run

namespace Bitboard.Frontend

open Bitboard.Lib

structure UtxoOutpoint where
  txid : String
  vout : Nat
  deriving DecidableEq

structure ReviewInputUtxo where
  amountSats : Nat
  txid : String
  vout : Nat
  deriving DecidableEq

variable (utxo : ReviewInputUtxo)

def reviewUtxoToOutpoint : UtxoOutpoint where
  txid := utxo.txid
  vout := utxo.vout

structure Psbt where
  recipient : String
  amountSats : Nat
  feeSats : Nat
  changeSats : Nat
  inputs : List UtxoOutpoint
  deriving DecidableEq

structure PrepareOnchainSendParams where
  toAddress : String
  amountSats : Nat
  feeRateSatPerVb : Float
  applyChangeFreeBump : Bool
  selectedOutpoints : Option (List UtxoOutpoint)

structure PrepareOnchainSendResult where
  psbtBase64 : Psbt
  finalAmountSats : Nat
  originalAmountSats : Nat
  isRaisedToMinDust : Bool
  isBumpedChangeFree : Bool
  isChangeFreeBumpAvailable : Bool
  changeFreeMaxSats : Nat
  feeSats : Nat
  changeSats : Nat
  inputUtxos : List ReviewInputUtxo
  deriving DecidableEq

/-- Two lists of outpoints with the same members; the order of inputs means nothing. -/
def SameOutpoints (first second : List UtxoOutpoint) : Prop :=
  (∀ outpoint ∈ first, outpoint ∈ second) ∧ ∀ outpoint ∈ second, outpoint ∈ first

instance (first second : List UtxoOutpoint) : Decidable (SameOutpoints first second) :=
  inferInstanceAs (Decidable (_ ∧ _))

/-- The PSBT pays the final amount with the fee, the change and the inputs that are reported. An
amount that was neither raised nor bumped is the one that was asked for. -/
@[mk_iff]
structure PrepareOnchainSendResult.Reports (result : PrepareOnchainSendResult) : Prop where
  amount : result.psbtBase64.amountSats = result.finalAmountSats
  fee : result.psbtBase64.feeSats = result.feeSats
  change : result.psbtBase64.changeSats = result.changeSats
  inputs : result.inputUtxos.map reviewUtxoToOutpoint = result.psbtBase64.inputs
  unadjusted : result.isRaisedToMinDust = false → result.isBumpedChangeFree = false →
    result.finalAmountSats = result.originalAmountSats

/-- A result of `prepare_onchain_send` for these parameters. -/
@[mk_iff]
structure PrepareOnchainSendResult.Answers (result : PrepareOnchainSendResult)
    (params : PrepareOnchainSendParams) : Prop where
  reports : result.Reports
  recipient : result.psbtBase64.recipient = params.toAddress
  original : result.originalAmountSats = params.amountSats
  bumped : result.isBumpedChangeFree = true → params.applyChangeFreeBump = true
  selected : ∀ outpoints ∈ params.selectedOutpoints,
    SameOutpoints result.psbtBase64.inputs outpoints

instance (result : PrepareOnchainSendResult) : Decidable result.Reports :=
  decidable_of_iff _ result.reports_iff.symm

instance (result : PrepareOnchainSendResult) (params : PrepareOnchainSendParams) :
    Decidable (result.Answers params) :=
  decidable_of_iff _ (result.answers_iff params).symm

inductive SendStep
  | entry
  | review
  deriving DecidableEq

structure OnchainDustWarning where
  previousSats : Nat
  isRaisedToMinDust : Bool
  isBumpedChangeFree : Bool

structure SendState where
  step : SendStep
  recipient : String
  amount : List Char
  amountUnit : BitcoinDisplayUnit
  psbt : Option Psbt
  reviewFeeSats : Option Nat
  reviewChangeSats : Option Nat
  reviewInputUtxos : Option (List ReviewInputUtxo)
  onchainDustWarning : Option OnchainDustWarning

inductive RebuildMutation
  | idle
  | pending (call : Nat)
  | failed
  | succeeded
  deriving DecidableEq

/-- The manual selection while it is on the page. `loads` has, for each click on its switch that
still waits for the coins of the wallet, the inputs of the review at the click. -/
structure ManualUtxoSelectionSection where
  manualSelectionEnabled : Bool
  availableUtxos : List ReviewInputUtxo
  localSelectedUtxos : List ReviewInputUtxo
  selectionRevision : Nat
  debounceTimer : Bool
  rebuild : RebuildMutation
  loads : List (List ReviewInputUtxo)

inductive PreparePurpose
  | build
  | increaseToChangeFree
  | rebuildWithSelectedUtxos
  | revertToAutoSelection

structure PrepareCall where
  params : PrepareOnchainSendParams
  purpose : PreparePurpose

structure ReviewShown where
  amountSats : Nat
  feeSats : Option Nat
  changeSats : Nat
  inputUtxos : List ReviewInputUtxo

/-- What the review showed at a click on Confirm, and the PSBT that is signed and broadcast. -/
structure ConfirmedSend where
  shown : ReviewShown
  psbt : Psbt

/-- The page, with its prepare calls and the sends that were confirmed. -/
structure SendPage where
  store : SendState
  mainnetFiatMode : Bool
  btcPriceInFiat : Option Float
  effectiveFeeRate : Float
  dustCase2Modal : Option PrepareOnchainSendResult
  buildPending : Bool
  broadcastPending : Bool
  inputsSection : Option ManualUtxoSelectionSection
  manualConfirmBlocked : Bool
  calls : Nat → Option PrepareCall
  started : Nat
  confirmed : List ConfirmedSend

/-- The network and the functions of the recipient, which the amounts do not depend on. -/
structure SendEnvironment where
  mainnet : Bool
  normalizeSendRecipient : String → String
  isValidAddress : String → Bool
  defaultBitcoinUnit : BitcoinDisplayUnit

def sumReviewUtxoAmountSats (utxos : List ReviewInputUtxo) : Nat :=
  utxos.foldl (fun sum utxo => sum + utxo.amountSats) 0

def isManualUtxoSelectionSufficient (selectedSumSats amountSats : Nat) : Option Nat → Bool
  | none => false
  | some feeSats => decide (amountSats + feeSats ≤ selectedSumSats)

def ManualUtxoSelectionSection.confirmBlocked (selection : ManualUtxoSelectionSection)
    (amountSats : Nat) (reviewFeeSats : Option Nat) : Bool :=
  selection.manualSelectionEnabled &&
    ((match selection.rebuild with
      | .pending _ | .failed => true
      | .idle | .succeeded => false) ||
      !isManualUtxoSelectionSufficient (sumReviewUtxoAmountSats selection.localSelectedUtxos)
        amountSats reviewFeeSats ||
      selection.localSelectedUtxos.isEmpty)

namespace SendPage

variable (page : SendPage)

/-- `amountSats`, at the current price. -/
def amountSats : Nat :=
  amountSatsFromSendForm page.store.amount page.store.amountUnit
    { useFiatAmountEntry := page.mainnetFiatMode, btcPriceInFiat := page.btcPriceInFiat }

def isPending : Bool :=
  page.buildPending || page.broadcastPending

/-- The inputs that the review shows: the selection's own list while it is in manual mode. -/
def shownInputUtxos : List ReviewInputUtxo :=
  match page.inputsSection with
  | some selection =>
    if selection.manualSelectionEnabled then selection.localSelectedUtxos
    else page.store.reviewInputUtxos.getD []
  | none => page.store.reviewInputUtxos.getD []

def shown : ReviewShown where
  amountSats := page.amountSats
  feeSats := page.store.reviewFeeSats
  changeSats := page.store.reviewChangeSats.getD 0
  inputUtxos := page.shownInputUtxos

/-- The PSBT of the review, where Confirm is enabled. -/
def confirmable : Option Psbt :=
  if page.store.step = .review ∧ page.isPending = false ∧ page.manualConfirmBlocked = false then
    page.store.psbt
  else none

end SendPage

/-- The review shows the amount, the fee, the change and the inputs of the PSBT. -/
structure ReviewShown.Describes (shown : ReviewShown) (psbt : Psbt) : Prop where
  amount : shown.amountSats = psbt.amountSats
  fee : shown.feeSats = some psbt.feeSats
  change : shown.changeSats = psbt.changeSats
  inputs : SameOutpoints (shown.inputUtxos.map reviewUtxoToOutpoint) psbt.inputs

variable (store : SendState)

/-- `applySendReviewTxSummaryToStore` and `setPsbt`, the whole of
`applyOnchainReviewSummaryFromOutcome`. -/
def SendState.applySummary (outcome : PrepareOnchainSendResult) : SendState :=
  { store with
    reviewFeeSats := some outcome.feeSats
    reviewChangeSats := some outcome.changeSats
    reviewInputUtxos := some outcome.inputUtxos
    psbt := some outcome.psbtBase64 }

/-- An adjusted amount is written into the form, in the unit of the form. -/
def SendState.writeAdjusted (outcome : PrepareOnchainSendResult) : SendState :=
  if outcome.isRaisedToMinDust = true ∨ outcome.isBumpedChangeFree = true then
    { store with
      amount := formatAmountInputFromSats outcome.finalAmountSats store.amountUnit
      onchainDustWarning := some
        { previousSats := outcome.originalAmountSats
          isRaisedToMinDust := outcome.isRaisedToMinDust
          isBumpedChangeFree := outcome.isBumpedChangeFree } }
  else store

def SendState.clearSummary : SendState :=
  { store with reviewFeeSats := none, reviewChangeSats := none, reviewInputUtxos := none }

namespace ManualUtxoSelectionSection

variable (selection : ManualUtxoSelectionSection)
variable (selectedInputUtxos : List ReviewInputUtxo)

def mounted : ManualUtxoSelectionSection where
  manualSelectionEnabled := false
  availableUtxos := []
  localSelectedUtxos := selectedInputUtxos
  selectionRevision := 0
  debounceTimer := false
  rebuild := .idle
  loads := []

/-- `splitUtxosBySelection`, once the coins of the wallet have been loaded. -/
def enterManual (allWalletUtxos : List ReviewInputUtxo) : ManualUtxoSelectionSection :=
  { selection with
    manualSelectionEnabled := true
    localSelectedUtxos := selectedInputUtxos
    availableUtxos := allWalletUtxos.filter fun utxo =>
      reviewUtxoToOutpoint utxo ∉ selectedInputUtxos.map reviewUtxoToOutpoint
    selectionRevision := 0
    debounceTimer := false
    rebuild := .idle
    loads := selection.loads.erase selectedInputUtxos }

def leaveManual : ManualUtxoSelectionSection :=
  { selection with
    manualSelectionEnabled := false
    availableUtxos := []
    selectionRevision := 0
    debounceTimer := false
    rebuild := .idle }

/-- The timer is set anew after each change of a list that is not empty. -/
def withLists (selected available : List ReviewInputUtxo) : ManualUtxoSelectionSection :=
  { selection with
    localSelectedUtxos := selected
    availableUtxos := available
    selectionRevision := selection.selectionRevision + 1
    debounceTimer := !selected.isEmpty }

def addUtxo (utxo : ReviewInputUtxo) : ManualUtxoSelectionSection :=
  selection.withLists (selection.localSelectedUtxos ++ [utxo])
    (selection.availableUtxos.filter fun candidate =>
      reviewUtxoToOutpoint candidate ≠ reviewUtxoToOutpoint utxo)

def removeUtxo (utxo : ReviewInputUtxo) : ManualUtxoSelectionSection :=
  selection.withLists
    (selection.localSelectedUtxos.filter fun candidate =>
      reviewUtxoToOutpoint candidate ≠ reviewUtxoToOutpoint utxo)
    (selection.availableUtxos ++ [utxo])

/-- A rebuild has finished. The selection listens to the latest one only. -/
def rebuildSettled (call : Nat) (succeeded : Bool) : ManualUtxoSelectionSection :=
  if selection.rebuild = .pending call then
    { selection with rebuild := if succeeded then .succeeded else .failed }
  else selection

/-- Outside manual mode the selection follows the review. -/
def follow : ManualUtxoSelectionSection :=
  if selection.manualSelectionEnabled then selection
  else { selection with localSelectedUtxos := selectedInputUtxos }

end ManualUtxoSelectionSection

/-! ## Events -/

structure BuildCheck where
  confirmedBalance : Nat
  customFeeOk : Bool
  fiatRatesQueryIsError : Bool

inductive SendOp
  | setRecipient (recipient : String)
  /-- The user types in the amount field. -/
  | setAmount (amount : List Char)
  | setAmountUnit (unit : BitcoinDisplayUnit)
  | toggleFiatMode (nextFiatMode : Bool)
  | refreshPrice (price : Option Float)
  | setFeeRate (rate : Float)
  | submitBuild (check : BuildCheck)
  /-- A prepare call finishes; `none` is a call that has failed. -/
  | prepared (call : Nat) (result : Option PrepareOnchainSendResult)
  | cancelChoice
  | keepExact
  | increaseToChangeFree
  | showInputs
  | hideInputs
  | startManual
  | loadedUtxos (selectedInputUtxos allWalletUtxos : List ReviewInputUtxo)
  | stopManual
  | addUtxo (utxo : ReviewInputUtxo)
  | removeUtxo (utxo : ReviewInputUtxo)
  | fireDebounce
  | back
  | confirm
  | broadcastSettled (succeeded : Bool)

def isValidSendAmountSats (amountSats : Nat) : Bool :=
  decide (1 ≤ amountSats ∧ amountSats ≤ MAX_SAFE_SATS)

namespace SendPage

variable (env : SendEnvironment) (page : SendPage)
variable (outcome : PrepareOnchainSendResult)

/-- `canBuildOnChainSend` and `isSendFiatRateOk`. -/
def canBuild (check : BuildCheck) : Bool :=
  let recipient := env.normalizeSendRecipient page.store.recipient
  decide (recipient ≠ "") && env.isValidAddress recipient &&
    isValidSendAmountSats page.amountSats && decide (page.amountSats ≤ check.confirmedBalance) &&
    check.customFeeOk &&
    (!page.mainnetFiatMode ||
      ((match page.btcPriceInFiat with
        | some price => isUsableBtcSpotPriceInFiat price
        | none => false) && !check.fiatRatesQueryIsError))

def editable : Bool :=
  decide (page.store.step = .entry) && !page.isPending && page.dustCase2Modal.isNone

/-- A prepare call for the recipient and the amount of the form. -/
def prepare (purpose : PreparePurpose) (applyChangeFreeBump : Bool)
    (selectedOutpoints : Option (List UtxoOutpoint)) : SendPage :=
  { page with
    calls := Function.update page.calls page.started (some
      { params :=
          { toAddress := env.normalizeSendRecipient page.store.recipient
            amountSats := page.amountSats
            feeRateSatPerVb := page.effectiveFeeRate
            applyChangeFreeBump := applyChangeFreeBump
            selectedOutpoints := selectedOutpoints }
        purpose := purpose })
    started := page.started + 1 }

/-- `applyOnchainPrepareOutcomeToSendStore`: the review is shown. -/
def applyOnchainPrepareOutcomeToSendStore : SendPage :=
  { page with
    store := { (page.store.writeAdjusted outcome).applySummary outcome with step := .review }
    inputsSection := none
    manualConfirmBlocked := false }

def settlePrepare (call : Nat) : PreparePurpose → Option PrepareOnchainSendResult → SendPage
  | .build, none => { page with buildPending := false }
  | .build, some result =>
    if result.isChangeFreeBumpAvailable then
      { page with buildPending := false, dustCase2Modal := some result }
    else { page with buildPending := false }.applyOnchainPrepareOutcomeToSendStore result
  | .increaseToChangeFree, none => { page with buildPending := false }
  | .increaseToChangeFree, some result =>
    { page with
      buildPending := false
      dustCase2Modal := none }.applyOnchainPrepareOutcomeToSendStore result
  | .rebuildWithSelectedUtxos, result | .revertToAutoSelection, result =>
    { page with
      store :=
        match result with
        | some outcome => page.store.applySummary outcome
        | none => page.store
      inputsSection := page.inputsSection.map fun selection =>
        selection.rebuildSettled call result.isSome }

def leaveReview : SendPage :=
  { page with
    store := { page.store.clearSummary with step := .entry }
    inputsSection := none
    manualConfirmBlocked := false }

/-- `reset` of the store, after a broadcast that has succeeded. -/
def reset : SendPage :=
  { page with
    store :=
      { step := .entry
        recipient := ""
        amount := []
        amountUnit := env.defaultBitcoinUnit
        psbt := none
        reviewFeeSats := none
        reviewChangeSats := none
        reviewInputUtxos := none
        onchainDustWarning := none }
    dustCase2Modal := none
    inputsSection := none
    manualConfirmBlocked := false }

def setSelection (selection : ManualUtxoSelectionSection) : SendPage :=
  { page with inputsSection := some selection }

/-- The effects that run after each event: the selection follows the review and tells it whether
Confirm is blocked. What it has said last stays when it leaves the page. -/
def runEffects : SendPage :=
  match page.inputsSection with
  | none => page
  | some selection =>
    let followed := selection.follow (page.store.reviewInputUtxos.getD [])
    { page with
      inputsSection := some followed
      manualConfirmBlocked := followed.confirmBlocked page.amountSats page.store.reviewFeeSats }

end SendPage

variable (outcome : PrepareOnchainSendResult)

def SendPage.onForm (env : SendEnvironment) (page : SendPage) : SendOp → SendPage
  | .setRecipient recipient =>
    if page.editable then { page with store := { page.store with recipient := recipient } }
    else page
  | .setAmount amount =>
    if page.editable then
      { page with store := { page.store with amount := amount, onchainDustWarning := none } }
    else page
  | .setAmountUnit unit =>
    if page.editable then { page with store := { page.store with amountUnit := unit } }
    else page
  | .toggleFiatMode nextFiatMode =>
    if page.editable && env.mainnet then
      { page with
        mainnetFiatMode := nextFiatMode
        store :=
          { page.store with
            amount := []
            onchainDustWarning := none
            amountUnit :=
              if nextFiatMode then page.store.amountUnit
              else env.defaultBitcoinUnit } }
    else page
  | .refreshPrice price => { page with btcPriceInFiat := price }
  | .setFeeRate rate => { page with effectiveFeeRate := rate }
  | .submitBuild check =>
    if page.editable && page.canBuild env check then
      { page.prepare env .build false none with buildPending := true }
    else page
  | .cancelChoice => { page with dustCase2Modal := none }
  | .keepExact =>
    match page.dustCase2Modal with
    | some pending =>
      if page.isPending then page
      else { page with dustCase2Modal := none }.applyOnchainPrepareOutcomeToSendStore pending
    | none => page
  | .increaseToChangeFree =>
    if page.isPending = false ∧ page.dustCase2Modal.isSome = true then
      { page.prepare env .increaseToChangeFree true none with buildPending := true }
    else page
  | .back =>
    if page.store.step = .review ∧ page.isPending = false then page.leaveReview else page
  | .confirm =>
    match page.confirmable with
    | some psbt =>
      { page with
        broadcastPending := true
        confirmed := { shown := page.shown, psbt := psbt } :: page.confirmed }
    | none => page
  | .broadcastSettled succeeded =>
    if page.broadcastPending then
      let settled := { page with broadcastPending := false }
      if succeeded then settled.reset env else settled
    else page
  | _ => page

def SendPage.onInputs (env : SendEnvironment) (page : SendPage)
    (selection : ManualUtxoSelectionSection) : SendOp → SendPage
  | .hideInputs => { page with inputsSection := none }
  | .startManual =>
    if selection.manualSelectionEnabled then page
    else page.setSelection
      { selection with loads := page.store.reviewInputUtxos.getD [] :: selection.loads }
  | .loadedUtxos selectedInputUtxos allWalletUtxos =>
    if selectedInputUtxos ∈ selection.loads then
      page.setSelection (selection.enterManual selectedInputUtxos allWalletUtxos)
    else page
  | .stopManual =>
    if selection.manualSelectionEnabled then
      (page.setSelection selection.leaveManual).prepare env .revertToAutoSelection false
        none
    else page
  | .addUtxo utxo =>
    if selection.manualSelectionEnabled = true ∧ utxo ∈ selection.availableUtxos then
      page.setSelection (selection.addUtxo utxo)
    else page
  | .removeUtxo utxo =>
    if selection.manualSelectionEnabled = true ∧ utxo ∈ selection.localSelectedUtxos then
      page.setSelection (selection.removeUtxo utxo)
    else page
  | .fireDebounce =>
    if selection.debounceTimer then
      (page.setSelection
        { selection with debounceTimer := false, rebuild := .pending page.started }).prepare
          env .rebuildWithSelectedUtxos false
          (some (selection.localSelectedUtxos.map reviewUtxoToOutpoint))
    else page
  | _ => page

/-- The coins of the review are shown where it has some. -/
def SendPage.showInputs (page : SendPage) : SendPage :=
  let inputUtxos := page.store.reviewInputUtxos.getD []
  if page.store.step = .review ∧ inputUtxos ≠ [] then
    page.setSelection (ManualUtxoSelectionSection.mounted inputUtxos)
  else page

/-- A prepare call finishes with a result for its own parameters. -/
def SendPage.onPrepared (page : SendPage) (call : Nat)
    (result : Option PrepareOnchainSendResult) : SendPage :=
  match page.calls call with
  | none => page
  | some prepareCall =>
    if ∀ outcome ∈ result, outcome.Answers prepareCall.params then
      { page with calls := Function.update page.calls call none }.settlePrepare call
        prepareCall.purpose result
    else page

def sendStep (env : SendEnvironment) (page : SendPage) (op : SendOp) : SendPage :=
  (match op with
    | .prepared call result => page.onPrepared call result
    | .showInputs => if page.inputsSection.isNone then page.showInputs else page
    | .hideInputs | .startManual | .loadedUtxos _ _ | .stopManual | .addUtxo _ | .removeUtxo _
    | .fireDebounce =>
      match page.inputsSection with
      | some selection => page.onInputs env selection op
      | none => page
    | _ => page.onForm env op).runEffects

def initialSendPage (env : SendEnvironment) (mainnetFiatMode : Bool)
    (btcPriceInFiat : Option Float) (effectiveFeeRate : Float) : SendPage where
  store :=
    { step := .entry
      recipient := ""
      amount := []
      amountUnit := env.defaultBitcoinUnit
      psbt := none
      reviewFeeSats := none
      reviewChangeSats := none
      reviewInputUtxos := none
      onchainDustWarning := none }
  mainnetFiatMode := mainnetFiatMode && env.mainnet
  btcPriceInFiat := btcPriceInFiat
  effectiveFeeRate := effectiveFeeRate
  dustCase2Modal := none
  buildPending := false
  broadcastPending := false
  inputsSection := none
  manualConfirmBlocked := false
  calls := fun _ => none
  started := 0
  confirmed := []

/-- The review shows what Confirm would broadcast, and has shown what each click has broadcast. -/
structure SendPage.ShowsWhatItSends (page : SendPage) : Prop where
  review : ∀ psbt, page.confirmable = some psbt → page.shown.Describes psbt
  confirmed : ∀ send ∈ page.confirmed, send.shown.Describes send.psbt

namespace SendPage

variable (page : SendPage)

/-- The form, once the review of this outcome is shown, reads as its final amount: an adjusted
amount is read back from the text that is written for it, and another is still read as the one
that was asked for. -/
def ReadsAs (outcome : PrepareOnchainSendResult) : Prop :=
  if outcome.isRaisedToMinDust = true ∨ outcome.isBumpedChangeFree = true then
    amountSatsFromSendForm (formatAmountInputFromSats outcome.finalAmountSats
        page.store.amountUnit) page.store.amountUnit
      { useFiatAmountEntry := page.mainnetFiatMode, btcPriceInFiat := page.btcPriceInFiat } =
        outcome.finalAmountSats
  else page.amountSats = outcome.originalAmountSats

/-- Confirm stays blocked by this selection, or its list is that of these inputs. -/
def KeepsUp (selection : ManualUtxoSelectionSection) (feeSats : Option Nat)
    (inputUtxos : List ReviewInputUtxo) : Prop :=
  selection.manualSelectionEnabled = true →
    selection.confirmBlocked page.amountSats feeSats = true ∨
      SameOutpoints (selection.localSelectedUtxos.map reviewUtxoToOutpoint)
        (inputUtxos.map reviewUtxoToOutpoint)

/-- A rebuild or a revert that finishes during the review was asked for the amount that the form
reads now, does not raise it, and has the inputs of the selection that is shown. -/
def RebuildsAs (call : Nat) (params : PrepareOnchainSendParams)
    (outcome : PrepareOnchainSendResult) : Prop :=
  page.store.step = .review →
    page.amountSats = params.amountSats ∧ outcome.isRaisedToMinDust = false ∧
      ∀ selection ∈ page.inputsSection,
        page.KeepsUp (selection.rebuildSettled call true) (some outcome.feeSats)
          outcome.inputUtxos

end SendPage

/-- Under which an event leaves the review with what Confirm would broadcast. -/
def SendOp.Harmless (page : SendPage) : SendOp → Prop
  | .refreshPrice price =>
    page.store.step = .review →
      amountSatsFromSendForm page.store.amount page.store.amountUnit
        { useFiatAmountEntry := page.mainnetFiatMode, btcPriceInFiat := price } = page.amountSats
  | .prepared call (some outcome) =>
    ∀ prepareCall ∈ page.calls call, outcome.Answers prepareCall.params →
      match prepareCall.purpose with
      | .build => outcome.isChangeFreeBumpAvailable = false → page.ReadsAs outcome
      | .increaseToChangeFree => page.ReadsAs outcome
      | .rebuildWithSelectedUtxos | .revertToAutoSelection =>
        page.RebuildsAs call prepareCall.params outcome
  | .keepExact => ∀ pending ∈ page.dustCase2Modal, page.ReadsAs pending
  | .loadedUtxos selectedInputUtxos allWalletUtxos =>
    ∀ selection ∈ page.inputsSection, selectedInputUtxos ∈ selection.loads →
      page.KeepsUp (selection.enterManual selectedInputUtxos allWalletUtxos)
        page.store.reviewFeeSats (page.store.reviewInputUtxos.getD [])
  | .addUtxo utxo =>
    ∀ selection ∈ page.inputsSection, utxo ∈ selection.availableUtxos →
      page.KeepsUp (selection.addUtxo utxo) page.store.reviewFeeSats
        (page.store.reviewInputUtxos.getD [])
  | .removeUtxo utxo =>
    ∀ selection ∈ page.inputsSection, utxo ∈ selection.localSelectedUtxos →
      page.KeepsUp (selection.removeUtxo utxo) page.store.reviewFeeSats
        (page.store.reviewInputUtxos.getD [])
  | _ => True

end Bitboard.Frontend
