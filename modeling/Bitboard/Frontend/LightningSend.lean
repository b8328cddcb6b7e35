/-
# Lightning payments

The send form pays a BOLT11 invoice that was entered, or asks the server of a Lightning address
or of an LNURL for one. Amount, balance and network are checked on what was entered; of an
invoice that a server has answered with, only the beginning is looked at. The decoder of
invoices, the library for Lightning addresses and the servers are parameters.
-/

import Bitboard.Frontend.SendReview
import Bitboard.Frontend.UnilateralExitMachine
import Bitboard.Wallet.Payload

namespace Bitboard.Frontend

open Bitboard.Wallet (LightningNetworkMode)

/-- The networks that the beginning of an invoice can name. -/
inductive Bolt11Network
  | bitcoin
  | testnet
  | signet
  | regtest
  | simnet
  deriving DecidableEq

/-- What an invoice of the network begins with, before its amount. -/
def Bolt11Network.hrp : Bolt11Network → List Char
  | .bitcoin => ['l', 'n', 'b', 'c']
  | .testnet => ['l', 'n', 't', 'b']
  | .signet => ['l', 'n', 't', 'b', 's']
  | .regtest => ['l', 'n', 'b', 'c', 'r', 't']
  | .simnet => ['l', 'n', 's', 'b']

structure DecodedBolt11Invoice where
  network : Bolt11Network
  /-- Zero for an invoice without an amount. -/
  millisatoshi : Nat
  deriving DecidableEq

def DecodedBolt11Invoice.satoshi (invoice : DecodedBolt11Invoice) : Rat :=
  invoice.millisatoshi / 1000

def toLowerCase (text : List Char) : List Char :=
  text.map Char.toLower

variable (input : List Char)

def isValidBolt11Invoice : Bool :=
  [Bolt11Network.bitcoin.hrp, Bolt11Network.signet.hrp, Bolt11Network.testnet.hrp].any
    fun hrp => hrp.isPrefixOf (toLowerCase input)

variable (paymentRequest : List Char)

/-- `lntbs` is checked before `lntb`, which it begins with. -/
def bolt11NetworkModeFromPrefix : Option LightningNetworkMode :=
  let lower := toLowerCase paymentRequest
  if Bolt11Network.bitcoin.hrp.isPrefixOf lower then some .mainnet
  else if Bolt11Network.signet.hrp.isPrefixOf lower then some .signet
  else if Bolt11Network.testnet.hrp.isPrefixOf lower then some .testnet
  else none

def lightningNetworkMode : LightningNetworkMode → NetworkMode
  | .mainnet => .mainnet
  | .testnet => .testnet
  | .signet => .signet
  | .mutinynet => .mutinynet

variable (invoiceNetworkMode : LightningNetworkMode)

def bolt11InvoiceMatchesAppNetwork (appNetworkMode : NetworkMode) : Bool :=
  decide (lightningNetworkMode invoiceNetworkMode = appNetworkMode)

def bolt11SignetFamilyNeedsConfirmation (appNetworkMode : NetworkMode) : Bool :=
  decide (invoiceNetworkMode = .signet ∧
    (appNetworkMode = .signet ∨ appNetworkMode = .mutinynet))

def isLightningSupported : NetworkMode → Bool
  | .mainnet | .testnet | .signet | .mutinynet => true
  | .lab | .regtest => false

/-- The last point of a domain stands before a name of two letters or more. -/
def isLightningDomain (domain : List Char) : Bool :=
  let topLevel := domain.reverse.takeWhile fun character => character ≠ '.'
  match domain.reverse.dropWhile fun character => character ≠ '.' with
  | '.' :: before =>
    !before.isEmpty && decide (2 ≤ topLevel.length) && topLevel.all Char.isAlpha &&
      domain.all fun character =>
        character.isAlphanum || character == '.' || character == '-'
  | _ => false

def isLightningAddress : Bool :=
  let user := input.takeWhile fun character => character ≠ '@'
  match input.dropWhile fun character => character ≠ '@' with
  | '@' :: domain =>
    !user.isEmpty &&
      (user.all fun character =>
        character.isAlphanum || ['.', '_', '%', '+', '-'].contains character) &&
      isLightningDomain domain
  | _ => false

def isBech32DataChar (character : Char) : Bool :=
  let lower := character.toLower
  lower.isAlphanum && !(['1', 'b', 'i', 'o']).contains lower

def isLnurlBech32String : Bool :=
  let trimmed := trim input
  ['l', 'n', 'u', 'r', 'l', '1'].isPrefixOf (toLowerCase trimmed) &&
    !(trimmed.drop 6).isEmpty && (trimmed.drop 6).all isBech32DataChar

def isLnurlpSchemeUrl : Bool :=
  ['l', 'n', 'u', 'r', 'l', 'p', ':', '/', '/'].isPrefixOf (toLowerCase (trim input))

def isLnurlPayDestination : Bool :=
  isLnurlBech32String (trim input) || isLnurlpSchemeUrl (trim input)

def isValidLightningDestination : Bool :=
  isValidBolt11Invoice input || isLightningAddress input || isLnurlPayDestination input

def https : List Char :=
  ['h', 't', 't', 'p', 's', ':', '/', '/']

def normalizeLnurlpSchemeToHttps : List Char :=
  if isLnurlpSchemeUrl input then https ++ (trim input).drop 9 else trim input

structure LnurlEndpointJson where
  tag : Option String
  callback : Option (List Char)
  minSendable : Option Rat
  maxSendable : Option Rat
  metadata : Option String

structure LnUrlPayResponse where
  callback : List Char
  min : Rat
  max : Rat
  metadataHash : List Char

/-- What the app does not decide itself: the decoders, the checks of addresses and of URLs, and
what the servers answer. An answer that cannot be had is `none`. -/
structure LightningServices where
  decodeInvoice : List Char → Option DecodedBolt11Invoice
  isValidAddress : List Char → NetworkMode → Bool
  decodeLnurlBech32ToUrl : List Char → Except String (List Char)
  fetchLnurlJson : List Char → Option LnurlEndpointJson
  parseLnUrlPayResponse : List Char → Rat → Rat → String → Except String LnUrlPayResponse
  isValidAmount : Rat → Rat → Rat → Bool
  isUrl : List Char → Bool
  setSearchParam : List Char → String → List Char → List Char
  fetchInvoicePr : List Char → Option (Option (List Char))
  /-- `fetch` and `requestInvoice` of a Lightning address. -/
  requestAddressInvoice : List Char → Nat → Except String (List Char)

/-- The network of a decoded invoice is the one that its beginning names; its amount or the
separator, which begin with a digit, stand right behind. -/
def LightningServices.DecodesByHrp (services : LightningServices) : Prop :=
  ∀ text invoice, services.decodeInvoice text = some invoice →
    ∃ digit rest, digit.isDigit = true ∧
      toLowerCase text = invoice.network.hrp ++ digit :: rest

def lnurlFetchError : String :=
  "Could not reach LNURL server. The site may block browser requests."

def lnurlUnsupportedTagMessage (tag : String) : String :=
  if tag = "withdrawRequest" then
    "LNURL withdraw is not supported. Use a BOLT11 invoice or Lightning address."
  else if tag = "login" then "LNURL login/auth is not supported."
  else if tag = "channelRequest" then "LNURL channel requests are not supported."
  else "LNURL type \"" ++ tag ++ "\" is not supported."

def formatAmountRangeError (minMsats maxMsats : Rat) : String :=
  "Amount must be between " ++ toString (Rat.ceil (minMsats / 1000)) ++ " and " ++
    toString (Rat.floor (maxMsats / 1000)) ++ " sats"

namespace LightningServices

variable (services : LightningServices)
variable (recipient : List Char)

def resolveLnurlPayHttpsUrl : Except String (List Char) :=
  if isLnurlpSchemeUrl (trim recipient) then
    .ok (normalizeLnurlpSchemeToHttps (trim recipient))
  else if isLnurlBech32String (trim recipient) then
    services.decodeLnurlBech32ToUrl (trim recipient)
  else .error "Not a LNURL pay destination"

def applyLnurlCallbackQueryParams (callback : List Char) (amountMsats : Nat)
    (metadataHash : List Char) : List Char :=
  let withAmount := services.setSearchParam callback "amount" (Nat.toDigits 10 amountMsats)
  if trim metadataHash = [] then withAmount
  else services.setSearchParam withAmount "metadataHash" metadataHash

def resolveLnurlPayInvoice (amountSats : Nat) : Except String (List Char) := do
  let httpsUrl ← services.resolveLnurlPayHttpsUrl recipient
  if https.isPrefixOf httpsUrl then pure () else throw "LNURL pay links must use HTTPS"
  let some endpointJson := services.fetchLnurlJson httpsUrl | throw lnurlFetchError
  match endpointJson.tag with
  | none => pure ()
  | some tag =>
    if tag = "payRequest" then pure () else throw (lnurlUnsupportedTagMessage tag)
  let lnurlpData ← services.parseLnUrlPayResponse (endpointJson.callback.getD [])
    (endpointJson.minSendable.getD 0) (endpointJson.maxSendable.getD 0)
    (endpointJson.metadata.getD "[]")
  let amountMsats := amountSats * 1000
  if services.isValidAmount amountMsats lnurlpData.min lnurlpData.max then pure ()
  else throw (formatAmountRangeError lnurlpData.min lnurlpData.max)
  if lnurlpData.callback = [] ∨ services.isUrl lnurlpData.callback = false then
    throw "Invalid LNURL pay callback"
  let callbackUrl := services.applyLnurlCallbackQueryParams lnurlpData.callback amountMsats
    lnurlpData.metadataHash
  let some pr := services.fetchInvoicePr callbackUrl | throw lnurlFetchError
  match pr with
  | none | some [] => throw "Invalid pay service invoice"
  | some bolt11 => pure bolt11

end LightningServices

variable (recipient : List Char)

/-! ## The form -/

/-- The send form and what it has been told: the connections of the network, the selected one
with its balance, and the box that confirms the network of an invoice. -/
structure LightningSendForm where
  normalizedRecipient : List Char
  amountSats : Nat
  networkMode : NetworkMode
  isLightningEnabled : Bool
  matchingLightningConnectionsCount : Nat
  hasLightningWalletSelected : Bool
  selectedLnBalanceSats : Option Rat
  signetFamilyInvoiceConfirmed : Bool
  fiatRateOk : Bool

/-- An invoice that is handed to `payInvoice`, with the amount that is passed along, and whether
the user has confirmed the network. -/
structure InvoicePayment where
  bolt11 : List Char
  amountMsats : Option Nat
  signetFamilyConfirmed : Bool
  deriving DecidableEq

inductive LightningSubmit
  | rejected (message : Option String)
  | awaitsConfirmation (bolt11 : List Char)
  | pays (payment : InvoicePayment)

/-- The payment that follows; `confirms` is the user's answer to the question about the network
of an invoice, which `handleConfirmPendingSignetFamilyInvoice` pays. -/
def LightningSubmit.paid (confirms : Bool) : LightningSubmit → Option InvoicePayment
  | .rejected _ => none
  | .awaitsConfirmation bolt11 =>
    if confirms then
      some { bolt11 := bolt11, amountMsats := none, signetFamilyConfirmed := true }
    else none
  | .pays payment => some payment

def isBolt11NetworkMismatch (networkMode : NetworkMode) : Bool :=
  if isValidBolt11Invoice paymentRequest then
    match bolt11NetworkModeFromPrefix paymentRequest with
    | none => false
    | some invoiceNetwork =>
      if bolt11SignetFamilyNeedsConfirmation invoiceNetwork networkMode then false
      else !bolt11InvoiceMatchesAppNetwork invoiceNetwork networkMode
  else false

/-- Also `bolt11SignetFamilyNeedsConfirmationForRecipient`, which asks for a valid invoice; the
beginnings are the same. -/
def invoiceNeedsSignetFamilyConfirmation (networkMode : NetworkMode) : Bool :=
  match bolt11NetworkModeFromPrefix paymentRequest with
  | none => false
  | some invoiceNetwork => bolt11SignetFamilyNeedsConfirmation invoiceNetwork networkMode

def MAX_BOLT11_PAYMENT_REQUEST_LENGTH : Nat := 8192
def MAX_LNURL_BECH32_LENGTH : Nat := 2048
def MAX_SATS_MSAT_AMOUNT_NUMBER : Nat := MAX_SAFE_SATS / 1000

def isLightningPayloadLengthOk : Bool :=
  if isLnurlPayDestination recipient then decide (recipient.length ≤ MAX_LNURL_BECH32_LENGTH)
  else decide (recipient.length ≤ MAX_BOLT11_PAYMENT_REQUEST_LENGTH)

namespace LightningSendForm

variable (form : LightningSendForm) (services : LightningServices)

def lightningAvailable : Bool :=
  form.isLightningEnabled && isLightningSupported form.networkMode

def isLightningSendMode : Bool :=
  form.lightningAvailable && isValidLightningDestination form.normalizedRecipient

def decodedBolt11 : Option DecodedBolt11Invoice :=
  if isValidBolt11Invoice form.normalizedRecipient then
    services.decodeInvoice form.normalizedRecipient
  else none

def needsUserLightningAmount : Bool :=
  if form.isLightningSendMode = false then false
  else if isLightningAddress form.normalizedRecipient then true
  else if isLnurlPayDestination form.normalizedRecipient then true
  else if isValidBolt11Invoice form.normalizedRecipient = false then false
  else
    match form.decodedBolt11 services with
    | none => true
    | some invoice => decide (invoice.satoshi = 0)

/-- `resolveLightningPayAmountSats`: the amount that the form shows and checks. -/
def lightningPayAmountSats : Rat :=
  if form.isLightningSendMode = false then 0
  else if isValidBolt11Invoice form.normalizedRecipient then
    match form.decodedBolt11 services with
    | some invoice => if 0 < invoice.satoshi then invoice.satoshi else form.amountSats
    | none => form.amountSats
  else form.amountSats

def isBolt11DecodeOk : Bool :=
  !isValidBolt11Invoice form.normalizedRecipient || (form.decodedBolt11 services).isSome

def isSendRecipientFormatValid : Bool :=
  !form.normalizedRecipient.isEmpty &&
    (services.isValidAddress form.normalizedRecipient form.networkMode ||
      (form.lightningAvailable && isValidLightningDestination form.normalizedRecipient))

def isLightningBalanceOk : Bool :=
  form.hasLightningWalletSelected &&
    match form.selectedLnBalanceSats with
    | none => false
    | some balance => decide (form.lightningPayAmountSats services ≤ balance)

def isLightningAmountlessBolt11PayMsatsExactOk : Bool :=
  if form.needsUserLightningAmount services = false then true
  else if isValidBolt11Invoice form.normalizedRecipient = false then true
  else
    match form.decodedBolt11 services with
    | none => true
    | some invoice =>
      if invoice.satoshi = 0 then decide (form.amountSats ≤ MAX_SATS_MSAT_AMOUNT_NUMBER)
      else true

def canBuildLightning : Bool :=
  form.isSendRecipientFormatValid services &&
    (!form.isLightningSendMode || decide (0 < form.matchingLightningConnectionsCount)) &&
    (!form.isLightningSendMode || isLightningPayloadLengthOk form.normalizedRecipient) &&
    form.hasLightningWalletSelected &&
    !isBolt11NetworkMismatch form.normalizedRecipient form.networkMode &&
    (!invoiceNeedsSignetFamilyConfirmation form.normalizedRecipient form.networkMode ||
      form.signetFamilyInvoiceConfirmed) &&
    form.isBolt11DecodeOk services &&
    (!form.needsUserLightningAmount services || isValidSendAmountSats form.amountSats) &&
    decide (1 ≤ form.lightningPayAmountSats services) &&
    form.isLightningBalanceOk services &&
    form.isLightningAmountlessBolt11PayMsatsExactOk services &&
    (!(isLightningAddress form.normalizedRecipient ||
        isLnurlPayDestination form.normalizedRecipient) ||
      isValidSendAmountSats form.amountSats)

/-- What happens to an invoice that a server has answered with. -/
def payFetchedInvoice (bolt11 : List Char) : LightningSubmit :=
  if isBolt11NetworkMismatch bolt11 form.networkMode then
    .rejected (some "This invoice is for a different network. Switch network in Settings.")
  else if invoiceNeedsSignetFamilyConfirmation bolt11 form.networkMode then
    .awaitsConfirmation bolt11
  else .pays { bolt11 := bolt11, amountMsats := none, signetFamilyConfirmed := false }

/-- What a handler does with the answer to its request. -/
def payAnswer (answer : Except String (List Char)) : LightningSubmit :=
  if form.hasLightningWalletSelected = true ∧ isValidSendAmountSats form.amountSats = true then
    match answer with
    | .ok bolt11 => form.payFetchedInvoice bolt11
    | .error message => .rejected (some message)
  else .rejected none

def handleLightningAddressPay : LightningSubmit :=
  form.payAnswer (services.requestAddressInvoice form.normalizedRecipient form.amountSats)

def handleLnurlPay : LightningSubmit :=
  form.payAnswer (services.resolveLnurlPayInvoice form.normalizedRecipient form.amountSats)

/-- The amount that is passed along with an invoice without one. -/
def amountMsatsForAmountless : Option Nat :=
  match form.decodedBolt11 services with
  | some invoice =>
    if invoice.satoshi = 0 ∧ isValidSendAmountSats form.amountSats = true ∧
        form.amountSats ≤ MAX_SATS_MSAT_AMOUNT_NUMBER then
      some (form.amountSats * 1000)
    else none
  | none => none

def submitLightningPayment : LightningSubmit :=
  if isLightningAddress form.normalizedRecipient then form.handleLightningAddressPay services
  else if isLnurlPayDestination form.normalizedRecipient then form.handleLnurlPay services
  else if form.hasLightningWalletSelected = false then
    .rejected (some "Select a Lightning wallet to pay from.")
  else if isValidBolt11Invoice form.normalizedRecipient = false then .rejected none
  else
    .pays
      { bolt11 := form.normalizedRecipient
        amountMsats := form.amountMsatsForAmountless services
        signetFamilyConfirmed := form.signetFamilyInvoiceConfirmed }

/-- The part of `handleSubmitBuild` for Lightning. -/
def handleSubmitBuild : LightningSubmit :=
  if form.canBuildLightning services = true ∧ form.fiatRateOk = true ∧
      form.isLightningSendMode = true then
    form.submitLightningPayment services
  else .rejected none

/-- The invoice that is handed to `payInvoice`, where there is one. -/
def paidInvoice (confirms : Bool) : Option InvoicePayment :=
  (form.handleSubmitBuild services).paid confirms

end LightningSendForm

/-- An invoice of the network is one for the app in this mode. -/
def Bolt11Network.IsAppNetwork : Bolt11Network → NetworkMode → Prop
  | .bitcoin, mode => mode = .mainnet
  | .testnet, mode => mode = .testnet
  | .signet, mode => mode = .signet ∨ mode = .mutinynet
  | .regtest, _ | .simnet, _ => False

/-- The wallet pays the amount of the invoice, or the one passed along where it has none. -/
def nwcPayInvoice (invoice : DecodedBolt11Invoice) (amountMsats : Option Nat) : Option Nat :=
  if invoice.millisatoshi = 0 then amountMsats else some invoice.millisatoshi

/-- The invoice is of the app's network, confirmed by the user where that is in the signet
family, and makes the wallet pay the amount that the form showed and checked against the
balance. -/
structure InvoicePayment.AsShown (payment : InvoicePayment) (form : LightningSendForm)
    (services : LightningServices) : Prop where
  network : ∃ invoice, services.decodeInvoice payment.bolt11 = some invoice ∧
    invoice.network.IsAppNetwork form.networkMode
  confirmed : form.networkMode = .signet ∨ form.networkMode = .mutinynet →
    payment.signetFamilyConfirmed = true
  amount : ∃ invoice msats, services.decodeInvoice payment.bolt11 = some invoice ∧
    nwcPayInvoice invoice payment.amountMsats = some msats ∧
      (msats : Rat) = 1000 * form.lightningPayAmountSats services
  balance : ∃ balance, form.selectedLnBalanceSats = some balance ∧
    form.lightningPayAmountSats services ≤ balance

namespace LightningSendForm

variable (form : LightningSendForm) (services : LightningServices)

def AsksServer : Prop :=
  isLightningAddress form.normalizedRecipient = true ∨
    isLnurlPayDestination form.normalizedRecipient = true

/-- An entered invoice is not one of regtest. An invoice that a server has answered with can be
decoded, is of a network that the app knows and has the amount that is shown. -/
def Trusts (bolt11 : List Char) : Prop :=
  ∃ invoice, services.decodeInvoice bolt11 = some invoice ∧
    invoice.network ≠ .regtest ∧
    (form.AsksServer → invoice.network ≠ .simnet ∧
      (invoice.millisatoshi : Rat) = 1000 * form.lightningPayAmountSats services)

end LightningSendForm

end Bitboard.Frontend
