/-
# Which invoices are paid as shown

The checks of the form settle the amount and the balance of an entered invoice, and the
beginning of an invoice settles its network but for regtest and simnet. The amount of an invoice
that a server has answered with is settled by nothing.
-/

import Bitboard.Frontend.LightningSend
import Mathlib.Tactic.FieldSimp
import Mathlib.Tactic.NormNum
import Mathlib.Tactic.Positivity
import Mathlib.Tactic.Ring

namespace Bitboard.Frontend

open Bitboard.Wallet (LightningNetworkMode)
open Bolt11Network LightningSendForm

variable {services : LightningServices} {form : LightningSendForm} {text : List Char}
  {invoice : DecodedBolt11Invoice}

/-- What the app takes an invoice of the network for. -/
def Bolt11Network.seenAs : Bolt11Network → Option LightningNetworkMode
  | .bitcoin | .regtest => some .mainnet
  | .testnet => some .testnet
  | .signet => some .signet
  | .simnet => none

theorem bolt11NetworkModeFromPrefix_eq (hservices : services.DecodesByHrp)
    (hinvoice : services.decodeInvoice text = some invoice) :
    bolt11NetworkModeFromPrefix text = invoice.network.seenAs := by
  obtain ⟨digit, rest, hdigit, hlower⟩ := hservices text invoice hinvoice
  have hs : ('s' == digit) = false := by
    rw [beq_eq_false_iff_ne]
    intro hsame
    subst hsame
    exact absurd hdigit (by decide)
  unfold bolt11NetworkModeFromPrefix
  rw [hlower]
  cases invoice.network with
  | bitcoin | signet | regtest | simnet => rfl
  | testnet =>
    simp [hrp, seenAs, List.isPrefixOf, hs]

theorem isValidBolt11Invoice_eq (text : List Char) :
    isValidBolt11Invoice text = (bolt11NetworkModeFromPrefix text).isSome := by
  unfold isValidBolt11Invoice bolt11NetworkModeFromPrefix
  simp only [List.any_cons, List.any_nil, Bool.or_false]
  generalize bitcoin.hrp.isPrefixOf (toLowerCase text) = bitcoin
  generalize signet.hrp.isPrefixOf (toLowerCase text) = signet
  generalize testnet.hrp.isPrefixOf (toLowerCase text) = testnet
  revert bitcoin signet testnet
  decide

theorem Bolt11Network.isAppNetwork_iff (hservices : services.DecodesByHrp)
    (hinvoice : services.decodeInvoice text = some invoice)
    (hmatches : isBolt11NetworkMismatch text form.networkMode = false) :
    invoice.network.IsAppNetwork form.networkMode ↔
      invoice.network ≠ .regtest ∧ invoice.network ≠ .simnet := by
  unfold isBolt11NetworkMismatch at hmatches
  rw [isValidBolt11Invoice_eq, bolt11NetworkModeFromPrefix_eq hservices hinvoice] at hmatches
  unfold Bolt11Network.IsAppNetwork
  cases hnetwork : invoice.network with
  | regtest | simnet => simp
  | bitcoin | testnet | signet =>
    rw [hnetwork] at hmatches
    cases hmode : form.networkMode with
    | lab | regtest | signet | mutinynet | testnet | mainnet =>
      rw [hmode] at hmatches
      revert hmatches
      decide

theorem invoiceNeedsSignetFamilyConfirmation_of_isAppNetwork (hservices : services.DecodesByHrp)
    (hinvoice : services.decodeInvoice text = some invoice)
    (hnetwork : invoice.network.IsAppNetwork form.networkMode)
    (hfamily : form.networkMode = .signet ∨ form.networkMode = .mutinynet) :
    invoiceNeedsSignetFamilyConfirmation text form.networkMode = true := by
  unfold invoiceNeedsSignetFamilyConfirmation
  rw [bolt11NetworkModeFromPrefix_eq hservices hinvoice]
  cases hfound : invoice.network with
  | bitcoin | testnet =>
    rw [hfound] at hnetwork
    dsimp only [Bolt11Network.IsAppNetwork] at hnetwork
    rw [hnetwork] at hfamily
    rcases hfamily with hfamily | hfamily
    · cases hfamily
    · cases hfamily
  | signet => exact decide_eq_true ⟨rfl, hfamily⟩
  | regtest | simnet =>
    rw [hfound] at hnetwork
    exact hnetwork.elim

/-- What is known where the button leads to a payment or to a question. -/
structure LightningSendForm.Checked (form : LightningSendForm) (services : LightningServices) :
    Prop where
  sendMode : form.isLightningSendMode = true
  confirmed : invoiceNeedsSignetFamilyConfirmation form.normalizedRecipient
    form.networkMode = true → form.signetFamilyInvoiceConfirmed = true
  matching : isBolt11NetworkMismatch form.normalizedRecipient form.networkMode = false
  decoded : isValidBolt11Invoice form.normalizedRecipient = true →
    (form.decodedBolt11 services).isSome = true
  amountValid : form.needsUserLightningAmount services = true →
    isValidSendAmountSats form.amountSats = true
  positive : 1 ≤ form.lightningPayAmountSats services
  balance : ∃ balance, form.selectedLnBalanceSats = some balance ∧
    form.lightningPayAmountSats services ≤ balance
  exact : form.isLightningAmountlessBolt11PayMsatsExactOk services = true

theorem LightningSendForm.checked (hbuild : form.canBuildLightning services = true)
    (hmode : form.isLightningSendMode = true) : form.Checked services := by
  unfold canBuildLightning at hbuild
  simp only [Bool.and_eq_true, Bool.or_eq_true, Bool.not_eq_true', decide_eq_true_eq] at hbuild
  obtain ⟨⟨⟨⟨⟨⟨⟨⟨⟨⟨⟨-, -⟩, -⟩, -⟩, hmatching⟩, hconfirmed⟩, hdecoded⟩, hvalid⟩, hpositive⟩,
    hbalance⟩, hexact⟩, -⟩ := hbuild
  refine ⟨hmode, ?_, hmatching, ?_, ?_, hpositive, ?_, hexact⟩
  · intro hneeds
    rcases hconfirmed with hnot | hconfirmed
    · rw [hneeds] at hnot
      cases hnot
    · exact hconfirmed
  · intro hinvoice
    unfold isBolt11DecodeOk at hdecoded
    rw [hinvoice] at hdecoded
    exact hdecoded
  · intro hneeds
    rcases hvalid with hnot | hvalid
    · rw [hneeds] at hnot
      cases hnot
    · exact hvalid
  · unfold isLightningBalanceOk at hbalance
    rw [Bool.and_eq_true] at hbalance
    cases hfound : form.selectedLnBalanceSats with
    | none =>
      rw [hfound] at hbalance
      cases hbalance.2
    | some balance =>
      rw [hfound] at hbalance
      exact ⟨balance, rfl, of_decide_eq_true hbalance.2⟩

/-- The wallet pays an entered invoice with the amount that the form shows. -/
theorem LightningSendForm.Checked.entered_amount (h : form.Checked services)
    (haddress : isLightningAddress form.normalizedRecipient = false)
    (hlnurl : isLnurlPayDestination form.normalizedRecipient = false)
    (hvalid : isValidBolt11Invoice form.normalizedRecipient = true)
    (hinvoice : services.decodeInvoice form.normalizedRecipient = some invoice) :
    ∃ msats, nwcPayInvoice invoice (form.amountMsatsForAmountless services) = some msats ∧
      (msats : Rat) = 1000 * form.lightningPayAmountSats services := by
  have hdecoded : form.decodedBolt11 services = some invoice := by
    unfold decodedBolt11
    rw [if_pos hvalid]
    exact hinvoice
  have hshown : form.lightningPayAmountSats services =
      if 0 < invoice.satoshi then invoice.satoshi else (form.amountSats : Rat) := by
    unfold lightningPayAmountSats
    rw [if_neg (by simp [h.sendMode]), if_pos hvalid, hdecoded]
  by_cases hamount : invoice.millisatoshi = 0
  · have hsatoshi : invoice.satoshi = 0 := by
      simp [DecodedBolt11Invoice.satoshi, hamount]
    have hneeds : form.needsUserLightningAmount services = true := by
      unfold needsUserLightningAmount
      simp [h.sendMode, haddress, hlnurl, hvalid, hdecoded, hsatoshi]
    have hexact : form.amountSats ≤ MAX_SATS_MSAT_AMOUNT_NUMBER := by
      have hcheck := h.exact
      unfold isLightningAmountlessBolt11PayMsatsExactOk at hcheck
      simpa [hneeds, hvalid, hdecoded, hsatoshi] using hcheck
    have hpassed : form.amountMsatsForAmountless services = some (form.amountSats * 1000) := by
      unfold amountMsatsForAmountless
      rw [hdecoded]
      exact if_pos ⟨hsatoshi, h.amountValid hneeds, hexact⟩
    refine ⟨form.amountSats * 1000, ?_, ?_⟩
    · unfold nwcPayInvoice
      rw [if_pos hamount, hpassed]
    · rw [hshown, if_neg (by simp [hsatoshi])]
      push_cast
      ring
  · have hpositive : (0 : Rat) < invoice.millisatoshi := by
      exact_mod_cast Nat.pos_of_ne_zero hamount
    have hsatoshi : 0 < invoice.satoshi := by
      unfold DecodedBolt11Invoice.satoshi
      positivity
    refine ⟨invoice.millisatoshi, ?_, ?_⟩
    · unfold nwcPayInvoice
      rw [if_neg hamount]
    · rw [hshown, if_pos hsatoshi]
      unfold DecodedBolt11Invoice.satoshi
      field_simp

/-- An entered invoice is paid as shown unless it is one of regtest. -/
theorem LightningSendForm.Checked.entered_iff (h : form.Checked services)
    (hservices : services.DecodesByHrp)
    (haddress : isLightningAddress form.normalizedRecipient = false)
    (hlnurl : isLnurlPayDestination form.normalizedRecipient = false)
    (hvalid : isValidBolt11Invoice form.normalizedRecipient = true) :
    InvoicePayment.AsShown
        { bolt11 := form.normalizedRecipient
          amountMsats := form.amountMsatsForAmountless services
          signetFamilyConfirmed := form.signetFamilyInvoiceConfirmed } form services ↔
      form.Trusts services form.normalizedRecipient := by
  have hserver : ¬ form.AsksServer := by
    unfold LightningSendForm.AsksServer
    simp [haddress, hlnurl]
  constructor
  · intro hshown
    obtain ⟨invoice, hinvoice, hnetwork⟩ := hshown.network
    have hknown := (isAppNetwork_iff hservices hinvoice h.matching).mp hnetwork
    exact ⟨invoice, hinvoice, hknown.1, fun hasks => absurd hasks hserver⟩
  · intro htrusts
    obtain ⟨invoice, hinvoice, hregtest, -⟩ := htrusts
    have hsimnet : invoice.network ≠ .simnet := by
      intro hfound
      rw [isValidBolt11Invoice_eq, bolt11NetworkModeFromPrefix_eq hservices hinvoice, hfound]
        at hvalid
      cases hvalid
    have hnetwork : invoice.network.IsAppNetwork form.networkMode :=
      (isAppNetwork_iff hservices hinvoice h.matching).mpr ⟨hregtest, hsimnet⟩
    obtain ⟨msats, hpays, hsame⟩ := h.entered_amount haddress hlnurl hvalid hinvoice
    refine ⟨⟨invoice, hinvoice, hnetwork⟩, ?_, ⟨invoice, msats, hinvoice, hpays, hsame⟩, h.balance⟩
    intro hfamily
    exact h.confirmed
      (invoiceNeedsSignetFamilyConfirmation_of_isAppNetwork hservices hinvoice hnetwork hfamily)

/-- An invoice that a server has answered with is paid as shown exactly if the app can trust the
server for it. -/
theorem LightningSendForm.Checked.fetched_iff (h : form.Checked services)
    (hservices : services.DecodesByHrp) (hasks : form.AsksServer) {confirmed : Bool}
    (hmatches : isBolt11NetworkMismatch text form.networkMode = false)
    (hconfirmed : invoiceNeedsSignetFamilyConfirmation text form.networkMode = true →
      confirmed = true) :
    InvoicePayment.AsShown
        { bolt11 := text, amountMsats := none, signetFamilyConfirmed := confirmed } form
        services ↔
      form.Trusts services text := by
  constructor
  · intro hshown
    obtain ⟨invoice, hinvoice, hnetwork⟩ := hshown.network
    obtain ⟨paid, msats, hpaid, hpays, hsame⟩ := hshown.amount
    cases hinvoice.symm.trans hpaid
    have hknown := (isAppNetwork_iff hservices hinvoice hmatches).mp hnetwork
    refine ⟨invoice, hinvoice, hknown.1, fun _ => ⟨hknown.2, ?_⟩⟩
    unfold nwcPayInvoice at hpays
    split at hpays
    · cases hpays
    · cases hpays
      exact hsame
  · intro htrusts
    obtain ⟨invoice, hinvoice, hregtest, hserver⟩ := htrusts
    obtain ⟨hsimnet, hsame⟩ := hserver hasks
    have hnetwork : invoice.network.IsAppNetwork form.networkMode :=
      (isAppNetwork_iff hservices hinvoice hmatches).mpr ⟨hregtest, hsimnet⟩
    have hpays : nwcPayInvoice invoice none = some invoice.millisatoshi := by
      unfold nwcPayInvoice
      rw [if_neg]
      intro hzero
      have hpositive := h.positive
      rw [hzero] at hsame
      norm_num at hsame
      rw [hsame] at hpositive
      norm_num at hpositive
    refine ⟨⟨invoice, hinvoice, hnetwork⟩, ?_, ⟨invoice, _, hinvoice, hpays, hsame⟩, h.balance⟩
    intro hfamily
    exact hconfirmed
      (invoiceNeedsSignetFamilyConfirmation_of_isAppNetwork hservices hinvoice hnetwork hfamily)

/-- The payment of an invoice that a server has answered with. -/
theorem LightningSendForm.paid_payFetchedInvoice {confirms : Bool} {payment : InvoicePayment}
    (hpaid : (form.payFetchedInvoice text).paid confirms = some payment) :
    ∃ confirmed,
      payment = { bolt11 := text, amountMsats := none, signetFamilyConfirmed := confirmed } ∧
        isBolt11NetworkMismatch text form.networkMode = false ∧
          (invoiceNeedsSignetFamilyConfirmation text form.networkMode = true →
            confirmed = true) := by
  unfold payFetchedInvoice at hpaid
  split at hpaid
  · cases hpaid
  · rename_i hmatches
    have hmatching := Bool.eq_false_iff.mpr hmatches
    split at hpaid
    · unfold LightningSubmit.paid at hpaid
      dsimp only at hpaid
      split at hpaid
      · cases hpaid
        exact ⟨true, rfl, hmatching, fun _ => rfl⟩
      · cases hpaid
    · rename_i hneeds
      cases hpaid
      exact ⟨false, rfl, hmatching, fun hneeded => absurd hneeded hneeds⟩

theorem LightningSendForm.Checked.answered_iff (h : form.Checked services)
    (hservices : services.DecodesByHrp) (hasks : form.AsksServer)
    {answer : Except String (List Char)} {confirms : Bool} {payment : InvoicePayment}
    (hpaid : (form.payAnswer answer).paid confirms = some payment) :
    payment.AsShown form services ↔ form.Trusts services payment.bolt11 := by
  unfold payAnswer at hpaid
  split at hpaid
  · cases answer with
    | error message => cases hpaid
    | ok bolt11 =>
      obtain ⟨confirmed, rfl, hmatches, hconfirmed⟩ :=
        paid_payFetchedInvoice hpaid
      exact h.fetched_iff hservices hasks hmatches hconfirmed
  · cases hpaid

/-- An invoice that is handed to the wallet is of the app's network, confirmed where needed, and
makes it pay the amount shown and checked, exactly if an entered one is not of regtest and a
fetched one can be decoded, is of a network the app knows and has the amount shown. -/
theorem invoice_is_paid_as_shown_iff (services : LightningServices)
    (hservices : services.DecodesByHrp) (form : LightningSendForm) (confirms : Bool)
    (payment : InvoicePayment) (hpaid : form.paidInvoice services confirms = some payment) :
    payment.AsShown form services ↔ form.Trusts services payment.bolt11 := by
  unfold paidInvoice handleSubmitBuild at hpaid
  split at hpaid
  · rename_i hallowed
    have hchecked := checked hallowed.1 hallowed.2.2
    unfold submitLightningPayment at hpaid
    split at hpaid
    · rename_i haddress
      exact hchecked.answered_iff hservices (Or.inl haddress) hpaid
    · rename_i haddress
      split at hpaid
      · rename_i hlnurl
        exact hchecked.answered_iff hservices (Or.inr hlnurl) hpaid
      · rename_i hlnurl
        split at hpaid
        · cases hpaid
        · split at hpaid
          · cases hpaid
          · rename_i hvalid
            cases hpaid
            exact hchecked.entered_iff hservices (Bool.eq_false_iff.mpr haddress)
              (Bool.eq_false_iff.mpr hlnurl) (Bool.eq_true_of_not_eq_false hvalid)
  · cases hpaid

def signetInvoice : List Char :=
  "lntbs10u1p5wmeeepp56ms94rkev7tdrwqyus5a63lny2mqzq9vh2rq3u4ym3v4lxv6xl4qdql2djk".toList ++
    "uepqw3hjqs2jfvsxzerywfjhxuccqz95xqztfsp5ckaskagag554na8d56tlrfdxasstqrmmpkvswq".toList ++
    "qqx6y386jcfq9s9qxpqysgqt7z0vkdwkqamydae7ctgkh7l8q75w7q9394ce3lda2mkfxrpfdtj5gm".toList ++
    "ltuctav7jdgatkflhztrjjzutdla5e4xp0uhxxy7sluzll4qpkkh6wv".toList

def signetServices : LightningServices where
  decodeInvoice := fun text =>
    if text = signetInvoice then some { network := .signet, millisatoshi := 1000000 } else none
  isValidAddress := fun _ _ => false
  decodeLnurlBech32ToUrl := fun _ => .error "Invalid LNURL bech32 string"
  fetchLnurlJson := fun _ => none
  parseLnUrlPayResponse := fun _ _ _ _ => .error "Invalid pay service params"
  isValidAmount := fun amount min max => decide (min ≤ amount ∧ amount ≤ max)
  isUrl := fun _ => false
  setSearchParam := fun url _ _ => url
  fetchInvoicePr := fun _ => none
  requestAddressInvoice := fun _ _ => .ok signetInvoice

theorem signetServices_decodesByHrp : signetServices.DecodesByHrp := by
  intro text invoice hinvoice
  unfold signetServices at hinvoice
  dsimp only at hinvoice
  split at hinvoice
  · rename_i htext
    cases hinvoice
    refine ⟨'1', (toLowerCase signetInvoice).drop 6, by decide, ?_⟩
    rw [htext]
    decide +kernel
  · cases hinvoice

def signetForm (normalizedRecipient : List Char) (amountSats : Nat) : LightningSendForm where
  normalizedRecipient := normalizedRecipient
  amountSats := amountSats
  networkMode := .signet
  isLightningEnabled := true
  matchingLightningConnectionsCount := 1
  hasLightningWalletSelected := true
  selectedLnBalanceSats := some 50000
  signetFamilyInvoiceConfirmed := true
  fiatRateOk := true

theorem invoice_is_paid_as_shown_iff_entered :
    InvoicePayment.AsShown
        { bolt11 := signetInvoice, amountMsats := none, signetFamilyConfirmed := true }
        (signetForm signetInvoice 0) signetServices ↔
      (signetForm signetInvoice 0).Trusts signetServices signetInvoice := by
  apply invoice_is_paid_as_shown_iff signetServices signetServices_decodesByHrp _ true
  decide +kernel

def overchargedForm : LightningSendForm :=
  signetForm ['u', '@', 'p', 'a', 'y', '.', 'i', 'o'] 100

/-- The form shows 100 satoshis, and the wallet pays 1000. -/
theorem server_invoice_is_paid_unchecked :
    ∃ payment, overchargedForm.paidInvoice signetServices true = some payment ∧
      overchargedForm.lightningPayAmountSats signetServices = 100 ∧
      nwcPayInvoice { network := .signet, millisatoshi := 1000000 } payment.amountMsats =
        some 1000000 ∧
      ¬ payment.AsShown overchargedForm signetServices := by
  have hshown : overchargedForm.lightningPayAmountSats signetServices = 100 := by
    decide +kernel
  refine ⟨{ bolt11 := signetInvoice, amountMsats := none, signetFamilyConfirmed := true },
    by decide +kernel, hshown, rfl, ?_⟩
  intro hasShown
  obtain ⟨invoice, msats, hinvoice, hpays, hsame⟩ := hasShown.amount
  have hdecoded : signetServices.decodeInvoice signetInvoice =
      some { network := .signet, millisatoshi := 1000000 } := by
    decide +kernel
  cases hdecoded.symm.trans hinvoice
  cases hpays
  rw [hshown] at hsame
  norm_num at hsame

end Bitboard.Frontend
