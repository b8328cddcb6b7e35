/-
# When a prepared send keeps its promises

Both outcomes of a call are those of a draft. They are sound exactly when the builder answers the
larger payment with a draft without change. With the same coins it cannot, as soon as the
signatures cost a satoshi.
-/

import Bitboard.Crypto.PrepareSendBump
import Bitboard.Lib.FallibleLoop

namespace Bitboard.Crypto

variable {Wallet : Type} {api : WalletApi Wallet} {wallet after : Wallet} {call : SendCall}
  {request : BuildRequest} {psbt : Psbt} {applyBump : Bool}
variable {offer : Option Nat}

section Branches

theorem firstRequest_payment_pos (hrequest : firstRequest api call = .ok request) :
    0 < request.paymentSats := by
  unfold firstRequest at hrequest
  split at hrequest
  · cases hrequest
  · obtain ⟨script, _, hrest⟩ := Lib.bind_eq_ok.mp hrequest
    obtain ⟨feeRate, _, hlast⟩ := Lib.bind_eq_ok.mp hrest
    cases hlast
    show 0 < max call.amountSats UX_DUST_FLOOR_SATS
    exact Nat.lt_of_lt_of_le (by decide : 0 < UX_DUST_FLOOR_SATS) (Nat.le_max_right _ _)

variable {maxRecipient : Nat}

theorem changeFreeMax_lt (hoffer : changeFreeMax request psbt = .ok (some maxRecipient)) :
    request.paymentSats < maxRecipient := by
  unfold changeFreeMax at hoffer
  split at hoffer
  · obtain ⟨total, _, hrest⟩ := Lib.bind_eq_ok.mp hoffer
    split at hrest
    · cases hrest
    · dsimp only at hrest
      split at hrest
      · rename_i hlt
        cases hrest
        exact hlt
      · cases hrest
  · cases hoffer

theorem prepareOnchainSend_of_draft (hrequest : firstRequest api call = .ok request)
    (hbuild : buildOnce api request wallet = (.ok psbt, after)) :
    prepareOnchainSend api wallet call applyBump =
      prepareFromDraft api after call request applyBump psbt := by
  unfold prepareOnchainSend
  rw [hrequest]
  dsimp only
  rw [hbuild]

/-- The first draft is kept, or the one of the larger payment that it offers. -/
theorem prepareOnchainSend_cases {outcome : PrepareOnchainSendOutcome}
    (hok : (prepareOnchainSend api wallet call applyBump).1 = .ok outcome) :
    ∃ request psbt after offer, firstRequest api call = .ok request ∧
      buildOnce api request wallet = (.ok psbt, after) ∧
      changeFreeMax request psbt = .ok offer ∧
      ((∃ last, outcomeOf api last call request psbt false offer = .ok outcome ∧
          (last = after ∨ ∃ maxRecipient ∈ offer, ∃ error,
            buildOnce api { request with paymentSats := maxRecipient } after =
              (.error error, last))) ∨
        ∃ maxRecipient bumped last, offer = some maxRecipient ∧
          buildOnce api { request with paymentSats := maxRecipient } after = (.ok bumped, last) ∧
          outcomeOf api last call { request with paymentSats := maxRecipient } bumped true
            (some maxRecipient) = .ok outcome) := by
  cases hrequest : firstRequest api call with
  | error error =>
    rw [prepareOnchainSend, hrequest] at hok
    cases hok
  | ok request =>
    cases hbuild : buildOnce api request wallet with
    | mk result after =>
      cases result with
      | error error =>
        rw [prepareOnchainSend, hrequest] at hok
        dsimp only at hok
        rw [hbuild] at hok
        cases hok
      | ok psbt =>
        rw [prepareOnchainSend_of_draft hrequest hbuild] at hok
        unfold prepareFromDraft at hok
        cases hoffer : changeFreeMax request psbt with
        | error error =>
          rw [hoffer] at hok
          cases hok
        | ok offer =>
          exists request, psbt, after, offer
          apply And.intro rfl
          apply And.intro hbuild
          apply And.intro hoffer
          rw [hoffer] at hok
          cases offer with
          | none => exact .inl ⟨after, hok, .inl rfl⟩
          | some maxRecipient =>
            dsimp only at hok
            split at hok
            · cases hsecond : buildOnce api
                  { request with paymentSats := maxRecipient } after with
              | mk second last =>
                rw [hsecond] at hok
                cases second with
                | ok bumped =>
                  exact .inr ⟨maxRecipient, bumped, last, rfl, hsecond, hok⟩
                | error error =>
                  exact .inl ⟨last, hok, .inr ⟨maxRecipient, rfl, error, hsecond⟩⟩
            · exact .inl ⟨after, hok, .inl rfl⟩

section

variable (hrequest : firstRequest api call = .ok request)
include hrequest

section

variable (hbuild : buildOnce api request wallet = (.ok psbt, after))
include hbuild

theorem prepareOnchainSend_plain (hoffer : changeFreeMax request psbt = .ok offer) :
    (prepareOnchainSend api wallet call false).1 =
      outcomeOf api after call request psbt false offer := by
  rw [prepareOnchainSend_of_draft hrequest hbuild, prepareFromDraft, hoffer]
  cases offer with
  | none | some => rfl

theorem prepareOnchainSend_bump_ok {bumped : Psbt} {last : Wallet}
    (hoffer : changeFreeMax request psbt = .ok (some maxRecipient))
    (hsecond : buildOnce api { request with paymentSats := maxRecipient } after =
      (.ok bumped, last)) :
    (prepareOnchainSend api wallet call true).1 =
      outcomeOf api last call { request with paymentSats := maxRecipient } bumped true
        (some maxRecipient) := by
  rw [prepareOnchainSend_of_draft hrequest hbuild, prepareFromDraft, hoffer]
  simp only [if_true]
  rw [hsecond]

theorem prepareOnchainSend_bump_error {error : CryptoError} {last : Wallet}
    (hoffer : changeFreeMax request psbt = .ok (some maxRecipient))
    (hsecond : buildOnce api { request with paymentSats := maxRecipient } after =
      (.error error, last)) :
    (prepareOnchainSend api wallet call true).1 =
      outcomeOf api last call request psbt false (some maxRecipient) := by
  rw [prepareOnchainSend_of_draft hrequest hbuild, prepareFromDraft, hoffer]
  simp only [if_true]
  rw [hsecond]

end

end

end Branches

/-- A larger payment that is offered can be built, and without change. -/
def OfferCanBeBuilt (api : WalletApi Wallet) (wallet : Wallet) (request : BuildRequest)
    (maxRecipient : Nat) : Prop :=
  ∃ psbt after, buildOnce api { request with paymentSats := maxRecipient } wallet =
      (.ok psbt, after) ∧
    psbt.IsChangeFree ∧ CountsChange api after request.recipientScriptPubkey psbt

def BuildsWhatIsOffered (api : WalletApi Wallet) (wallet : Wallet) (call : SendCall) : Prop :=
  ∀ request psbt after, firstRequest api call = .ok request →
    buildOnce api request wallet = (.ok psbt, after) →
      ∀ offer, changeFreeMax request psbt = .ok offer →
        CountsChange api after request.recipientScriptPubkey psbt ∧
          ∀ maxRecipient ∈ offer, OfferCanBeBuilt api after request maxRecipient

section Sound

variable {values : List Nat} {change : Option TxOut} {outcome : PrepareOnchainSendOutcome}

theorem IsDraft.outcome_balanced_iff (h : IsDraft api wallet request psbt values change)
    (hpos : 0 < request.paymentSats) {bumped : Bool}
    (hok : outcomeOf api wallet call request psbt bumped offer = .ok outcome) :
    outcome.finalAmountSats + outcome.changeSats + outcome.feeSats = outcome.totalInputSats ↔
      CountsChange api wallet request.recipientScriptPubkey psbt := by
  obtain ⟨expected, hexpected, _, hfinal, _, _, _, hfee, hchange, htotal⟩ :=
    h.outcomeOf_eq call bumped offer
  rw [hexpected] at hok
  cases hok
  rw [hfinal, hchange, hfee, htotal]
  exact h.balanced_iff hpos

theorem PreparesSoundly.countsChange (hsound : PreparesSoundly api wallet call)
    (hdoc : api.Documented) (hrequest : firstRequest api call = .ok request)
    (hbuild : buildOnce api request wallet = (.ok psbt, after))
    (hoffer : changeFreeMax request psbt = .ok offer) :
    CountsChange api after request.recipientScriptPubkey psbt := by
  obtain ⟨change, hdraft, _⟩ := hdoc.isDraft hbuild
  obtain ⟨outcome, hok, _⟩ := hdraft.outcomeOf_eq call false offer
  have hplain := prepareOnchainSend_plain hrequest hbuild hoffer
  rw [hok] at hplain
  apply (hdraft.outcome_balanced_iff (firstRequest_payment_pos hrequest) hok).mp
  exact hsound.balanced false outcome hplain

/-- A sound call builds what it offers. -/
theorem PreparesSoundly.offerCanBeBuilt (hsound : PreparesSoundly api wallet call)
    (hdoc : api.Documented) {maxRecipient : Nat}
    (hrequest : firstRequest api call = .ok request)
    (hbuild : buildOnce api request wallet = (.ok psbt, after))
    (hoffer : changeFreeMax request psbt = .ok (some maxRecipient)) :
    OfferCanBeBuilt api after request maxRecipient := by
  obtain ⟨change, hdraft, _⟩ := hdoc.isDraft hbuild
  obtain ⟨outcome, hok, _, _, _, havailable, hmax, _⟩ :=
    hdraft.outcomeOf_eq call false (some maxRecipient)
  have hplain := prepareOnchainSend_plain hrequest hbuild hoffer
  rw [hok] at hplain
  obtain ⟨bumped, hbumped, hfinal, hflag, hfree⟩ := hsound.bump false outcome hplain havailable
  cases hsecond : buildOnce api { request with paymentSats := maxRecipient } after with
  | mk second last =>
    cases second with
    | error error =>
      have hcall := prepareOnchainSend_bump_error hrequest hbuild hoffer hsecond
      rw [hbumped] at hcall
      -- The first draft is kept, and the outcome says so.
      have hlast : api.listUnspent last = api.listUnspent after := by
        have hsame := hdoc.listUnspent_buildOnce
          { request with paymentSats := maxRecipient } after
        rw [hsecond] at hsame
        exact hsame
      have hfirst : IsDraft api last request psbt
          ((api.selectCoins request wallet).map LocalOutput.valueSats) change :=
        hdraft.congr_unspent hlast
      obtain ⟨kept, hkeptOk, _, _, hkeptFlag, _⟩ :=
        hfirst.outcomeOf_eq call false (some maxRecipient)
      rw [hkeptOk] at hcall
      cases hcall
      rw [hkeptFlag] at hflag
      cases hflag
    | ok larger =>
      have hcall := prepareOnchainSend_bump_ok hrequest hbuild hoffer hsecond
      rw [hbumped] at hcall
      obtain ⟨_, hlarger, _⟩ := hdoc.isDraft hsecond
      have hpos : 0 < maxRecipient := Nat.lt_of_le_of_lt (Nat.zero_le _)
        (changeFreeMax_lt hoffer)
      have hcounted := (hlarger.outcome_balanced_iff hpos hcall.symm).mp
        (hsound.balanced true bumped hbumped)
      obtain ⟨expected, hexpected, hpsbt, _⟩ :=
        hlarger.outcomeOf_eq call true (some maxRecipient)
      rw [hexpected] at hcall
      cases hcall
      rw [hpsbt] at hfree
      exact ⟨larger, last, hsecond, hfree, hcounted⟩

section

variable (hbuilds : BuildsWhatIsOffered api wallet call)
include hbuilds

/-- An outcome is that of a draft whose change is counted, where the builder makes what is
offered. -/
theorem BuildsWhatIsOffered.outcome_eq
    (hok : (prepareOnchainSend api wallet call applyBump).1 = .ok outcome) :
    ∃ request psbt after offer, firstRequest api call = .ok request ∧
      buildOnce api request wallet = (.ok psbt, after) ∧ changeFreeMax request psbt = .ok offer ∧
      CountsChange api after request.recipientScriptPubkey psbt ∧
      (∀ maxRecipient ∈ offer, OfferCanBeBuilt api after request maxRecipient) ∧
      (outcomeOf api after call request psbt false offer = .ok outcome ∨
        ∃ maxRecipient bumped last, offer = some maxRecipient ∧
          buildOnce api { request with paymentSats := maxRecipient } after = (.ok bumped, last) ∧
          bumped.IsChangeFree ∧ CountsChange api last request.recipientScriptPubkey bumped ∧
          outcomeOf api last call { request with paymentSats := maxRecipient } bumped true
            (some maxRecipient) = .ok outcome) := by
  obtain ⟨request, psbt, after, offer, hrequest, hbuild, hoffer, hkept⟩ :=
    prepareOnchainSend_cases hok
  obtain ⟨hcounts, hcan⟩ := hbuilds request psbt after hrequest hbuild offer hoffer
  apply Exists.intro request
  apply Exists.intro psbt
  apply Exists.intro after
  apply Exists.intro offer
  refine ⟨hrequest, hbuild, hoffer, hcounts, hcan, ?_⟩
  cases hkept with
  | inl hfirst =>
    obtain ⟨last, hout, hlast⟩ := hfirst
    cases hlast with
    | inl heq =>
      rw [heq] at hout
      exact .inl hout
    | inr hfailed =>
      obtain ⟨maxRecipient, hmem, error, hsecond⟩ := hfailed
      obtain ⟨_, _, hbuilt, _⟩ := hcan maxRecipient hmem
      rw [hbuilt] at hsecond
      cases hsecond
  | inr hbump =>
    obtain ⟨maxRecipient, bumped, last, heq, hsecond, hout⟩ := hbump
    obtain ⟨psbt', last', hbuilt, hfree, hcounted⟩ := hcan maxRecipient heq
    rw [hsecond] at hbuilt
    cases hbuilt
    exact .inr ⟨maxRecipient, bumped, last, heq, hsecond, hfree, hcounted, hout⟩

theorem BuildsWhatIsOffered.balanced (hdoc : api.Documented)
    (hok : (prepareOnchainSend api wallet call applyBump).1 = .ok outcome) :
    outcome.finalAmountSats + outcome.changeSats + outcome.feeSats = outcome.totalInputSats := by
  obtain ⟨request, psbt, after, offer, hrequest, hbuild, hoffer, hcounts, _, hkept⟩ :=
    hbuilds.outcome_eq hok
  have hpos := firstRequest_payment_pos hrequest
  cases hkept with
  | inl hout =>
    obtain ⟨_, hdraft, _⟩ := hdoc.isDraft hbuild
    exact (hdraft.outcome_balanced_iff hpos hout).mpr hcounts
  | inr hbump =>
    obtain ⟨maxRecipient, bumped, last, heq, hsecond, _, hcounted, hout⟩ := hbump
    rw [heq] at hoffer
    obtain ⟨_, hdraft, _⟩ := hdoc.isDraft hsecond
    apply (hdraft.outcome_balanced_iff _ hout).mpr hcounted
    exact Nat.lt_trans hpos (changeFreeMax_lt hoffer)

theorem BuildsWhatIsOffered.bump (hdoc : api.Documented)
    (hok : (prepareOnchainSend api wallet call applyBump).1 = .ok outcome)
    (havailable : outcome.changeFreeBumpAvailable = true) :
    ∃ bumped, (prepareOnchainSend api wallet call true).1 = .ok bumped ∧
      bumped.finalAmountSats = outcome.changeFreeMaxSats ∧ bumped.bumpedChangeFree = true ∧
      bumped.psbt.IsChangeFree := by
  obtain ⟨request, psbt, after, offer, hrequest, hbuild, hoffer, _, hcan, hkept⟩ :=
    hbuilds.outcome_eq hok
  have hreported : outcome.changeFreeBumpAvailable = offer.isSome ∧
      outcome.changeFreeMaxSats = offer.getD 0 := by
    cases hkept with
    | inl hout =>
      obtain ⟨_, hdraft, _⟩ := hdoc.isDraft hbuild
      obtain ⟨expected, hexpected, _, _, _, hsome, hmax, _⟩ :=
        hdraft.outcomeOf_eq call false offer
      rw [hexpected] at hout
      cases hout
      exact ⟨hsome, hmax⟩
    | inr hbump =>
      obtain ⟨maxRecipient, bumped, last, heq, hsecond, _, _, hout⟩ := hbump
      obtain ⟨_, hdraft, _⟩ := hdoc.isDraft hsecond
      obtain ⟨expected, hexpected, _, _, _, hsome, hmax, _⟩ :=
        hdraft.outcomeOf_eq call true (some maxRecipient)
      rw [hexpected] at hout
      cases hout
      rw [heq]
      exact ⟨hsome, hmax⟩
  obtain ⟨maxRecipient, heq⟩ := Option.isSome_iff_exists.mp (hreported.1.symm.trans havailable)
  obtain ⟨bumped, last, hsecond, hfree, _⟩ := hcan maxRecipient heq
  rw [heq] at hoffer hreported
  obtain ⟨_, hdraft, _⟩ := hdoc.isDraft hsecond
  obtain ⟨expected, hexpected, hpsbt, hfinal, hflag, _⟩ :=
    hdraft.outcomeOf_eq call true (some maxRecipient)
  exists expected
  constructor
  · rw [prepareOnchainSend_bump_ok hrequest hbuild hoffer hsecond]
    exact hexpected
  · rw [hfinal, hflag, hpsbt, hreported.2]
    exact ⟨rfl, rfl, hfree⟩

theorem BuildsWhatIsOffered.changeFree (hdoc : api.Documented)
    (hok : (prepareOnchainSend api wallet call applyBump).1 = .ok outcome)
    (hflag : outcome.bumpedChangeFree = true) : outcome.psbt.IsChangeFree := by
  obtain ⟨request, psbt, after, offer, _, hbuild, _, _, _, hkept⟩ := hbuilds.outcome_eq hok
  cases hkept with
  | inl hout =>
    obtain ⟨_, hdraft, _⟩ := hdoc.isDraft hbuild
    obtain ⟨expected, hexpected, _, _, hfirst, _⟩ := hdraft.outcomeOf_eq call false offer
    rw [hexpected] at hout
    cases hout
    rw [hfirst] at hflag
    cases hflag
  | inr hbump =>
    obtain ⟨maxRecipient, bumped, last, _, hsecond, hfree, _, hout⟩ := hbump
    obtain ⟨_, hdraft, _⟩ := hdoc.isDraft hsecond
    obtain ⟨expected, hexpected, hpsbt, _⟩ := hdraft.outcomeOf_eq call true (some maxRecipient)
    rw [hexpected] at hout
    cases hout
    rw [hpsbt]
    exact hfree

end

end Sound

/-- A call keeps its promises exactly when the change is counted and the builder makes what the
call offers. -/
theorem preparesSoundly_iff_buildsWhatIsOffered (hdoc : api.Documented) :
    PreparesSoundly api wallet call ↔ BuildsWhatIsOffered api wallet call := by
  constructor
  · intro hsound request psbt after hrequest hbuild offer hoffer
    apply And.intro (hsound.countsChange hdoc hrequest hbuild hoffer)
    intro maxRecipient hmem
    rw [hmem] at hoffer
    exact hsound.offerCanBeBuilt hdoc hrequest hbuild hoffer
  · intro hbuilds
    exact {
      balanced := fun _ _ hok => hbuilds.balanced hdoc hok
      bump := fun _ _ hok havailable => hbuilds.bump hdoc hok havailable
      changeFree := fun _ _ hok hflag => hbuilds.changeFree hdoc hok hflag }

end Bitboard.Crypto
