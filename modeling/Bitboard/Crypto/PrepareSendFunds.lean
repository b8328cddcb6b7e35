/-
# Which offers are funded

The larger payment that a call offers leaves the fee of the unsigned weight. Whether it can be
built is read off the coins, the amount and the fee rate: some coins have to be worth it with the
fee of a draft, and the ones that are taken must not leave change. The coins of the first draft
are not, as soon as its signatures cost a satoshi.
-/

import Bitboard.Crypto.PrepareSendPromises

namespace Bitboard.Crypto

variable {Wallet : Type} {api : WalletApi Wallet} {wallet after : Wallet} {call : SendCall}
  {request : BuildRequest} {psbt : Psbt}

section Drafts

theorem firstRequest_floor_le (hrequest : firstRequest api call = .ok request) :
    UX_DUST_FLOOR_SATS ≤ request.paymentSats := by
  unfold firstRequest at hrequest
  split at hrequest
  · cases hrequest
  · obtain ⟨script, _, hrest⟩ := Lib.bind_eq_ok.mp hrequest
    obtain ⟨feeRate, _, hlast⟩ := Lib.bind_eq_ok.mp hrest
    cases hlast
    exact Nat.le_max_right _ _

/-- A draft is built exactly when some coins fund it. -/
theorem WalletApi.Documented.buildTx_ok_iff (h : api.Documented)
    (hfloor : UX_DUST_FLOOR_SATS ≤ request.paymentSats) :
    (∃ psbt after, api.buildTx request wallet = (.ok psbt, after)) ↔
      ∃ coins, MaySpend api wallet request coins ∧ Funds api request coins := by
  constructor
  · intro hbuilt
    obtain ⟨psbt, after, hbuild⟩ := hbuilt
    obtain ⟨hmay, hfunds, _⟩ := h.spends request wallet psbt after hbuild
    exact ⟨_, hmay, hfunds⟩
  · intro hfunded
    obtain ⟨coins, hmay, hfunds⟩ := hfunded
    cases hbuild : api.buildTx request wallet with
    | mk result after =>
      cases result with
      | ok psbt => exact ⟨psbt, after, rfl⟩
      | error error =>
        exact absurd hfunds (h.insufficient request wallet error after hbuild hfloor coins hmay)

variable {coins : List LocalOutput}

theorem WalletApi.Documented.isChangeFree_iff (h : api.Documented)
    (hbuild : api.buildTx request wallet = (.ok psbt, after))
    (hcoins : api.selectCoins request wallet = coins) :
    psbt.IsChangeFree ↔ ¬ LeavesChange api request coins := by
  rw [← hcoins, ← h.change request wallet psbt after hbuild, not_not]

/-- The change of a draft is counted unless it goes to the recipient. -/
theorem WalletApi.Documented.countsChange_iff (h : api.Documented)
    (hselected : request.selectedOutpoints ≠ some [])
    (hbuild : api.buildTx request wallet = (.ok psbt, after))
    (hcoins : api.selectCoins request wallet = coins) :
    CountsChange api after request.recipientScriptPubkey psbt ↔
      (LeavesChange api request coins →
          api.changeScript wallet ≠ request.recipientScriptPubkey) ∧
        (¬ LeavesChange api request coins →
          nextChangeScript api after ≠ request.recipientScriptPubkey) := by
  have hfree := h.isChangeFree_iff hbuild hcoins
  have honce : buildOnce api request wallet = (.ok psbt, after) := by
    rw [buildOnce, if_neg hselected, hbuild]
  obtain ⟨change, hdraft, hscript⟩ := h.isDraft honce
  unfold CountsChange
  by_cases hleaves : LeavesChange api request coins
  · have hnotFree : ¬ psbt.IsChangeFree := fun hpsbt => hfree.mp hpsbt hleaves
    rw [if_neg hnotFree]
    cases hchange : change with
    | none => exact absurd (hdraft.isChangeFree_iff.mpr hchange) hnotFree
    | some output =>
      have hchangeScript := hscript output hchange
      have hmem : ∀ other, other ∈ psbt.outputs ↔
          other = TxOut.mk request.recipientScriptPubkey request.paymentSats ∨
            other = output := by
        intro other
        rw [hdraft.outputs_perm.mem_iff, hchange]
        simp
      constructor
      · rintro ⟨other, hother, hne⟩
        refine ⟨fun _ => ?_, fun hnot => absurd hleaves hnot⟩
        cases (hmem other).mp hother with
        | inl heq =>
          rw [heq] at hne
          exact absurd rfl hne
        | inr heq =>
          rw [heq, hchangeScript] at hne
          exact hne
      · rintro ⟨hapart, _⟩
        refine ⟨output, (hmem output).mpr (.inr rfl), ?_⟩
        rw [hchangeScript]
        exact hapart hleaves
  · rw [if_pos (hfree.mpr hleaves)]
    constructor
    · intro hne
      exact ⟨fun hyes => absurd hyes hleaves, fun _ => hne⟩
    · rintro ⟨_, hne⟩
      exact hne hleaves

end Drafts

section Offers

variable {values : List Nat} {change : Option TxOut} {coins : List LocalOutput}

theorem changeFreeMax_of_change (hchange : ¬ psbt.IsChangeFree) :
    changeFreeMax request psbt = .ok none := by
  have hnotSingle : singleRecipientOnly request.recipientScriptPubkey psbt = false := by
    rw [singleRecipientOnly, decide_eq_false_iff_not]
    intro heq
    apply hchange
    have hlength := congrArg List.length heq
    rw [List.length_map] at hlength
    exact hlength
  rw [changeFreeMax, hnotSingle]
  rfl

/-- Without change the offer is what the coins are worth less the fee of the unsigned weight. -/
theorem changeFreeMax_of_changeFree (hdraft : IsDraft api wallet request psbt values change)
    (hfree : psbt.IsChangeFree) :
    changeFreeMax request psbt = match feeWu request.feeRate psbt.unsignedWeight with
      | none => .error (.transaction "Fee overflow for transaction weight")
      | some fee =>
        .ok (if request.paymentSats < values.sum - fee then some (values.sum - fee) else none) := by
  have hsingle : singleRecipientOnly request.recipientScriptPubkey psbt = true := by
    have hchange := hdraft.isChangeFree_iff.mp hfree
    have hperm := hdraft.outputs_perm
    rw [hchange] at hperm
    rw [singleRecipientOnly, decide_eq_true_eq, List.perm_singleton.mp hperm]
    rfl
  rw [changeFreeMax, hsingle, if_pos rfl,
    sumPsbtInputValues_eq hdraft.values_eq hdraft.length_eq hdraft.fits]
  cases feeWu request.feeRate psbt.unsignedWeight with
  | none | some => rfl

/-- A larger payment can be built exactly when it is funded. -/
theorem WalletApi.Documented.offerCanBeBuilt_iff (h : api.Documented) {amountSats : Nat}
    (hselected : request.selectedOutpoints ≠ some [])
    (hfloor : UX_DUST_FLOOR_SATS ≤ amountSats) :
    OfferCanBeBuilt api wallet request amountSats ↔
      OfferIsFunded api wallet request amountSats := by
  have hpaying : (request.paying amountSats).selectedOutpoints ≠ some [] := hselected
  constructor
  · rintro ⟨psbt, after, honce, hfree, hcounts⟩
    obtain ⟨_, hbuild⟩ := buildOnce_eq_ok honce
    have hleaves := (h.isChangeFree_iff hbuild rfl).mp hfree
    exact {
      funded := (h.buildTx_ok_iff hfloor).mp ⟨psbt, after, hbuild⟩
      changeFree := hleaves
      apart := by
        show nextChangeScript api
          (api.buildTx { request with paymentSats := amountSats } wallet).2 ≠ _
        rw [hbuild]
        exact ((h.countsChange_iff hpaying hbuild rfl).mp hcounts).2 hleaves }
  · intro hfunded
    obtain ⟨psbt, after, hbuild⟩ := (h.buildTx_ok_iff hfloor).mpr hfunded.funded
    have hapart := hfunded.apart
    rw [hbuild] at hapart
    refine ⟨psbt, after, ?_, (h.isChangeFree_iff hbuild rfl).mpr hfunded.changeFree, ?_⟩
    · rw [buildOnce, if_neg hselected]
      exact hbuild
    · apply (h.countsChange_iff hpaying hbuild rfl).mpr
      exact ⟨fun hleaves => absurd hleaves hfunded.changeFree, fun _ => hapart⟩

/-- With the coins of the draft the offer is funded exactly when a draft costs no more than its
unsigned weight does. -/
theorem funds_offer_iff {fee unsignedFee amountSats : Nat} {request : BuildRequest}
    (hfee : api.draftFee (request.paying amountSats) coins = some fee)
    (hamount : amountSats = totalSats coins - unsignedFee) (hcovered : 0 < amountSats) :
    Funds api (request.paying amountSats) coins ↔ fee ≤ unsignedFee := by
  have hpayment : (request.paying amountSats).paymentSats = amountSats := rfl
  unfold Funds
  rw [hfee, hpayment]
  simp only [Option.mem_def, Option.some.injEq, exists_eq_left']
  omega

end Offers

theorem buildsWhatIsOffered_iff_fundsWhatIsOffered (hdoc : api.Documented) :
    BuildsWhatIsOffered api wallet call ↔ FundsWhatIsOffered api wallet call := by
  constructor
  · intro hbuilds request hrequest hselected hfunded coins after hcoins hafter
    have hfloor := firstRequest_floor_le hrequest
    obtain ⟨psbt, last, hbuild⟩ := (hdoc.buildTx_ok_iff hfloor).mpr hfunded
    rw [hbuild] at hafter
    subst hafter
    have honce : buildOnce api request wallet = (.ok psbt, last) := by
      rw [buildOnce, if_neg hselected, hbuild]
    obtain ⟨change, hdraft, _⟩ := hdoc.isDraft honce
    have hfree := hdoc.isChangeFree_iff hbuild hcoins
    have hkept := hbuilds request psbt last hrequest honce
    constructor
    · intro hleaves
      have hnotFree : ¬ psbt.IsChangeFree := fun hpsbt => hfree.mp hpsbt hleaves
      have hcounts := (hkept none (changeFreeMax_of_change hnotFree)).1
      exact ((hdoc.countsChange_iff hselected hbuild hcoins).mp hcounts).1 hleaves
    · intro hleaves fee hfee
      have hoffer := changeFreeMax_of_changeFree hdraft (hfree.mpr hleaves)
      rw [hdoc.unsigned request wallet psbt last hbuild (hfree.mpr hleaves), hcoins, hfee]
        at hoffer
      obtain ⟨hcounts, hcan⟩ := hkept _ hoffer
      apply And.intro
        (((hdoc.countsChange_iff hselected hbuild hcoins).mp hcounts).2 hleaves)
      intro hmore
      have htotal : (coins.map LocalOutput.valueSats).sum = totalSats coins := rfl
      rw [htotal, if_pos hmore] at hcan
      apply (hdoc.offerCanBeBuilt_iff hselected _).mp (hcan _ rfl)
      exact Nat.le_of_lt (Nat.lt_of_le_of_lt hfloor hmore)
  · intro hfunds request psbt after hrequest honce offer hoffer
    have hfloor := firstRequest_floor_le hrequest
    obtain ⟨hselected, hbuild⟩ := buildOnce_eq_ok honce
    obtain ⟨change, hdraft, _⟩ := hdoc.isDraft honce
    have hfree := hdoc.isChangeFree_iff hbuild rfl
    have hafter : (api.buildTx request wallet).2 = after := by rw [hbuild]
    obtain ⟨hwith, hwithout⟩ := hfunds request hrequest hselected
      ((hdoc.buildTx_ok_iff hfloor).mp ⟨psbt, after, hbuild⟩) _ after rfl hafter
    have hcounted := hdoc.countsChange_iff hselected hbuild rfl
    by_cases hpsbt : psbt.IsChangeFree
    · have hleaves := hfree.mp hpsbt
      rw [changeFreeMax_of_changeFree hdraft hpsbt] at hoffer
      split at hoffer
      · cases hoffer
      · rename_i fee hfee
        rw [hdoc.unsigned request wallet psbt after hbuild hpsbt] at hfee
        obtain ⟨hapart, hmore⟩ := hwithout hleaves fee hfee
        constructor
        · exact hcounted.mpr ⟨fun hyes => absurd hyes hleaves, fun _ => hapart⟩
        · intro maxRecipient hmem
          cases hoffer
          split at hmem
          · rename_i hlt
            cases hmem
            apply (hdoc.offerCanBeBuilt_iff hselected _).mpr (hmore hlt)
            exact Nat.le_of_lt (Nat.lt_of_le_of_lt hfloor hlt)
          · cases hmem
    · have hleaves : LeavesChange api request (api.selectCoins request wallet) := by
        by_contra hnot
        exact hpsbt (hfree.mpr hnot)
      rw [changeFreeMax_of_change hpsbt] at hoffer
      cases hoffer
      constructor
      · exact hcounted.mpr ⟨fun _ => hwith hleaves, fun hnot => absurd hleaves hnot⟩
      · intro maxRecipient hmem
        cases hmem

section OneCoin

variable {last : Unit} {coins : List LocalOutput}

def sampleCoin : OutPoint := { txid := "a5", vout := 0 }

def sampleOutput : LocalOutput where
  outpoint := sampleCoin
  valueSats := 10000
  keychain := .external
  derivationIndex := 0

def samplePsbt (recipient : TxOut) (change : Option TxOut) : Psbt where
  txInputs := [sampleCoin]
  witnessUtxoValues := [some 10000]
  outputs := recipient :: change.toList
  unsignedWeight := 328 + 124 * change.toList.length

/-- The coin is the only selected one, or none is selected. -/
def selectsSampleCoin (request : BuildRequest) : Bool :=
  match request.selectedOutpoints with
  | none => true
  | some selected => selected.contains sampleCoin && selected.all fun outpoint =>
      outpoint == sampleCoin

def sampleBuild (request : BuildRequest) : Except CryptoError Psbt :=
  let recipient : TxOut :=
    { scriptPubkey := request.recipientScriptPubkey, value := request.paymentSats }
  match feeWu request.feeRate 438 with
  | none => .error (.transaction "Fee overflow")
  | some fee =>
    if selectsSampleCoin request = true ∧ request.paymentSats + fee ≤ 10000 then
      match feeWu request.feeRate 562 with
      | none => .ok (samplePsbt recipient none)
      | some feeWithChange =>
        if request.paymentSats + feeWithChange + 294 ≤ 10000 then
          .ok (samplePsbt recipient (some {
            scriptPubkey := "0014cc"
            value := 10000 - request.paymentSats - feeWithChange }))
        else .ok (samplePsbt recipient none)
    else .error (.transaction "Insufficient funds")

def sampleApi : WalletApi Unit where
  parseAddress address _ := .ok address
  buildTx request wallet := (sampleBuild request, wallet)
  listUnspent _ := [sampleOutput]
  spendable _ := [sampleOutput]
  selectCoins _ _ := [sampleOutput]
  peekAddress _ _ _ := { address := "tb1qcc", scriptPubkey := "0014cc" }
  nextDerivationIndex _ _ := 0
  changeScript _ := "0014cc"
  signedWeight psbt := psbt.unsignedWeight + 110
  unsignedWeight _ _ := 328
  draftFee request _ := feeWu request.feeRate 438
  draftFeeWithChange request _ := feeWu request.feeRate 562
  changeDust := 294

theorem totalSats_sampleOutput : totalSats [sampleOutput] = 10000 := by decide +kernel

theorem sampleApi_draftFee : sampleApi.draftFee request coins = feeWu request.feeRate 438 := by
  dsimp only [sampleApi]

theorem sampleApi_draftFeeWithChange :
    sampleApi.draftFeeWithChange request coins = feeWu request.feeRate 562 := by
  dsimp only [sampleApi]

theorem sampleApi_funds_iff : Funds sampleApi request [sampleOutput] ↔
    ∃ fee, feeWu request.feeRate 438 = some fee ∧ request.paymentSats + fee ≤ 10000 := by
  simp only [Funds, totalSats_sampleOutput, sampleApi_draftFee, Option.mem_def]

theorem sampleApi_leavesChange_iff : LeavesChange sampleApi request [sampleOutput] ↔
    ∃ fee, feeWu request.feeRate 562 = some fee ∧ request.paymentSats + fee + 294 ≤ 10000 := by
  have hdust : sampleApi.changeDust = 294 := by dsimp only [sampleApi]
  simp only [LeavesChange, totalSats_sampleOutput, sampleApi_draftFeeWithChange, hdust,
    Option.mem_def]

theorem sampleApi_buildTx {result : Except CryptoError Psbt}
    (hbuild : sampleApi.buildTx request () = (result, last)) : sampleBuild request = result := by
  have hpair : (sampleBuild request, ()) = (result, last) := hbuild
  exact (Prod.mk.inj hpair).1

theorem selectsSampleCoin_iff : selectsSampleCoin request = true ↔
    ∀ selected ∈ request.selectedOutpoints, ∀ outpoint,
      outpoint ∈ [sampleCoin] ↔ outpoint ∈ selected := by
  unfold selectsSampleCoin
  cases request.selectedOutpoints with
  | none => simp
  | some selected =>
    simp only [Bool.and_eq_true, List.contains_iff_mem, List.all_eq_true, beq_iff_eq,
      Option.mem_def, Option.some.injEq, forall_eq', List.mem_singleton]
    constructor
    · rintro ⟨hmem, hall⟩ outpoint
      constructor
      · intro heq
        rw [heq]
        exact hmem
      · exact hall outpoint
    · intro hiff
      exact ⟨(hiff sampleCoin).mp rfl, fun outpoint => (hiff outpoint).mpr⟩

theorem sampleCoins_mem (hmay : MaySpend sampleApi () request coins) :
    coins = [] ∨ coins = [sampleOutput] := by
  have hall : ∀ coin ∈ coins, coin = sampleOutput := fun coin hcoin =>
    List.mem_singleton.mp (hmay.listed coin hcoin)
  cases coins with
  | nil => exact .inl rfl
  | cons coin rest =>
    right
    have hcoin := hall coin List.mem_cons_self
    cases rest with
    | nil => rw [hcoin]
    | cons other rest =>
      have hother := hall other (by simp)
      have hnodup := hmay.nodup
      rw [hcoin, hother] at hnodup
      simp at hnodup

theorem sampleBuild_cases (hbuild : sampleBuild request = .ok psbt) :
    selectsSampleCoin request = true ∧
      (∃ fee, feeWu request.feeRate 438 = some fee ∧ request.paymentSats + fee ≤ 10000) ∧
      ((∃ fee, feeWu request.feeRate 562 = some fee ∧ request.paymentSats + fee + 294 ≤ 10000 ∧
          psbt = samplePsbt ⟨request.recipientScriptPubkey, request.paymentSats⟩
            (some ⟨"0014cc", 10000 - request.paymentSats - fee⟩)) ∨
        ((∀ fee, feeWu request.feeRate 562 = some fee →
            10000 < request.paymentSats + fee + 294) ∧
          psbt = samplePsbt ⟨request.recipientScriptPubkey, request.paymentSats⟩ none)) := by
  unfold sampleBuild at hbuild
  split at hbuild
  · cases hbuild
  · rename_i fee hfee
    split at hbuild
    · rename_i hcovered
      refine ⟨hcovered.1, ⟨fee, hfee, hcovered.2⟩, ?_⟩
      split at hbuild
      · rename_i hwith
        cases hbuild
        right
        refine ⟨?_, rfl⟩
        intro feeWithChange hsome
        rw [hwith] at hsome
        cases hsome
      · rename_i feeWithChange hwith
        split at hbuild
        · rename_i hle
          cases hbuild
          exact .inl ⟨feeWithChange, hwith, hle, rfl⟩
        · rename_i hlt
          cases hbuild
          right
          refine ⟨?_, rfl⟩
          intro other hsome
          rw [hwith] at hsome
          cases hsome
          exact Nat.lt_of_not_le hlt
    · cases hbuild

theorem sampleApi_documented : sampleApi.Documented where
  unspent_kept _ _ := rfl
  spends request wallet psbt after hbuild := by
    obtain ⟨hselects, hfunds, _⟩ := sampleBuild_cases (sampleApi_buildTx hbuild)
    have hfits : totalSats [sampleOutput] < 2 ^ 64 := by
      rw [totalSats_sampleOutput]
      decide
    refine ⟨?_, sampleApi_funds_iff.mpr hfunds, hfits⟩
    exact {
      nodup := List.nodup_singleton _
      listed := fun _ hcoin => hcoin
      spendable := fun _ _ hcoin => hcoin
      selected := selectsSampleCoin_iff.mp hselects }
  inputs request wallet psbt after hbuild := by
    obtain ⟨_, _, hcases⟩ := sampleBuild_cases (sampleApi_buildTx hbuild)
    cases hcases with
    | inl hwith =>
      obtain ⟨fee, _, _, heq⟩ := hwith
      rw [heq]
      exact ⟨rfl, rfl⟩
    | inr hwithout =>
      rw [hwithout.2]
      exact ⟨rfl, rfl⟩
  pays request wallet psbt after hbuild := by
    obtain ⟨_, _, hcases⟩ := sampleBuild_cases (sampleApi_buildTx hbuild)
    cases hcases with
    | inl hwith =>
      obtain ⟨fee, _, hle, heq⟩ := hwith
      apply Exists.intro (some ⟨"0014cc", 10000 - request.paymentSats - fee⟩)
      rw [heq]
      apply And.intro (List.Perm.refl _)
      intro output houtput
      cases houtput
      refine ⟨?_, rfl⟩
      show 0 < 10000 - request.paymentSats - fee
      omega
    | inr hwithout =>
      apply Exists.intro none
      rw [hwithout.2]
      apply And.intro (List.Perm.refl _)
      intro output houtput
      cases houtput
  fee request wallet psbt after hbuild := by
    obtain ⟨_, ⟨fee, hfee, hcovered⟩, hcases⟩ := sampleBuild_cases (sampleApi_buildTx hbuild)
    have htotal : totalSats (sampleApi.selectCoins request wallet) = 10000 :=
      totalSats_sampleOutput
    rw [htotal]
    cases hcases with
    | inl hwith =>
      obtain ⟨feeWithChange, hwithFee, hle, heq⟩ := hwith
      rw [heq]
      refine ⟨feeWithChange, hwithFee, ?_⟩
      simp [sumUnsignedTxOutputValues, samplePsbt]
      omega
    | inr hwithout =>
      rw [hwithout.2]
      refine ⟨fee, hfee, ?_⟩
      simp [sumUnsignedTxOutputValues, samplePsbt]
      omega
  change request wallet psbt after hbuild := by
    obtain ⟨_, _, hcases⟩ := sampleBuild_cases (sampleApi_buildTx hbuild)
    cases hcases with
    | inl hwith =>
      obtain ⟨fee, hfee, hle, heq⟩ := hwith
      rw [heq]
      constructor
      · intro _
        exact sampleApi_leavesChange_iff.mpr ⟨fee, hfee, hle⟩
      · intro _
        show ¬ 2 = 1
        decide
    | inr hwithout =>
      rw [hwithout.2]
      constructor
      · intro hnot
        exact absurd rfl hnot
      · intro hleaves
        obtain ⟨fee, hfee, hle⟩ := sampleApi_leavesChange_iff.mp hleaves
        exact absurd hle (Nat.not_le_of_lt (hwithout.1 fee hfee))
  unsigned request wallet psbt after hbuild hfree := by
    obtain ⟨_, _, hcases⟩ := sampleBuild_cases (sampleApi_buildTx hbuild)
    cases hcases with
    | inl hwith =>
      obtain ⟨fee, _, _, heq⟩ := hwith
      rw [heq] at hfree
      have htwo : (2 : Nat) = 1 := hfree
      cases htwo
    | inr hwithout =>
      rw [hwithout.2]
      rfl
  insufficient request wallet error after hbuild hfloor coins hmay hfunds := by
    have herror := sampleApi_buildTx hbuild
    cases sampleCoins_mem hmay with
    | inl hnil =>
      obtain ⟨fee, _, hcovered⟩ := hfunds
      rw [hnil] at hcovered
      have hzero : request.paymentSats + fee ≤ 0 := hcovered
      have hpos : 546 ≤ request.paymentSats := hfloor
      omega
    | inr hone =>
      rw [hone] at hfunds
      obtain ⟨fee, hfee, hle⟩ := sampleApi_funds_iff.mp hfunds
      have hselects : selectsSampleCoin request = true := by
        apply selectsSampleCoin_iff.mpr
        intro selected hselected outpoint
        have hiff := hmay.selected selected hselected outpoint
        rw [hone] at hiff
        exact hiff
      unfold sampleBuild at herror
      rw [hfee] at herror
      dsimp only at herror
      rw [if_pos ⟨hselects, hle⟩] at herror
      split at herror
      · cases herror
      · split at herror
        · cases herror
        · cases herror

def sampleCall (amountSats : Nat) : SendCall where
  toAddress := "0014aa"
  amountSats := amountSats
  feeRateSatPerVb := some 1
  network := "signet"
  selectedOutpoints := none

def sampleRequest (amountSats : Nat) : BuildRequest where
  recipientScriptPubkey := "0014aa"
  paymentSats := amountSats
  feeRate := 250
  selectedOutpoints := none

theorem firstRequest_with_change : firstRequest sampleApi (sampleCall 5000) =
    .ok (sampleRequest 5000) := by decide +kernel

theorem firstRequest_without_change : firstRequest sampleApi (sampleCall 9700) =
    .ok (sampleRequest 9700) := by decide +kernel

end OneCoin

end Bitboard.Crypto
