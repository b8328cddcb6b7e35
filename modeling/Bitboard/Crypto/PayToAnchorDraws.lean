/-
# Which fees are found whatever coins are drawn

The builder draws coins at random, and the coins of one child decide the fee of the next. A report
of insufficient funds is true where every fee that may come up so is found: all coins cover it, and
they cannot leave dust both with the coins that are drawn first and with the largest one.
-/

import Bitboard.Crypto.PayToAnchorReports

namespace Bitboard.Crypto

variable {Wallet : Type} {api : BumperApi Wallet} {wallet start : Wallet} {job : ChildJob}
  {changeScript : String} {asked childWeight feeNeeded : Nat}

section Draws

theorem sum_le_of_confirmed {coins : List LocalCoin}
    (hnodup : (coins.map LocalCoin.outpoint).Nodup)
    (hconfirmed : ∀ coin ∈ coins, coin ∈ confirmedCoins api wallet) :
    (coins.map LocalCoin.value).sum ≤ ((confirmedCoins api wallet).map LocalCoin.value).sum := by
  obtain ⟨same, hperm, hsub⟩ := List.subperm_of_subset hnodup.of_map hconfirmed
  rw [← (hperm.map LocalCoin.value).sum_eq]
  exact (hsub.map LocalCoin.value).sum_le_sum fun _ _ => Nat.zero_le _

/-- A fee that is asked for is one that may be. -/
theorem AsksFor.mayAskFor (hdoc : api.Documented)
    (h : AsksFor api job changeScript start asked childWeight feeNeeded wallet) :
    MayAskFor api job changeScript start asked childWeight := by
  induction h with
  | start => exact .parent
  | again hasked hbuild hmoved ih =>
    rename_i count settled fee current childTx last
    obtain ⟨hunspent, htip⟩ := hasked.kept hdoc
    obtain ⟨requiredOutpoint, required, chosen, hrequired, htakes, _, _, hchange, hchild⟩ :=
      buildChild_ok hdoc (congrArg Prod.fst hbuild)
    have hlargest : ∀ outpoint ∈ requiredOutpoint,
        outpointWithLargestConfirmedValue api start = some outpoint := by
      intro outpoint hmem
      have hfound := (hrequired outpoint hmem).1
      unfold outpointWithLargestConfirmedValue confirmedCoins at hfound ⊢
      rw [← coinsWithConfirmations_congr 1 hunspent htip]
      exact hfound
    have hstart := htakes.congr hunspent htip
    refine .both ih hasked.fee_eq ?_ hstart hchange hchild hmoved
    intro outpoint hmem
    apply And.intro (hlargest outpoint hmem)
    cases (hrequired outpoint hmem).2.leavesDust hdoc hunspent htip with
    | inr hdust => exact hdust
    | inl hall =>
      -- The coins of the child cover the fee, so all confirmed coins do.
      have hcovers : fee ≤ job.anchor.2.value +
          ((required ++ chosen).map LocalCoin.value).sum := hstart.covers
      have hsum := sum_le_of_confirmed hstart.nodup (hstart.confirmed hdoc hlargest)
      omega

variable {parentTxHex : String} {rate : Option ℚ}

/-- Where every fee that may be asked for is found, a child pays and a report of insufficient
funds is true. -/
theorem signsSoundly_of_findsEveryFee (hdoc : api.Documented)
    (hfinds : FindsEveryFee api wallet parentTxHex rate) :
    SignsSoundly api wallet parentTxHex rate := by
  apply (signsSoundly_iff_findsFundsThatAreThere hdoc).mpr
  intro job hjob hcan count settled fee current hlt hasked
  obtain ⟨hunspent, htip⟩ := hasked.kept hdoc
  have hfee := hfinds job hjob hcan count settled hlt (hasked.mayAskFor hdoc)
  rw [hasked.fee_eq]
  exact hfee.not_isDeadEnd hdoc hunspent htip

end Draws

theorem sampleJob_eq : childJob twoCoinsApi "b0" (some 1) = .ok (sampleJob 250) := by
  decide +kernel

/-- Where each coin covers the fee, the builder takes one. -/
theorem BuilderTakes.length_eq_one {request : ChildRequest} {required chosen : List LocalCoin}
    (htakes : BuilderTakes api wallet request required chosen)
    (hanchor : request.anchorOutput.value < request.feeAbsolute)
    (hworth : ∀ coin ∈ required ++ chosen,
      request.feeAbsolute ≤ request.anchorOutput.value + coin.value) :
    (required ++ chosen).length = 1 := by
  have hone : ∀ coin ∈ required ++ chosen, ¬ fundsOf request [coin] < request.feeAbsolute := by
    intro coin hcoin
    have hcoinWorth := hworth coin hcoin
    simp only [fundsOf, List.map_cons, List.map_nil, List.sum_cons, List.sum_nil]
    omega
  have hcount := congrArg List.length htakes.required_eq
  have hstops := htakes.stops
  have hcovers := htakes.covers
  rw [List.length_map] at hcount
  cases required with
  | nil =>
    cases chosen with
    | nil =>
      simp only [fundsOf, List.append_nil, List.map_nil, List.sum_nil] at hcovers
      omega
    | cons first rest =>
      cases rest with
      | nil => rfl
      | cons second others =>
        have hshort := hstops [first] (by simp) (by simp)
        exact absurd hshort (hone first (by simp))
  | cons first rest =>
    cases rest with
    | cons second others =>
      cases hrequired : request.requiredOutpoint with
      | none | some => simp [hrequired] at hcount
    | nil =>
      cases chosen with
      | nil => rfl
      | cons second others =>
        have hshort := hstops [] List.nil_prefix (by simp)
        exact absurd hshort (hone first (by simp))

/-- A child of one of the coins weighs as much as one of the other, so that two fees may come up. -/
theorem mayAskFor_twoCoins
    (h : MayAskFor twoCoinsApi (sampleJob 250) "0014cc" () asked childWeight) :
    childWeight = 0 ∨ childWeight = 604 := by
  induction h with
  | parent => exact .inl rfl
  | both hasked hfee hlargest htakes hchange hchild hmoved ih =>
    rename_i count settled fee requiredOutpoint required chosen childTx
    have hcheap : 0 < fee ∧ fee ≤ 1250 := by
      rw [hfee]
      cases ih with
      | inl hparent =>
        rw [hparent]
        decide +kernel
      | inr hboth =>
        rw [hboth]
        decide +kernel
    have hall : ∀ coin ∈ confirmedCoins twoCoinsApi (), 1250 ≤ coin.value := by decide +kernel
    have hconfirmed := htakes.confirmed twoCoinsApi_documented fun outpoint hmem =>
      (hlargest outpoint hmem).1
    have hone : (required ++ chosen).length = 1 := by
      apply htakes.length_eq_one hcheap.1
      intro coin hcoin
      exact Nat.le_trans hcheap.2 (Nat.le_trans (hall coin (hconfirmed coin hcoin))
        (Nat.le_add_left _ _))
    obtain ⟨_, psbt, signed, change, hinputs, _, hsigned, hextract⟩ := hchild
    have hlength := hinputs.length_eq
    rw [List.length_cons, List.length_map, hone] at hlength
    cases hsigned
    cases hextract
    right
    show 60 + 272 * psbt.txInputs.length = 604
    rw [hlength]

/-- At one satoshi per virtual byte, the fee of the parent may be asked for, and the one of both.
The larger coin pays them. -/
theorem twoCoins_signsSoundly : SignsSoundly twoCoinsApi () "b0" (some 1) := by
  apply signsSoundly_of_findsEveryFee twoCoinsApi_documented
  intro job hjob _ count settled _ hmay
  rw [sampleJob_eq] at hjob
  cases hjob
  have hlarger : largerCoin ∈ confirmedCoins twoCoinsApi () := by decide +kernel
  apply findsFunds_of_coin twoCoinsApi_documented hlarger
  cases mayAskFor_twoCoins hmay with
  | inl hparent =>
    rw [hparent]
    decide +kernel
  | inr hboth =>
    rw [hboth]
    decide +kernel

def childOfBothCoins : Transaction where
  txid := "c0"
  inputs := [{ txid := "b0", vout := 0 }, largerCoin.outpoint, smallerCoin.outpoint]
  outputs := [{ scriptPubkey := "0014cc", value := 1174 }]
  weight := 876
  weight_pos := by decide

/-- At four satoshis per virtual byte, the fee of parent and child is 1104. Of the larger coin,
196 satoshis are left over, which is dust, and no further coin is tried. Both coins pay the 1376
that their child needs, and leave 1174. -/
theorem twoCoins_reported_short :
    twoCoinsApi.Documented ∧ ¬ SignsSoundly twoCoinsApi () "b0" (some 4) := by
  apply And.intro twoCoinsApi_documented
  intro hsound
  have hreport : (signP2aCpfpChild twoCoinsApi () "b0" (some 4)).1 =
      .error (insufficientFunds "needed_sats=294; Insufficient funds") := by decide +kernel
  obtain ⟨job, hjob, hcannot⟩ := hsound.report _ hreport (insufficientFunds_isInsufficientFunds _)
  have hsample : childJob twoCoinsApi "b0" (some 4) = .ok (sampleJob 1000) := by decide +kernel
  rw [hsample] at hjob
  cases hjob
  have hconfirmed : ∀ coin ∈ twoCoins, coin ∈ confirmedCoins twoCoinsApi () := by decide +kernel
  apply hcannot
  exact ⟨twoCoins, 1174,
    { txInputs := childOfBothCoins.inputs, outputs := childOfBothCoins.outputs,
      witnessWeight := 0 },
    { txInputs := childOfBothCoins.inputs, outputs := childOfBothCoins.outputs,
      witnessWeight := 108 },
    childOfBothCoins, by decide, hconfirmed, List.Perm.refl _, rfl, rfl, rfl, by decide, by decide⟩

end Bitboard.Crypto
