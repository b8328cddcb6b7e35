/-
# What a signed child and a report say

The loop asks for one fee after the other. Where it returns a child, the last fee was asked for the
weight of that child. Where it reports insufficient funds, the last fee was a dead end.
-/

import Bitboard.Crypto.PayToAnchorFunds

namespace Bitboard.Crypto

open LocalCoin

variable {Wallet : Type} {api : BumperApi Wallet} {wallet after start : Wallet} {job : ChildJob}
  {changeScript : String} {asked settledChildWeight feeNeeded : Nat}

section Asked

theorem AsksFor.fee_eq
    (h : AsksFor api job changeScript start asked settledChildWeight feeNeeded wallet) :
    feeNeeded = weightFee job.feeRate (job.parentTx.weight + settledChildWeight) := by
  cases h with
  | start => rw [Nat.add_zero]
  | again hasked hbuild hmoved => rfl

theorem AsksFor.kept (hdoc : api.Documented)
    (h : AsksFor api job changeScript start asked settledChildWeight feeNeeded wallet) :
    api.listUnspent wallet = api.listUnspent start ∧
      api.tipHeight wallet = api.tipHeight start := by
  induction h with
  | start => exact ⟨rfl, rfl⟩
  | again hasked hbuild hmoved ih =>
    rename_i _ _ fee current childTx last
    have hafter := buildChild_after changeScript fee current hdoc job
    rw [hbuild] at hafter
    exact ⟨hafter.1.trans ih.1, hafter.2.trans ih.2⟩

section

variable (h : AsksFor api job changeScript start asked settledChildWeight feeNeeded wallet)
include h

theorem AsksFor.settleChild_eq {iterations : Nat} (hle : asked ≤ iterations) :
    settleChild api job.parentTx.weight job.feeRate job.anchor changeScript iterations 0
        (weightFee job.feeRate job.parentTx.weight) start =
      settleChild api job.parentTx.weight job.feeRate job.anchor changeScript
        (iterations - asked) settledChildWeight feeNeeded wallet := by
  induction h with
  | start => rfl
  | again hasked hbuild hmoved ih =>
    rename_i count settled fee current childTx last
    have hstep : iterations - count = (iterations - (count + 1)) + 1 := by omega
    rw [ih (by omega), hstep, settleChild, hbuild]
    dsimp only
    rw [if_neg hmoved]

/-- Where the loop ends with a child or an error of a build, a fee was asked for that the build
answers so. -/
theorem settleChild_cases {iterations : Nat} {result : Except CryptoError Transaction}
    {last : Wallet}
    (hresult : settleChild api job.parentTx.weight job.feeRate job.anchor changeScript iterations
      settledChildWeight feeNeeded wallet = (result, last)) :
    result = .error (.transaction "Could not settle a Pay-to-Anchor child fee") ∨
      ∃ count settled fee current, count < asked + iterations ∧
        AsksFor api job changeScript start count settled fee current ∧
        (buildChild api job.anchor changeScript fee current).1 = result ∧
        ∀ childTx, result = .ok childTx → childTx.weight = settled := by
  induction iterations generalizing asked settledChildWeight feeNeeded wallet with
  | zero =>
    rw [settleChild] at hresult
    cases hresult
    exact .inl rfl
  | succ iterations ih =>
    rw [settleChild] at hresult
    cases hbuild : buildChild api job.anchor changeScript feeNeeded wallet with
    | mk built after =>
      rw [hbuild] at hresult
      cases built with
      | error error =>
        cases hresult
        refine .inr ⟨asked, settledChildWeight, feeNeeded, wallet, by omega, h, ?_, ?_⟩
        · rw [hbuild]
        · intro childTx hok
          cases hok
      | ok childTx =>
        dsimp only at hresult
        split at hresult
        · rename_i hsettled
          cases hresult
          refine .inr ⟨asked, settledChildWeight, feeNeeded, wallet, by omega, h, ?_, ?_⟩
          · rw [hbuild]
          · intro other hok
            cases hok
            exact hsettled
        · rename_i hmoved
          cases ih (h.again hbuild hmoved) hresult with
          | inl hunsettled => exact .inl hunsettled
          | inr hlater =>
            obtain ⟨count, settled, fee, current, hlt, hrest⟩ := hlater
            exact .inr ⟨count, settled, fee, current, by omega, hrest⟩

end

end Asked

variable {chosen : List LocalCoin} {childTx : Transaction} {coin : LocalCoin}
  {requiredOutpoint : Option OutPoint}

section Child

variable {parentTxHex : String} {rate : Option ℚ}

theorem mem_of_map_outpoint {coins : List LocalCoin} (hnodup : (coins.map outpoint).Nodup)
    {other : LocalCoin} (hcoin : coin ∈ coins) (hother : other ∈ coins)
    (heq : coin.outpoint = other.outpoint) : coin = other :=
  List.inj_on_of_nodup_map hnodup hcoin hother heq

variable {required : List LocalCoin}

theorem BuilderTakes.required_confirmed (hdoc : api.Documented) {request : ChildRequest}
    (htakes : BuilderTakes api wallet request required chosen)
    (hlargest : ∀ outpoint ∈ request.requiredOutpoint,
      outpointWithLargestConfirmedValue api wallet = some outpoint) :
    ∀ coin ∈ required, coin ∈ confirmedCoins api wallet := by
  intro coin hcoin
  have hout : coin.outpoint ∈ request.requiredOutpoint.toList := by
    rw [← htakes.required_eq]
    exact List.mem_map_of_mem hcoin
  have hsome := hlargest coin.outpoint (Option.mem_toList.mp hout)
  obtain ⟨largest, hfound, hsame⟩ := Option.map_eq_some_iff.mp hsome
  have hmem := largestCoin_mem hfound
  have hlisted : largest ∈ api.listUnspent wallet := (List.mem_filter.mp hmem).1
  rw [mem_of_map_outpoint (hdoc.unspent_nodup wallet) (htakes.required_mem coin hcoin) hlisted
    hsame.symm]
  exact hmem

theorem BuilderTakes.congr {other : Wallet} {request : ChildRequest}
    (htakes : BuilderTakes api other request required chosen)
    (hunspent : api.listUnspent other = api.listUnspent wallet)
    (htip : api.tipHeight other = api.tipHeight wallet) :
    BuilderTakes api wallet request required chosen := { htakes with
  required_mem := by
    rw [← hunspent]
    exact htakes.required_mem
  chosen_mem := by
    rw [← coinsWithConfirmations_congr request.minConfirmations hunspent htip]
    exact htakes.chosen_mem }

/-- A child that a build makes spends the coins that the builder takes for the fee. The largest
coin is required where the builder ran short without it. -/
theorem buildChild_ok (hdoc : api.Documented)
    (hbuild : (buildChild api job.anchor changeScript feeNeeded wallet).1 = .ok childTx) :
    ∃ requiredOutpoint required chosen,
      (∀ outpoint ∈ requiredOutpoint,
        outpointWithLargestConfirmedValue api wallet = some outpoint ∧
          RunsShort api (childRequest job.anchor changeScript feeNeeded none) wallet) ∧
      BuilderTakes api wallet (childRequest job.anchor changeScript feeNeeded requiredOutpoint)
        required chosen ∧
      childTx.inputs.Perm (job.anchor.1 :: (required ++ chosen).map outpoint) ∧
      (childTx.outputs.map TxOut.value).sum + feeNeeded =
        job.anchor.2.value + ((required ++ chosen).map value).sum ∧
      feeNeeded + api.dustLimit changeScript ≤
        job.anchor.2.value + ((required ++ chosen).map value).sum ∧
      IsChildOf api job.anchor.1 changeScript (required ++ chosen) childTx := by
  have hfinish : ∃ required current,
      (finishChild api (childRequest job.anchor changeScript feeNeeded required) current).1 =
          .ok childTx ∧
        api.listUnspent current = api.listUnspent wallet ∧
        api.tipHeight current = api.tipHeight wallet ∧
        ∀ outpoint ∈ required, outpointWithLargestConfirmedValue api wallet = some outpoint ∧
          RunsShort api (childRequest job.anchor changeScript feeNeeded none) wallet := by
    rw [buildChild_eq job hdoc] at hbuild
    have hfirst : ∀ outpoint ∈ (none : Option OutPoint),
        outpointWithLargestConfirmedValue api wallet = some outpoint ∧
          RunsShort api (childRequest job.anchor changeScript feeNeeded none) wallet := by
      intro outpoint hmem
      cases hmem
    split at hbuild
    · rename_i hshort
      split at hbuild
      · exact ⟨none, wallet, hbuild, rfl, rfl, hfirst⟩
      · rename_i largest hlargest
        have hkept := finishChild_after
          (childRequest job.anchor changeScript feeNeeded none) wallet hdoc
        refine ⟨some largest, _, hbuild, hkept.1, hkept.2, ?_⟩
        intro outpoint hmem
        cases hmem
        exact ⟨hlargest, (finishChild_insufficient_iff hdoc).mp hshort⟩
    · exact ⟨none, wallet, hbuild, rfl, rfl, hfirst⟩
  obtain ⟨requiredOutpoint, current, hok, hunspent, htip, hlargest⟩ := hfinish
  cases hpair : finishChild api (childRequest job.anchor changeScript feeNeeded requiredOutpoint)
      current with
  | mk result last =>
    rw [hpair] at hok
    cases hok
    obtain ⟨required, chosen, htakes, hinputs, hbalance, hchange, hchild⟩ :=
      finishChild_ok hdoc hpair
    exact ⟨requiredOutpoint, required, chosen, hlargest, htakes.congr hunspent htip, hinputs,
      hbalance, hchange, hchild⟩

theorem BuilderTakes.confirmed (hdoc : api.Documented) (htakes : BuilderTakes api wallet
      (childRequest job.anchor changeScript feeNeeded requiredOutpoint) required chosen)
    (hlargest : ∀ outpoint ∈ requiredOutpoint,
      outpointWithLargestConfirmedValue api wallet = some outpoint) :
    ∀ coin ∈ required ++ chosen, coin ∈ confirmedCoins api wallet := by
  intro coin hcoin
  cases List.mem_append.mp hcoin with
  | inl hreq => exact htakes.required_confirmed hdoc hlargest coin hreq
  | inr hchosen => exact htakes.chosen_mem coin hchosen

/-- A child that a build makes pays the fee that is asked for with confirmed coins. -/
theorem buildChild_pays (hdoc : api.Documented)
    (hbuild : (buildChild api job.anchor changeScript feeNeeded wallet).1 = .ok childTx) :
    ∃ coins : List LocalCoin, (coins.map outpoint).Nodup ∧
      (∀ coin ∈ coins, coin ∈ confirmedCoins api wallet) ∧
      childTx.inputs.Perm (job.anchor.1 :: coins.map outpoint) ∧
      (childTx.outputs.map TxOut.value).sum + feeNeeded =
        job.anchor.2.value + (coins.map value).sum := by
  obtain ⟨requiredOutpoint, required, chosen, hlargest, htakes, hinputs, hbalance, _⟩ :=
    buildChild_ok hdoc hbuild
  have hconfirmed := htakes.confirmed hdoc fun outpoint hmem => (hlargest outpoint hmem).1
  exact ⟨required ++ chosen, htakes.nodup, hconfirmed, hinputs, hbalance⟩

end Child

section Report

variable {parentTxHex : String} {rate : Option ℚ}

theorem confirmedCoins_asked (hdoc : api.Documented)
    (h : AsksFor api job changeScript (revealedChange api wallet).2 asked settledChildWeight
      feeNeeded after) : confirmedCoins api after = confirmedCoins api wallet := by
  have hkept := h.kept hdoc
  apply coinsWithConfirmations_congr 1
  · exact hkept.1.trans (hdoc.reveal_unspent wallet .internal)
  · exact hkept.2.trans (hdoc.reveal_tip wallet .internal)

theorem signP2aCpfpChild_of_job (hjob : childJob api parentTxHex rate = .ok job) :
    signP2aCpfpChild api wallet parentTxHex rate =
      settleChild api job.parentTx.weight job.feeRate job.anchor (revealedChange api wallet).1
        MAX_FEE_ITERATIONS 0 (weightFee job.feeRate job.parentTx.weight)
        (revealedChange api wallet).2 := by
  rw [signP2aCpfpChild, hjob]
  rfl

section

variable (hdoc : api.Documented)
include hdoc

/-- A child that is returned pays for itself and its parent. -/
theorem signP2aCpfpChild_pays
    (hsigned : (signP2aCpfpChild api wallet parentTxHex rate).1 = .ok childTx) :
    ∃ job, childJob api parentTxHex rate = .ok job ∧ PaysForBoth api wallet job childTx := by
  cases hjob : childJob api parentTxHex rate with
  | error error =>
    rw [signP2aCpfpChild, hjob] at hsigned
    cases hsigned
  | ok job =>
    rw [signP2aCpfpChild_of_job hjob] at hsigned
    apply Exists.intro job
    apply And.intro rfl
    cases hloop : settleChild api job.parentTx.weight job.feeRate job.anchor
        (revealedChange api wallet).1 MAX_FEE_ITERATIONS 0
        (weightFee job.feeRate job.parentTx.weight) (revealedChange api wallet).2 with
    | mk result last =>
      rw [hloop] at hsigned
      dsimp only at hsigned
      rw [hsigned] at hloop
      cases settleChild_cases .start hloop with
      | inl hunsettled => cases hunsettled
      | inr hlast =>
        obtain ⟨count, settled, fee, current, _, hasked, hbuild, hweight⟩ := hlast
        obtain ⟨coins, hnodup, hconfirmed, hinputs, hbalance⟩ := buildChild_pays hdoc hbuild
        rw [confirmedCoins_asked hdoc hasked] at hconfirmed
        refine ⟨coins, hnodup, hconfirmed, hinputs, ?_⟩
        -- The fee was asked for a child of the same weight.
        rw [hweight childTx rfl, ← hasked.fee_eq, Nat.add_comm]
        exact Nat.le_of_eq hbalance

/-- A child pays, and a report of insufficient funds is true, exactly where no fee that is asked
for is a dead end although some coins can pay. -/
theorem signsSoundly_iff_findsFundsThatAreThere :
    SignsSoundly api wallet parentTxHex rate ↔
      FindsFundsThatAreThere api wallet parentTxHex rate := by
  constructor
  · intro hsound job hjob hcan count settled fee current hlt hasked hdead
    have hmarked := (buildChild_insufficient_iff hdoc job).mpr hdead
    have hloop := hasked.settleChild_eq (Nat.le_of_lt hlt)
    have hsteps : MAX_FEE_ITERATIONS - count = MAX_FEE_ITERATIONS - count - 1 + 1 := by omega
    rw [← signP2aCpfpChild_of_job hjob, hsteps, settleChild] at hloop
    cases hbuild : buildChild api job.anchor (revealedChange api wallet).1 fee current with
    | mk result last =>
        rw [hbuild] at hmarked hloop
        cases result with
        | ok childTx => cases hmarked
        | error error =>
            obtain ⟨other, hother, hcannot⟩ :=
              hsound.report error (congrArg Prod.fst hloop) hmarked
            rw [hjob] at hother
            cases hother
            exact hcannot hcan
  · intro hfinds
    refine ⟨fun childTx hsigned => signP2aCpfpChild_pays hdoc hsigned, ?_⟩
    intro error herror hmarked
    cases hjob : childJob api parentTxHex rate with
    | error invalid =>
        rw [signP2aCpfpChild, hjob] at herror
        cases herror
        rw [childJob_unmarked hjob] at hmarked
        cases hmarked
    | ok job =>
        apply Exists.intro job
        apply And.intro rfl
        intro hcan
        rw [signP2aCpfpChild_of_job hjob] at herror
        cases hloop : settleChild api job.parentTx.weight job.feeRate job.anchor
            (revealedChange api wallet).1 MAX_FEE_ITERATIONS 0
            (weightFee job.feeRate job.parentTx.weight) (revealedChange api wallet).2 with
        | mk result last =>
            rw [hloop] at herror
            dsimp only at herror
            rw [herror] at hloop
            cases settleChild_cases .start hloop with
            | inl hunsettled =>
                cases hunsettled
                have hother : (CryptoError.transaction
                    "Could not settle a Pay-to-Anchor child fee").isInsufficientFunds = false := by
                  decide
                rw [hother] at hmarked
                cases hmarked
            | inr hlast =>
                obtain ⟨count, settled, fee, current, hlt, hasked, hbuild, _⟩ := hlast
                apply hfinds job hjob hcan count settled fee current (by omega) hasked
                apply (buildChild_insufficient_iff hdoc job).mp
                rw [hbuild]
                exact hmarked

theorem RunsShort.leavesDust {current : Wallet}
    (hunspent : api.listUnspent current = api.listUnspent wallet)
    (htip : api.tipHeight current = api.tipHeight wallet)
    (hshort : RunsShort api (childRequest job.anchor changeScript feeNeeded requiredOutpoint)
      current) :
    job.anchor.2.value + ((confirmedCoins api wallet).map value).sum < feeNeeded ∨
      ¬ AlwaysLeavesChange api wallet
        (childRequest job.anchor changeScript feeNeeded requiredOutpoint) := by
  obtain ⟨_, error, herror, hisShort⟩ := hshort
  cases hdoc.finish_short _ _ error _ (Prod.ext herror rfl) hisShort with
  | inl hall =>
    have hsame : coinsWithConfirmations api 1 current = confirmedCoins api wallet :=
      coinsWithConfirmations_congr 1 hunspent htip
    rw [← hsame]
    exact .inl hall
  | inr htaken =>
    obtain ⟨required, chosen, htakes, hdust⟩ := htaken
    right
    intro hleaves
    exact absurd (hleaves required chosen (htakes.congr hunspent htip)) (Nat.not_le_of_lt hdust)

/-- Where funds are found, a fee is no dead end. -/
theorem FindsFunds.not_isDeadEnd {current : Wallet}
    (hfinds : FindsFunds api job changeScript feeNeeded wallet)
    (hunspent : api.listUnspent current = api.listUnspent wallet)
    (htip : api.tipHeight current = api.tipHeight wallet) :
    ¬ IsDeadEnd api job changeScript feeNeeded current := by
  intro hdead
  have hcovers := Nat.not_lt_of_le hfinds.covers
  cases hfinds.leaves with
  | inl hfirst =>
    cases hdead.1.leavesDust hdoc hunspent htip with
    | inl hall => exact hcovers hall
    | inr hdust => exact hdust hfirst
  | inr hsecond =>
    obtain ⟨largest, hlargest, hleaves⟩ := hsecond
    have hoffered : largest ∈ outpointWithLargestConfirmedValue api current := by
      unfold outpointWithLargestConfirmedValue confirmedCoins at hlargest ⊢
      rw [coinsWithConfirmations_congr 1 hunspent htip]
      exact hlargest
    have hshort := hdead.2 largest hoffered
    have hfinishUnspent := hdoc.finish_unspent
      (childRequest job.anchor changeScript feeNeeded none) current
    have hfinishTip := hdoc.finish_tip
      (childRequest job.anchor changeScript feeNeeded none) current
    cases hshort.leavesDust hdoc (hfinishUnspent.trans hunspent) (hfinishTip.trans htip) with
    | inl hall => exact hcovers hall
    | inr hdust => exact hdust hleaves

/-- One coin that pays the fee and leaves change is enough: the largest one does, and the builder
adds nothing to it. -/
theorem findsFunds_of_coin (hcoin : coin ∈ confirmedCoins api wallet)
    (hworth : feeNeeded + api.dustLimit changeScript ≤ job.anchor.2.value + coin.value) :
    FindsFunds api job changeScript feeNeeded wallet := by
  obtain ⟨largest, hlargest, hle⟩ := le_largestCoin hcoin
  have hoffered : largest.outpoint ∈ outpointWithLargestConfirmedValue api wallet := by
    rw [outpointWithLargestConfirmedValue, hlargest]
    rfl
  have hmem := largestCoin_mem hlargest
  constructor
  · have hone : largest.value ≤ ((confirmedCoins api wallet).map value).sum :=
      List.single_le_sum (fun _ _ => Nat.zero_le _) _ (List.mem_map_of_mem hmem)
    omega
  · refine .inr ⟨largest.outpoint, hoffered, ?_⟩
    intro required chosen htakes
    have hrequired : largest ∈ required := by
      have hout : largest.outpoint ∈ required.map outpoint := by
        rw [htakes.required_eq]
        exact List.mem_singleton.mpr rfl
      obtain ⟨taken, htaken, hsame⟩ := List.mem_map.mp hout
      rw [← mem_of_map_outpoint (hdoc.unspent_nodup wallet) (htakes.required_mem taken htaken)
        (List.mem_filter.mp hmem).1 hsame]
      exact htaken
    have hone : largest.value ≤ ((required ++ chosen).map value).sum :=
      List.single_le_sum (fun _ _ => Nat.zero_le _) _
        (List.mem_map_of_mem (List.mem_append_left chosen hrequired))
    show feeNeeded + api.dustLimit changeScript ≤
      job.anchor.2.value + ((required ++ chosen).map value).sum
    omega

/-- A child never fails for lack of funds when one confirmed coin pays the fee and leaves
change above dust. -/
theorem buildChild_funded_of_coin (hcoin : coin ∈ confirmedCoins api wallet)
    (hworth : feeNeeded + api.dustLimit changeScript ≤ job.anchor.2.value + coin.value) :
    resultIsInsufficientFunds
      (buildChild api job.anchor changeScript feeNeeded wallet).1 = false := by
  rw [Bool.eq_false_iff]
  intro hmarked
  exact (findsFunds_of_coin hdoc hcoin hworth).not_isDeadEnd hdoc rfl rfl
    ((buildChild_insufficient_iff hdoc job).mp hmarked)

end

end Report

/-! ## A builder that takes the coins in their order -/

section Greedy

def takeUntilCovered (fee : Nat) : Nat → List LocalCoin → List LocalCoin
  | _, [] => []
  | funds, coin :: rest =>
    if fee ≤ funds then [] else coin :: takeUntilCovered fee (funds + coin.value) rest

variable {fee funds : Nat} {coins : List LocalCoin}

theorem takeUntilCovered_prefix : takeUntilCovered fee funds coins <+: coins := by
  induction coins generalizing funds with
  | nil => exact List.nil_prefix
  | cons coin rest ih =>
    rw [takeUntilCovered]
    split
    · exact List.nil_prefix
    · rw [List.prefix_cons_inj]
      exact ih

theorem takeUntilCovered_stops {fewer : List LocalCoin}
    (hfewer : fewer <+: takeUntilCovered fee funds coins)
    (hne : fewer ≠ takeUntilCovered fee funds coins) :
    funds + (fewer.map value).sum < fee := by
  induction coins generalizing funds fewer with
  | nil => exact absurd (List.prefix_nil.mp hfewer) hne
  | cons coin rest ih =>
    rw [takeUntilCovered] at hfewer hne
    split at hfewer
    · rename_i hcovered
      rw [if_pos hcovered] at hne
      exact absurd (List.prefix_nil.mp hfewer) hne
    · rename_i hopen
      rw [if_neg hopen] at hne
      cases fewer with
      | nil =>
        simp
        omega
      | cons first others =>
        obtain ⟨hfirst, hothers⟩ := List.cons_prefix_cons.mp hfewer
        rw [hfirst] at hne ⊢
        have hrest := ih hothers fun heq => hne (by rw [heq])
        rw [List.map_cons, List.sum_cons]
        omega

theorem takeUntilCovered_all
    (hshort : funds + ((takeUntilCovered fee funds coins).map value).sum < fee) :
    takeUntilCovered fee funds coins = coins := by
  induction coins generalizing funds with
  | nil => rfl
  | cons coin rest ih =>
    rw [takeUntilCovered] at hshort ⊢
    split at hshort
    · simp at hshort
      omega
    · rename_i hopen
      rw [if_neg hopen, ih]
      rw [List.map_cons, List.sum_cons] at hshort
      omega

end Greedy

def largerCoin : LocalCoin where
  outpoint := { txid := "a1", vout := 0 }
  value := 1300
  confirmationHeightUpperBound := some 100

def smallerCoin : LocalCoin where
  outpoint := { txid := "a2", vout := 0 }
  value := 1250
  confirmationHeightUpperBound := some 100

def twoCoins : List LocalCoin := [largerCoin, smallerCoin]

def optionalCoins (request : ChildRequest) : List LocalCoin :=
  (twoCoins.filter fun coin => request.minConfirmations ≤ confirmations 110 coin).filter fun coin =>
    some coin.outpoint ≠ request.requiredOutpoint

def requiredCoins (request : ChildRequest) : Option (List LocalCoin) :=
  match request.requiredOutpoint with
  | none => some []
  | some outpoint => (twoCoins.find? fun coin => coin.outpoint = outpoint).map fun coin => [coin]

def takenCoins (request : ChildRequest) (required : List LocalCoin) : List LocalCoin :=
  takeUntilCovered request.feeAbsolute (fundsOf request required) (optionalCoins request)

def sampleFinish (request : ChildRequest) : Except CreateTxError ChildPsbt :=
  match requiredCoins request with
  | none => .error (.other "UTXO not found in the internal database")
  | some required =>
    let taken := required ++ takenCoins request required
    if fundsOf request taken < request.feeAbsolute then
      .error (.coinSelection request.feeAbsolute "Insufficient funds")
    else if fundsOf request taken < request.feeAbsolute + 294 then
      .error (.coinSelection 294 "Insufficient funds")
    else .ok {
      txInputs := request.anchorOutpoint :: taken.map outpoint
      outputs := [{
        scriptPubkey := request.drainTo
        value := fundsOf request taken - request.feeAbsolute }]
      witnessWeight := 0 }

def sampleParent : Transaction where
  txid := "b0"
  inputs := [{ txid := "b1", vout := 0 }]
  outputs := [{ scriptPubkey := p2aScript, value := 0 }]
  weight := 500
  weight_pos := by decide

def twoCoinsApi : BumperApi Unit where
  deserializeHex hex := if hex = "b0" then .ok sampleParent else .error "invalid hex"
  revealNextAddress wallet _ := ("0014cc", wallet)
  tipHeight _ := 110
  listUnspent _ := twoCoins
  addForeignUtxo _ _ _ := .ok ()
  addUtxo _ _ := .ok ()
  finish request wallet := (sampleFinish request, wallet)
  signTransaction _ psbt := .ok (true, { psbt with witnessWeight := 108 })
  extractTx psbt := .ok {
    txid := "c0"
    inputs := psbt.txInputs
    outputs := psbt.outputs
    weight := 60 + 272 * psbt.txInputs.length
    weight_pos := Nat.lt_of_lt_of_le (by decide : 0 < 60) (Nat.le_add_right _ _) }
  dustLimit _ := 294

section TwoCoins

variable {request : ChildRequest} {required : List LocalCoin}

theorem fundsOf_append (coins others : List LocalCoin) :
    fundsOf request (coins ++ others) = fundsOf request coins + (others.map value).sum := by
  unfold fundsOf
  rw [List.map_append, List.sum_append, Nat.add_assoc]

section

variable (hrequired : requiredCoins request = some required)
include hrequired

theorem requiredCoins_spec :
    required.map outpoint = request.requiredOutpoint.toList ∧
      ∀ coin ∈ required, coin ∈ twoCoins := by
  unfold requiredCoins at hrequired
  split at hrequired
  · rename_i hnone
    cases hrequired
    rw [hnone]
    exact ⟨rfl, fun coin hcoin => absurd hcoin List.not_mem_nil⟩
  · rename_i outpoint hsome
    obtain ⟨coin, hfind, hcoin⟩ := Option.map_eq_some_iff.mp hrequired
    have hequal := List.find?_some hfind
    have hmem := List.mem_of_find?_eq_some hfind
    rw [← hcoin, hsome]
    constructor
    · simpa using hequal
    · intro other hother
      rw [List.mem_singleton.mp hother]
      exact hmem

theorem sampleFinish_takes
    (hcovers : request.feeAbsolute ≤ fundsOf request (required ++ takenCoins request required)) :
    BuilderTakes twoCoinsApi () request required (takenCoins request required) where
  required_eq := (requiredCoins_spec hrequired).1
  required_mem := (requiredCoins_spec hrequired).2
  nodup := by
    have hoptional : (takenCoins request required) <+: optionalCoins request :=
      takeUntilCovered_prefix
    have htwo : (twoCoins.map outpoint).Nodup := by decide
    rw [List.map_append, (requiredCoins_spec hrequired).1, List.nodup_append]
    refine ⟨?_, ?_, ?_⟩
    · cases request.requiredOutpoint with
      | none => exact List.nodup_nil
      | some outpoint => exact List.nodup_singleton outpoint
    · apply List.Nodup.sublist _ htwo
      apply List.Sublist.map
      exact hoptional.sublist.trans (List.filter_sublist.trans List.filter_sublist)
    · intro outpoint hreq other hother heq
      obtain ⟨coin, hcoin, hsame⟩ := List.mem_map.mp hother
      have hapart := (List.mem_filter.mp (hoptional.subset hcoin)).2
      rw [Option.mem_toList] at hreq
      rw [hreq, heq, ← hsame] at hapart
      simp at hapart
  chosen_mem := by
    intro coin hcoin
    have hoptional : (takenCoins request required) <+: optionalCoins request :=
      takeUntilCovered_prefix
    exact (List.mem_filter.mp (hoptional.subset hcoin)).1
  covers := hcovers
  stops := by
    intro fewer hfewer hne
    rw [fundsOf_append]
    exact takeUntilCovered_stops hfewer hne

theorem funds_le_required_optional :
    fundsOf request (coinsWithConfirmations twoCoinsApi request.minConfirmations ()) ≤
      fundsOf request (required ++ optionalCoins request) := by
  have hsplit : ∀ coins : List LocalCoin, (coins.map outpoint).Nodup →
      (∀ coin ∈ coins, some coin.outpoint = request.requiredOutpoint → coin ∈ required) →
        (coins.map value).sum ≤ (required.map value).sum +
          ((coins.filter fun coin => some coin.outpoint ≠ request.requiredOutpoint).map
            value).sum := by
    intro coins hnodup hkept
    induction coins with
    | nil => exact Nat.zero_le _
    | cons coin rest ih =>
      rw [List.map_cons, List.nodup_cons] at hnodup
      by_cases hsame : some coin.outpoint = request.requiredOutpoint
      · have hrest : rest.filter (fun coin => some coin.outpoint ≠ request.requiredOutpoint) =
            rest := by
          rw [List.filter_eq_self]
          intro other hother
          rw [decide_eq_true_iff]
          intro heq
          rw [← hsame] at heq
          apply hnodup.1
          rw [← Option.some.inj heq]
          exact List.mem_map_of_mem hother
        have hone : coin.value ≤ (required.map value).sum :=
          List.single_le_sum (fun _ _ => Nat.zero_le _) _
            (List.mem_map_of_mem (hkept coin List.mem_cons_self hsame))
        rw [List.filter_cons_of_neg (by simpa using hsame), hrest, List.map_cons, List.sum_cons]
        omega
      · have hrest := ih hnodup.2 fun other hother =>
          hkept other (List.mem_cons_of_mem _ hother)
        rw [List.filter_cons_of_pos (by simpa using hsame), List.map_cons, List.map_cons,
          List.sum_cons, List.sum_cons]
        omega
  rw [fundsOf_append]
  unfold fundsOf
  rw [Nat.add_assoc]
  apply Nat.add_le_add_left
  apply hsplit
  · have htwo : (twoCoins.map outpoint).Nodup := by decide
    exact List.Nodup.sublist (List.Sublist.map _ List.filter_sublist) htwo
  · intro coin hcoin hsame
    have hlisted : coin ∈ twoCoins := (List.mem_filter.mp hcoin).1
    unfold requiredCoins at hrequired
    rw [← hsame] at hrequired
    obtain ⟨found, hfind, heq⟩ := Option.map_eq_some_iff.mp hrequired
    have hequal := List.find?_some hfind
    have hmem := List.mem_of_find?_eq_some hfind
    have htwo : (twoCoins.map outpoint).Nodup := by decide
    rw [decide_eq_true_iff] at hequal
    rw [← heq, mem_of_map_outpoint htwo hlisted hmem hequal.symm]
    exact List.mem_cons_self

end

theorem twoCoinsApi_documented : twoCoinsApi.Documented where
  reveal_unspent _ _ := rfl
  reveal_tip _ _ := rfl
  finish_unspent _ _ := rfl
  finish_tip _ _ := rfl
  unspent_nodup _ := by
    show (twoCoins.map outpoint).Nodup
    decide
  finish_ok request wallet psbt after hfinish := by
    have hpsbt : sampleFinish request = .ok psbt := (Prod.mk.inj hfinish).1
    unfold sampleFinish at hpsbt
    split at hpsbt
    · cases hpsbt
    · rename_i required hrequired
      dsimp only at hpsbt
      split at hpsbt
      · cases hpsbt
      · rename_i hcovered
        split at hpsbt
        · cases hpsbt
        · rename_i hchange
          cases hpsbt
          have htakes := sampleFinish_takes hrequired (Nat.le_of_not_lt hcovered)
          exact ⟨required, takenCoins request required, htakes, List.Perm.refl _,
            Nat.le_of_not_lt hchange, rfl⟩
  finish_short request wallet error after hfinish hshort := by
    have herror : sampleFinish request = .error error := (Prod.mk.inj hfinish).1
    unfold sampleFinish at herror
    split at herror
    · cases herror
      cases hshort
    · rename_i required hrequired
      dsimp only at herror
      split at herror
      · rename_i huncovered
        apply Or.inl
        have hall : takenCoins request required = optionalCoins request := by
          apply takeUntilCovered_all
          rw [← fundsOf_append]
          exact huncovered
        rw [hall] at huncovered
        exact Nat.lt_of_le_of_lt (funds_le_required_optional hrequired) huncovered
      · rename_i hcovered
        split at herror
        · rename_i hdust
          exact .inr ⟨required, takenCoins request required,
            sampleFinish_takes hrequired (Nat.le_of_not_lt hcovered), hdust⟩
        · cases herror
  signed wallet psbt finalized signed hsigned childTx hextract := by
    cases hsigned
    cases hextract
    exact ⟨rfl, rfl⟩
  finish_text request wallet text after hfinish := by
    have herror : sampleFinish request = .error (.other text) := (Prod.mk.inj hfinish).1
    unfold sampleFinish at herror
    split at herror
    · cases herror
      decide
    · dsimp only at herror
      split at herror
      · cases herror
      · split at herror
        · cases herror
        · cases herror
  foreign_text outpoint output weight text hforeign := by cases hforeign
  add_text wallet outpoint text hadd := by cases hadd
  sign_error wallet psbt error hsign := by cases hsign
  extract_text psbt text hextract := by cases hextract

end TwoCoins

def sampleJob (feeRate : Nat) : ChildJob where
  parentTx := sampleParent
  anchor := ({ txid := "b0", vout := 0 }, { scriptPubkey := p2aScript, value := 0 })
  feeRate := feeRate

/-- The larger coin alone pays a fee of 1006 satoshis and leaves 294. -/
theorem buildChild_funded_of_largerCoin :
    resultIsInsufficientFunds
      (buildChild twoCoinsApi (sampleJob 250).anchor "0014cc" 1006 ()).1 = false :=
  buildChild_funded_of_coin twoCoinsApi_documented
    (by decide +kernel : largerCoin ∈ confirmedCoins twoCoinsApi ()) (by decide +kernel)

end Bitboard.Crypto
