/-
# Which children are signed, and which funds are found

A child that is returned has the weight that its fee was asked for. A report of insufficient funds
is a dead end of the builder: the coins that cover the fee leave dust, and so do those that come
with the largest one. A further coin would have helped, but none is tried.
-/

import Bitboard.Crypto.PayToAnchor

namespace Bitboard.Crypto

variable {Wallet : Type} {api : BumperApi Wallet} {wallet after : Wallet} {request : ChildRequest}
  {anchor : OutPoint × TxOut} {changeScript : String} {feeNeeded : Nat}

section Marker

theorem insufficientFunds_isInsufficientFunds (detail : String) :
    (insufficientFunds detail).isInsufficientFunds = true := by
  show BARK_CPFP_INSUFFICIENT_FUNDS.toList.isPrefixOf
    (BARK_CPFP_INSUFFICIENT_FUNDS ++ ": " ++ detail).toList = true
  rw [List.isPrefixOf_iff_prefix, String.toList_append, String.toList_append, List.append_assoc]
  exact List.prefix_append _ _

theorem transaction_unmarked (start : Char) {rest : List Char} {message : String}
    (hmessage : message.toList = start :: rest) (hstart : start ≠ 'b') :
    (CryptoError.transaction message).isInsufficientFunds = false := by
  have hmarker : BARK_CPFP_INSUFFICIENT_FUNDS.toList =
      'b' :: "ark_cpfp_insufficient_funds".toList := by decide
  show BARK_CPFP_INSUFFICIENT_FUNDS.toList.isPrefixOf message.toList = false
  rw [hmessage, hmarker, List.isPrefixOf]
  simp [Ne.symm hstart]

theorem toCryptoError_isInsufficientFunds (hdoc : api.Documented) {error : CreateTxError}
    (hfinish : api.finish request wallet = (.error error, after)) :
    error.toCryptoError.isInsufficientFunds = error.isShort := by
  cases error with
  | coinSelection | outputBelowDustLimit => exact insufficientFunds_isInsufficientFunds _
  | other text => exact hdoc.finish_text request wallet text after hfinish

variable {error : CryptoError}

theorem addUtxos_unmarked (hdoc : api.Documented)
    (hadd : addUtxos api request wallet = .error error) : error.isInsufficientFunds = false := by
  unfold addUtxos at hadd
  split at hadd
  · rename_i text hforeign
    cases hadd
    exact hdoc.foreign_text _ _ _ text hforeign
  · split at hadd
    · cases hadd
    · rename_i outpoint _
      split at hadd
      · rename_i text hutxo
        cases hadd
        exact hdoc.add_text wallet outpoint text hutxo
      · cases hadd

theorem signedChild_unmarked (hdoc : api.Documented) {psbt : ChildPsbt}
    (hsigned : signedChild api wallet request psbt = .error error) :
    error.isInsufficientFunds = false := by
  unfold signedChild at hsigned
  split at hsigned
  · rename_i signError hsign
    cases hsigned
    exact hdoc.sign_error wallet psbt error hsign
  · split at hsigned
    · split at hsigned
      · rename_i text hextract
        cases hsigned
        exact hdoc.extract_text _ text hextract
      · split at hsigned
        · cases hsigned
        · cases hsigned
          decide
    · cases hsigned
      decide

theorem feeRate_unmarked {rate : Option ℚ}
    (hrate : feeRateFromSatPerVbFloat rate = .error error) : error.isInsufficientFunds = false := by
  unfold feeRateFromSatPerVbFloat at hrate
  cases hvalid : validateFeeRateSatPerVb rate with
  | error invalid =>
    rw [hvalid] at hrate
    cases hrate
    unfold validateFeeRateSatPerVb at hvalid
    split at hvalid
    · cases hvalid
      decide
    · split at hvalid
      · cases hvalid
        decide
      · split at hvalid
        · cases hvalid
          decide
        · cases hvalid
  | ok finite =>
    rw [hvalid] at hrate
    simp only [bind, Except.bind] at hrate
    split at hrate
    · cases hrate
      decide
    · split at hrate
      · cases hrate
        decide
      · cases hrate

theorem childJob_unmarked {parentTxHex : String} {rate : Option ℚ}
    (hjob : childJob api parentTxHex rate = .error error) : error.isInsufficientFunds = false := by
  unfold childJob at hjob
  split at hjob
  · cases hjob
    apply transaction_unmarked 'P'
    · rw [String.toList_append]
      rfl
    · decide
  · split at hjob
    · cases hjob
      apply transaction_unmarked 'P'
      · rw [String.toList_append, String.toList_append]
        rfl
      · decide
    · split at hjob
      · rename_i rateError hrate
        cases hjob
        exact feeRate_unmarked hrate
      · cases hjob

end Marker

section Build

theorem finishChild_of_added (hadd : addUtxos api request wallet = .ok ()) :
    finishChild api request wallet =
      match api.finish request wallet with
      | (.error error, after) => (.error error.toCryptoError, after)
      | (.ok psbt, after) => (signedChild api after request psbt, after) := by
  unfold finishChild
  rewrite [hadd]
  rfl

/-- A build reports insufficient funds exactly when the builder runs short. -/
theorem finishChild_insufficient_iff (hdoc : api.Documented) :
    resultIsInsufficientFunds (finishChild api request wallet).1 = true ↔
      RunsShort api request wallet := by
  cases hadd : addUtxos api request wallet with
  | error error =>
    have hunmarked := addUtxos_unmarked hdoc hadd
    have hresult : (finishChild api request wallet).1 = .error error := by
      rw [finishChild, hadd]
    rw [hresult]
    constructor
    · intro hmarked
      rw [resultIsInsufficientFunds, hunmarked] at hmarked
      cases hmarked
    · intro hshort
      rw [RunsShort, hadd] at hshort
      cases hshort.1
  | ok added =>
    rw [finishChild_of_added hadd]
    cases hfinish : api.finish request wallet with
    | mk result after =>
      cases result with
      | error error =>
        dsimp only
        rw [resultIsInsufficientFunds, toCryptoError_isInsufficientFunds hdoc hfinish]
        constructor
        · intro hshort
          exact ⟨hadd, error, congrArg Prod.fst hfinish, hshort⟩
        · intro hshort
          obtain ⟨_, other, hother, hisShort⟩ := hshort
          rw [hfinish] at hother
          cases hother
          exact hisShort
      | ok psbt =>
        dsimp only
        constructor
        · intro hmarked
          cases hsigned : signedChild api after request psbt with
          | error error =>
            rw [hsigned, resultIsInsufficientFunds, signedChild_unmarked hdoc hsigned]
              at hmarked
            cases hmarked
          | ok childTx =>
            rw [hsigned] at hmarked
            cases hmarked
        · intro hshort
          obtain ⟨_, other, hother, _⟩ := hshort
          rw [hfinish] at hother
          cases hother

theorem finishChild_after (request : ChildRequest) (wallet : Wallet) (hdoc : api.Documented) :
    api.listUnspent (finishChild api request wallet).2 = api.listUnspent wallet ∧
      api.tipHeight (finishChild api request wallet).2 = api.tipHeight wallet := by
  cases hadd : addUtxos api request wallet with
  | error error =>
    rw [finishChild, hadd]
    exact ⟨rfl, rfl⟩
  | ok added =>
    have hunspent := hdoc.finish_unspent request wallet
    have htip := hdoc.finish_tip request wallet
    rw [finishChild_of_added hadd]
    cases hfinish : api.finish request wallet with
    | mk result after =>
      rw [hfinish] at hunspent htip
      cases result with
      | error | ok => exact ⟨hunspent, htip⟩

/-- A child that is made spends the anchor and the coins of the builder, pays the fee and leaves
change. -/
theorem finishChild_ok (hdoc : api.Documented) {childTx : Transaction}
    (hfinish : finishChild api request wallet = (.ok childTx, after)) :
    ∃ required chosen, BuilderTakes api wallet request required chosen ∧
      childTx.inputs.Perm
        (request.anchorOutpoint :: (required ++ chosen).map LocalCoin.outpoint) ∧
      (childTx.outputs.map TxOut.value).sum + request.feeAbsolute =
        fundsOf request (required ++ chosen) ∧
      request.feeAbsolute + api.dustLimit request.drainTo ≤ fundsOf request (required ++ chosen) ∧
      IsChildOf api request.anchorOutpoint request.drainTo (required ++ chosen) childTx := by
  cases hadd : addUtxos api request wallet with
  | error error =>
    rw [finishChild, hadd] at hfinish
    cases hfinish
  | ok added =>
    rw [finishChild_of_added hadd] at hfinish
    cases hbuilt : api.finish request wallet with
    | mk result last =>
      rw [hbuilt] at hfinish
      cases result with
      | error error => cases hfinish
      | ok psbt =>
        have hsigned : signedChild api last request psbt = .ok childTx :=
          congrArg Prod.fst hfinish
        obtain ⟨required, chosen, htakes, hinputs, hcovered, houtputs⟩ :=
          hdoc.finish_ok request wallet psbt last hbuilt
        unfold signedChild at hsigned
        split at hsigned
        · cases hsigned
        · rename_i finalized signed hsign
          split at hsigned
          · rename_i hfinalized
            split at hsigned
            · cases hsigned
            · rename_i extracted hextract
              split at hsigned
              · cases hsigned
                obtain ⟨hin, hout⟩ := hdoc.signed last psbt finalized signed hsign childTx
                  hextract
                refine ⟨required, chosen, htakes, ?_, ?_, hcovered, ?_⟩
                · rw [hin]
                  exact hinputs
                · rw [hout, houtputs]
                  simp
                  omega
                · rw [hfinalized] at hsign
                  exact ⟨last, psbt, signed, _, hinputs, houtputs, hsign, hextract⟩
              · cases hsigned
          · cases hsigned

theorem coinsWithConfirmations_congr {other : Wallet} (minConfirmations : Nat)
    (hunspent : api.listUnspent other = api.listUnspent wallet)
    (htip : api.tipHeight other = api.tipHeight wallet) :
    coinsWithConfirmations api minConfirmations other =
      coinsWithConfirmations api minConfirmations wallet := by
  rw [coinsWithConfirmations, coinsWithConfirmations, hunspent, htip]

theorem largestCoin_mem {coins : List LocalCoin} {largest : LocalCoin}
    (hlargest : largestCoin coins = some largest) : largest ∈ coins := by
  have hfold : ∀ (rest : List LocalCoin) (best : Option LocalCoin),
      (rest.foldl (fun largest coin =>
        if largest.elim 0 LocalCoin.value ≤ coin.value then some coin else largest) best =
          some largest) → best = some largest ∨ largest ∈ rest := by
    intro rest
    induction rest with
    | nil =>
      intro best hbest
      exact .inl hbest
    | cons coin others ih =>
      intro best hbest
      rw [List.foldl_cons] at hbest
      cases ih _ hbest with
      | inl hnow =>
        split at hnow
        · cases hnow
          exact .inr List.mem_cons_self
        · exact .inl hnow
      | inr hlater => exact .inr (List.mem_cons_of_mem _ hlater)
  cases hfold coins none hlargest with
  | inl hnone => cases hnone
  | inr hmem => exact hmem

theorem le_largestCoin {coins : List LocalCoin} {coin : LocalCoin} (hmem : coin ∈ coins) :
    ∃ largest, largestCoin coins = some largest ∧ coin.value ≤ largest.value := by
  have hfold : ∀ (rest : List LocalCoin) (best : Option LocalCoin) (bound : Nat),
      (bound ≤ best.elim 0 LocalCoin.value ∧ best.isSome = true ∨
        ∃ coin ∈ rest, bound ≤ coin.value) →
        ∃ largest, rest.foldl (fun largest coin =>
          if largest.elim 0 LocalCoin.value ≤ coin.value then some coin else largest) best =
            some largest ∧ bound ≤ largest.value := by
    intro rest
    induction rest with
    | nil =>
      intro best bound hbound
      cases hbound with
      | inl hbest =>
        obtain ⟨largest, hsome⟩ := Option.isSome_iff_exists.mp hbest.2
        rw [hsome] at hbest
        exact ⟨largest, hsome, hbest.1⟩
      | inr hrest =>
        obtain ⟨other, hother, _⟩ := hrest
        cases hother
    | cons head others ih =>
      intro best bound hbound
      rw [List.foldl_cons]
      apply ih
      cases hbound with
      | inl hbest =>
        split
        · rename_i hle
          exact .inl ⟨Nat.le_trans hbest.1 hle, rfl⟩
        · exact .inl hbest
      | inr hrest =>
        obtain ⟨other, hother, hle⟩ := hrest
        cases List.mem_cons.mp hother with
        | inr hlater => exact .inr ⟨other, hlater, hle⟩
        | inl hhead =>
          rw [hhead] at hle
          split
          · exact .inl ⟨hle, rfl⟩
          · rename_i hlt
            cases best with
            | none => exact absurd (Nat.zero_le _) hlt
            | some kept =>
              exact .inl ⟨Nat.le_trans hle (Nat.le_of_not_le hlt), rfl⟩
  exact hfold coins none coin.value (.inr ⟨coin, hmem, Nat.le_refl _⟩)

/-- The second build starts after the first one. -/
theorem buildChild_eq (job : ChildJob) (hdoc : api.Documented) :
    buildChild api job.anchor changeScript feeNeeded wallet =
      if resultIsInsufficientFunds
          (finishChild api (childRequest job.anchor changeScript feeNeeded none) wallet).1 then
        match outpointWithLargestConfirmedValue api wallet with
        | none => finishChild api (childRequest job.anchor changeScript feeNeeded none) wallet
        | some largest =>
          finishChild api (childRequest job.anchor changeScript feeNeeded (some largest))
            (finishChild api (childRequest job.anchor changeScript feeNeeded none) wallet).2
      else finishChild api (childRequest job.anchor changeScript feeNeeded none) wallet := by
  have hkept := finishChild_after (childRequest job.anchor changeScript feeNeeded none) wallet hdoc
  unfold buildChild
  cases hfirst : finishChild api (childRequest job.anchor changeScript feeNeeded none) wallet with
  | mk firstTry after =>
    rw [hfirst] at hkept
    have hlargest : outpointWithLargestConfirmedValue api after =
        outpointWithLargestConfirmedValue api wallet := by
      unfold outpointWithLargestConfirmedValue confirmedCoins
      rw [coinsWithConfirmations_congr 1 hkept.1 hkept.2]
    dsimp only
    rewrite [hlargest]
    cases outpointWithLargestConfirmedValue api wallet with
    | none | some => rfl

theorem runsShort_after (hshort : RunsShort api request wallet) :
    (finishChild api request wallet).2 = (api.finish request wallet).2 := by
  obtain ⟨hadd, error, hfinish, _⟩ := hshort
  rw [finishChild_of_added hadd]
  cases hpair : api.finish request wallet with
  | mk result after =>
    rw [hpair] at hfinish
    cases hfinish
    rfl

/-- A build reports insufficient funds exactly at a dead end. -/
theorem buildChild_insufficient_iff (hdoc : api.Documented) (job : ChildJob) :
    resultIsInsufficientFunds (buildChild api job.anchor changeScript feeNeeded wallet).1 = true ↔
      IsDeadEnd api job changeScript feeNeeded wallet := by
  rw [buildChild_eq job hdoc]
  split
  · rename_i hfirst
    have hshort := (finishChild_insufficient_iff hdoc).mp hfirst
    cases hlargest : outpointWithLargestConfirmedValue api wallet with
    | none =>
      dsimp only
      constructor
      · intro _
        refine ⟨hshort, ?_⟩
        intro largest hmem
        rw [hlargest] at hmem
        cases hmem
      · intro _
        exact hfirst
    | some largest =>
      dsimp only
      rw [runsShort_after hshort, finishChild_insufficient_iff hdoc]
      constructor
      · intro hsecond
        refine ⟨hshort, ?_⟩
        intro other hmem
        rw [hlargest] at hmem
        cases hmem
        exact hsecond
      · intro hdead
        exact hdead.2 largest hlargest
  · rename_i hfirst
    constructor
    · intro hmarked
      exact absurd hmarked hfirst
    · intro hdead
      exact absurd ((finishChild_insufficient_iff hdoc).mpr hdead.1) hfirst

theorem buildChild_after (changeScript : String) (feeNeeded : Nat) (wallet : Wallet)
    (hdoc : api.Documented) (job : ChildJob) :
    api.listUnspent (buildChild api job.anchor changeScript feeNeeded wallet).2 =
        api.listUnspent wallet ∧
      api.tipHeight (buildChild api job.anchor changeScript feeNeeded wallet).2 =
        api.tipHeight wallet := by
  rw [buildChild_eq job hdoc]
  split
  · split
    · exact finishChild_after _ _ hdoc
    · apply And.intro
      · exact (finishChild_after _ _ hdoc).1.trans (finishChild_after _ _ hdoc).1
      · exact (finishChild_after _ _ hdoc).2.trans (finishChild_after _ _ hdoc).2
  · exact finishChild_after _ _ hdoc

end Build

end Bitboard.Crypto
