/-
# What a prepared send promises

The larger payment that is offered leaves the fee of the unsigned weight, while a build needs the
fee of the signed one. A second build for it therefore fails with the same coins, and with others
it may come back with a change output. Where it does neither, a call keeps what it promises.
-/

import Bitboard.Crypto.PrepareSend

namespace Bitboard.Crypto

variable {Wallet : Type} {api : WalletApi Wallet}

section Sums

variable {psbt : Psbt} {values : List Nat}

theorem sumInputValuesFrom_eq (start : Nat) (hfit : start + values.sum < 2 ^ 64) :
    sumInputValuesFrom start (values.map some) = .ok (start + values.sum) := by
  induction values generalizing start with
  | nil => rfl
  | cons value rest ih =>
    rw [List.sum_cons] at hfit ⊢
    rw [List.map_cons, sumInputValuesFrom, if_pos (by omega), ih (start + value) (by omega)]
    congr 1
    omega

theorem sumPsbtInputValues_eq (hvalues : psbt.witnessUtxoValues = values.map some)
    (hlength : values.length = psbt.txInputs.length) (hfit : values.sum < 2 ^ 64) :
    sumPsbtInputValues psbt = .ok values.sum := by
  have hcount : psbt.witnessUtxoValues.length = psbt.txInputs.length := by
    rw [hvalues, List.length_map, hlength]
  rw [sumPsbtInputValues, if_neg (not_not.mpr hcount), hvalues, sumInputValuesFrom_eq 0 (by omega),
    Nat.zero_add]

/-- Every input of the wallet has a row on the review step. -/
theorem reviewInputs_ok {wallet : Wallet} (hvalues : psbt.witnessUtxoValues = values.map some)
    (hlength : values.length = psbt.txInputs.length)
    (howned : ∀ outpoint ∈ psbt.txInputs,
      ∃ output ∈ api.listUnspent wallet, output.outpoint = outpoint) :
    ∃ rows, reviewInputsFromWalletPsbt api wallet psbt = .ok rows := by
  have hrows : ∀ (outpoints : List OutPoint) (values : List Nat),
      (∀ outpoint ∈ outpoints, ∃ output ∈ api.listUnspent wallet, output.outpoint = outpoint) →
        ∃ rows, ((outpoints.zip (values.map some)).mapM fun input =>
          reviewInput api wallet input.1 input.2) = .ok rows := by
    intro outpoints
    induction outpoints with
    | nil =>
      intro values _
      exact ⟨[], rfl⟩
    | cons outpoint rest ih =>
      intro values howned
      cases values with
      | nil => exact ⟨[], rfl⟩
      | cons value others =>
        obtain ⟨rows, hrest⟩ := ih others fun other hother =>
          howned other (List.mem_cons_of_mem _ hother)
        obtain ⟨output, houtput, heq⟩ := howned outpoint List.mem_cons_self
        cases hfind : (api.listUnspent wallet).find? fun output =>
            output.outpoint = outpoint with
        | none =>
          have hnone := List.find?_eq_none.mp hfind output houtput
          simp [heq] at hnone
        | some found =>
          exists ({
            address := (api.peekAddress wallet found.keychain found.derivationIndex).address
            amountSats := value
            txid := outpoint.txid
            vout := outpoint.vout } : ReviewInputUtxo) :: rows
          rw [List.map_cons, List.zip_cons_cons, List.mapM_cons, hrest]
          simp only [reviewInput, hfind]
          rfl
  have hcount : psbt.witnessUtxoValues.length = psbt.txInputs.length := by
    rw [hvalues, List.length_map, hlength]
  rw [reviewInputsFromWalletPsbt, if_neg (not_not.mpr hcount), hvalues]
  exact hrows psbt.txInputs values howned

end Sums

section Draft

variable {wallet after : Wallet} {request : BuildRequest} {psbt : Psbt}

/-- The recipient is not taken for change, nor change for the recipient: the change output goes to
another script, and where there is none, the next change address is another one. -/
def CountsChange (api : WalletApi Wallet) (wallet : Wallet) (recipientScriptPubkey : String)
    (psbt : Psbt) : Prop :=
  if psbt.IsChangeFree then nextChangeScript api wallet ≠ recipientScriptPubkey
  else ∃ output ∈ psbt.outputs, output.scriptPubkey ≠ recipientScriptPubkey

/-- A draft of the builder with the values of its inputs and its change output. -/
structure IsDraft (api : WalletApi Wallet) (wallet : Wallet) (request : BuildRequest)
    (psbt : Psbt) (values : List Nat) (change : Option TxOut) : Prop where
  values_eq : psbt.witnessUtxoValues = values.map some
  length_eq : values.length = psbt.txInputs.length
  fits : values.sum < 2 ^ 64
  covered : sumUnsignedTxOutputValues psbt ≤ values.sum
  owned : ∀ outpoint ∈ psbt.txInputs,
    ∃ output ∈ api.listUnspent wallet, output.outpoint = outpoint
  outputs_perm : psbt.outputs.Perm
    ({ scriptPubkey := request.recipientScriptPubkey, value := request.paymentSats } ::
      change.toList)
  change_pos : ∀ output ∈ change, 0 < output.value

/-- A draft of a call is one of the library's builder. -/
theorem buildOnce_eq_ok (hbuild : buildOnce api request wallet = (.ok psbt, after)) :
    request.selectedOutpoints ≠ some [] ∧ api.buildTx request wallet = (.ok psbt, after) := by
  unfold buildOnce at hbuild
  split at hbuild
  · cases hbuild
  · rename_i hselected
    exact ⟨hselected, hbuild⟩

theorem WalletApi.Documented.isDraft (h : api.Documented)
    (hbuild : buildOnce api request wallet = (.ok psbt, after)) :
    ∃ change, IsDraft api after request psbt
        ((api.selectCoins request wallet).map LocalOutput.valueSats) change ∧
      ∀ output ∈ change, output.scriptPubkey = api.changeScript wallet := by
  obtain ⟨_, hbuilt⟩ := buildOnce_eq_ok hbuild
  obtain ⟨hmay, _, hfits⟩ := h.spends request wallet psbt after hbuilt
  obtain ⟨hinputs, hvalues⟩ := h.inputs request wallet psbt after hbuilt
  obtain ⟨fee, _, hfee⟩ := h.fee request wallet psbt after hbuilt
  obtain ⟨change, hperm, hchange⟩ := h.pays request wallet psbt after hbuilt
  have hkept := h.unspent_kept request wallet
  rw [hbuilt] at hkept
  have hdraft : IsDraft api after request psbt
      ((api.selectCoins request wallet).map LocalOutput.valueSats) change := {
    values_eq := by
      rw [hvalues, List.map_map]
      rfl
    length_eq := by rw [hinputs, List.length_map, List.length_map]
    fits := hfits
    covered := Nat.le_of_add_right_le hfee
    owned := by
      rw [hinputs]
      intro outpoint houtpoint
      obtain ⟨coin, hcoin, heq⟩ := List.mem_map.mp houtpoint
      refine ⟨coin, ?_, heq⟩
      rw [hkept]
      exact hmay.listed coin hcoin
    outputs_perm := hperm
    change_pos := fun output houtput => (hchange output houtput).1 }
  exact ⟨change, hdraft, fun output houtput => (hchange output houtput).2⟩

theorem WalletApi.Documented.listUnspent_buildOnce (h : api.Documented) (request : BuildRequest)
    (wallet : Wallet) :
    api.listUnspent (buildOnce api request wallet).2 = api.listUnspent wallet := by
  unfold buildOnce
  split
  · rfl
  · exact h.unspent_kept request wallet

variable {values : List Nat} {change : Option TxOut}

section

variable (h : IsDraft api wallet request psbt values change)
include h

theorem IsDraft.congr_unspent {other : Wallet}
    (hsame : api.listUnspent other = api.listUnspent wallet) :
    IsDraft api other request psbt values change := { h with
  owned := by
    rw [hsame]
    exact h.owned }

theorem IsDraft.sum_outputs :
    sumUnsignedTxOutputValues psbt = request.paymentSats + (change.toList.map TxOut.value).sum := by
  rw [sumUnsignedTxOutputValues, (h.outputs_perm.map TxOut.value).sum_eq, List.map_cons,
    List.sum_cons]

theorem IsDraft.isChangeFree_iff : psbt.IsChangeFree ↔ change = none := by
  rw [Psbt.IsChangeFree, h.outputs_perm.length_eq]
  cases change with
  | none | some => simp

/-- The change output is found unless it goes to the recipient. -/
theorem IsDraft.changeScriptOf_eq {output : TxOut} (hchange : change = some output)
    (hapart : output.scriptPubkey ≠ request.recipientScriptPubkey) :
    changeScriptOf api wallet request.recipientScriptPubkey psbt = output.scriptPubkey := by
  have hmem : output ∈ psbt.outputs := by
    rw [h.outputs_perm.mem_iff, hchange]
    simp
  unfold changeScriptOf
  cases hfind : psbt.outputs.find? fun output =>
      output.scriptPubkey ≠ request.recipientScriptPubkey with
  | none =>
    have hnone := List.find?_eq_none.mp hfind output hmem
    simp [hapart] at hnone
  | some found =>
    have hfound := List.find?_some hfind
    have hfoundMem := List.mem_of_find?_eq_some hfind
    rw [h.outputs_perm.mem_iff, hchange] at hfoundMem
    cases List.mem_cons.mp hfoundMem with
    | inl hrecipient =>
      rw [hrecipient] at hfound
      simp at hfound
    | inr hsame => rw [List.mem_singleton.mp hsame]

end

theorem changeScriptOf_next
    (hall : ∀ output ∈ psbt.outputs, output.scriptPubkey = request.recipientScriptPubkey) :
    changeScriptOf api wallet request.recipientScriptPubkey psbt = nextChangeScript api wallet := by
  have hnone : (psbt.outputs.find? fun output =>
      output.scriptPubkey ≠ request.recipientScriptPubkey) = none := by
    rw [List.find?_eq_none]
    intro output houtput
    simpa using hall output houtput
  unfold changeScriptOf
  rw [hnone]

section

variable (h : IsDraft api wallet request psbt values change)
include h

theorem IsDraft.changeSats_eq (script : String) : changeSatsFromUnsignedPsbt psbt script =
      (if request.recipientScriptPubkey = script then request.paymentSats else 0) +
        ((change.toList.filter fun output => output.scriptPubkey = script).map
          TxOut.value).sum := by
  rw [changeSatsFromUnsignedPsbt, ((h.outputs_perm.filter _).map TxOut.value).sum_eq,
    List.filter_cons]
  by_cases hscript : request.recipientScriptPubkey = script
  · simp [hscript]
  · simp [hscript]

/-- The payment, the change and the fee make up the inputs exactly when the change is counted. -/
theorem IsDraft.balanced_iff (hpos : 0 < request.paymentSats) :
    request.paymentSats + changeSatsFromUnsignedPsbt psbt
        (changeScriptOf api wallet request.recipientScriptPubkey psbt) +
        (values.sum - sumUnsignedTxOutputValues psbt) = values.sum ↔
      CountsChange api wallet request.recipientScriptPubkey psbt := by
  have hcovered := h.covered
  have hsum := h.sum_outputs
  unfold CountsChange
  cases hchange : change with
  | none =>
    have hall : ∀ output ∈ psbt.outputs, output.scriptPubkey = request.recipientScriptPubkey := by
      intro output houtput
      rw [h.outputs_perm.mem_iff, hchange] at houtput
      rw [List.mem_singleton.mp houtput]
    rw [if_pos (h.isChangeFree_iff.mpr hchange), changeScriptOf_next hall, h.changeSats_eq]
    subst hchange
    simp only [Option.toList_none, List.filter_nil, List.map_nil, List.sum_nil] at hsum ⊢
    split
    · rename_i hsame
      constructor
      · intro _
        omega
      · intro hne
        exact absurd hsame.symm hne
    · rename_i hne
      constructor
      · intro _ hsame
        exact hne hsame.symm
      · intro _
        omega
  | some output =>
    have hvalue : 0 < output.value := h.change_pos output (by rw [hchange]; rfl)
    have hnotFree : ¬ psbt.IsChangeFree := by
      rw [h.isChangeFree_iff, hchange]
      simp
    rw [if_neg hnotFree]
    have hmem : ∀ other, other ∈ psbt.outputs ↔
        other = TxOut.mk request.recipientScriptPubkey request.paymentSats ∨ other = output := by
      intro other
      rw [h.outputs_perm.mem_iff, hchange]
      simp
    by_cases hapart : output.scriptPubkey = request.recipientScriptPubkey
    · have hall : ∀ other ∈ psbt.outputs, other.scriptPubkey = request.recipientScriptPubkey := by
        intro other hother
        cases (hmem other).mp hother with
        | inl heq => rw [heq]
        | inr heq => rw [heq, hapart]
      rw [changeScriptOf_next hall, h.changeSats_eq]
      subst hchange
      simp only [Option.toList_some, List.map_cons, List.map_nil, List.sum_cons, List.sum_nil]
        at hsum
      constructor
      · intro hbalanced
        by_cases hnext : request.recipientScriptPubkey = nextChangeScript api wallet
        · rw [if_pos hnext] at hbalanced
          have hsame : output.scriptPubkey = nextChangeScript api wallet := hapart.trans hnext
          simp [hsame] at hbalanced
          omega
        · rw [if_neg hnext] at hbalanced
          have hother : ¬ output.scriptPubkey = nextChangeScript api wallet := by
            rw [hapart]
            exact hnext
          simp [hother] at hbalanced
          omega
      · intro hexists
        obtain ⟨other, hother, hne⟩ := hexists
        exact absurd (hall other hother) hne
    · rw [h.changeScriptOf_eq hchange hapart, h.changeSats_eq, if_neg (Ne.symm hapart)]
      subst hchange
      simp only [Option.toList_some, List.map_cons, List.map_nil, List.sum_cons, List.sum_nil]
        at hsum
      constructor
      · intro _
        exact ⟨output, (hmem output).mpr (.inr rfl), hapart⟩
      · intro _
        simp
        omega

/-- The outcome of a draft. -/
theorem IsDraft.outcomeOf_eq (call : SendCall) (bumped : Bool) (offer : Option Nat) :
    ∃ outcome, outcomeOf api wallet call request psbt bumped offer = .ok outcome ∧
      outcome.psbt = psbt ∧ outcome.finalAmountSats = request.paymentSats ∧
      outcome.bumpedChangeFree = bumped ∧ outcome.changeFreeBumpAvailable = offer.isSome ∧
      outcome.changeFreeMaxSats = offer.getD 0 ∧
      outcome.feeSats = values.sum - sumUnsignedTxOutputValues psbt ∧
      outcome.changeSats = changeSatsFromUnsignedPsbt psbt
        (changeScriptOf api wallet request.recipientScriptPubkey psbt) ∧
      outcome.totalInputSats = values.sum := by
  obtain ⟨rows, hrows⟩ := reviewInputs_ok h.values_eq h.length_eq h.owned
  have hsum := sumPsbtInputValues_eq h.values_eq h.length_eq h.fits
  have houtcome : outcomeOf api wallet call request psbt bumped offer = .ok {
      psbt := psbt
      finalAmountSats := request.paymentSats
      originalAmountSats := call.amountSats
      raisedToMinDust := call.amountSats < UX_DUST_FLOOR_SATS
      bumpedChangeFree := bumped
      changeFreeBumpAvailable := offer.isSome
      changeFreeMaxSats := offer.getD 0
      feeSats := values.sum - sumUnsignedTxOutputValues psbt
      changeSats := changeSatsFromUnsignedPsbt psbt
        (changeScriptOf api wallet request.recipientScriptPubkey psbt)
      totalInputSats := values.sum
      inputUtxos := rows } := by
    simp only [outcomeOf, feeSatsFromUnsignedPsbt, hsum, hrows, bind, Except.bind]
  exact ⟨_, houtcome, rfl, rfl, rfl, rfl, rfl, rfl, rfl, rfl⟩

end

end Draft

end Bitboard.Crypto
