/-
# What the review shows is what is sent

The fee, the change and the inputs of the review are those of its PSBT at all times. The amount
is read from the form and the list of a manual selection is its own, so these two are carried by
an invariant that every harmless event keeps.
-/

import Bitboard.Frontend.SendReview

namespace Bitboard.Frontend

open Bitboard.Lib
open ManualUtxoSelectionSection

variable {env : SendEnvironment} {page next : SendPage}
  {outcome : PrepareOnchainSendResult} {psbt : Psbt}

/-- The review in the store is that of the PSBT in it. -/
structure SendState.Reviews (store : SendState) (psbt : Psbt) : Prop where
  stored : store.psbt = some psbt
  fee : store.reviewFeeSats = some psbt.feeSats
  change : store.reviewChangeSats = some psbt.changeSats
  inputs : (store.reviewInputUtxos.getD []).map reviewUtxoToOutpoint = psbt.inputs

theorem SendState.reviews_applySummary (store : SendState) (h : outcome.Reports) :
    (store.applySummary outcome).Reviews outcome.psbtBase64 where
  stored := rfl
  fee := congrArg some h.fee.symm
  change := congrArg some h.change.symm
  inputs := h.inputs

/-- What holds before the effects of an event have run. -/
structure SendCore (page : SendPage) : Prop where
  review : page.store.step = .review →
    ∃ psbt, page.store.Reviews psbt ∧ page.amountSats = psbt.amountSats
  onReview : ∀ selection, page.inputsSection = some selection → page.store.step = .review
  keepsUp : ∀ selection, page.inputsSection = some selection →
    page.KeepsUp selection page.store.reviewFeeSats (page.store.reviewInputUtxos.getD [])
  pending : ∀ pending, page.dustCase2Modal = some pending → pending.Reports
  unbumped : ∀ id call, page.calls id = some call →
    call.purpose = .rebuildWithSelectedUtxos ∨ call.purpose = .revertToAutoSelection →
      call.params.applyChangeFreeBump = false
  confirmed : ∀ send ∈ page.confirmed, send.shown.Describes send.psbt

/-- What holds between two events: a selection on the page has told whether Confirm is blocked. -/
structure SendInv (page : SendPage) : Prop where
  core : SendCore page
  told : ∀ selection, page.inputsSection = some selection →
    page.manualConfirmBlocked = selection.confirmBlocked page.amountSats page.store.reviewFeeSats

theorem sendInv_initial (env : SendEnvironment) (mainnetFiatMode : Bool)
    (btcPriceInFiat : Option Float) (effectiveFeeRate : Float) :
    SendInv (initialSendPage env mainnetFiatMode btcPriceInFiat effectiveFeeRate) where
  core :=
    { review := by
        intro hstep
        cases hstep
      onReview := by
        intro selection hselection
        cases hselection
      keepsUp := by
        intro selection hselection
        cases hselection
      pending := by
        intro pending hpending
        cases hpending
      unbumped := by
        intro id call hcall
        cases hcall
      confirmed := by
        intro send hsend
        cases hsend }
  told := by
    intro selection hselection
    cases hselection

/-- Where Confirm is enabled, the review shows its PSBT. -/
theorem SendInv.describes (h : SendInv page) (hpsbt : page.confirmable = some psbt) :
    page.shown.Describes psbt := by
  unfold SendPage.confirmable at hpsbt
  split at hpsbt
  · rename_i henabled
    obtain ⟨hstep, -, hfree⟩ := henabled
    obtain ⟨reviewed, hreviews, hamount⟩ := h.core.review hstep
    have hsame : reviewed = psbt := Option.some.inj (hreviews.stored.symm.trans hpsbt)
    subst hsame
    have hlist : SameOutpoints (page.shownInputUtxos.map reviewUtxoToOutpoint)
        reviewed.inputs := by
      have hstore : SameOutpoints
          ((page.store.reviewInputUtxos.getD []).map reviewUtxoToOutpoint) reviewed.inputs := by
        rw [hreviews.inputs]
        exact ⟨fun _ hmember => hmember, fun _ hmember => hmember⟩
      unfold SendPage.shownInputUtxos
      cases hsection : page.inputsSection with
      | none => exact hstore
      | some selection =>
        dsimp only
        split
        · rename_i hmanual
          rcases h.core.keepsUp selection hsection hmanual with hblocked | hkept
          · rw [h.told selection hsection, hblocked] at hfree
            cases hfree
          · rw [hreviews.inputs] at hkept
            exact hkept
        · exact hstore
    exact
      { amount := hamount
        fee := hreviews.fee
        change := congrArg (Option.getD · 0) hreviews.change
        inputs := hlist }
  · cases hpsbt

theorem SendInv.showsWhatItSends (h : SendInv page) : page.ShowsWhatItSends where
  review _ hpsbt := h.describes hpsbt
  confirmed := h.core.confirmed

/-- The effects let the selection tell whether Confirm is blocked. -/
theorem SendCore.runEffects (h : SendCore page) : SendInv page.runEffects := by
  unfold SendPage.runEffects
  cases hsection : page.inputsSection with
  | none =>
    refine ⟨h, ?_⟩
    intro selection hselection
    cases hsection.symm.trans hselection
  | some selection =>
    refine ⟨⟨h.review, ?_, ?_, h.pending, h.unbumped, h.confirmed⟩, ?_⟩
    · intro _ _
      exact h.onReview selection hsection
    · intro followed hfollowed
      cases hfollowed
      intro hmanual
      unfold follow at hmanual ⊢
      split at hmanual
      · rename_i henabled
        rw [if_pos henabled]
        exact h.keepsUp selection hsection henabled
      · rename_i hdisabled
        exact absurd hmanual hdisabled
    · intro followed hfollowed
      cases hfollowed
      rfl

theorem SendCore.ofEntry (hstep : next.store.step = .entry) (hsection : next.inputsSection = none)
    (hpending : ∀ pending, next.dustCase2Modal = some pending → pending.Reports)
    (hunbumped : ∀ id call, next.calls id = some call →
      call.purpose = .rebuildWithSelectedUtxos ∨ call.purpose = .revertToAutoSelection →
        call.params.applyChangeFreeBump = false)
    (hconfirmed : ∀ send ∈ next.confirmed, send.shown.Describes send.psbt) : SendCore next where
  review := by
    intro hreview
    cases hstep.symm.trans hreview
  onReview := by
    intro selection hselection
    cases hsection.symm.trans hselection
  keepsUp := by
    intro selection hselection
    cases hsection.symm.trans hselection
  pending := hpending
  unbumped := hunbumped
  confirmed := hconfirmed

theorem SendCore.noSelection (h : SendCore page) (hstep : page.store.step = .entry) :
    page.inputsSection = none := by
  cases hsection : page.inputsSection with
  | none => rfl
  | some selection => cases hstep.symm.trans (h.onReview selection hsection)

variable {selection : ManualUtxoSelectionSection}

theorem SendCore.setSelection (h : SendCore page) (hstep : page.store.step = .review)
    (hkeeps : page.KeepsUp selection page.store.reviewFeeSats
      (page.store.reviewInputUtxos.getD [])) : SendCore (page.setSelection selection) := { h with
  onReview := by
    intro _ _
    exact hstep
  keepsUp := by
    intro found hfound
    cases hfound
    exact hkeeps }

variable {purpose : PreparePurpose}

theorem SendCore.prepare (h : SendCore page) {bump : Bool} {selected : Option (List UtxoOutpoint)}
    (hbump : purpose = .rebuildWithSelectedUtxos ∨ purpose = .revertToAutoSelection →
      bump = false) :
    SendCore (page.prepare env purpose bump selected) := { h with
  unbumped := by
    intro id call hcall hpurpose
    dsimp only [SendPage.prepare] at hcall
    obtain ⟨rfl, rfl⟩ | ⟨-, hcall⟩ := update_some_cases hcall
    · exact hbump hpurpose
    · exact h.unbumped id call hcall hpurpose }

theorem SendCore.finish (h : SendCore page) (id : Nat) :
    SendCore { page with calls := Function.update page.calls id none } where
  review := h.review
  onReview := h.onReview
  keepsUp := h.keepsUp
  pending := h.pending
  unbumped := by
    intro other call hcall hpurpose
    dsimp only at hcall
    exact h.unbumped other call (of_update_none hcall).2 hpurpose
  confirmed := h.confirmed

theorem SendCore.setPending (h : SendCore page) (build broadcast : Bool) :
    SendCore { page with buildPending := build, broadcastPending := broadcast } where
  review := h.review
  onReview := h.onReview
  keepsUp := h.keepsUp
  pending := h.pending
  unbumped := h.unbumped
  confirmed := h.confirmed

theorem SendCore.setModal (h : SendCore page) {modal : Option PrepareOnchainSendResult}
    (hmodal : ∀ pending, modal = some pending → pending.Reports) :
    SendCore { page with dustCase2Modal := modal } where
  review := h.review
  onReview := h.onReview
  keepsUp := h.keepsUp
  pending := hmodal
  unbumped := h.unbumped
  confirmed := h.confirmed

theorem SendPage.amountSats_apply (hreads : page.ReadsAs outcome) (hreports : outcome.Reports) :
    (page.applyOnchainPrepareOutcomeToSendStore outcome).amountSats =
      outcome.psbtBase64.amountSats := by
  have hfinal : (page.applyOnchainPrepareOutcomeToSendStore outcome).amountSats =
      outcome.finalAmountSats := by
    unfold SendPage.ReadsAs at hreads
    unfold SendPage.amountSats SendPage.applyOnchainPrepareOutcomeToSendStore
      SendState.writeAdjusted SendState.applySummary
    split at hreads
    · rename_i hadjusted
      rw [if_pos hadjusted]
      exact hreads
    · rename_i hadjusted
      rw [if_neg hadjusted]
      rw [not_or, Bool.not_eq_true, Bool.not_eq_true] at hadjusted
      rw [hreports.unadjusted hadjusted.1 hadjusted.2]
      exact hreads
  rw [hfinal, hreports.amount]

theorem SendCore.apply (h : SendCore page) (hreads : page.ReadsAs outcome)
    (hreports : outcome.Reports) :
    SendCore (page.applyOnchainPrepareOutcomeToSendStore outcome) := { h with
  review := by
    intro _
    have hreviews := SendState.reviews_applySummary (page.store.writeAdjusted outcome) hreports
    exact ⟨outcome.psbtBase64,
      ⟨hreviews.stored, hreviews.fee, hreviews.change, hreviews.inputs⟩,
      SendPage.amountSats_apply hreads hreports⟩
  onReview := by
    intro _ _
    rfl
  keepsUp := by
    intro selection hselection
    cases hselection }

theorem SendPage.KeepsUp.rebuildFailed {feeSats : Option Nat} {inputUtxos : List ReviewInputUtxo}
    (h : page.KeepsUp selection feeSats inputUtxos) (call : Nat) :
    page.KeepsUp (selection.rebuildSettled call false) feeSats inputUtxos := by
  intro hmanual
  unfold rebuildSettled at hmanual ⊢
  split at hmanual
  · rename_i hwaiting
    rw [if_pos hwaiting]
    left
    have henabled : selection.manualSelectionEnabled = true := hmanual
    simp [confirmBlocked, henabled]
  · rename_i hother
    rw [if_neg hother]
    exact h hmanual

theorem SendCore.rebuildFailed (h : SendCore page) (call : Nat)
    (hpurpose : purpose = .rebuildWithSelectedUtxos ∨ purpose = .revertToAutoSelection) :
    SendCore (page.settlePrepare call purpose none) := by
  have hcore : SendCore
      { page with
        inputsSection := page.inputsSection.map fun selection =>
          selection.rebuildSettled call false } := by
    refine ⟨h.review, ?_, ?_, h.pending, h.unbumped, h.confirmed⟩
    · intro settled hsettled
      obtain ⟨selection, hselection, -⟩ := Option.map_eq_some_iff.mp hsettled
      exact h.onReview selection hselection
    · intro settled hsettled
      obtain ⟨selection, hselection, rfl⟩ := Option.map_eq_some_iff.mp hsettled
      exact SendPage.KeepsUp.rebuildFailed (h.keepsUp selection hselection) call
  rcases hpurpose with rfl | rfl
  · exact hcore
  · exact hcore

/-- A rebuild or a revert has finished as it should. -/
theorem SendCore.rebuilt (h : SendCore page) (call : Nat) {params : PrepareOnchainSendParams}
    (hpurpose : purpose = .rebuildWithSelectedUtxos ∨ purpose = .revertToAutoSelection)
    (hunbumped : params.applyChangeFreeBump = false) (hanswers : outcome.Answers params)
    (hrebuilds : page.RebuildsAs call params outcome) :
    SendCore (page.settlePrepare call purpose (some outcome)) := by
  have hcore : SendCore
      { page with
        store := page.store.applySummary outcome
        inputsSection := page.inputsSection.map fun selection =>
          selection.rebuildSettled call true } := by
    refine ⟨?_, ?_, ?_, h.pending, h.unbumped, h.confirmed⟩
    · intro hstep
      obtain ⟨hamount, hunraised, -⟩ := hrebuilds hstep
      have hnotBumped : outcome.isBumpedChangeFree = false := by
        cases hbumped : outcome.isBumpedChangeFree with
        | false => rfl
        | true => exact absurd (hanswers.bumped hbumped) (by simp [hunbumped])
      have hpaid : page.amountSats = outcome.psbtBase64.amountSats :=
        calc page.amountSats = params.amountSats := hamount
          _ = outcome.originalAmountSats := hanswers.original.symm
          _ = outcome.finalAmountSats :=
            (hanswers.reports.unadjusted hunraised hnotBumped).symm
          _ = outcome.psbtBase64.amountSats := hanswers.reports.amount.symm
      exact ⟨outcome.psbtBase64, SendState.reviews_applySummary page.store hanswers.reports, hpaid⟩
    · intro settled hsettled
      obtain ⟨selection, hselection, -⟩ := Option.map_eq_some_iff.mp hsettled
      exact h.onReview selection hselection
    · intro settled hsettled
      obtain ⟨selection, hselection, rfl⟩ := Option.map_eq_some_iff.mp hsettled
      obtain ⟨-, -, hkeeps⟩ := hrebuilds (h.onReview selection hselection)
      exact hkeeps selection hselection
  rcases hpurpose with rfl | rfl
  · exact hcore
  · exact hcore

/-- A prepare call finishes. -/
theorem SendCore.onPrepared (h : SendCore page) (call : Nat)
    (result : Option PrepareOnchainSendResult)
    (hharmless : (SendOp.prepared call result).Harmless page) :
    SendCore (page.onPrepared call result) := by
  unfold SendPage.onPrepared
  cases hcall : page.calls call with
  | none => exact h
  | some prepareCall =>
    dsimp only
    split
    · rename_i hanswers
      have hfinished := h.finish call
      cases result with
      | none =>
        cases hpurpose : prepareCall.purpose with
        | build | increaseToChangeFree =>
          exact hfinished.setPending false page.broadcastPending
        | rebuildWithSelectedUtxos => exact hfinished.rebuildFailed call (Or.inl rfl)
        | revertToAutoSelection => exact hfinished.rebuildFailed call (Or.inr rfl)
      | some outcome =>
        have hanswer : outcome.Answers prepareCall.params := hanswers outcome rfl
        have hmeets := hharmless prepareCall hcall hanswer
        cases hpurpose : prepareCall.purpose with
        | build =>
          rw [hpurpose] at hmeets
          have hsettled := hfinished.setPending false page.broadcastPending
          unfold SendPage.settlePrepare
          dsimp only
          split
          · apply hsettled.setModal
            intro pending hpending
            cases hpending
            exact hanswer.reports
          · rename_i hchoice
            exact hsettled.apply (hmeets (Bool.eq_false_iff.mpr hchoice)) hanswer.reports
        | increaseToChangeFree =>
          rw [hpurpose] at hmeets
          have hclosed : ∀ pending : PrepareOnchainSendResult,
              none = some pending → pending.Reports := by
            intro pending hpending
            cases hpending
          have hsettled := (hfinished.setPending false page.broadcastPending).setModal hclosed
          exact hsettled.apply hmeets hanswer.reports
        | rebuildWithSelectedUtxos =>
          rw [hpurpose] at hmeets
          have hunbumped := h.unbumped call prepareCall hcall (Or.inl hpurpose)
          exact hfinished.rebuilt call (Or.inl rfl) hunbumped hanswer hmeets
        | revertToAutoSelection =>
          rw [hpurpose] at hmeets
          have hunbumped := h.unbumped call prepareCall hcall (Or.inr hpurpose)
          exact hfinished.rebuilt call (Or.inr rfl) hunbumped hanswer hmeets
    · exact h

/-! ## Events -/

theorem SendCore.edit (h : SendCore page) (heditable : page.editable = true)
    {store : SendState} (hstep : store.step = page.store.step) (mainnetFiatMode : Bool) :
    SendCore { page with store := store, mainnetFiatMode := mainnetFiatMode } := by
  have hentry : page.store.step = .entry := by
    unfold SendPage.editable at heditable
    simp only [Bool.and_eq_true, decide_eq_true_eq] at heditable
    exact heditable.1.1
  exact SendCore.ofEntry (hstep.trans hentry) (h.noSelection hentry) h.pending h.unbumped
    h.confirmed

theorem SendCore.refreshPrice (h : SendCore page) {price : Option Float}
    (hharmless : (SendOp.refreshPrice price).Harmless page) :
    SendCore { page with btcPriceInFiat := price } := by
  cases hstep : page.store.step with
  | entry =>
    exact SendCore.ofEntry hstep (h.noSelection hstep) h.pending h.unbumped h.confirmed
  | review =>
    have hamount :
        { page with btcPriceInFiat := price }.amountSats = page.amountSats := hharmless hstep
    refine ⟨?_, h.onReview, ?_, h.pending, h.unbumped, h.confirmed⟩
    · intro _
      obtain ⟨psbt, hreviews, hpaid⟩ := h.review hstep
      exact ⟨psbt, hreviews, hamount.trans hpaid⟩
    · intro selection hselection hmanual
      rw [hamount]
      exact h.keepsUp selection hselection hmanual

theorem SendInv.confirm (h : SendInv page) (hpsbt : page.confirmable = some psbt) :
    SendCore
      { page with
        broadcastPending := true
        confirmed := { shown := page.shown, psbt := psbt } :: page.confirmed } where
  review := h.core.review
  onReview := h.core.onReview
  keepsUp := h.core.keepsUp
  pending := h.core.pending
  unbumped := h.core.unbumped
  confirmed := by
    intro send hsend
    cases List.mem_cons.mp hsend with
    | inl hnew =>
      rw [hnew]
      exact h.describes hpsbt
    | inr hold => exact h.core.confirmed send hold

theorem SendCore.reset (h : SendCore page) : SendCore (page.reset env) := by
  apply SendCore.ofEntry rfl rfl
  · intro pending hpending
    cases hpending
  · exact h.unbumped
  · exact h.confirmed

theorem SendCore.leaveReview (h : SendCore page) : SendCore page.leaveReview :=
  SendCore.ofEntry rfl rfl h.pending h.unbumped h.confirmed

theorem SendInv.onForm (h : SendInv page) (op : SendOp) (hharmless : op.Harmless page) :
    SendCore (page.onForm env op) := by
  have hcore := h.core
  cases op with
  | setRecipient | setAmount | setAmountUnit =>
    unfold SendPage.onForm
    dsimp only
    split
    · rename_i heditable
      apply hcore.edit heditable
      rfl
    · exact hcore
  | toggleFiatMode nextFiatMode =>
    unfold SendPage.onForm
    dsimp only
    split
    · rename_i hallowed
      rw [Bool.and_eq_true] at hallowed
      apply hcore.edit hallowed.1
      rfl
    · exact hcore
  | refreshPrice price => exact hcore.refreshPrice hharmless
  | setFeeRate rate =>
    exact ⟨hcore.review, hcore.onReview, hcore.keepsUp, hcore.pending, hcore.unbumped,
      hcore.confirmed⟩
  | submitBuild check =>
    unfold SendPage.onForm
    dsimp only
    split
    · have hasked : SendCore (page.prepare env .build false none) :=
        hcore.prepare fun _ => rfl
      exact hasked.setPending true page.broadcastPending
    · exact hcore
  | cancelChoice =>
    apply hcore.setModal
    intro pending hpending
    cases hpending
  | keepExact =>
    unfold SendPage.onForm
    dsimp only
    cases hmodal : page.dustCase2Modal with
    | none => exact hcore
    | some pending =>
      dsimp only
      split
      · exact hcore
      · have hclosed : ∀ later : PrepareOnchainSendResult, none = some later → later.Reports := by
          intro later hlater
          cases hlater
        exact (hcore.setModal hclosed).apply (hharmless pending hmodal)
          (hcore.pending pending hmodal)
  | increaseToChangeFree =>
    unfold SendPage.onForm
    dsimp only
    split
    · have hasked : SendCore (page.prepare env .increaseToChangeFree true none) := by
        apply hcore.prepare
        intro hpurpose
        rcases hpurpose with hpurpose | hpurpose
        · cases hpurpose
        · cases hpurpose
      exact hasked.setPending true page.broadcastPending
    · exact hcore
  | back =>
    unfold SendPage.onForm
    dsimp only
    split
    · exact hcore.leaveReview
    · exact hcore
  | confirm =>
    unfold SendPage.onForm
    dsimp only
    cases hpsbt : page.confirmable with
    | none => exact hcore
    | some psbt => exact h.confirm hpsbt
  | broadcastSettled succeeded =>
    unfold SendPage.onForm
    dsimp only
    split
    · have hsettled := hcore.setPending page.buildPending false
      split
      · exact hsettled.reset
      · exact hsettled
    · exact hcore
  | prepared _ _ | showInputs | hideInputs | startManual | loadedUtxos _ _ | stopManual
  | addUtxo _ | removeUtxo _ | fireDebounce => exact hcore

theorem SendCore.onInputs (h : SendCore page)
    (hselection : page.inputsSection = some selection) (op : SendOp)
    (hharmless : op.Harmless page) : SendCore (page.onInputs env selection op) := by
  have hstep := h.onReview selection hselection
  cases op with
  | hideInputs =>
    refine ⟨h.review, ?_, ?_, h.pending, h.unbumped, h.confirmed⟩
    · intro found hfound
      cases hfound
    · intro found hfound
      cases hfound
  | startManual =>
    unfold SendPage.onInputs
    dsimp only
    split
    · exact h
    · rename_i hautomatic
      apply h.setSelection hstep
      intro hmanual
      exact absurd hmanual hautomatic
  | loadedUtxos selectedInputUtxos allWalletUtxos =>
    unfold SendPage.onInputs
    dsimp only
    split
    · rename_i hload
      exact h.setSelection hstep (hharmless selection hselection hload)
    · exact h
  | stopManual =>
    unfold SendPage.onInputs
    dsimp only
    split
    · have hleft : SendCore (page.setSelection selection.leaveManual) := by
        apply h.setSelection hstep
        intro hmanual
        cases hmanual
      exact hleft.prepare fun _ => rfl
    · exact h
  | addUtxo utxo =>
    unfold SendPage.onInputs
    dsimp only
    split
    · rename_i hadd
      exact h.setSelection hstep (hharmless selection hselection hadd.2)
    · exact h
  | removeUtxo utxo =>
    unfold SendPage.onInputs
    dsimp only
    split
    · rename_i hremove
      exact h.setSelection hstep (hharmless selection hselection hremove.2)
    · exact h
  | fireDebounce =>
    unfold SendPage.onInputs
    dsimp only
    split
    · have hwaiting : SendCore (page.setSelection
          { selection with debounceTimer := false, rebuild := .pending page.started }) := by
        apply h.setSelection hstep
        intro hmanual
        left
        have henabled : selection.manualSelectionEnabled = true := hmanual
        simp [confirmBlocked, henabled]
      exact hwaiting.prepare fun _ => rfl
    · exact h
  | setRecipient _ | setAmount _ | setAmountUnit _ | toggleFiatMode _ | refreshPrice _
  | setFeeRate _ | submitBuild _ | prepared _ _ | cancelChoice | keepExact
  | increaseToChangeFree | showInputs | back | confirm | broadcastSettled _ => exact h

theorem SendCore.showInputs (h : SendCore page) : SendCore page.showInputs := by
  unfold SendPage.showInputs
  dsimp only
  split
  · rename_i hshown
    apply h.setSelection hshown.1
    intro hmanual
    cases hmanual
  · exact h

theorem SendInv.inputs (env : SendEnvironment) (h : SendInv page) (op : SendOp)
    (hharmless : op.Harmless page) :
    SendCore (match page.inputsSection with
      | some selection => page.onInputs env selection op
      | none => page) := by
  cases hselection : page.inputsSection with
  | none => exact h.core
  | some selection => exact h.core.onInputs hselection op hharmless

/-- A harmless event keeps the invariant. -/
theorem sendInv_step (h : SendInv page) (op : SendOp) (hharmless : op.Harmless page) :
    SendInv (sendStep env page op) := by
  have hform : SendCore (page.onForm env op) := h.onForm op hharmless
  have hinputs := h.inputs env op hharmless
  cases op with
  | prepared call result => exact (h.core.onPrepared call result hharmless).runEffects
  | showInputs =>
    apply SendCore.runEffects
    dsimp only
    split
    · exact h.core.showInputs
    · exact h.core
  | hideInputs | startManual | loadedUtxos _ _ | stopManual | addUtxo _ | removeUtxo _
  | fireDebounce => exact hinputs.runEffects
  | setRecipient _ | setAmount _ | setAmountUnit _ | toggleFiatMode _ | refreshPrice _
  | setFeeRate _ | submitBuild _ | cancelChoice | keepExact | increaseToChangeFree | back
  | confirm | broadcastSettled _ => exact hform.runEffects

/-- In a run of harmless events the review shows, whenever Confirm is enabled, the amount, the
fee, the change and the inputs of the stored PSBT, and each confirmed send was shown so. -/
theorem review_shows_what_it_sends (env : SendEnvironment) (mainnetFiatMode : Bool)
    (btcPriceInFiat : Option Float) (effectiveFeeRate : Float) (ops : List SendOp)
    (hharmless : RunMeets (sendStep env) (fun page op => op.Harmless page)
      (initialSendPage env mainnetFiatMode btcPriceInFiat effectiveFeeRate) ops) :
    (run (sendStep env)
      (initialSendPage env mainnetFiatMode btcPriceInFiat effectiveFeeRate)
      ops).ShowsWhatItSends := by
  apply SendInv.showsWhatItSends
  apply run_invariant_of_runMeets SendInv _ _ hharmless
  · intro page op hop h
    exact sendInv_step h op hop
  · exact sendInv_initial env mainnetFiatMode btcPriceInFiat effectiveFeeRate

def mainnetSend : SendEnvironment where
  mainnet := true
  normalizeSendRecipient := fun recipient => recipient
  isValidAddress := fun _ => true
  defaultBitcoinUnit := .sat

def preparedPayment (amountSats : Nat) : PrepareOnchainSendResult where
  psbtBase64 :=
    { recipient := "recipient"
      amountSats := amountSats
      feeSats := 200
      changeSats := 300000 - amountSats
      inputs := [{ txid := "coin", vout := 0 }] }
  finalAmountSats := amountSats
  originalAmountSats := amountSats
  isRaisedToMinDust := false
  isBumpedChangeFree := false
  isChangeFreeBumpAvailable := false
  changeFreeMaxSats := 0
  feeSats := 200
  changeSats := 300000 - amountSats
  inputUtxos := [{ amountSats := 300200, txid := "coin", vout := 0 }]

def buildSend (amount : List Char) (preparedSats : Nat) : List SendOp :=
  [.setRecipient "recipient", .setAmount amount,
    .submitBuild
      { confirmedBalance := 300200, customFeeOk := true, fiatRatesQueryIsError := false },
    .prepared 0 (some (preparedPayment preparedSats))]

theorem review_shows_what_it_sends_confirmed :
    (run (sendStep mainnetSend) (initialSendPage mainnetSend false none 1)
      (buildSend ['5', '0', '0', '0', '0'] 50000 ++ [.confirm])).ShowsWhatItSends := by
  apply review_shows_what_it_sends
  refine ⟨trivial, trivial, trivial, ?_, trivial, trivial⟩
  intro prepareCall _ _
  have hreads : (run (sendStep mainnetSend) (initialSendPage mainnetSend false none 1)
      ((buildSend ['5', '0', '0', '0', '0'] 50000).take 3)).ReadsAs
        (preparedPayment 50000) := by
    unfold SendPage.ReadsAs
    rw [if_neg (by decide)]
    decide +kernel
  have hentry : (run (sendStep mainnetSend) (initialSendPage mainnetSend false none 1)
      ((buildSend ['5', '0', '0', '0', '0'] 50000).take 3)).store.step ≠ .review := by
    decide +kernel
  cases prepareCall.purpose with
  | build => exact fun _ => hreads
  | increaseToChangeFree => exact hreads
  | rebuildWithSelectedUtxos | revertToAutoSelection =>
      intro hreview
      exact absurd hreview hentry

def pageAfterRefresh : SendPage :=
  run (sendStep mainnetSend) (initialSendPage mainnetSend true (some 50000) 1)
    (buildSend ['1', '0', '0'] 200000 ++ [.refreshPrice (some 40000)])

/-- The review shows 250000 satoshis, and Confirm would broadcast a payment of 200000. -/
theorem review_shows_another_amount :
    pageAfterRefresh.amountSats = 250000 ∧
      pageAfterRefresh.confirmable = some (preparedPayment 200000).psbtBase64 ∧
      ¬ pageAfterRefresh.ShowsWhatItSends := by
  have hamount : pageAfterRefresh.amountSats = 250000 := by decide +kernel
  have hpsbt : pageAfterRefresh.confirmable = some (preparedPayment 200000).psbtBase64 := by
    decide +kernel
  refine ⟨hamount, hpsbt, ?_⟩
  intro hshows
  have hsame : pageAfterRefresh.amountSats = (preparedPayment 200000).psbtBase64.amountSats :=
    (hshows.review _ hpsbt).amount
  rw [hamount] at hsame
  cases hsame

end Bitboard.Frontend
