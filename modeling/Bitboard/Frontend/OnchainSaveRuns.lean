/-
# What a resolved save has persisted

A save covers a call that has joined it if it asks for all that the call asks for, and
exports only after the call or what the wallet still is then. If every call that joins
is covered, and no save writes an older changeset over one that another save has just
written, every promise that resolves has persisted what its callers asked for.
-/

import Bitboard.Frontend.OnchainSave

namespace Bitboard.Frontend

open Bitboard.Lib

section OnchainSaves

variable {Change : Type}

def OnchainSavePhase.changeset : OnchainSavePhase Change → Option (List Change)
  | .saving => none
  | .exported changeset _ | .targeted _ changeset _ | .written _ changeset => some changeset

def OnchainSavePhase.row : OnchainSavePhase Change → Option DescriptorWalletCoordinates
  | .saving | .exported _ _ => none
  | .targeted row _ _ | .written row _ => some row

namespace OnchainSaveSystem

variable (system : OnchainSaveSystem Change)

/-- The rows hold the changes from before the call and what its parameters ask for. A call that
names no row asks for the one that the save has picked. -/
def Persisted (call : OnchainSaveCall) (row : DescriptorWalletCoordinates) : Prop :=
  ∃ stored, system.rows call.params.walletId
      (call.params.descriptorWalletCoordinates.getD row) = some stored ∧
    (∀ change ∈ system.wallet.take call.before, change ∈ stored.changeSet) ∧
    (call.params.markFullScanDone = true → stored.fullScanDone = true)

/-- A promise resolves only if what its callers asked for is persisted. -/
def ResolvesPersisted : OnchainSaveOp Change → Prop
  | .resolve promise => ∀ params row changeset,
      system.saves promise = some ⟨params, .written row changeset⟩ →
        ∀ call ∈ system.calls, call.promise = promise → system.Persisted call row
  | _ => True

/-- A call that joins a save asks for no mark and for no row that the save does not ask for, and
the wallet has not changed since the save has exported. -/
def JoinInOrder (params : OnchainSaveParams) : Prop :=
  ∀ promise save, system.tracker.coalescedInFlightPromise params.saveKey = some promise →
    system.saves promise = some save →
      (∀ changeset, save.phase.changeset = some changeset → changeset = system.wallet) ∧
      (params.markFullScanDone = true → save.params.markFullScanDone = true) ∧
      ∀ row, params.descriptorWalletCoordinates = some row →
        save.params.descriptorWalletCoordinates = some row

/-- A write does not put an older changeset over that of a save that is about to resolve. -/
def WriteInOrder (promise : Nat) : Prop :=
  ∀ params row changeset syncedAtIso,
    system.saves promise = some ⟨params, .targeted row changeset syncedAtIso⟩ →
      ∀ other otherParams otherChangeset,
        system.saves other = some ⟨otherParams, .written row otherChangeset⟩ →
          otherParams.walletId = params.walletId → otherChangeset.length ≤ changeset.length

def StepInOrder : OnchainSaveOp Change → Prop
  | .call params => system.JoinInOrder params
  | .retry => ∀ params, system.lastSaveParams = some params → system.JoinInOrder params
  | .write promise => system.WriteInOrder promise
  | _ => True

end OnchainSaveSystem

/-- The save asks for all that the call asks for, and has not exported too early for it. -/
structure OnchainSave.Covers (save : OnchainSave Change) (wallet : List Change)
    (call : OnchainSaveCall) : Prop where
  walletId : save.params.walletId = call.params.walletId
  mark : call.params.markFullScanDone = true → save.params.markFullScanDone = true
  row : ∀ row, call.params.descriptorWalletCoordinates = some row →
    save.params.descriptorWalletCoordinates = some row
  changes : ∀ changeset, save.phase.changeset = some changeset →
    wallet.take call.before <+: changeset

structure OnchainSaveInv (system : OnchainSaveSystem Change) : Prop where
  /-- The save in the slot is under way. -/
  slot : ∀ current, system.tracker.inFlight = some current →
    current.promise < system.tracker.promises.length ∧
      ∀ save, system.saves current.promise = some save → save.params.saveKey = current.key
  numbered : ∀ promise save, system.saves promise = some save →
    promise < system.tracker.promises.length
  calls : ∀ call ∈ system.calls,
    call.promise < system.tracker.promises.length ∧ call.before ≤ system.wallet.length
  covered : ∀ call ∈ system.calls, ∀ save, system.saves call.promise = some save →
    save.Covers system.wallet call
  exported : ∀ promise save changeset, system.saves promise = some save →
    save.phase.changeset = some changeset → changeset <+: system.wallet
  targeted : ∀ promise save row, system.saves promise = some save →
    save.phase.row = some row → ∀ given, save.params.descriptorWalletCoordinates = some given →
      row = given
  written : ∀ promise params row changeset,
    system.saves promise = some ⟨params, .written row changeset⟩ →
      ∃ stored, system.rows params.walletId row = some stored ∧
        changeset <+: stored.changeSet ∧
        (params.markFullScanDone = true → stored.fullScanDone = true)

variable {system : OnchainSaveSystem Change} {promise : Nat} {save : OnchainSave Change}

theorem onchainSaveInv_initial (wallet : List Change) (store : OnchainWalletStore)
    (rows : SavedDescriptorRows Change) :
    OnchainSaveInv (initialOnchainSaveSystem wallet store rows) where
  slot := by
    intro current hcurrent
    cases hcurrent
  numbered := by
    intro promise save hsave
    cases hsave
  calls := by
    intro call hcall
    cases hcall
  covered := by
    intro call hcall
    cases hcall
  exported := by
    intro promise save changeset hsave
    cases hsave
  targeted := by
    intro promise save row hsave
    cases hsave
  written := by
    intro promise params row changeset hsave
    cases hsave

variable {params : OnchainSaveParams}

section

variable (h : OnchainSaveInv system)
include h

theorem OnchainSaveInv.persisted {row : DescriptorWalletCoordinates} {changeset : List Change}
    (hsave : system.saves promise = some ⟨params, .written row changeset⟩) {call : OnchainSaveCall}
    (hcall : call ∈ system.calls) (hpromise : call.promise = promise) :
    system.Persisted call row := by
  subst hpromise
  have hcovers := h.covered call hcall _ hsave
  obtain ⟨stored, hstored, hchanges, hmark⟩ := h.written call.promise params row changeset hsave
  have hrow : call.params.descriptorWalletCoordinates.getD row = row := by
    cases hgiven : call.params.descriptorWalletCoordinates with
    | none => rfl
    | some given =>
      exact (h.targeted call.promise _ row hsave rfl given (hcovers.row given hgiven)).symm
  refine ⟨stored, ?_, ?_, ?_⟩
  · rw [hrow, ← hcovers.walletId]
    exact hstored
  · intro change hchange
    exact hchanges.subset ((hcovers.changes changeset rfl).subset hchange)
  · intro hasked
    exact hmark (hcovers.mark hasked)

theorem OnchainSaveInv.remember (hpromise : promise < system.tracker.promises.length)
    (hcovers : ∀ save, system.saves promise = some save → save.Covers system.wallet
      { params := params, before := system.wallet.length, promise := promise }) :
    OnchainSaveInv (system.remember params promise) where
  slot := h.slot
  numbered := h.numbered
  calls := by
    intro call hcall
    rcases List.mem_cons.mp hcall with rfl | hearlier
    · exact ⟨hpromise, Nat.le_refl _⟩
    · exact h.calls call hearlier
  covered := by
    intro call hcall save hsave
    rcases List.mem_cons.mp hcall with rfl | hearlier
    · exact hcovers save hsave
    · exact h.covered call hearlier save hsave
  exported := h.exported
  targeted := h.targeted
  written := h.written

/-- A save that begins, before its own call is remembered. -/
theorem OnchainSaveInv.begin
    (hnone : system.tracker.coalescedInFlightPromise params.saveKey = none) :
    OnchainSaveInv
      { system.setSave system.tracker.promises.length
          (some { params := params, phase := .saving }) with
        tracker := system.tracker.begin params.saveKey
        lastSaveParams := some params } := by
  have hbegun := InFlightTracker.begin_of_not_coalesced hnone
  have hlength : (system.tracker.begin params.saveKey).promises.length =
      system.tracker.promises.length + 1 := by
    rw [hbegun, List.length_append]
    rfl
  constructor
  · intro current hcurrent
    dsimp only at hcurrent ⊢
    rw [hlength]
    rw [hbegun] at hcurrent
    cases hcurrent
    refine ⟨Nat.lt_succ_self _, ?_⟩
    intro found hfound
    cases (Function.update_self _ _ _).symm.trans hfound
    rfl
  · intro other found hfound
    dsimp only
    rw [hlength]
    rcases update_some_cases hfound with ⟨rfl, -⟩ | ⟨-, hbefore⟩
    · exact Nat.lt_succ_self _
    · exact Nat.lt_succ_of_lt (h.numbered other found hbefore)
  · intro call hcall
    dsimp only
    rw [hlength]
    exact ⟨Nat.lt_succ_of_lt (h.calls call hcall).1, (h.calls call hcall).2⟩
  · intro call hcall found hfound
    rcases update_some_cases hfound with ⟨hnew, -⟩ | ⟨-, hbefore⟩
    · exact absurd hnew (Nat.ne_of_lt (h.calls call hcall).1)
    · exact h.covered call hcall found hbefore
  · intro other found changeset hfound hchangeset
    rcases update_some_cases hfound with ⟨-, rfl⟩ | ⟨-, hbefore⟩
    · cases hchangeset
    · exact h.exported other found changeset hbefore hchangeset
  · intro other found row hfound hrow
    rcases update_some_cases hfound with ⟨-, rfl⟩ | ⟨-, hbefore⟩
    · cases hrow
    · exact h.targeted other found row hbefore hrow
  · intro other given row changeset hfound
    rcases update_some_cases hfound with ⟨-, hnew⟩ | ⟨-, hbefore⟩
    · cases hnew
    · exact h.written other given row changeset hbefore

/-- A call whose joining is in order. -/
theorem OnchainSaveInv.orchestrateSave (horder : system.JoinInOrder params) :
    OnchainSaveInv (system.orchestrateSave params) := by
  unfold OnchainSaveSystem.orchestrateSave
  split
  · rename_i coalesced hcoalesced
    obtain ⟨current, hslot, hkey, rfl⟩ := InFlightTracker.exists_of_coalesced hcoalesced
    obtain ⟨hpromise, hcurrent⟩ := h.slot current hslot
    apply h.remember hpromise
    intro save hsave
    obtain ⟨hchanges, hmark, hrow⟩ := horder current.promise save hcoalesced hsave
    have hsame : save.params.saveKey = params.saveKey := (hcurrent save hsave).trans hkey
    constructor
    · exact congrArg OnchainSaveKey.walletId hsame
    · exact hmark
    · exact hrow
    · intro changeset hchangeset
      rw [hchanges changeset hchangeset]
      exact List.take_prefix _ _
  · rename_i hnone
    have hbegun := h.begin hnone
    apply hbegun.remember
    · dsimp only
      rw [InFlightTracker.begin_of_not_coalesced hnone, List.length_append]
      exact Nat.lt_succ_self _
    · intro save hsave
      cases (Function.update_self _ _ _).symm.trans hsave
      constructor
      · rfl
      · intro hmark
        exact hmark
      · intro row hrow
        exact hrow
      · intro changeset hchangeset
        cases hchangeset

theorem OnchainSaveInv.mutate (change : Change) :
    OnchainSaveInv { system with wallet := system.wallet ++ [change] } where
  slot := h.slot
  numbered := h.numbered
  calls := by
    intro call hcall
    obtain ⟨hpromise, hbefore⟩ := h.calls call hcall
    refine ⟨hpromise, ?_⟩
    rw [List.length_append]
    exact Nat.le_add_right_of_le hbefore
  covered := by
    intro call hcall save hsave
    have hcovers := h.covered call hcall save hsave
    refine ⟨hcovers.walletId, hcovers.mark, hcovers.row, ?_⟩
    intro changeset hchangeset
    dsimp only
    rw [List.take_append_of_le_length (h.calls call hcall).2]
    exact hcovers.changes changeset hchangeset
  exported := by
    intro promise save changeset hsave hchangeset
    exact (h.exported promise save changeset hsave hchangeset).trans (List.prefix_append _ _)
  targeted := h.targeted
  written := h.written

theorem OnchainSaveInv.settle (promise : Nat) (status : PromiseStatus) :
    OnchainSaveInv (system.settle promise status) := by
  have hsaves {other : Nat} {found : OnchainSave Change}
      (hfound : (system.settle promise status).saves other = some found) :
      system.saves other = some found := by
    by_cases hother : other = promise
    · subst hother
      cases (Function.update_self _ _ _).symm.trans hfound
    · exact (Function.update_of_ne hother _ _).symm.trans hfound
  have hlength : (system.settle promise status).tracker.promises.length =
      system.tracker.promises.length := List.length_set ..
  constructor
  · intro current hcurrent
    obtain ⟨hslot, -⟩ := Option.filter_eq_some_iff.mp hcurrent
    rw [hlength]
    refine ⟨(h.slot current hslot).1, ?_⟩
    intro save hsave
    exact (h.slot current hslot).2 save (hsaves hsave)
  · intro other found hfound
    rw [hlength]
    exact h.numbered other found (hsaves hfound)
  · intro call hcall
    rw [hlength]
    exact h.calls call hcall
  · intro call hcall found hfound
    exact h.covered call hcall found (hsaves hfound)
  · intro other found changeset hfound hchangeset
    exact h.exported other found changeset (hsaves hfound) hchangeset
  · intro other found row hfound hrow
    exact h.targeted other found row (hsaves hfound) hrow
  · intro other params row changeset hfound
    exact h.written other params row changeset (hsaves hfound)

end

/-! ## The parts of a save -/

/-- A save goes on; of its new phase only what the invariant says of it has to be shown. -/
theorem OnchainSaveInv.advance (h : OnchainSaveInv system)
    (hsave : system.saves promise = some save) {phase : OnchainSavePhase Change}
    (hcovered : ∀ call ∈ system.calls, call.promise = promise →
      ∀ changeset, phase.changeset = some changeset →
        system.wallet.take call.before <+: changeset)
    (hexported : ∀ changeset, phase.changeset = some changeset → changeset <+: system.wallet)
    (htargeted : ∀ row, phase.row = some row →
      ∀ given, save.params.descriptorWalletCoordinates = some given → row = given)
    (hwritten : ∀ row changeset, phase ≠ .written row changeset) :
    OnchainSaveInv (system.advance promise save phase) := by
  constructor
  · intro current hcurrent
    refine ⟨(h.slot current hcurrent).1, ?_⟩
    intro found hfound
    rcases update_some_cases hfound with ⟨hpromise, rfl⟩ | ⟨-, hbefore⟩
    · rw [← hpromise] at hsave
      exact (h.slot current hcurrent).2 save hsave
    · exact (h.slot current hcurrent).2 found hbefore
  · intro other found hfound
    rcases update_some_cases hfound with ⟨rfl, rfl⟩ | ⟨-, hbefore⟩
    · exact h.numbered other save hsave
    · exact h.numbered other found hbefore
  · exact h.calls
  · intro call hcall found hfound
    rcases update_some_cases hfound with ⟨hpromise, rfl⟩ | ⟨-, hbefore⟩
    · rw [← hpromise] at hsave
      have hcovers := h.covered call hcall save hsave
      exact ⟨hcovers.walletId, hcovers.mark, hcovers.row, hcovered call hcall hpromise⟩
    · exact h.covered call hcall found hbefore
  · intro other found changeset hfound hchangeset
    rcases update_some_cases hfound with ⟨-, rfl⟩ | ⟨-, hbefore⟩
    · exact hexported changeset hchangeset
    · exact h.exported other found changeset hbefore hchangeset
  · intro other found row hfound hrow
    rcases update_some_cases hfound with ⟨-, rfl⟩ | ⟨-, hbefore⟩
    · exact htargeted row hrow
    · exact h.targeted other found row hbefore hrow
  · intro other params row changeset hfound
    rcases update_some_cases hfound with ⟨-, hphase⟩ | ⟨-, hbefore⟩
    · exact absurd (congrArg OnchainSave.phase hphase).symm (hwritten row changeset)
    · exact h.written other params row changeset hbefore

/-- The write of a save is in order if it loses nothing that another save has just written. -/
theorem OnchainSaveInv.writeRow (h : OnchainSaveInv system)
    {row : DescriptorWalletCoordinates} {changeset : List Change} {syncedAtIso : String}
    (hsave : system.saves promise = some ⟨params, .targeted row changeset syncedAtIso⟩)
    (horder : system.WriteInOrder promise) :
    OnchainSaveInv (system.writeRow promise ⟨params, .targeted row changeset syncedAtIso⟩ row
      changeset syncedAtIso) := by
  unfold OnchainSaveSystem.writeRow
  split
  · exact h.settle promise .rejected
  · rename_i stored hstored
    dsimp only at hstored ⊢
    constructor
    · intro current hcurrent
      refine ⟨(h.slot current hcurrent).1, ?_⟩
      intro found hfound
      rcases update_some_cases hfound with ⟨hpromise, rfl⟩ | ⟨-, hbefore⟩
      · rw [← hpromise] at hsave
        have hkey := (h.slot current hcurrent).2 _ hsave
        exact hkey
      · exact (h.slot current hcurrent).2 found hbefore
    · intro other found hfound
      rcases update_some_cases hfound with ⟨rfl, -⟩ | ⟨-, hbefore⟩
      · exact h.numbered other _ hsave
      · exact h.numbered other found hbefore
    · exact h.calls
    · intro call hcall found hfound
      rcases update_some_cases hfound with ⟨hpromise, rfl⟩ | ⟨-, hbefore⟩
      · rw [← hpromise] at hsave
        have hcovers := h.covered call hcall _ hsave
        exact ⟨hcovers.walletId, hcovers.mark, hcovers.row, hcovers.changes⟩
      · exact h.covered call hcall found hbefore
    · intro other found exported hfound hchangeset
      rcases update_some_cases hfound with ⟨-, rfl⟩ | ⟨-, hbefore⟩
      · exact h.exported promise _ exported hsave hchangeset
      · exact h.exported other found exported hbefore hchangeset
    · intro other found target hfound hrow
      rcases update_some_cases hfound with ⟨-, rfl⟩ | ⟨-, hbefore⟩
      · have htarget := h.targeted promise _ target hsave hrow
        exact htarget
      · exact h.targeted other found target hbefore hrow
    · intro other given target written hfound
      rcases update_some_cases hfound with ⟨-, hnew⟩ | ⟨-, hbefore⟩
      · cases hnew
        refine ⟨_, system.rows.set_self _ _ _, List.prefix_rfl, ?_⟩
        intro (hmark : params.markFullScanDone = true)
        simp only [SavedDescriptorRow.updateChangeset, hmark, Bool.true_or]
      · obtain ⟨found, hfoundRow, hchanges, hmark⟩ := h.written other given target written hbefore
        by_cases hsame : given.walletId = params.walletId ∧ target = row
        · obtain ⟨hwalletId, rfl⟩ := hsame
          have hlength := horder params target changeset syncedAtIso hsave other given written
            hbefore hwalletId
          refine ⟨_, by rw [hwalletId]; exact system.rows.set_self _ _ _, ?_, ?_⟩
          · exact List.prefix_of_prefix_length_le
              (h.exported other _ written hbefore rfl) (h.exported promise _ changeset hsave rfl)
              hlength
          · intro hasked
            rw [hwalletId, hstored] at hfoundRow
            cases hfoundRow
            simp only [SavedDescriptorRow.updateChangeset, hmark hasked, Bool.or_true]
        · refine ⟨found, ?_, hchanges, hmark⟩
          exact (system.rows.set_of_ne hsame _).trans hfoundRow

/-- A step in order keeps the invariant. -/
theorem onchainSaveInv_step (system : OnchainSaveSystem Change) (op : OnchainSaveOp Change)
    (horder : system.StepInOrder op) (h : OnchainSaveInv system) :
    OnchainSaveInv (onchainSaveStep system op) := by
  cases op with
  | mutate change => exact h.mutate change
  | setStore store =>
    exact ⟨h.slot, h.numbered, h.calls, h.covered, h.exported, h.targeted, h.written⟩
  | call params => exact h.orchestrateSave horder
  | retry =>
    simp only [onchainSaveStep]
    split
    · exact h
    · rename_i params hparams
      exact h.orchestrateSave (horder params hparams)
  | «export» promise syncedAtIso =>
    simp only [onchainSaveStep]
    split
    · rename_i params hsave
      apply h.advance hsave
      · intro call _ _ changeset hchangeset
        cases hchangeset
        exact List.take_prefix _ _
      · intro changeset hchangeset
        cases hchangeset
        exact List.prefix_rfl
      · intro row hrow
        cases hrow
      · intro row changeset hphase
        cases hphase
    · exact h
  | target promise =>
    simp only [onchainSaveStep]
    split
    · rename_i params changeset syncedAtIso hsave
      apply h.advance hsave
      · intro call hcall hpromise exported hchangeset
        rw [← hpromise] at hsave
        exact (h.covered call hcall _ hsave).changes exported hchangeset
      · intro exported hchangeset
        exact h.exported promise _ exported hsave hchangeset
      · intro row hrow given hgiven
        cases hrow
        rw [show params.descriptorWalletCoordinates = some given from hgiven]
        rfl
      · intro row written hphase
        cases hphase
    · exact h
  | write promise =>
    simp only [onchainSaveStep]
    split
    · rename_i params row changeset syncedAtIso hsave
      exact h.writeRow hsave horder
    · exact h
  | resolve promise =>
    simp only [onchainSaveStep]
    split
    · exact h.settle promise .resolved
    · exact h
  | fail promise =>
    simp only [onchainSaveStep]
    split
    · exact h.settle promise .rejected
    · exact h

/-- In a run in which calls join and saves write in order, a promise that resolves has persisted
what all its callers asked for. -/
theorem resolved_saves_have_persisted (wallet : List Change) (store : OnchainWalletStore)
    (rows : SavedDescriptorRows Change)
    (ops : List (OnchainSaveOp Change))
    (horder : RunMeets onchainSaveStep OnchainSaveSystem.StepInOrder
      (initialOnchainSaveSystem wallet store rows) ops) :
    RunMeets onchainSaveStep OnchainSaveSystem.ResolvesPersisted
      (initialOnchainSaveSystem wallet store rows) ops := by
  apply horder.imp_of_invariant OnchainSaveInv _ onchainSaveInv_step
    (onchainSaveInv_initial wallet store rows)
  intro system op h _
  cases op with
  | resolve promise =>
      intro params row changeset hsave call hcall hpromise
      exact h.persisted hsave hcall hpromise
  | mutate | setStore | call | retry | «export» | target | write | fail => trivial

end OnchainSaves

def shownSegwit : ShownDescriptorWallet where
  networkMode := .signet
  addressType := .segwit
  accountId := 0

def segwitSave (markFullScanDone : Bool) : OnchainSaveParams where
  walletId := 1
  networkMode := .signet
  addressType := .segwit
  accountId := 0
  markFullScanDone := markFullScanDone
  descriptorWalletCoordinates := none

def onlySegwitRow : SavedDescriptorRows Nat :=
  SavedDescriptorRows.set (fun _ _ => none) 1
    { network := .signet, addressType := .segwit, accountId := 0 }
    { changeSet := [], fullScanDone := false, lastSuccessfulEsploraSyncAt := none }

def onlySegwitSystem : OnchainSaveSystem Nat :=
  initialOnchainSaveSystem [] { loadedDescriptorWallet := none, selected := shownSegwit }
    onlySegwitRow

def fullScanJoinsLate : List (OnchainSaveOp Nat) :=
  [.mutate 7, .call (segwitSave false), .export 0 "2025-01-01T00:00:00.000Z", .mutate 8,
    .call (segwitSave true), .target 0, .write 0, .resolve 0]

theorem full_scan_is_not_persisted :
    ¬ RunMeets onchainSaveStep OnchainSaveSystem.ResolvesPersisted onlySegwitSystem
      fullScanJoinsLate := by
  intro hmeets
  have hresolve := hmeets.2.2.2.2.2.2.2.1
  obtain ⟨stored, hstored, -, hmark⟩ := hresolve (segwitSave false)
    { network := .signet, addressType := .segwit, accountId := 0 } [7] rfl
    { params := segwitSave true, before := 2, promise := 0 } List.mem_cons_self rfl
  cases hstored
  cases hmark rfl

def callJoinsInTime : List (OnchainSaveOp Nat) :=
  [.mutate 7, .call (segwitSave true), .mutate 8, .call (segwitSave false),
    .export 0 "2025-01-01T00:00:00.000Z", .target 0, .write 0, .resolve 0]

theorem resolved_saves_have_persisted_callJoinsInTime :
    RunMeets onchainSaveStep OnchainSaveSystem.ResolvesPersisted onlySegwitSystem
      callJoinsInTime := by
  apply resolved_saves_have_persisted
  refine ⟨trivial, ?_, trivial, ?_, trivial, trivial, ?_, trivial, trivial⟩
  · intro promise save hcoalesced
    cases hcoalesced
  · intro promise save hcoalesced hsave
    cases hcoalesced
    cases hsave
    refine ⟨?_, ?_, ?_⟩
    · intro changeset hchangeset
      cases hchangeset
    · intro _
      rfl
    · intro row hrow
      cases hrow
  · intro params row changeset syncedAtIso hsave other otherParams otherChangeset hother
    by_cases hzero : other = 0
    · subst hzero
      cases hsave.symm.trans hother
    · change Function.update (Function.update (Function.update (fun _ => none) 0 _) 0 _) 0 _ other =
        some _ at hother
      rw [Function.update_of_ne hzero, Function.update_of_ne hzero, Function.update_of_ne hzero]
        at hother
      cases hother

end Bitboard.Frontend
