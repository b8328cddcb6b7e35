/-
# Updates and changesets of the active wallet

If no wallet is loaded or created while a request waits for its answer, every update is
applied to the wallet that it was requested from. The accumulated changeset and the staged
changes are always all changes of the active wallet, so a return finds the changeset complete
once nothing is staged. Only a call that fails returns without accumulating.
-/

import Bitboard.Crypto.ActiveWallet

namespace Bitboard.Crypto

open Bitboard.Lib

section ActiveWallets

variable {Id Change : Type}

namespace WalletSlots

variable (slots : WalletSlots Id Change)

/-- Every update was applied to the wallet that it was requested from. -/
def AppliesOwn : Prop :=
  ∀ update ∈ slots.updates, update.requestedFrom = update.appliedTo

/-- The accumulated changeset is that of the active wallet, with all that it has staged. -/
def ChangesetComplete : Prop :=
  ∀ wallet, slots.activeWallet = some wallet →
    slots.accumulatedChangeset = slots.history wallet.session

def NothingStaged : Prop :=
  ∀ wallet, slots.activeWallet = some wallet → wallet.stage = []

/-- No call waits for the answer to a request from a wallet. -/
def NoRequestWaits : Prop :=
  ∀ id call, slots.calls id = some call → call.requestedFrom = none

def Fails : ChainCall → ChainAnswer Change → Prop
  | .syncing _, .update _ | .scanning _, .update _ | .reconciling _ _, .update _ => False
  | .reconciling _ _, .noUpdate => False
  | .checkingStuck _, .stuck _ => False
  | .checkingLast, .stuck any => any = true
  | _, _ => True

/-- No wallet is loaded or created while a request waits, and a loaded wallet has nothing staged.
A call fails only while nothing is staged. -/
def StepInOrder : WalletOp Id Change → Prop
  | .load _ staged => slots.NoRequestWaits ∧ staged = []
  | .create _ => slots.NoRequestWaits
  | .failOpen => slots.NothingStaged
  | .prepare staged false => slots.NothingStaged ∧ staged = []
  | .resume id answer _ => ∀ call, slots.calls id = some call → Fails call answer →
      slots.NothingStaged
  | .prepare _ true | .getNewAddress _ | .exportChangeset | .syncWallet _ _ | .fullScanWallet _ =>
    True

variable [DecidableEq Id]

def Returns : WalletOp Id Change → Prop
  | .syncWallet _ _ | .fullScanWallet _ => slots.activeWallet = none
  | .resume id answer unreconciled =>
    (∃ call, slots.calls id = some call) ∧
      (walletStep slots (.resume id answer unreconciled)).calls id = none
  | _ => True

end WalletSlots

/-- After the step, every update was applied to its own wallet, and if a call returns in it the
changeset is complete. -/
def WalletSlots.Keeps [DecidableEq Id] (slots : WalletSlots Id Change)
    (op : WalletOp Id Change) : Prop :=
  (walletStep slots op).AppliesOwn ∧
    (slots.Returns op → (walletStep slots op).ChangesetComplete)

structure WalletInv (slots : WalletSlots Id Change) : Prop where
  accumulated : ∀ wallet, slots.activeWallet = some wallet →
    slots.accumulatedChangeset ++ wallet.stage = slots.history wallet.session
  requests : ∀ id call session, slots.calls id = some call →
    call.requestedFrom = some session →
      ∃ wallet, slots.activeWallet = some wallet ∧ wallet.session = session
  updates : slots.AppliesOwn

variable {slots : WalletSlots Id Change} {id : Id}

theorem walletInv_initial : WalletInv (initialWalletSlots : WalletSlots Id Change) where
  accumulated := by
    intro wallet hwallet
    cases hwallet
  requests := by
    intro id call session hcall
    cases hcall
  updates := by
    intro update hupdate
    cases hupdate

theorem WalletInv.changesetComplete (h : WalletInv slots) (hstaged : slots.NothingStaged) :
    slots.ChangesetComplete := by
  intro wallet hwallet
  have hall := h.accumulated wallet hwallet
  rw [hstaged wallet hwallet, List.append_nil] at hall
  exact hall

theorem WalletInv.replaceWallet (h : WalletInv slots) (hfree : slots.NoRequestWaits)
    (changeset staged : List Change) : WalletInv (slots.replaceWallet changeset staged) where
  accumulated := by
    intro wallet hwallet
    cases hwallet
    exact (Function.update_self slots.sessions (changeset ++ staged) slots.history).symm
  requests := by
    intro id call session hcall hsession
    rw [hfree id call hcall] at hsession
    cases hsession
  updates := h.updates

theorem WalletInv.stageChanges (h : WalletInv slots) (staged : List Change) :
    WalletInv (slots.stageChanges staged) := by
  unfold WalletSlots.stageChanges
  split
  · exact h
  · rename_i wallet hwallet
    constructor
    · intro moved hmoved
      cases hmoved
      dsimp only
      rw [Function.update_self, ← List.append_assoc, h.accumulated wallet hwallet]
    · intro id call session hcall hsession
      obtain ⟨found, hfound, hsame⟩ := h.requests id call session hcall hsession
      cases hwallet.symm.trans hfound
      exact ⟨_, rfl, hsame⟩
    · exact h.updates

theorem WalletInv.accumulateStagedChanges (h : WalletInv slots) :
    WalletInv slots.accumulateStagedChanges := by
  unfold WalletSlots.accumulateStagedChanges
  split
  · exact h
  · rename_i wallet hwallet
    constructor
    · intro moved hmoved
      cases hmoved
      dsimp only
      rw [List.append_nil]
      exact h.accumulated wallet hwallet
    · intro id call session hcall hsession
      obtain ⟨found, hfound, hsame⟩ := h.requests id call session hcall hsession
      cases hwallet.symm.trans hfound
      exact ⟨_, rfl, hsame⟩
    · exact h.updates

theorem nothingStaged_accumulateStagedChanges : slots.accumulateStagedChanges.NothingStaged := by
  unfold WalletSlots.accumulateStagedChanges
  split
  · rename_i hnone
    intro wallet hwallet
    rw [hnone] at hwallet
    cases hwallet
  · intro wallet hwallet
    cases hwallet
    rfl

variable {call : ChainCall}

theorem WalletInv.applyUpdate (h : WalletInv slots) {session : Nat}
    (hcall : slots.calls id = some call) (hsession : call.requestedFrom = some session)
    (staged : List Change) : WalletInv (slots.applyUpdate session staged) := by
  obtain ⟨wallet, hwallet, hsame⟩ := h.requests id call session hcall hsession
  unfold WalletSlots.applyUpdate
  rw [hwallet]
  have hstaged := h.stageChanges staged
  refine ⟨hstaged.accumulated, hstaged.requests, ?_⟩
  intro update hupdate
  rcases List.mem_append.mp hupdate with hbefore | hnew
  · exact h.updates update hbefore
  · rw [List.mem_singleton.mp hnew]
    exact hsame.symm

theorem nothingStaged_stageChanges_nil (h : slots.NothingStaged) :
    (slots.stageChanges []).NothingStaged := by
  unfold WalletSlots.stageChanges
  split
  · exact h
  · rename_i wallet hwallet
    intro moved hmoved
    cases hmoved
    exact (List.append_nil _).trans (h wallet hwallet)

variable [DecidableEq Id]

section

variable (h : WalletInv slots)
include h

theorem WalletInv.setCall {call : Option ChainCall}
    (hrequest : ∀ found session, call = some found → found.requestedFrom = some session →
      ∃ wallet, slots.activeWallet = some wallet ∧ wallet.session = session) :
    WalletInv (slots.setCall id call) where
  accumulated := h.accumulated
  requests := by
    intro other found session hfound hsession
    dsimp only [WalletSlots.setCall] at hfound ⊢
    by_cases hother : other = id
    · subst hother
      rw [Function.update_self] at hfound
      exact hrequest found session hfound hsession
    · rw [Function.update_of_ne hother] at hfound
      exact h.requests other found session hfound hsession
  updates := h.updates

theorem WalletInv.setFree {call : Option ChainCall}
    (hfree : ∀ found, call = some found → found.requestedFrom = none) :
    WalletInv (slots.setCall id call) := by
  apply h.setCall
  intro found session hfound hsession
  rw [hfree found hfound] at hsession
  cases hsession

theorem WalletInv.endCall : WalletInv (slots.setCall id none) := by
  apply h.setFree
  intro found hfound
  cases hfound

theorem WalletInv.finish : WalletInv (slots.finish id) :=
  h.accumulateStagedChanges.accumulateStagedChanges.endCall

theorem WalletInv.beginPass (pass : Nat) (unreconciled : Bool) :
    WalletInv (slots.beginPass id pass unreconciled) := by
  unfold WalletSlots.beginPass
  split
  · exact h.endCall
  · rename_i wallet hwallet
    split
    · apply h.setCall
      intro found session hfound hsession
      cases hfound
      cases hsession
      exact ⟨wallet, hwallet, rfl⟩
    · apply h.setFree
      intro found hfound
      cases hfound
      rfl

theorem WalletInv.resume (hcall : slots.calls id = some call) (answer : ChainAnswer Change)
    (unreconciled : Bool) : WalletInv (slots.resume id call answer unreconciled) := by
  unfold WalletSlots.resume
  split
  · exact h.endCall
  · exact (h.applyUpdate hcall rfl _).beginPass 0 unreconciled
  · exact (h.applyUpdate hcall rfl _).finish
  · apply (h.applyUpdate hcall rfl _).setFree
    intro found hfound
    cases hfound
    rfl
  · apply h.setFree
    intro found hfound
    cases hfound
    rfl
  · split
    · exact h.beginPass _ unreconciled
    · exact h.finish
  · split
    · exact h.endCall
    · exact h.finish
  · exact h.endCall

end

/-- A step in order keeps the invariant. -/
theorem walletInv_step (slots : WalletSlots Id Change) (op : WalletOp Id Change)
    (horder : slots.StepInOrder op) (h : WalletInv slots) : WalletInv (walletStep slots op) := by
  cases op with
  | load changeset staged => exact h.replaceWallet horder.1 changeset staged
  | create changeset => exact h.replaceWallet horder changeset []
  | failOpen => exact h
  | getNewAddress staged => exact (h.stageChanges staged).accumulateStagedChanges
  | prepare staged succeeds =>
    simp only [walletStep]
    split
    · exact (h.stageChanges staged).accumulateStagedChanges
    · exact h.stageChanges staged
  | exportChangeset => exact h.accumulateStagedChanges
  | syncWallet id staged =>
    simp only [walletStep]
    split
    · rename_i wallet _ hwallet
      apply (h.stageChanges staged).setCall
      intro found session hfound hsession
      cases hfound
      cases hsession
      unfold WalletSlots.stageChanges
      rw [hwallet]
      exact ⟨_, rfl, rfl⟩
    · exact h
  | fullScanWallet id =>
    simp only [walletStep]
    split
    · rename_i wallet _ hwallet
      apply h.setCall
      intro found session hfound hsession
      cases hfound
      cases hsession
      exact ⟨wallet, hwallet, rfl⟩
    · exact h
  | resume id answer unreconciled =>
    simp only [walletStep]
    split
    · rename_i call hcall
      exact h.resume hcall answer unreconciled
    · exact h

/-! ## Returns -/

@[simp] theorem calls_setCall (call : Option ChainCall) :
    (slots.setCall id call).calls id = call := by
  simp only [WalletSlots.setCall, Function.update_self]

theorem nothingStaged_finish : (slots.finish id).NothingStaged :=
  nothingStaged_accumulateStagedChanges

theorem calls_beginPass {wallet : ActiveWallet Change} (hwallet : slots.activeWallet = some wallet)
    (pass : Nat) (unreconciled : Bool) :
    (slots.beginPass id pass unreconciled).calls id ≠ none := by
  unfold WalletSlots.beginPass
  rw [hwallet]
  dsimp only
  split
  · simp [WalletSlots.setCall]
  · simp [WalletSlots.setCall]

omit [DecidableEq Id] in
theorem activeWallet_applyUpdate {wallet : ActiveWallet Change}
    (hwallet : slots.activeWallet = some wallet) (session : Nat) (staged : List Change) :
    ∃ after, (slots.applyUpdate session staged).activeWallet = some after := by
  simp [WalletSlots.applyUpdate, WalletSlots.stageChanges, hwallet]

/-- A call that returns has accumulated what was staged, or has failed with nothing staged. -/
theorem nothingStaged_resume {answer : ChainAnswer Change}
    {unreconciled : Bool} (hfails : WalletSlots.Fails call answer → slots.NothingStaged)
    (hreturns : (slots.resume id call answer unreconciled).calls id = none) :
    (slots.resume id call answer unreconciled).NothingStaged := by
  unfold WalletSlots.resume at hreturns ⊢
  split at hreturns
  · rename_i hnone
    intro wallet hwallet
    cases hnone.symm.trans hwallet
  · rename_i wallet session staged hwallet
    obtain ⟨after, hafter⟩ := activeWallet_applyUpdate hwallet session staged
    exact absurd hreturns (calls_beginPass hafter 0 unreconciled)
  · exact nothingStaged_finish
  · rw [calls_setCall] at hreturns
    cases hreturns
  · rw [calls_setCall] at hreturns
    cases hreturns
  · rename_i wallet pass any hwallet
    cases any with
    | true => exact absurd hreturns (calls_beginPass hwallet (pass + 1) unreconciled)
    | false => exact nothingStaged_finish
  · rename_i wallet any hwallet
    cases any with
    | true => exact hfails rfl
    | false => exact nothingStaged_finish
  · rename_i call answer _ _ _ _ _ hsync hscan hreconcile hnoUpdate hstuck hlast
    apply hfails
    cases call <;> cases answer <;> first
      | trivial
      | simp_all

/-- A step in order that returns leaves the changeset complete. -/
theorem changesetComplete_of_returns (h : WalletInv slots) {op : WalletOp Id Change}
    (horder : slots.StepInOrder op) (hreturns : slots.Returns op) :
    (walletStep slots op).ChangesetComplete := by
  apply (walletInv_step slots op horder h).changesetComplete
  cases op with
  | load changeset staged =>
    obtain ⟨-, rfl⟩ := horder
    intro wallet hwallet
    cases hwallet
    rfl
  | create changeset =>
    intro wallet hwallet
    cases hwallet
    rfl
  | failOpen => exact horder
  | getNewAddress | exportChangeset => exact nothingStaged_accumulateStagedChanges
  | prepare staged succeeds =>
    cases succeeds with
    | true => exact nothingStaged_accumulateStagedChanges
    | false =>
      obtain ⟨hnothing, rfl⟩ := horder
      exact nothingStaged_stageChanges_nil hnothing
  | syncWallet id staged | fullScanWallet id =>
    have hnone : slots.activeWallet = none := hreturns
    have hnothing : slots.NothingStaged := by
      intro wallet hwallet
      cases hnone.symm.trans hwallet
    cases hcall : slots.calls id <;> simp only [walletStep, hnone, hcall] <;> exact hnothing
  | resume id answer unreconciled =>
    obtain ⟨⟨call, hcall⟩, hends⟩ := hreturns
    simp only [walletStep, hcall] at hends ⊢
    exact nothingStaged_resume (horder call hcall) hends

/-- In a run in order, every update is applied to the wallet that it was requested from, and every
return finds the changeset complete. -/
theorem active_wallet_keeps_its_changes (ops : List (WalletOp Id Change))
    (horder : RunMeets walletStep WalletSlots.StepInOrder initialWalletSlots ops) :
    RunMeets walletStep WalletSlots.Keeps initialWalletSlots ops := by
  apply horder.imp_of_invariant WalletInv _ walletInv_step walletInv_initial
  intro slots op h hstep
  exact ⟨(walletInv_step slots op hstep h).updates, changesetComplete_of_returns h hstep⟩

end ActiveWallets

def loadDuringSync : List (WalletOp Nat Nat) :=
  [.load [1] [], .syncWallet 0 [], .load [2] [], .resume 0 (.update [3]) false]

theorem update_enters_other_wallet :
    ¬ RunMeets walletStep WalletSlots.Keeps (initialWalletSlots : WalletSlots Nat Nat)
      loadDuringSync := by
  intro hmeets
  have hown := hmeets.2.2.2.1.1 { requestedFrom := 0, appliedTo := 1 } List.mem_cons_self
  cases hown

def loadAfterSync : List (WalletOp Nat Nat) :=
  [.load [1] [], .syncWallet 0 [3], .getNewAddress [4], .resume 0 (.update [5]) false,
    .resume 0 (.stuck false) false, .load [2] []]

theorem active_wallet_keeps_its_changes_loadAfterSync :
    RunMeets walletStep WalletSlots.Keeps (initialWalletSlots : WalletSlots Nat Nat)
      loadAfterSync := by
  apply active_wallet_keeps_its_changes
  refine ⟨⟨?_, rfl⟩, trivial, trivial, ?_, ?_, ⟨?_, rfl⟩, trivial⟩
  · intro id call hcall
    cases hcall
  · intro call hcall hfails
    cases hcall
    cases hfails
  · intro call hcall hfails
    cases hcall
    cases hfails
  · intro id call hcall
    by_cases hid : id = 0
    · subst hid
      cases hcall
    · change Function.update (Function.update (Function.update (fun _ => none) 0 _) 0 _) 0 none
        id = some call at hcall
      simp only [Function.update_of_ne hid] at hcall
      cases hcall

end Bitboard.Crypto
