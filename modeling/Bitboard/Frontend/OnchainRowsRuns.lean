/-
# Changesets stay in their rows

A call is bound to a row from its last look at the active wallet until it has exported, and
to the store until it has read its row there. If the wallet in memory is that of the row
when a call becomes bound, no wallet of another row is loaded or created while it is, and
the store still shows the same row when the call reads it, then every changeset is written
to the row whose wallet it was exported from.
-/

import Bitboard.Frontend.OnchainRows

namespace Bitboard.Frontend

open Bitboard.Lib

namespace OnchainFlow

variable (store : OnchainWalletStore)

def boundRow : OnchainFlow → Option DescriptorRow
  | .outgoing _ left _ => some left.row
  | .save params => some (params.row store)
  | .broadcast walletId => some { walletId := walletId, coordinates := store.coordinates }
  | .load _ _ _ | .sync _ | .saveExported _ _ | .broadcastExported _ _ | .writing _ _ _ => none

def pendingWrite : OnchainFlow → Option RowWrite
  | .saveExported params origin => some { row := params.row store, origin := origin }
  | .broadcastExported walletId origin =>
    some { row := { walletId := walletId, coordinates := store.coordinates }, origin := origin }
  | .writing row origin _ => some { row := row, origin := origin }
  | .load _ _ _ | .outgoing _ _ _ | .sync _ | .save _ | .broadcast _ => none

/-- The call has yet to read its row from the store. -/
def ReadsStore : OnchainFlow → Prop
  | .save params | .saveExported params _ => params.descriptorWalletCoordinates = none
  | .broadcast _ | .broadcastExported _ _ => True
  | .load _ _ _ | .outgoing _ _ _ | .sync _ | .writing _ _ _ => False

end OnchainFlow

namespace OnchainRowsSystem

variable {Id : Type} (system : OnchainRowsSystem Id)

/-- The wallet in memory is that of the row. -/
def Holds (row : DescriptorRow) : Prop :=
  system.wasm = some row

def OnlyBoundTo (row : DescriptorRow) : Prop :=
  ∀ id flow bound, system.flows id = some flow → flow.boundRow system.store = some bound →
    bound = row

/-- No call that has yet to read its row from the store will read another one there. -/
def ShowsSame (store : OnchainWalletStore) : Prop :=
  store.coordinates = system.store.coordinates ∨
    ∀ id flow, system.flows id = some flow → ¬ flow.ReadsStore

/-- A wallet is created or loaded only while no call is bound to another row, and committed only
while no call has yet to read another one. A sync goes on to save only with the wallet of its row
in memory. -/
def AdvanceInOrder : OnchainFlow → Prop
  | .load _ target (.resolving false) => system.OnlyBoundTo target.row
  | .load kind target .loading =>
    system.gaveUp kind target .loading = false → system.OnlyBoundTo target.row
  | .load kind target .loaded =>
    system.gaveUp kind target .loaded = false → kind ≠ .reload →
      system.ShowsSame (OnchainWalletStore.commitLoadedDescriptorWallet target.shown)
  | .sync params =>
    system.activeWalletId = some params.walletId → system.Holds (params.row system.store)
  | _ => True

def StepInOrder : OnchainRowsOp Id → Prop
  | .switch _ _ current _ => ∀ walletId, system.activeWalletId = some walletId →
      system.Holds { walletId := walletId, coordinates := current.coordinates }
  | .retrySave _ => ∀ params, system.lastSaveParams = some params →
      system.Holds (params.row system.store)
  | .broadcast _ => ∀ walletId, system.activeWalletId = some walletId →
      system.Holds { walletId := walletId, coordinates := system.store.coordinates }
  | .prepareActiveWalletSwitch _ =>
    system.ShowsSame { system.store with loadedDescriptorWallet := none }
  | .select selected => system.ShowsSame { system.store with selected := selected }
  | .advance id => ∀ flow, system.flows id = some flow → system.AdvanceInOrder flow
  | .load _ _ | .reload _ _ | .sync _ _ | .skip _ | .fail _ => True

end OnchainRowsSystem

structure OnchainRowsInv {Id : Type} (system : OnchainRowsSystem Id) : Prop where
  bound : ∀ id flow row, system.flows id = some flow →
    flow.boundRow system.store = some row → system.Holds row
  pending : ∀ id flow write, system.flows id = some flow →
    flow.pendingWrite system.store = some write → write.origin = some write.row
  writes : ∀ write ∈ system.writes, write.origin = some write.row

variable {shown : OnchainWalletStore} {row : DescriptorRow}

section Steps

variable {Id : Type} {system : OnchainRowsSystem Id}

theorem onchainRowsInv_initial (activeWalletId : Option Nat) (selected : ShownDescriptorWallet)
    (stored : DescriptorRow → Bool) :
    OnchainRowsInv (initialOnchainRowsSystem activeWalletId selected stored :
      OnchainRowsSystem Id) where
  bound := by
    intro id flow row hflow
    cases hflow
  pending := by
    intro id flow write hflow
    cases hflow
  writes := by
    intro write hwrite
    cases hwrite

variable {flow : OnchainFlow}

theorem OnchainFlow.boundRow_congr {store : OnchainWalletStore}
    (hsame : shown.coordinates = store.coordinates ∨ ¬ flow.ReadsStore) :
    flow.boundRow shown = flow.boundRow store := by
  rcases hsame with hsame | hreads
  · cases flow <;> simp only [boundRow, RowSaveParams.row, hsame]
  · cases flow with
    | save params =>
      obtain ⟨walletId, coordinates⟩ := params
      cases coordinates with
      | none => exact absurd rfl hreads
      | some coordinates => rfl
    | broadcast walletId => exact absurd trivial hreads
    | _ => rfl

theorem OnchainFlow.pendingWrite_congr {store : OnchainWalletStore}
    (hsame : shown.coordinates = store.coordinates ∨ ¬ flow.ReadsStore) :
    flow.pendingWrite shown = flow.pendingWrite store := by
  rcases hsame with hsame | hreads
  · cases flow <;> simp only [pendingWrite, RowSaveParams.row, hsame]
  · cases flow with
    | saveExported params origin =>
      obtain ⟨walletId, coordinates⟩ := params
      cases coordinates with
      | none => exact absurd rfl hreads
      | some coordinates => rfl
    | broadcastExported walletId origin => exact absurd trivial hreads
    | _ => rfl

theorem OnchainRowsInv.showStore (h : OnchainRowsInv system) (hsame : system.ShowsSame shown) :
    OnchainRowsInv { system with store := shown } := by
  have hflow {id : Id} {flow : OnchainFlow} (hfound : system.flows id = some flow) :
      shown.coordinates = system.store.coordinates ∨ ¬ flow.ReadsStore :=
    hsame.imp_right fun hreads => hreads id flow hfound
  constructor
  · intro id flow row hfound hbound
    exact h.bound id flow row hfound
      ((OnchainFlow.boundRow_congr (hflow hfound)).symm.trans hbound)
  · intro id flow write hfound hpending
    exact h.pending id flow write hfound
      ((OnchainFlow.pendingWrite_congr (hflow hfound)).symm.trans hpending)
  · exact h.writes

theorem OnchainRowsInv.activate (h : OnchainRowsInv system) (hbound : system.OnlyBoundTo row) :
    OnchainRowsInv { system with wasm := some row } where
  bound := by
    intro id flow bound hfound hrow
    rw [hbound id flow bound hfound hrow]
    rfl
  pending := h.pending
  writes := h.writes

variable [DecidableEq Id]
variable {id : Id}

section

variable (h : OnchainRowsInv system)
include h

theorem OnchainRowsInv.setFlow {next : Option OnchainFlow}
    (hbound : ∀ flow row, next = some flow → flow.boundRow system.store = some row →
      system.Holds row)
    (hpending : ∀ flow write, next = some flow → flow.pendingWrite system.store = some write →
      write.origin = some write.row) : OnchainRowsInv (system.setFlow id next) := by
  have hflows {other : Id} {flow : OnchainFlow}
      (hfound : (system.setFlow id next).flows other = some flow) :
      next = some flow ∨ system.flows other = some flow := by
    dsimp only [OnchainRowsSystem.setFlow] at hfound
    by_cases hother : other = id
    · subst hother
      rw [Function.update_self] at hfound
      exact Or.inl hfound
    · rw [Function.update_of_ne hother] at hfound
      exact Or.inr hfound
  constructor
  · intro other flow row hfound hrow
    rcases hflows hfound with hnext | hbefore
    · exact hbound flow row hnext hrow
    · exact h.bound other flow row hbefore hrow
  · intro other flow write hfound hwrite
    rcases hflows hfound with hnext | hbefore
    · exact hpending flow write hnext hwrite
    · exact h.pending other flow write hbefore hwrite
  · exact h.writes

theorem OnchainRowsInv.setFree {next : Option OnchainFlow}
    (hfree : ∀ flow, next = some flow → flow.boundRow system.store = none ∧
      flow.pendingWrite system.store = none) : OnchainRowsInv (system.setFlow id next) := by
  apply h.setFlow
  · intro flow row hnext hrow
    rw [(hfree flow hnext).1] at hrow
    cases hrow
  · intro flow write hnext hwrite
    rw [(hfree flow hnext).2] at hwrite
    cases hwrite

theorem OnchainRowsInv.endFlow (id : Id) : OnchainRowsInv (system.setFlow id none) := by
  apply h.setFree
  intro flow hnext
  cases hnext

theorem OnchainRowsInv.toLoad (id : Id) (kind : RowLoadKind) (target : RowTarget)
    (part : RowLoadPart) : OnchainRowsInv (system.setFlow id (some (.load kind target part))) := by
  apply h.setFree
  intro flow hnext
  cases hnext
  exact ⟨rfl, rfl⟩

theorem OnchainRowsInv.bind (hfree : flow.pendingWrite system.store = none)
    (hholds : ∀ row, flow.boundRow system.store = some row → system.Holds row) :
    OnchainRowsInv (system.setFlow id (some flow)) := by
  apply h.setFlow
  · intro next row hnext hrow
    cases hnext
    exact hholds row hrow
  · intro next write hnext hwrite
    cases hnext
    rw [hfree] at hwrite
    cases hwrite

/-- A call exports the wallet of its row. -/
theorem OnchainRowsInv.export {flow next : OnchainFlow} (hflow : system.flows id = some flow)
    (hbound : flow.boundRow system.store = some row) (hfree : next.boundRow system.store = none)
    (hnext : next.pendingWrite system.store = some { row := row, origin := system.wasm }) :
    OnchainRowsInv (system.setFlow id (some next)) := by
  apply h.setFlow
  · intro found bound hfound hrow
    cases hfound
    rw [hfree] at hrow
    cases hrow
  · intro found write hfound hwrite
    cases hfound
    rw [hnext] at hwrite
    cases hwrite
    exact h.bound id flow row hflow hbound

theorem OnchainRowsInv.keepPending {flow next : OnchainFlow} (hflow : system.flows id = some flow)
    (hfree : next.boundRow system.store = none)
    (hsame : next.pendingWrite system.store = flow.pendingWrite system.store) :
    OnchainRowsInv (system.setFlow id (some next)) := by
  apply h.setFlow
  · intro found bound hfound hrow
    cases hfound
    rw [hfree] at hrow
    cases hrow
  · intro found write hfound hwrite
    cases hfound
    exact h.pending id flow write hflow (hsame.symm.trans hwrite)

theorem OnchainRowsInv.start (hfree : flow.pendingWrite system.store = none)
    (hholds : ∀ row, flow.boundRow system.store = some row → system.Holds row) :
    OnchainRowsInv (system.start id flow) := by
  unfold OnchainRowsSystem.start
  split
  · exact h.bind hfree hholds
  · exact h

end

/-! ## The parts of a call -/

theorem OnchainRowsInv.advanceLoad (h : OnchainRowsInv system) {kind : RowLoadKind}
    {target : RowTarget} {part : RowLoadPart}
    (horder : system.AdvanceInOrder (.load kind target part)) :
    OnchainRowsInv (system.advanceLoad id kind target part) := by
  unfold OnchainRowsSystem.advanceLoad
  split
  · exact h.endFlow id
  · rename_i hgoesOn
    rw [Bool.not_eq_true] at hgoesOn
    cases part with
    | starting => exact h.toLoad id kind target _
    | resolving stored =>
      cases stored with
      | true => exact h.toLoad id kind target _
      | false => exact (h.activate horder).toLoad id kind target _
    | resolved stored =>
      have hnext := h.toLoad id kind target .loading
      exact ⟨hnext.bound, hnext.pending, hnext.writes⟩
    | loading => exact (h.activate (horder hgoesOn)).toLoad id kind target _
    | loaded =>
      have hafter : OnchainRowsInv { system with
          store :=
            if kind = .reload then system.store
            else OnchainWalletStore.commitLoadedDescriptorWallet target.shown } := by
        apply h.showStore
        split
        · exact Or.inl rfl
        · rename_i hkind
          exact horder hgoesOn hkind
      apply hafter.setFree
      intro flow hflow
      unfold OnchainRowsSystem.afterLoad at hflow
      split at hflow
      · cases hflow
      · cases hflow
      · split at hflow
        · cases hflow
        · cases hflow
          exact ⟨rfl, rfl⟩

theorem OnchainRowsInv.writeChangeset (h : OnchainRowsInv system) {origin : Option DescriptorRow}
    {next : Option (RowLoadKind × RowTarget)}
    (hflow : system.flows id = some (.writing row origin next)) :
    OnchainRowsInv (system.writeChangeset id row origin next) := by
  unfold OnchainRowsSystem.writeChangeset
  split
  · have hnext : OnchainRowsInv
        (system.setFlow id (next.map fun load => .load load.1 load.2 .starting)) := by
      cases next with
      | none => exact h.endFlow id
      | some load => exact h.toLoad id load.1 load.2 .starting
    refine ⟨hnext.bound, hnext.pending, ?_⟩
    intro write hwrite
    rcases List.mem_append.mp hwrite with hbefore | hnew
    · exact h.writes write hbefore
    · rw [List.mem_singleton.mp hnew]
      exact h.pending id _ _ hflow rfl
  · split
    · exact h.toLoad id _ _ _
    · exact h.endFlow id

theorem OnchainRowsInv.advance (h : OnchainRowsInv system)
    (hflow : system.flows id = some flow) (horder : system.AdvanceInOrder flow) :
    OnchainRowsInv (system.advance id flow) := by
  cases flow with
  | load kind target part => exact h.advanceLoad horder
  | outgoing | save | broadcast => exact h.export hflow rfl rfl rfl
  | sync params =>
    simp only [OnchainRowsSystem.advance]
    split
    · rename_i hactive
      have hnext : OnchainRowsInv (system.setFlow id (some (.save params))) := by
        apply h.bind rfl
        intro row hrow
        cases hrow
        exact horder hactive
      exact ⟨hnext.bound, hnext.pending, hnext.writes⟩
    · exact h.endFlow id
  | saveExported | broadcastExported => exact h.keepPending hflow rfl rfl
  | writing row origin next => exact h.writeChangeset hflow

/-- A step in order keeps the invariant. -/
theorem onchainRowsInv_step (system : OnchainRowsSystem Id) (op : OnchainRowsOp Id)
    (horder : system.StepInOrder op) (h : OnchainRowsInv system) :
    OnchainRowsInv (onchainRowsStep system op) := by
  cases op with
  | load | reload | sync =>
    apply h.start rfl
    intro row hrow
    cases hrow
  | switch | broadcast =>
    simp only [onchainRowsStep]
    split
    · rename_i walletId hactive
      apply h.start rfl
      intro row hrow
      cases hrow
      exact horder walletId hactive
    · exact h
  | retrySave id =>
    simp only [onchainRowsStep]
    split
    · rename_i params hparams
      apply h.start rfl
      intro row hrow
      cases hrow
      exact horder params hparams
    · exact h
  | prepareActiveWalletSwitch walletId =>
    have hshown := h.showStore horder
    exact ⟨hshown.bound, hshown.pending, hshown.writes⟩
  | select selected => exact h.showStore horder
  | advance id =>
    simp only [onchainRowsStep]
    split
    · rename_i flow hflow
      exact h.advance hflow (horder flow hflow)
    · exact h
  | skip id =>
    simp only [onchainRowsStep]
    split
    · rename_i flow hflow
      cases flow with
      | outgoing kind left target => exact h.toLoad id kind target _
      | sync params => exact h.endFlow id
      | _ => exact h
    · exact h
  | fail id =>
    simp only [onchainRowsStep]
    split
    · simp only [OnchainRowsSystem.fail]
      split
      · exact h.toLoad id _ _ _
      · exact h.endFlow id
    · exact h

/-- In a run in order, every changeset is written to the row whose wallet it was exported
from. -/
theorem changesets_stay_in_their_rows (activeWalletId : Option Nat)
    (selected : ShownDescriptorWallet) (stored : DescriptorRow → Bool)
    (ops : List (OnchainRowsOp Id))
    (horder : RunMeets onchainRowsStep OnchainRowsSystem.StepInOrder
      (initialOnchainRowsSystem activeWalletId selected stored) ops) :
    ∀ write ∈ (run onchainRowsStep
        (initialOnchainRowsSystem activeWalletId selected stored) ops).writes,
      write.origin = some write.row :=
  (run_invariant_of_runMeets OnchainRowsInv onchainRowsInv_step
    (onchainRowsInv_initial activeWalletId selected stored) horder).writes

end Steps

def firstSegwit : ShownDescriptorWallet where
  networkMode := .signet
  addressType := .segwit
  accountId := 0

def firstTaproot : ShownDescriptorWallet := { firstSegwit with addressType := .taproot }

def onlyFirstStored : OnchainRowsSystem Bool :=
  initialOnchainRowsSystem (some 1) firstSegwit fun row =>
    decide (row = { walletId := 1, coordinates := firstSegwit.coordinates })

def firstSync : RowSaveParams where
  walletId := 1
  descriptorWalletCoordinates := none

def switchFailsMidway : List (OnchainRowsOp Bool) :=
  [.load false { walletId := 1, shown := firstSegwit }, .advance false, .advance false,
    .advance false, .advance false, .advance false,
    .switch false false firstSegwit firstTaproot, .advance false, .advance false,
    .advance false, .advance false, .fail false,
    .sync true firstSync, .advance true, .advance true, .advance true, .advance true]

theorem changeset_of_taproot_in_segwit :
    ¬ ∀ write ∈ (run onchainRowsStep onlyFirstStored switchFailsMidway).writes,
      write.origin = some write.row := by
  decide +kernel

def switchSucceeds : List (OnchainRowsOp Bool) :=
  [.load false { walletId := 1, shown := firstSegwit }, .advance false, .advance false,
    .advance false, .advance false, .advance false,
    .switch false false firstSegwit firstTaproot, .advance false, .advance false,
    .advance false, .advance false, .advance false, .advance false, .advance false,
    .advance false, .advance false, .advance false, .advance false]

theorem changesets_stay_in_their_rows_switchSucceeds :
    (run onchainRowsStep onlyFirstStored switchSucceeds).writes.Forall
      fun write => write.origin = some write.row := by
  rw [List.forall_iff_forall_mem]
  apply changesets_stay_in_their_rows
  refine ⟨trivial, ?_, ?_, ?_, ?_, ?_, ?_, ?_, ?_, ?_, ?_, ?_, ?_, ?_, ?_, ?_, ?_, ?_, trivial⟩
  -- The switch starts with the wallet that it leaves in memory.
  case refine_6 =>
    intro walletId hactive
    cases hactive
    rfl
  all_goals
    intro flow hflow
    cases hflow
  -- No call is bound when a wallet is loaded or created.
  case refine_4.refl | refine_12.refl =>
    intro _ id flow bound hflow hbound
    cases id <;> cases hflow
    cases hbound
  case refine_10.refl =>
    change OnchainRowsSystem.OnlyBoundTo _ _
    intro id flow bound hflow hbound
    cases id <;> cases hflow
    cases hbound
  -- The call that commits reads nothing from the store.
  case refine_5.refl | refine_13.refl =>
    intro _ _
    right
    intro id flow hflow
    cases id <;> cases hflow
    exact not_false
  -- The wallet that has been loaded is the one to save.
  case refine_14.refl =>
    intro _
    rfl
  all_goals trivial

end Bitboard.Frontend
