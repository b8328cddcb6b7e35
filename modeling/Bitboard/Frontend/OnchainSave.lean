/-
# Saves of the on-chain wallet

A save exports the changeset of the wallet in memory and writes it into a descriptor wallet
row, which it picks after the export. A call under the key of the save in flight joins that
save, whatever else it asks for and whatever has changed since the export. The writer lock
around a save only delays it here: a tab that holds the lock enters it again.
-/

import Bitboard.Frontend.InFlightTracker
import Bitboard.Frontend.UnilateralExitMachine
import Bitboard.Wallet.Payload

namespace Bitboard.Frontend

open Bitboard.Lib

def toBitcoinNetwork : NetworkMode → Wallet.BitcoinNetwork
  | .lab => .regtest
  | .mainnet => .bitcoin
  | .testnet => .testnet
  | .signet => .signet
  | .mutinynet => .mutinynet
  | .regtest => .regtest

structure DescriptorWalletCoordinates where
  network : Wallet.BitcoinNetwork
  addressType : Wallet.AddressType
  accountId : Nat
  deriving DecidableEq

/-- The parts of a descriptor wallet row that a save writes. The changeset is the list of the
changes in it. -/
structure SavedDescriptorRow (Change : Type) where
  changeSet : List Change
  fullScanDone : Bool
  lastSuccessfulEsploraSyncAt : Option String

/-- The wallet that is shown: the one that was loaded last, or the one that is selected. -/
structure ShownDescriptorWallet where
  networkMode : NetworkMode
  addressType : Wallet.AddressType
  accountId : Nat

structure OnchainWalletStore where
  loadedDescriptorWallet : Option ShownDescriptorWallet
  selected : ShownDescriptorWallet

def OnchainWalletStore.coordinates (store : OnchainWalletStore) : DescriptorWalletCoordinates :=
  let descriptorContext := store.loadedDescriptorWallet.getD store.selected
  { network := toBitcoinNetwork descriptorContext.networkMode
    addressType := descriptorContext.addressType
    accountId := descriptorContext.accountId }

structure OnchainSaveParams where
  walletId : Nat
  networkMode : NetworkMode
  addressType : Wallet.AddressType
  accountId : Nat
  markFullScanDone : Bool
  descriptorWalletCoordinates : Option DescriptorWalletCoordinates

structure OnchainSaveKey where
  walletId : Nat
  networkMode : NetworkMode
  addressType : Wallet.AddressType
  accountId : Nat
  deriving DecidableEq

variable (params : OnchainSaveParams)

def OnchainSaveParams.saveKey : OnchainSaveKey where
  walletId := params.walletId
  networkMode := params.networkMode
  addressType := params.addressType
  accountId := params.accountId

/-- How far `runPersistPostEsploraSync` has come. -/
inductive OnchainSavePhase (Change : Type)
  | saving
  | exported (changeset : List Change) (syncedAtIso : String)
  | targeted (row : DescriptorWalletCoordinates) (changeset : List Change) (syncedAtIso : String)
  | written (row : DescriptorWalletCoordinates) (changeset : List Change)

structure OnchainSave (Change : Type) where
  params : OnchainSaveParams
  phase : OnchainSavePhase Change

/-- A call of `orchestrateSave`, for the record: how many changes the wallet had then, and the
promise that was returned. -/
structure OnchainSaveCall where
  params : OnchainSaveParams
  before : Nat
  promise : Nat

variable {Change : Type}

/-- `updateDescriptorWalletChangeset` on the row. -/
def SavedDescriptorRow.updateChangeset (row : SavedDescriptorRow Change)
    (changeset : List Change) (markFullScanDone : Bool) (syncedAtIso : String) :
    SavedDescriptorRow Change where
  changeSet := changeset
  fullScanDone := markFullScanDone || row.fullScanDone
  lastSuccessfulEsploraSyncAt := some syncedAtIso

abbrev SavedDescriptorRows (Change : Type) :=
  Nat → DescriptorWalletCoordinates → Option (SavedDescriptorRow Change)

def SavedDescriptorRows.set (rows : SavedDescriptorRows Change) (walletId : Nat)
    (coordinates : DescriptorWalletCoordinates) (row : SavedDescriptorRow Change) :
    SavedDescriptorRows Change :=
  fun otherId other =>
    if otherId = walletId ∧ other = coordinates then some row else rows otherId other

variable (rows : SavedDescriptorRows Change)

@[simp] theorem SavedDescriptorRows.set_self (walletId : Nat)
    (coordinates : DescriptorWalletCoordinates) (row : SavedDescriptorRow Change) :
    rows.set walletId coordinates row walletId coordinates = some row :=
  if_pos ⟨rfl, rfl⟩

theorem SavedDescriptorRows.set_of_ne {walletId otherId : Nat}
    {coordinates other : DescriptorWalletCoordinates}
    (hne : ¬ (otherId = walletId ∧ other = coordinates)) (row : SavedDescriptorRow Change) :
    rows.set walletId coordinates row otherId other = rows otherId other :=
  if_neg hne

/-- The changes of the wallet in memory, the stored rows, and the saves under way by the number
of their promise. -/
structure OnchainSaveSystem (Change : Type) where
  wallet : List Change
  store : OnchainWalletStore
  rows : SavedDescriptorRows Change
  tracker : InFlightTracker OnchainSaveKey
  saves : Nat → Option (OnchainSave Change)
  lastSaveParams : Option OnchainSaveParams
  calls : List OnchainSaveCall

def initialOnchainSaveSystem (wallet : List Change) (store : OnchainWalletStore)
    (rows : SavedDescriptorRows Change) : OnchainSaveSystem Change where
  wallet := wallet
  store := store
  rows := rows
  tracker := createInFlightLifecycleTracker OnchainSaveKey
  saves := fun _ => none
  lastSaveParams := none
  calls := []

namespace OnchainSaveSystem

variable (system : OnchainSaveSystem Change)
variable (promise : Nat)

def setSave (save : Option (OnchainSave Change)) : OnchainSaveSystem Change :=
  { system with saves := Function.update system.saves promise save }

def remember (params : OnchainSaveParams) (promise : Nat) : OnchainSaveSystem Change :=
  { system with
    calls :=
      { params := params, before := system.wallet.length, promise := promise } :: system.calls }

def orchestrateSave (params : OnchainSaveParams) : OnchainSaveSystem Change :=
  match system.tracker.coalescedInFlightPromise params.saveKey with
  | some coalesced => system.remember params coalesced
  | none =>
    let promise := system.tracker.promises.length
    { (system.setSave promise (some { params := params, phase := .saving })).remember params
        promise with
      tracker := system.tracker.begin params.saveKey
      lastSaveParams := some params }

def settle (status : PromiseStatus) : OnchainSaveSystem Change :=
  { system.setSave promise none with tracker := system.tracker.settle promise status }

def advance (save : OnchainSave Change) (phase : OnchainSavePhase Change) :
    OnchainSaveSystem Change :=
  system.setSave promise (some { save with phase := phase })

def writeRow (save : OnchainSave Change) (row : DescriptorWalletCoordinates)
    (changeset : List Change) (syncedAtIso : String) : OnchainSaveSystem Change :=
  match system.rows save.params.walletId row with
  | none => system.settle promise .rejected
  | some stored =>
    { system.advance promise save (.written row changeset) with
      rows := system.rows.set save.params.walletId row
        (stored.updateChangeset changeset save.params.markFullScanDone syncedAtIso) }

end OnchainSaveSystem

inductive OnchainSaveOp (Change : Type)
  /-- A change of the wallet in memory. -/
  | mutate (change : Change)
  /-- The wallet that the store shows changes. -/
  | setStore (store : OnchainWalletStore)
  | call (params : OnchainSaveParams)
  | retry
  | export (promise : Nat) (syncedAtIso : String)
  | target (promise : Nat)
  | write (promise : Nat)
  | resolve (promise : Nat)
  | fail (promise : Nat)

/-- A change of the wallet, a call, or the next part of a save. -/
def onchainSaveStep (system : OnchainSaveSystem Change) :
    OnchainSaveOp Change → OnchainSaveSystem Change
  | .mutate change => { system with wallet := system.wallet ++ [change] }
  | .setStore store => { system with store := store }
  | .call params => system.orchestrateSave params
  | .retry =>
    match system.lastSaveParams with
    | none => system
    | some params => system.orchestrateSave params
  | .export promise syncedAtIso =>
    match system.saves promise with
    | some ⟨params, .saving⟩ =>
      system.advance promise ⟨params, .saving⟩ (.exported system.wallet syncedAtIso)
    | _ => system
  | .target promise =>
    match system.saves promise with
    | some ⟨params, .exported changeset syncedAtIso⟩ =>
      system.advance promise ⟨params, .exported changeset syncedAtIso⟩
        (.targeted (params.descriptorWalletCoordinates.getD system.store.coordinates)
          changeset syncedAtIso)
    | _ => system
  | .write promise =>
    match system.saves promise with
    | some ⟨params, .targeted row changeset syncedAtIso⟩ =>
      system.writeRow promise ⟨params, .targeted row changeset syncedAtIso⟩ row changeset
        syncedAtIso
    | _ => system
  | .resolve promise =>
    match system.saves promise with
    | some ⟨_, .written _ _⟩ => system.settle promise .resolved
    | _ => system
  | .fail promise =>
    match system.saves promise with
    | some _ => system.settle promise .rejected
    | none => system

end Bitboard.Frontend
