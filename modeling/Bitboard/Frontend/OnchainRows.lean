/-
# The rows that changesets are written to

There is one wallet in memory. Loads, switches, saves and broadcasts replace it, export its
changeset and write into stored rows, and each of them names its row from parameters it was
called with or from the store at a moment of its own. Resolving a row that is not stored
replaces the wallet before anything else has happened. The waits for quiescence and the
writer lock only delay these steps and are left out; a wait that gives up is a failure.
-/

import Bitboard.Frontend.OnchainSave

namespace Bitboard.Frontend

open Bitboard.Lib

def ShownDescriptorWallet.coordinates (shown : ShownDescriptorWallet) :
    DescriptorWalletCoordinates where
  network := toBitcoinNetwork shown.networkMode
  addressType := shown.addressType
  accountId := shown.accountId

structure DescriptorRow where
  walletId : Nat
  coordinates : DescriptorWalletCoordinates
  deriving DecidableEq

structure RowTarget where
  walletId : Nat
  shown : ShownDescriptorWallet

def RowTarget.row (target : RowTarget) : DescriptorRow where
  walletId := target.walletId
  coordinates := target.shown.coordinates

/-- The parameters that decide which row a save writes. -/
structure RowSaveParams where
  walletId : Nat
  descriptorWalletCoordinates : Option DescriptorWalletCoordinates

def RowSaveParams.row (params : RowSaveParams) (store : OnchainWalletStore) : DescriptorRow where
  walletId := params.walletId
  coordinates := params.descriptorWalletCoordinates.getD store.coordinates

/-- A load of the orchestrator gives up once another wallet is active; those of
`switchDescriptorWallet` and of a full rescan do not. A rescan reloads what is loaded and commits
nothing. -/
inductive RowLoadKind
  | orchestrated
  | inSwitch
  | reload
  deriving DecidableEq

/-- How far a load has come: it has read whether the row is stored, the worker has resolved it,
the row is stored, and the wallet is loaded. -/
inductive RowLoadPart
  | starting
  | resolving (stored : Bool)
  | resolved (stored : Bool)
  | loading
  | loaded

/-- The calls under way. An exported changeset is remembered by the row whose wallet was in
memory; without a wallet it is the empty one. -/
inductive OnchainFlow
  | load (kind : RowLoadKind) (target : RowTarget) (part : RowLoadPart)
  /-- A switch, up to the export of the wallet that it leaves. -/
  | outgoing (kind : RowLoadKind) (left : RowTarget) (target : RowTarget)
  /-- A sync, up to its last look at the active wallet. -/
  | sync (params : RowSaveParams)
  | save (params : RowSaveParams)
  | saveExported (params : RowSaveParams) (origin : Option DescriptorRow)
  | broadcast (walletId : Nat)
  | broadcastExported (walletId : Nat) (origin : Option DescriptorRow)
  | writing (row : DescriptorRow) (origin : Option DescriptorRow)
    (next : Option (RowLoadKind × RowTarget))

structure RowWrite where
  row : DescriptorRow
  origin : Option DescriptorRow

/-- The row of the wallet in memory, the active wallet and what the store shows, which rows are
stored, the calls under way, and the writes so far. -/
structure OnchainRowsSystem (Id : Type) where
  wasm : Option DescriptorRow
  activeWalletId : Option Nat
  store : OnchainWalletStore
  stored : DescriptorRow → Bool
  flows : Id → Option OnchainFlow
  lastSaveParams : Option RowSaveParams
  writes : List RowWrite

def initialOnchainRowsSystem {Id : Type} (activeWalletId : Option Nat)
    (selected : ShownDescriptorWallet) (stored : DescriptorRow → Bool) : OnchainRowsSystem Id where
  wasm := none
  activeWalletId := activeWalletId
  store := { loadedDescriptorWallet := none, selected := selected }
  stored := stored
  flows := fun _ => none
  lastSaveParams := none
  writes := []

def OnchainWalletStore.commitLoadedDescriptorWallet (loaded : ShownDescriptorWallet) :
    OnchainWalletStore where
  loadedDescriptorWallet := some loaded
  selected := loaded

namespace OnchainRowsSystem

variable {Id : Type} [DecidableEq Id] (system : OnchainRowsSystem Id)

def setFlow (id : Id) (flow : Option OnchainFlow) : OnchainRowsSystem Id :=
  { system with flows := Function.update system.flows id flow }

omit [DecidableEq Id] in
/-- The load looks at the active wallet before this part, and it is another one. -/
def gaveUp (kind : RowLoadKind) (target : RowTarget) : RowLoadPart → Bool
  | .starting | .loading | .loaded =>
    decide (kind = .orchestrated ∧ system.activeWalletId ≠ some target.walletId)
  | .resolving _ | .resolved _ => false

def afterLoad (kind : RowLoadKind) (target : RowTarget) : Option OnchainFlow :=
  match kind with
  | .orchestrated | .reload => none
  | .inSwitch =>
    if target.shown.networkMode = .lab then none
    else some (.sync
      { walletId := target.walletId
        descriptorWalletCoordinates := some target.shown.coordinates })

/-- `runWasmLoad` and the load of `switchDescriptorWallet`. The worker creates the wallet of a row
that is not stored, and that wallet is in memory from then on. -/
def advanceLoad (id : Id) (kind : RowLoadKind) (target : RowTarget) (part : RowLoadPart) :
    OnchainRowsSystem Id :=
  if system.gaveUp kind target part then system.setFlow id none
  else
    match part with
    | .starting =>
      system.setFlow id (some (.load kind target (.resolving (system.stored target.row))))
    | .resolving stored =>
      { system.setFlow id (some (.load kind target (.resolved stored))) with
        wasm := if stored then system.wasm else some target.row }
    | .resolved stored =>
      { system.setFlow id (some (.load kind target .loading)) with
        stored :=
          if stored then system.stored else Function.update system.stored target.row true }
    | .loading =>
      { system.setFlow id (some (.load kind target .loaded)) with wasm := some target.row }
    | .loaded =>
      { system.setFlow id (afterLoad kind target) with
        store :=
          if kind = .reload then system.store
          else OnchainWalletStore.commitLoadedDescriptorWallet target.shown }

/-- `updateDescriptorWalletChangeset`; there has to be a row. -/
def writeChangeset (id : Id) (row : DescriptorRow) (origin : Option DescriptorRow)
    (next : Option (RowLoadKind × RowTarget)) : OnchainRowsSystem Id :=
  if system.stored row then
    { system.setFlow id (next.map fun load => .load load.1 load.2 .starting) with
      writes := system.writes ++ [{ row := row, origin := origin }] }
  else
    match next with
    | some (.orchestrated, target) =>
      system.setFlow id (some (.load .orchestrated target .starting))
    | _ => system.setFlow id none

/-- The next part of a call. An export does not fail, not even without a wallet in memory. -/
def advance (id : Id) : OnchainFlow → OnchainRowsSystem Id
  | .load kind target part => system.advanceLoad id kind target part
  | .outgoing kind left target =>
    system.setFlow id (some (.writing left.row system.wasm (some (kind, target))))
  | .sync params =>
    if system.activeWalletId = some params.walletId then
      { system.setFlow id (some (.save params)) with lastSaveParams := some params }
    else system.setFlow id none
  | .save params => system.setFlow id (some (.saveExported params system.wasm))
  | .saveExported params origin =>
    system.setFlow id (some (.writing (params.row system.store) origin none))
  | .broadcast walletId => system.setFlow id (some (.broadcastExported walletId system.wasm))
  | .broadcastExported walletId origin =>
    system.setFlow id
      (some (.writing { walletId := walletId, coordinates := system.store.coordinates } origin
        none))
  | .writing row origin next => system.writeChangeset id row origin next

/-- A switch that saves nothing first: after a failed sync, and to lab after any error. A sync whose
save joins another one. -/
def skip (id : Id) : OnchainFlow → OnchainRowsSystem Id
  | .outgoing kind _ target => system.setFlow id (some (.load kind target .starting))
  | .sync _ => system.setFlow id none
  | _ => system

/-- A call of the worker or the database fails. A switch to lab goes on without its save. -/
def fail (id : Id) : OnchainFlow → OnchainRowsSystem Id
  | .writing _ _ (some (.orchestrated, target)) =>
    system.setFlow id (some (.load .orchestrated target .starting))
  | _ => system.setFlow id none

def start (id : Id) (flow : OnchainFlow) : OnchainRowsSystem Id :=
  match system.flows id with
  | none => system.setFlow id (some flow)
  | some _ => system

end OnchainRowsSystem

inductive OnchainRowsOp (Id : Type)
  | load (id : Id) (target : RowTarget)
  | reload (id : Id) (target : RowTarget)
  | switch (id : Id) (toLab : Bool) (current target : ShownDescriptorWallet)
  | sync (id : Id) (params : RowSaveParams)
  | retrySave (id : Id)
  | broadcast (id : Id)
  | prepareActiveWalletSwitch (walletId : Nat)
  /-- A network, address type or account is selected while the wallet is locked. -/
  | select (selected : ShownDescriptorWallet)
  | advance (id : Id)
  | skip (id : Id)
  | fail (id : Id)

def onchainRowsStep {Id : Type} [DecidableEq Id] (system : OnchainRowsSystem Id) :
    OnchainRowsOp Id → OnchainRowsSystem Id
  | .load id target => system.start id (.load .orchestrated target .starting)
  | .reload id target => system.start id (.load .reload target .starting)
  | .switch id toLab current target =>
    match system.activeWalletId with
    | some walletId =>
      system.start id (.outgoing (if toLab then .orchestrated else .inSwitch)
        { walletId := walletId, shown := current }
        { walletId := walletId, shown := target })
    | none => system
  | .sync id params => system.start id (.sync params)
  | .retrySave id =>
    match system.lastSaveParams with
    | some params => system.start id (.save params)
    | none => system
  | .broadcast id =>
    match system.activeWalletId with
    | some walletId => system.start id (.broadcast walletId)
    | none => system
  | .prepareActiveWalletSwitch walletId =>
    { system with
      activeWalletId := some walletId
      store := { system.store with loadedDescriptorWallet := none } }
  | .select selected => { system with store := { system.store with selected := selected } }
  | .advance id =>
    match system.flows id with
    | some flow => system.advance id flow
    | none => system
  | .skip id =>
    match system.flows id with
    | some flow => system.skip id flow
    | none => system
  | .fail id =>
    match system.flows id with
    | some flow => system.fail id flow
    | none => system

end Bitboard.Frontend
