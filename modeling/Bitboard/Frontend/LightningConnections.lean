/-
# Changing the Lightning connections of a wallet

Adding, removing and renaming a connection reads the stored list, shows the change in the store
at once and saves it. Polls of the balance and the payments save patches of snapshots. A save is
a transform of the list that is stored when it writes. All saves go through one tracker, where a
call under the key of the save in flight joins that save, and the key is the network and the
kind of the save: the transform of a call that joins never runs.

When its save is over, a call puts the list that was written into the store, and after an
addition or a removal it also loads the stored list again. The loads go through a tracker of
their own. The calls here are those on one wallet from one tab; a write of the secrets is one
step, since it writes only over the row it has read.
-/

import Bitboard.Frontend.InFlightTracker
import Bitboard.Frontend.LightningSecrets
import Bitboard.Frontend.LightningSend

namespace Bitboard.Frontend

open Bitboard.Lib
open Wallet (LightningNetworkMode StoredNwcLightningConnection)

def MAX_NWC_CONNECTION_STRING_LENGTH : Nat := 8192

def MAX_LIGHTNING_WALLET_LABEL_LENGTH : Nat := 128

def NWC_CONNECTION_STRING_PREFIX : String := "nostr+walletconnect://"

def trimText (text : String) : String :=
  String.ofList (trim text.toList)

def isValidNwcConnectionString (value : String) : Bool :=
  NWC_CONNECTION_STRING_PREFIX.toList.isPrefixOf (trim value.toList) &&
    (Wallet.utf16 (trimText value)).length ≤ MAX_NWC_CONNECTION_STRING_LENGTH

/-- Base label when the user leaves the label of a connection empty. -/
def DEFAULT_NWC_CONNECTION_LABEL_BASE : String := "My NWC connected wallet"

/-- The label is the base, or the base with a number in parentheses. -/
def isReservedDefaultNwcConnectionLabel (trimmedLabel : String) : Bool :=
  let base := DEFAULT_NWC_CONNECTION_LABEL_BASE.toList
  let suffix := trimmedLabel.toList.drop base.length
  base.isPrefixOf trimmedLabel.toList &&
    (suffix.isEmpty ||
      (suffix.head? = some '(' && suffix.getLast? = some ')' &&
        !(suffix.tail.dropLast).isEmpty && (suffix.tail.dropLast).all Char.isDigit))

/-- The first numbered label from a slot on that is free. Among one more slots than there are
labels one is free, so that the search can stop there. -/
def freeNwcConnectionLabel (labels : List String) : Nat → Nat → String
  | 0, slotNumber => DEFAULT_NWC_CONNECTION_LABEL_BASE ++ "(" ++ toString slotNumber ++ ")"
  | slots + 1, slotNumber =>
    let candidate := DEFAULT_NWC_CONNECTION_LABEL_BASE ++ "(" ++ toString slotNumber ++ ")"
    if candidate ∈ labels then freeNwcConnectionLabel labels slots (slotNumber + 1)
    else candidate

def resolveDefaultNwcConnectionLabel (existingLabels : List String) : String :=
  if DEFAULT_NWC_CONNECTION_LABEL_BASE ∈ existingLabels then
    freeNwcConnectionLabel existingLabels existingLabels.length 1
  else DEFAULT_NWC_CONNECTION_LABEL_BASE

abbrev ActiveLightningConnectionsByNetwork := LightningNetworkMode → Option String

def activeConnectionIdsAfterRemoval (activeConnectionIds : ActiveLightningConnectionsByNetwork)
    (removedConnectionId : String) (remaining : List ConnectedLightningWallet) :
    ActiveLightningConnectionsByNetwork :=
  fun mode =>
    if activeConnectionIds mode = some removedConnectionId then
      (remaining.find? fun connection => connection.networkMode = mode).map (·.id)
    else activeConnectionIds mode

def reconcileActiveLightningConnectionIds (connections : List ConnectedLightningWallet)
    (activeConnectionIds : ActiveLightningConnectionsByNetwork) :
    ActiveLightningConnectionsByNetwork :=
  fun networkMode =>
    match connections.filter fun connection => connection.networkMode = networkMode with
    | [] => none
    | first :: others =>
      match activeConnectionIds networkMode with
      | none => some first.id
      | some activeId =>
        if (first :: others).any fun connection => connection.id = activeId then some activeId
        else some first.id

/-- `activeConnectionIdsAfterUpdate` of the change, with the list that it is shown with. -/
def LightningConnectionsUpdate.activeConnectionIds (change : LightningConnectionsUpdate)
    (nextForWallet : List ConnectedLightningWallet)
    (activeConnectionIds : ActiveLightningConnectionsByNetwork) :
    ActiveLightningConnectionsByNetwork :=
  match change with
  | .add connection =>
    Function.update activeConnectionIds connection.networkMode (some connection.id)
  | .remove connectionId =>
    activeConnectionIdsAfterRemoval activeConnectionIds connectionId nextForWallet
  | .rename _ _ => activeConnectionIds

inductive LightningSaveKind where
  | connections
  | snapshotPatches
  deriving DecidableEq

/-- The text of the key is that of the wallet, the network and the kind. -/
structure LightningSaveKey where
  networkMode : NetworkMode
  saveKind : LightningSaveKind
  deriving DecidableEq

/-- A save that has begun, with the call whose transform it runs and the list it has written. -/
structure LightningSave where
  owner : Nat
  update : LightningUpdate
  written : Option (List ConnectedLightningWallet)

inductive LightningRequest where
  | addConnection (label : String) (networkMode : LightningNetworkMode)
      (connectionString : String)
  | removeConnection (connectionId : String)
  | renameConnection (connectionId newLabel : String)
  | saveSnapshotPatches (networkMode : NetworkMode) (patches : List NwcSnapshotPatch)

/-- What a call keeps while it reads the stored list. -/
inductive ConnectionsRequest where
  | add (trimmedLabel : String) (networkMode : LightningNetworkMode) (connectionString : String)
  | remove (connectionId : String) (networkMode : LightningNetworkMode)
  | rename (connectionId trimmed : String) (networkMode : LightningNetworkMode)

def ConnectionsRequest.networkMode : ConnectionsRequest → LightningNetworkMode
  | .add _ networkMode _ => networkMode
  | .remove _ networkMode => networkMode
  | .rename _ _ networkMode => networkMode

/-- The change of the call once it has read the list, unless it is refused. The id and the time
are those of a new connection. -/
def ConnectionsRequest.change (storedForWallet : List ConnectedLightningWallet)
    (id createdAt : String) : ConnectionsRequest → Option LightningConnectionsUpdate
  | .add trimmedLabel networkMode connectionString =>
    let labelToStore :=
      if trimmedLabel = "" then
        resolveDefaultNwcConnectionLabel (storedForWallet.map (·.label))
      else trimmedLabel
    if MAX_LIGHTNING_WALLET_LABEL_LENGTH < (Wallet.utf16 labelToStore).length then none
    else
      some (.add { id, label := labelToStore, networkMode, connectionString, createdAt })
  | .remove connectionId _ => some (.remove connectionId)
  | .rename connectionId trimmed _ =>
    if storedForWallet.any fun connection =>
        connection.id ≠ connectionId && trimText connection.label = trimmed then none
    else some (.rename connectionId trimmed)

inductive LightningReload where
  | starting
  | waiting (wait : DifferentWorkWait NetworkMode)
  | loading (promise : Nat)

inductive LightningCall where
  | reading (request : ConnectionsRequest)
  | read (request : ConnectionsRequest) (storedForWallet : List ConnectedLightningWallet)
  /-- A save is awaited. The list is the one shown meanwhile. -/
  | saving (update : LightningUpdate) (optimisticForWallet : List ConnectedLightningWallet)
      (promise : Nat)
  | reloading (change : LightningConnectionsUpdate) (reload : LightningReload)
  | resolved (update : LightningUpdate)
  | rejected

/-- The stored list, the store in memory, the saves and the loads by their promises, and the
calls. For the record: the updates that were written, in their order, with their calls. -/
structure LightningSystem where
  stored : List StoredNwcLightningConnection
  connectedWallets : List ConnectedLightningWallet
  activeConnectionIds : ActiveLightningConnectionsByNetwork
  saveTracker : InFlightTracker LightningSaveKey
  saves : Nat → Option LightningSave
  loadTracker : InFlightTracker NetworkMode
  /-- The loads that run, with the list that was read. -/
  loads : Nat → Option (Option (List ConnectedLightningWallet))
  calls : Nat → Option LightningCall
  written : List (Nat × LightningUpdate)

namespace LightningSystem

variable (system : LightningSystem)
variable (id : Nat)
variable (change : LightningConnectionsUpdate)

def storedForWallet : List ConnectedLightningWallet :=
  system.stored.map storedToConnected

def setCall (call : LightningCall) : LightningSystem :=
  { system with calls := Function.update system.calls id (some call) }

def replaceConnectionsForWallet (connections : List ConnectedLightningWallet) : LightningSystem :=
  { system with
    connectedWallets := connections
    activeConnectionIds :=
      reconcileActiveLightningConnectionIds connections system.activeConnectionIds }

/-- `orchestrateLightningSave`. A call that joins a save leaves its own update aside. -/
def orchestrateSave (key : LightningSaveKey) (update : LightningUpdate)
    (optimisticForWallet : List ConnectedLightningWallet) : LightningSystem :=
  match system.saveTracker.coalescedInFlightPromise key with
  | some promise => system.setCall id (.saving update optimisticForWallet promise)
  | none =>
    let promise := system.saveTracker.promises.length
    { system.setCall id (.saving update optimisticForWallet promise) with
      saveTracker := system.saveTracker.begin key
      saves := Function.update system.saves promise
        (some { owner := id, update, written := none }) }

def request : LightningRequest → LightningSystem
  | .addConnection label networkMode connectionString =>
    if isValidNwcConnectionString connectionString then
      system.setCall id (.reading (.add (trimText label) networkMode connectionString))
    else system.setCall id .rejected
  | .removeConnection connectionId =>
    match system.connectedWallets.find? fun connection => connection.id = connectionId with
    | none =>
      { system.setCall id (.resolved (.connections (.remove connectionId))) with
        written := system.written ++ [(id, .connections (.remove connectionId))] }
    | some removed => system.setCall id (.reading (.remove connectionId removed.networkMode))
  | .renameConnection connectionId newLabel =>
    let trimmed := trimText newLabel
    if trimmed = "" ∨ MAX_LIGHTNING_WALLET_LABEL_LENGTH < (Wallet.utf16 trimmed).length ∨
        isReservedDefaultNwcConnectionLabel trimmed then
      system.setCall id .rejected
    else
      match system.connectedWallets.find? fun connection => connection.id = connectionId with
      | none => system.setCall id .rejected
      | some target =>
        system.setCall id (.reading (.rename connectionId trimmed target.networkMode))
  | .saveSnapshotPatches networkMode patches =>
    system.orchestrateSave id { networkMode, saveKind := .snapshotPatches }
      (.snapshotPatches patches) system.connectedWallets

/-- `commitLightningConnectionsUpdate` up to the wait for the save. -/
def commitLightningConnectionsUpdate (id : Nat) (networkMode : LightningNetworkMode)
    (storedForWallet : List ConnectedLightningWallet) (change : LightningConnectionsUpdate) :
    LightningSystem :=
  let optimisticForWallet := change.apply storedForWallet
  { system with
    connectedWallets := optimisticForWallet
    activeConnectionIds :=
      change.activeConnectionIds optimisticForWallet
        system.activeConnectionIds }.orchestrateSave id
    { networkMode := lightningNetworkMode networkMode, saveKind := .connections }
    (.connections change) optimisticForWallet

/-- The list that the call has seen written: its own transform sets it, which does not run in the
save of another call. -/
def writtenForWallet (optimisticForWallet : List ConnectedLightningWallet) (promise : Nat) :
    List ConnectedLightningWallet :=
  match system.saves promise with
  | none => optimisticForWallet
  | some save =>
    if save.owner = id then save.written.getD optimisticForWallet else optimisticForWallet

/-- The call goes on after its save has been resolved. -/
def resumeSaved (update : LightningUpdate) (optimisticForWallet : List ConnectedLightningWallet)
    (promise : Nat) : LightningSystem :=
  let written := system.writtenForWallet id optimisticForWallet promise
  match update with
  | .snapshotPatches _ => system.setCall id (.resolved update)
  | .connections (.rename _ _) =>
    (system.replaceConnectionsForWallet written).setCall id (.resolved update)
  | .connections change =>
    (system.replaceConnectionsForWallet written).setCall id (.reloading change .starting)

/-- A load begins, or the one in flight under the key is joined. -/
def beginLoad (key : NetworkMode) : LightningSystem :=
  match system.loadTracker.coalescedInFlightPromise key with
  | some promise => system.setCall id (.reloading change (.loading promise))
  | none =>
    let promise := system.loadTracker.promises.length
    { system.setCall id (.reloading change (.loading promise)) with
      loadTracker := system.loadTracker.begin key
      loads := Function.update system.loads promise (some none) }

/-- `orchestrateLightningLoad` up to its wait, in a network in which it has work to do. -/
def orchestrateLightningLoad (key : NetworkMode) : LightningSystem :=
  match system.loadTracker.coalescedInFlightPromise key with
  | some promise => system.setCall id (.reloading change (.loading promise))
  | none =>
    match system.loadTracker.inFlight with
    | none => system.setCall id (.reloading change (.waiting (.returned key none)))
    | some current =>
      system.setCall id (.reloading change (.waiting (.waiting key current.promise)))

end LightningSystem

/-! ## Steps -/

inductive LightningOp where
  | request (id : Nat) (request : LightningRequest)
  /-- The stored list is read, or cannot be. -/
  | readStored (id : Nat)
  | readFails (id : Nat)
  /-- The call goes on with the list, with the id and the time of a new connection. -/
  | commit (id : Nat) (newId createdAt : String)
  /-- The save writes over the list that is stored. -/
  | write (promise : Nat)
  | finishSave (promise : Nat)
  /-- The save fails. What it would have written is not stored. -/
  | failSave (promise : Nat)
  /-- The call goes on after its save. -/
  | resume (id : Nat)
  /-- The load after a change is asked for in the network of the app. -/
  | reload (id : Nat) (networkMode : NetworkMode) (isLightningEnabled loadFailed : Bool)
  /-- The other load that was awaited is over. -/
  | wake (id : Nat)
  | proceed (id : Nat)
  | readLoad (promise : Nat)
  /-- The load puts its list into the store and ends. -/
  | finishLoad (promise : Nat)
  | failLoad (promise : Nat)
  /-- The call goes on after its load. -/
  | loaded (id : Nat)

/-- One part of a call, a save or a load that runs without waiting. -/
def lightningStep (system : LightningSystem) : LightningOp → LightningSystem
  | .request id request =>
    match system.calls id with
    | some _ => system
    | none => system.request id request
  | .readStored id =>
    match system.calls id with
    | some (.reading request) => system.setCall id (.read request system.storedForWallet)
    | _ => system
  | .readFails id =>
    match system.calls id with
    | some (.reading _) => system.setCall id .rejected
    | _ => system
  | .commit id newId createdAt =>
    match system.calls id with
    | some (.read request storedForWallet) =>
      match request.change storedForWallet newId createdAt with
      | none => system.setCall id .rejected
      | some change =>
        system.commitLightningConnectionsUpdate id request.networkMode storedForWallet
          change
    | _ => system
  | .write promise =>
    match system.saves promise with
    | some { owner, update, written := none } =>
      if system.saveTracker.promises[promise]? = some .pending then
        { system with
          stored := update.write system.stored
          saves := Function.update system.saves promise
            (some { owner, update, written := some (update.view system.storedForWallet) })
          written := system.written ++ [(owner, update)] }
      else system
    | _ => system
  | .finishSave promise =>
    match system.saves promise with
    | some { owner := _, update := _, written := some _ } =>
      if system.saveTracker.promises[promise]? = some .pending then
        { system with saveTracker := system.saveTracker.settle promise .resolved }
      else system
    | _ => system
  | .failSave promise =>
    match system.saves promise with
    | some { owner := _, update := _, written := none } =>
      if system.saveTracker.promises[promise]? = some .pending then
        { system with saveTracker := system.saveTracker.settle promise .rejected }
      else system
    | _ => system
  | .resume id =>
    match system.calls id with
    | some (.saving update optimisticForWallet promise) =>
      match system.saveTracker.promises[promise]? with
      | some .resolved => system.resumeSaved id update optimisticForWallet promise
      | some .rejected => system.setCall id .rejected
      | _ => system
    | _ => system
  | .reload id networkMode isLightningEnabled loadFailed =>
    match system.calls id with
    | some (.reloading change .starting) =>
      if isLightningEnabled && isLightningSupported networkMode && !loadFailed then
        system.orchestrateLightningLoad id change networkMode
      else system.setCall id (.resolved (.connections change))
    | _ => system
  | .wake id =>
    match system.calls id with
    | some (.reloading change (.waiting (.waiting key promise))) =>
      if system.loadTracker.promises[promise]? = some .pending then system
      else
        system.setCall id (.reloading change (.waiting
          (.returned key (system.loadTracker.coalescedInFlightPromise key))))
    | _ => system
  | .proceed id =>
    match system.calls id with
    | some (.reloading change (.waiting (.returned key none))) =>
      system.beginLoad id change key
    | some (.reloading change (.waiting (.returned key (some promise)))) =>
      match system.loadTracker.promises[promise]? with
      | some .resolved => system.beginLoad id change key
      | some .rejected => system.setCall id .rejected
      | _ => system
    | _ => system
  | .readLoad promise =>
    match system.loads promise with
    | some none =>
      { system with
        loads := Function.update system.loads promise (some (some system.storedForWallet)) }
    | _ => system
  | .finishLoad promise =>
    match system.loads promise with
    | some (some connections) =>
      { system.replaceConnectionsForWallet connections with
        loads := Function.update system.loads promise none
        loadTracker := system.loadTracker.settle promise .resolved }
    | _ => system
  | .failLoad promise =>
    match system.loads promise with
    | some _ =>
      { system with
        loads := Function.update system.loads promise none
        loadTracker := system.loadTracker.settle promise .rejected }
    | none => system
  | .loaded id =>
    match system.calls id with
    | some (.reloading change (.loading promise)) =>
      match system.loadTracker.promises[promise]? with
      | some .resolved => system.setCall id (.resolved (.connections change))
      | some .rejected => system.setCall id .rejected
      | _ => system
    | _ => system

/-- The system once the wallet has been loaded, before any call. -/
def openLightningRail (initial : StoredConnections)
    (activeConnectionIds : ActiveLightningConnectionsByNetwork) : LightningSystem where
  stored := initial.list
  connectedWallets := initial.list.map storedToConnected
  activeConnectionIds :=
    reconcileActiveLightningConnectionIds (initial.list.map storedToConnected)
      activeConnectionIds
  saveTracker := createInFlightLifecycleTracker LightningSaveKey
  saves := fun _ => none
  loadTracker := createInFlightLifecycleTracker NetworkMode
  loads := fun _ => none
  calls := fun _ => none
  written := []

def lightningRun (initial : StoredConnections)
    (activeConnectionIds : ActiveLightningConnectionsByNetwork) (ops : List LightningOp) :
    LightningSystem :=
  run lightningStep (openLightningRail initial activeConnectionIds) ops

end Bitboard.Frontend
