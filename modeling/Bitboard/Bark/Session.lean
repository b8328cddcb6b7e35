/-
# The slots of a Bark session

The open wallet, its record store, its network, the mark of the sync gate and the key of a
prepared board are five slots. An open replaces the store before it waits for the wallet,
and the other slots after it; a close empties all five; an operation takes the wallet out,
and puts it back at its end. What a call does between two of its awaits is one step here,
and opens, closes and operations interleave in any order.
-/

import Bitboard.Lib.Run

namespace Bitboard.Bark

open Bitboard.Lib

section Session

/-- What a slot holds and the open it comes from. A wallet and a record store are made by an
open; for the network and a prepared key the open is kept beside the value. -/
structure OfOpen (Id α : Type) where
  openedBy : Id
  value : α

/-- The networks of `bitcoin::Network` that a session can have. -/
inductive Network
  | bitcoin
  | signet
  | regtest

/-- The key of one board that is being funded, with what `board_funding_address` returned. -/
structure PreparedBoardFunding (Keypair : Type) where
  userKeypair : Keypair
  expiryHeight : Nat
  fundingAddress : String

/-- The slots of the module. The gate is a flag in the source; here it keeps whose wallet's
sync has marked it. -/
structure SessionSlots (Id Wallet Store Keypair : Type) where
  activeWallet : Option (OfOpen Id Wallet)
  activeRecordStore : Option (OfOpen Id Store)
  sessionSyncGate : Option Id
  activeBitcoinNetwork : Option (OfOpen Id Network)
  preparedBoardFunding : Option (OfOpen Id (PreparedBoardFunding Keypair))

def parseOpenNetwork : String → Except String Network
  | "signet" => .ok .signet
  | "mainnet" => .ok .bitcoin
  | other => .error ("Bark network " ++ other ++ " is not supported")

/-- The characters that `trim` takes away. -/
def isRustWhitespace (c : Char) : Bool :=
  c.toNat ∈ [0x20, 0x85, 0xA0, 0x1680, 0x2028, 0x2029, 0x202F, 0x205F, 0x3000] ||
    (0x09 ≤ c.toNat && c.toNat ≤ 0x0D) || (0x2000 ≤ c.toNat && c.toNat ≤ 0x200A)

/-- `bark_open_session` or `bark_open_regtest_session`. -/
inductive OpenCall
  | openSession (network : String)
  | openRegtestSession (serverUrl esploraUrl : String)

def OpenCall.network : OpenCall → Except String Network
  | .openSession network => parseOpenNetwork network
  | .openRegtestSession serverUrl esploraUrl =>
    if serverUrl.toList.all isRustWhitespace || esploraUrl.toList.all isRustWhitespace then
      .error "Bark regtest requires a server URL and an Esplora URL"
    else .ok .regtest

/-- An open, with what the parsers of the mnemonic and of the envelope make of its arguments. -/
structure OpenRequest (Store : Type) where
  call : OpenCall
  mnemonic : Except String Unit
  recordEnvelope : Except String Store

variable {Id Wallet Store Keypair : Type}

def OpenRequest.parse (request : OpenRequest Store) : Except String (Network × Store) := do
  let network ← request.call.network
  request.mnemonic
  let store ← request.recordEnvelope
  return (network, store)

/-- The calls that take the open wallet. Those of arkoor and offboard check their arguments
between the gate and the wallet, with the given outcome. -/
inductive WalletOperation
  | sync
  | balance
  | prepareBoardFunding
  | boardPsbt
  | arkoor (arguments : Except String Unit)
  | offboard (arguments : Except String Unit)
  | other
  deriving DecidableEq

namespace SessionSlots

variable (slots : SessionSlots Id Wallet Store Keypair)

def closed : SessionSlots Id Wallet Store Keypair where
  activeWallet := none
  activeRecordStore := none
  sessionSyncGate := none
  activeBitcoinNetwork := none
  preparedBoardFunding := none

def storeWallet (wallet : OfOpen Id Wallet) : SessionSlots Id Wallet Store Keypair :=
  { slots with activeWallet := some wallet }

def installRecordStore (store : OfOpen Id Store) : SessionSlots Id Wallet Store Keypair :=
  { slots with activeRecordStore := some store }

def clearRecordStore : SessionSlots Id Wallet Store Keypair :=
  { slots with activeRecordStore := none }

def rememberSessionNetwork (network : OfOpen Id Network) : SessionSlots Id Wallet Store Keypair :=
  { slots with activeBitcoinNetwork := some network }

def clearSessionNetwork : SessionSlots Id Wallet Store Keypair :=
  { slots with activeBitcoinNetwork := none }

def clearSessionSyncGate : SessionSlots Id Wallet Store Keypair :=
  { slots with sessionSyncGate := none }

def markSessionSynced (id : Id) : SessionSlots Id Wallet Store Keypair :=
  { slots with sessionSyncGate := some id }

def storePreparedBoardFunding (prepared : OfOpen Id (PreparedBoardFunding Keypair)) :
    SessionSlots Id Wallet Store Keypair :=
  { slots with preparedBoardFunding := some prepared }

def clearPreparedBoardFunding : SessionSlots Id Wallet Store Keypair :=
  { slots with preparedBoardFunding := none }

def dropActiveWallet : SessionSlots Id Wallet Store Keypair :=
  { slots with activeWallet := none }.clearRecordStore.clearSessionNetwork.clearSessionSyncGate
    |>.clearPreparedBoardFunding

def requireSessionSynced : Except String Unit :=
  if slots.sessionSyncGate.isSome then .ok ()
  else .error "Bark balance requires a sync in this session"

def sessionBitcoinNetwork : Except String Network :=
  match slots.activeBitcoinNetwork with
  | some network => .ok network.value
  | none => .error "Bark session is not open"

def copyPreparedBoardFunding : Except String (PreparedBoardFunding Keypair) :=
  match slots.preparedBoardFunding with
  | some prepared => .ok prepared.value
  | none => .error "Bark board funding is not prepared"

/-- What an operation checks before it takes the wallet. -/
def check : WalletOperation → Except String Unit
  | .sync | .prepareBoardFunding | .other => .ok ()
  | .balance => slots.requireSessionSynced
  | .boardPsbt => do let _ ← slots.copyPreparedBoardFunding
  | .arkoor arguments => do
      slots.requireSessionSynced.mapError fun _ => "not_synced"
      arguments
  | .offboard arguments => do
      slots.requireSessionSynced
      let _ ← slots.sessionBitcoinNetwork
      arguments

/-- `take_active_wallet`, after the checks of the operation. -/
def takeActiveWallet (operation : WalletOperation) :
    Except String (OfOpen Id Wallet × SessionSlots Id Wallet Store Keypair) := do
  slots.check operation
  match slots.activeWallet with
  | some wallet => .ok (wallet, { slots with activeWallet := none })
  | none => .error "Bark session is not open"

/-- What an operation that has succeeded does after it has put the wallet back. Only that of a
board preparation uses what it got. -/
def finish (wallet : OfOpen Id Wallet) (prepared : PreparedBoardFunding Keypair) :
    WalletOperation → SessionSlots Id Wallet Store Keypair
  | .sync => slots.markSessionSynced wallet.openedBy
  | .prepareBoardFunding =>
    slots.storePreparedBoardFunding { openedBy := wallet.openedBy, value := prepared }
  | .boardPsbt => slots.clearPreparedBoardFunding
  | .balance | .arkoor _ | .offboard _ | .other => slots

end SessionSlots

/-- An open in progress keeps the slots it was called on, for the record. -/
inductive OpenPhase (Id Wallet Store Keypair : Type)
  | opening (network : Network) (found : SessionSlots Id Wallet Store Keypair)
  | succeeded
  | failed (message : String)

inductive OperationPhase (Id Wallet : Type)
  | running (wallet : OfOpen Id Wallet)
  | returned
  | threw (message : String)

/-- The slots and the calls. For the record: whether a close has returned since the last open
that succeeded, and the opens whose wallet has been synced. -/
structure BarkSystem (Id Wallet Store Keypair : Type) where
  slots : SessionSlots Id Wallet Store Keypair
  opens : Id → Option (OpenPhase Id Wallet Store Keypair)
  operations : Id → Option (WalletOperation × OperationPhase Id Wallet)
  closedSince : Bool
  synced : List Id

def initialBarkSystem : BarkSystem Id Wallet Store Keypair where
  slots := .closed
  opens := fun _ => none
  operations := fun _ => none
  closedSince := false
  synced := []

/-- The start of an open, the answer of `Wallet::open`, a close, the start of an operation, and
the end of one with the outcome of what it did with the wallet. -/
inductive BarkOp (Id Wallet Store Keypair : Type)
  | openSession (id : Id) (request : OpenRequest Store)
  | opened (id : Id) (answer : Except String Wallet)
  | closeSession
  | call (id : Id) (operation : WalletOperation)
  | answered (id : Id) (answer : Except String (PreparedBoardFunding Keypair))

variable [DecidableEq Id]

namespace BarkSystem

variable (system : BarkSystem Id Wallet Store Keypair)
variable (id : Id)
variable (phase : OpenPhase Id Wallet Store Keypair)

def setOpen : BarkSystem Id Wallet Store Keypair :=
  { system with opens := Function.update system.opens id (some phase) }

variable (operation : WalletOperation)

def setOperation (phase : OperationPhase Id Wallet) : BarkSystem Id Wallet Store Keypair :=
  { system with operations := Function.update system.operations id (some (operation, phase)) }

@[simp] theorem opens_setOpen_self : (system.setOpen id phase).opens id = some phase :=
  Function.update_self id _ _

theorem opens_setOpen_of_ne {id other : Id} (hne : other ≠ id)
    (phase : OpenPhase Id Wallet Store Keypair) :
    (system.setOpen id phase).opens other = system.opens other :=
  Function.update_of_ne hne _ _

@[simp] theorem operations_setOperation_self (phase : OperationPhase Id Wallet) :
    (system.setOperation id operation phase).operations id = some (operation, phase) :=
  Function.update_self id _ _

theorem operations_setOperation_of_ne {id other : Id} (hne : other ≠ id)
    (operation : WalletOperation) (phase : OperationPhase Id Wallet) :
    (system.setOperation id operation phase).operations other = system.operations other :=
  Function.update_of_ne hne _ _

/-- The first part of `open_network_session`. -/
def openSession (request : OpenRequest Store) : BarkSystem Id Wallet Store Keypair :=
  match request.parse with
  | .error message => system.setOpen id (.failed message)
  | .ok (network, store) =>
    { system.setOpen id (.opening network system.slots) with
      slots := system.slots.installRecordStore { openedBy := id, value := store } }

def openSucceeded (network : Network) (wallet : Wallet) : BarkSystem Id Wallet Store Keypair :=
  { system.setOpen id .succeeded with
    slots := (system.slots.storeWallet { openedBy := id, value := wallet }
      |>.rememberSessionNetwork { openedBy := id, value := network }).clearSessionSyncGate
    closedSince := false }

def openFailed (message : String) : BarkSystem Id Wallet Store Keypair :=
  { system.setOpen id (.failed message) with
    slots := system.slots.clearRecordStore.clearSessionNetwork }

def closeSession : BarkSystem Id Wallet Store Keypair :=
  { system with slots := system.slots.dropActiveWallet, closedSince := true }

def call : BarkSystem Id Wallet Store Keypair :=
  match system.slots.takeActiveWallet operation with
  | .error message => system.setOperation id operation (.threw message)
  | .ok (wallet, slots) =>
    { system.setOperation id operation (.running wallet) with slots := slots }

/-- `finish_wallet_operation` and what follows it. -/
def finishWalletOperation (wallet : OfOpen Id Wallet) :
    Except String (PreparedBoardFunding Keypair) → BarkSystem Id Wallet Store Keypair
  | .error message =>
    { system.setOperation id operation (.threw message) with
      slots := system.slots.storeWallet wallet }
  | .ok prepared =>
    { system.setOperation id operation .returned with
      slots := (system.slots.storeWallet wallet).finish wallet prepared operation
      synced :=
        if operation = .sync then wallet.openedBy :: system.synced else system.synced }

end BarkSystem

def barkStep (system : BarkSystem Id Wallet Store Keypair) :
    BarkOp Id Wallet Store Keypair → BarkSystem Id Wallet Store Keypair
  | .openSession id request =>
    match system.opens id with
    | none => system.openSession id request
    | some _ => system
  | .opened id answer =>
    match system.opens id, answer with
    | some (.opening network _), .ok wallet => system.openSucceeded id network wallet
    | some (.opening _ _), .error message => system.openFailed id message
    | _, _ => system
  | .closeSession => system.closeSession
  | .call id operation =>
    match system.operations id with
    | none => system.call id operation
    | some _ => system
  | .answered id answer =>
    match system.operations id with
    | some (operation, .running wallet) =>
      system.finishWalletOperation id operation wallet answer
    | _ => system

end Session

end Bitboard.Bark
