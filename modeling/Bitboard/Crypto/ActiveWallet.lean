/-
# The active wallet and its changeset

The wallet in memory and the changeset accumulated for it are two slots, which a load or a
create replaces. A sync or a scan makes its requests from the wallet that is active then,
waits for the network, and applies the answer to the wallet that is active afterwards. What
a call does between two of its awaits is one step here. A changeset is the list of the
changes merged into it.
-/

import Bitboard.Lib.Run

namespace Bitboard.Crypto

open Bitboard.Lib

section ActiveWallets

variable {Id Change : Type}

/-- A wallet in memory, under the number of the load or create that it comes from, with the
changes that it has staged. -/
structure ActiveWallet (Change : Type) where
  session : Nat
  stage : List Change

/-- What a sync or a scan waits for: the answer to a request that it has made from a wallet, or
the question whether receives are stuck. -/
inductive ChainCall
  | syncing (requestedFrom : Nat)
  | scanning (requestedFrom : Nat)
  | reconciling (pass requestedFrom : Nat)
  | checkingStuck (pass : Nat)
  | checkingLast

def ChainCall.requestedFrom : ChainCall → Option Nat
  | .syncing session | .scanning session | .reconciling _ session => some session
  | .checkingStuck _ | .checkingLast => none

structure AppliedUpdate where
  requestedFrom : Nat
  appliedTo : Nat

/-- The slots, the calls that wait, and for the record how many wallets were loaded or created,
the changeset of each with all that it has staged since, and the updates applied. -/
structure WalletSlots (Id Change : Type) where
  activeWallet : Option (ActiveWallet Change)
  accumulatedChangeset : List Change
  calls : Id → Option ChainCall
  sessions : Nat
  history : Nat → List Change
  updates : List AppliedUpdate

def initialWalletSlots : WalletSlots Id Change where
  activeWallet := none
  accumulatedChangeset := []
  calls := fun _ => none
  sessions := 0
  history := fun _ => []
  updates := []

/-- What a call that waits gets. An update stages changes; one that the wallet rejects stages
none, and the call fails. -/
inductive ChainAnswer (Change : Type)
  | failed
  | update (staged : List Change)
  | noUpdate
  | stuck (any : Bool)

inductive WalletOp (Id Change : Type)
  /-- `load_wallet`, with what the wallet has staged when it is opened. -/
  | load (changeset staged : List Change)
  | create (changeset : List Change)
  /-- A load or a create that fails. -/
  | failOpen
  | getNewAddress (staged : List Change)
  /-- `prepare_onchain_send_transaction`, which may fail after it has staged changes. -/
  | prepare (staged : List Change) (succeeds : Bool)
  | exportChangeset
  | syncWallet (id : Id) (staged : List Change)
  | fullScanWallet (id : Id)
  /-- A call that waits goes on; `unreconciled` says whether the wallet then has transactions to
  reconcile. -/
  | resume (id : Id) (answer : ChainAnswer Change) (unreconciled : Bool)

def ANCHOR_RECONCILE_MAX_PASSES : Nat := 2

namespace WalletSlots

variable (slots : WalletSlots Id Change)

def replaceWallet (changeset staged : List Change) : WalletSlots Id Change :=
  { slots with
    activeWallet := some { session := slots.sessions, stage := staged }
    accumulatedChangeset := changeset
    sessions := slots.sessions + 1
    history := Function.update slots.history slots.sessions (changeset ++ staged) }

def stageChanges (staged : List Change) : WalletSlots Id Change :=
  match slots.activeWallet with
  | none => slots
  | some wallet =>
    { slots with
      activeWallet := some { wallet with stage := wallet.stage ++ staged }
      history :=
        Function.update slots.history wallet.session
          (slots.history wallet.session ++ staged) }

def accumulateStagedChanges : WalletSlots Id Change :=
  match slots.activeWallet with
  | none => slots
  | some wallet =>
    { slots with
      activeWallet := some { wallet with stage := [] }
      accumulatedChangeset := slots.accumulatedChangeset ++ wallet.stage }

variable [DecidableEq Id]

def setCall (id : Id) (call : Option ChainCall) : WalletSlots Id Change :=
  { slots with calls := Function.update slots.calls id call }

/-- The end of a sync or a scan that succeeds: the accumulation, and `build_sync_result`, which
accumulates once more. -/
def finish (id : Id) : WalletSlots Id Change :=
  slots.accumulateStagedChanges.accumulateStagedChanges.setCall id none

/-- The head of a pass of `apply_esplora_anchor_reconcile_passes`. -/
def beginPass (id : Id) (pass : Nat) (unreconciled : Bool) : WalletSlots Id Change :=
  match slots.activeWallet with
  | none => slots.setCall id none
  | some wallet =>
    if pass < ANCHOR_RECONCILE_MAX_PASSES ∧ unreconciled = true then
      slots.setCall id (some (.reconciling pass wallet.session))
    else slots.setCall id (some .checkingLast)

omit [DecidableEq Id] in
/-- `apply_update` to the wallet that is active now. -/
def applyUpdate (requestedFrom : Nat) (staged : List Change) : WalletSlots Id Change :=
  match slots.activeWallet with
  | none => slots
  | some wallet =>
    { slots.stageChanges staged with
      updates := slots.updates ++
        [{ requestedFrom := requestedFrom, appliedTo := wallet.session }] }

/-- A call goes on with its answer. Without an active wallet it fails. -/
def resume (id : Id) (call : ChainCall) (answer : ChainAnswer Change) (unreconciled : Bool) :
    WalletSlots Id Change :=
  match slots.activeWallet, call, answer with
  | none, _, _ => slots.setCall id none
  | some _, .syncing session, .update staged =>
    (slots.applyUpdate session staged).beginPass id 0 unreconciled
  | some _, .scanning session, .update staged => (slots.applyUpdate session staged).finish id
  | some _, .reconciling pass session, .update staged =>
    (slots.applyUpdate session staged).setCall id (some (.checkingStuck pass))
  | some _, .reconciling pass _, .noUpdate => slots.setCall id (some (.checkingStuck pass))
  | some _, .checkingStuck pass, .stuck any =>
    if any then slots.beginPass id (pass + 1) unreconciled else slots.finish id
  | some _, .checkingLast, .stuck any => if any then slots.setCall id none else slots.finish id
  | some _, _, _ => slots.setCall id none

end WalletSlots

variable [DecidableEq Id]

def walletStep (slots : WalletSlots Id Change) : WalletOp Id Change → WalletSlots Id Change
  | .load changeset staged => slots.replaceWallet changeset staged
  | .create changeset => slots.replaceWallet changeset []
  | .failOpen => slots
  | .getNewAddress staged => (slots.stageChanges staged).accumulateStagedChanges
  | .prepare staged succeeds =>
    if succeeds then (slots.stageChanges staged).accumulateStagedChanges
    else slots.stageChanges staged
  | .exportChangeset => slots.accumulateStagedChanges
  | .syncWallet id staged =>
    match slots.calls id, slots.activeWallet with
    | none, some wallet =>
      (slots.stageChanges staged).setCall id (some (.syncing wallet.session))
    | _, _ => slots
  | .fullScanWallet id =>
    match slots.calls id, slots.activeWallet with
    | none, some wallet => slots.setCall id (some (.scanning wallet.session))
    | _, _ => slots
  | .resume id answer unreconciled =>
    match slots.calls id with
    | some call => slots.resume id call answer unreconciled
    | none => slots

end ActiveWallets

end Bitboard.Crypto
