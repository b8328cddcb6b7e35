/-
# Lock, manual unlock and bootstrap unlock

Each of the three orchestrators joins the work in flight if it is the one it would begin,
waits for other work, looks once more and begins its own. The wait is over some time after
the work in flight has settled, and even a call that finds none goes on only later, so
several callers can go on one after another without seeing each other's work.
-/

import Bitboard.Frontend.InFlightTracker
import Bitboard.Frontend.UnilateralExitMachine
import Bitboard.Wallet.Payload

namespace Bitboard.Frontend

open Bitboard.Lib

inductive LockLifecyclePhase
  | noLock
  | locked
  | locking
  | unlocking
  | unlocked
  deriving DecidableEq

inductive LockLifecycleOperation
  | none
  | locking
  | manualUnlock
  | bootstrapUnlock
  deriving DecidableEq

structure LockLifecycleSnapshot where
  phase : LockLifecyclePhase
  operation : LockLifecycleOperation
  deriving DecidableEq

inductive WalletStatus
  | none
  | locked
  | unlocked
  deriving DecidableEq

structure LockStore where
  activeWalletId : Option Nat
  walletStatus : WalletStatus
  anyRailSyncing : Bool

def LockStore.walletIsUnlockedOrSyncing (store : LockStore) : Bool :=
  decide (store.walletStatus = .unlocked) || store.anyRailSyncing

structure UnlockLoadParams where
  walletId : Option Nat
  networkMode : NetworkMode
  addressType : Wallet.AddressType
  accountId : Nat
  deriving DecidableEq

/-- A call, and the work it begins; the kind and the key of a work determine the call. -/
inductive LockRequest
  | lock
  | manualUnlock (params : UnlockLoadParams)
  | bootstrapUnlock (params : UnlockLoadParams)
  deriving DecidableEq

/-- Where a work is. A load keeps how many purges had run when it started. The run of a work
that is done settles its promise a little later. -/
inductive LockWorkPhase
  | starting
  | purging
  | openingSession
  | loading (purgesBefore : Nat)
  | endingSession (message : String)
  | done (outcome : Except String Unit)
  | settled (outcome : Except String Unit)

/-- A work, and for the record which purge it has run. -/
structure LockWork where
  request : LockRequest
  phase : LockWorkPhase
  purge : Option Nat

/-- A caller that waits before it looks again, or for the work it has joined or begun. It keeps
how many purges had run when it called. -/
inductive LockCaller
  | waiting (request : LockRequest) (work : Option Nat) (purgesBefore : Nat)
  | joined (request : LockRequest) (work : Nat) (purgesBefore : Nat)
  | returned
  | threw (message : String)

structure LockSystem (Id : Type) where
  snapshot : LockLifecycleSnapshot
  store : LockStore
  inFlightWork : Option (InFlightLifecycleWork LockRequest)
  works : Nat → Option LockWork
  begun : Nat
  callers : Id → Option LockCaller
  purges : Nat

def initialLockSystem {Id : Type} (store : LockStore) : LockSystem Id where
  snapshot := { phase := .noLock, operation := .none }
  store := store
  inFlightWork := none
  works := fun _ => none
  begun := 0
  callers := fun _ => none
  purges := 0

inductive LockWorkInput
  | advance
  | fail (message : String)

structure LockWorkResult where
  work : LockWork
  snapshot : LockLifecycleSnapshot
  purges : Nat

def revertAfterUnlockFailure (store : LockStore) : LockLifecycleSnapshot :=
  match store.activeWalletId with
  | none => { phase := .noLock, operation := .none }
  | some _ => { phase := .locked, operation := .none }

section Works

variable (snapshot : LockLifecycleSnapshot) (store : LockStore) (purges : Nat)

/-- The work of `orchestrateLock`: quiescence, then the purge. -/
def lockWorkStep (work : LockWork) : LockWorkInput → LockWorkResult
  | .advance =>
    match work.phase with
    | .starting =>
      { work := { work with phase := .purging }
        snapshot := { phase := .locking, operation := .locking }
        purges := purges }
    | .purging =>
      { work := { work with phase := .done (.ok ()), purge := some (purges + 1) }
        snapshot := { phase := .locked, operation := .none }
        purges := purges + 1 }
    | _ => { work := work, snapshot := snapshot, purges := purges }
  | .fail message =>
    match work.phase with
    | .starting =>
      { work := { work with phase := .done (.error message) }
        snapshot := snapshot
        purges := purges }
    | .purging =>
      { work := { work with phase := .done (.error message) }
        snapshot := { phase := .locked, operation := .none }
        purges := purges }
    | _ => { work := work, snapshot := snapshot, purges := purges }

def manualUnlockWorkStep (work : LockWork) (input : LockWorkInput) : LockWorkResult :=
  let goTo (phase : LockWorkPhase) (snapshot : LockLifecycleSnapshot) : LockWorkResult :=
    { work := { work with phase := phase }, snapshot := snapshot, purges := purges }
  match work.phase, input with
  | .starting, .advance =>
    goTo .openingSession { phase := .unlocking, operation := .manualUnlock }
  | .starting, .fail message => goTo (.done (.error message)) snapshot
  | .openingSession, .advance => goTo (.loading purges) snapshot
  | .openingSession, .fail message =>
    goTo (.done (.error message)) (revertAfterUnlockFailure store)
  | .loading _, .advance =>
    if store.walletStatus = .unlocked then
      goTo (.done (.ok ())) { phase := .unlocked, operation := .none }
    else goTo (.endingSession "Wallet unlock did not complete") snapshot
  | .loading _, .fail message => goTo (.endingSession message) snapshot
  | .endingSession message, .advance =>
    goTo (.done (.error message)) (revertAfterUnlockFailure store)
  | .endingSession _, .fail message =>
    goTo (.done (.error message)) (revertAfterUnlockFailure store)
  | phase, _ => goTo phase snapshot

/-- `runBootstrapUnlockWork`. It starts with the question whether there is a session. -/
def bootstrapUnlockWorkStep (params : UnlockLoadParams) (work : LockWork)
    (input : LockWorkInput) : LockWorkResult :=
  let goTo (phase : LockWorkPhase) (snapshot : LockLifecycleSnapshot) : LockWorkResult :=
    { work := { work with phase := phase }, snapshot := snapshot, purges := purges }
  match work.phase, input with
  | .starting, .advance =>
    if params.walletId = none then
      goTo (.done (.error "Bootstrap unlock ran without wallet")) snapshot
    else if store.walletStatus = .unlocked then goTo (.done (.ok ())) snapshot
    else goTo (.loading purges) { phase := .unlocking, operation := .bootstrapUnlock }
  | .starting, .fail message => goTo (.done (.error message)) snapshot
  | .loading _, .advance => goTo (.done (.ok ())) { phase := .unlocked, operation := .none }
  | .loading _, .fail message =>
    goTo (.done (.error message)) (revertAfterUnlockFailure store)
  | phase, _ => goTo phase snapshot

def lockRequestWorkStep (work : LockWork) (input : LockWorkInput) : LockWorkResult :=
  match work.request with
  | .lock => lockWorkStep snapshot purges work input
  | .manualUnlock _ => manualUnlockWorkStep snapshot store purges work input
  | .bootstrapUnlock params => bootstrapUnlockWorkStep snapshot store purges params work input

end Works

namespace LockSystem

variable {Id : Type} [DecidableEq Id] (system : LockSystem Id)

def setCaller (id : Id) (caller : LockCaller) : LockSystem Id :=
  { system with callers := Function.update system.callers id (some caller) }

def setWork (number : Nat) (work : LockWork) : LockSystem Id :=
  { system with works := Function.update system.works number (some work) }

omit [DecidableEq Id] in
/-- The work in flight if it is the one that the call would begin. -/
def joinable (request : LockRequest) : Option Nat :=
  match system.inFlightWork with
  | none => none
  | some current => if current.key = request then some current.promise else none

omit [DecidableEq Id] in
def isLockUnlockInProgress : Bool :=
  match system.snapshot.operation with
  | .manualUnlock | .bootstrapUnlock => true
  | .none | .locking => false

def request (id : Id) (request : LockRequest) : LockSystem Id :=
  match system.joinable request with
  | some number => system.setCaller id (.joined request number system.purges)
  | none =>
    system.setCaller id
      (.waiting request (system.inFlightWork.map fun current => current.promise)
        system.purges)

/-- `orchestrateLock`, `orchestrateManualUnlock` and `orchestrateBootstrapUnlock` up to the
wait. -/
def call (id : Id) : LockRequest → LockSystem Id
  | .lock =>
    if system.snapshot.phase = .noLock then system.setCaller id .returned
    else system.request id .lock
  | .manualUnlock params =>
    if params.walletId = none then system.setCaller id (.threw "No active wallet")
    else system.request id (.manualUnlock params)
  | .bootstrapUnlock params => system.request id (.bootstrapUnlock params)

def begin (id : Id) (request : LockRequest) (purgesBefore : Nat) : LockSystem Id :=
  { (system.setWork system.begun
        { request := request, phase := .starting, purge := none }).setCaller id
          (.joined request system.begun purgesBefore) with
    inFlightWork := some { key := request, promise := system.begun }
    begun := system.begun + 1 }

/-- A bootstrap unlock that finds the wallet unlocked or being unlocked returns. -/
def nothingToUnlock : LockRequest → Bool
  | .bootstrapUnlock _ =>
    decide (system.store.walletStatus = .unlocked) || system.isLockUnlockInProgress
  | .lock | .manualUnlock _ => false

def proceed (id : Id) (request : LockRequest) (purgesBefore : Nat) : LockSystem Id :=
  if system.nothingToUnlock request then system.setCaller id .returned
  else
    match system.joinable request with
    | some number => system.setCaller id (.joined request number purgesBefore)
    | none => system.begin id request purgesBefore

omit [DecidableEq Id] in
/-- The outcome of a work whose promise has settled. -/
def outcome (number : Nat) : Option (Except String Unit) :=
  match system.works number with
  | some ⟨_, .settled outcome, _⟩ => some outcome
  | _ => none

omit [DecidableEq Id] in
/-- What became of the work that a caller waits for; a caller that waits for none goes on. -/
def waited : Option Nat → Option (Except String Unit)
  | none => some (.ok ())
  | some number => system.outcome number

omit [DecidableEq Id] in
/-- The next part of a work. One that is done settles, and leaves the slot if it is there. -/
def stepWork (number : Nat) (work : LockWork) (input : LockWorkInput) : LockSystem Id :=
  match work.phase with
  | .done outcome =>
    { system with
      works := Function.update system.works number (some { work with phase := .settled outcome })
      inFlightWork := system.inFlightWork.filter fun current => current.promise ≠ number }
  | _ =>
    let result := lockRequestWorkStep system.snapshot system.store system.purges work input
    { system with
      works := Function.update system.works number (some result.work)
      snapshot := result.snapshot
      purges := result.purges }

omit [DecidableEq Id] in
def syncWithActiveWallet (activeWalletId : Option Nat) : LockSystem Id :=
  match activeWalletId with
  | none =>
    match system.inFlightWork with
    | some _ => system
    | none => { system with snapshot := { phase := .noLock, operation := .none } }
  | some _ =>
    if system.snapshot = { phase := .noLock, operation := .none } then
      { system with snapshot := { phase := .locked, operation := .none } }
    else system

omit [DecidableEq Id] in
def syncFromWalletStore : LockSystem Id :=
  if system.snapshot.operation ≠ .none then system
  else if system.store.activeWalletId = none then
    { system with snapshot := { phase := .noLock, operation := .none } }
  else if system.store.walletIsUnlockedOrSyncing then
    { system with snapshot := { system.snapshot with phase := .unlocked } }
  else if system.snapshot.phase = .noLock ∨ system.snapshot.phase = .unlocked then
    { system with snapshot := { system.snapshot with phase := .locked } }
  else system

end LockSystem

inductive LockOp (Id : Type)
  | setStore (store : LockStore)
  | syncWithActiveWallet (activeWalletId : Option Nat)
  | syncFromWalletStore
  | call (id : Id) (request : LockRequest)
  /-- A caller that has waited goes on. -/
  | wake (id : Id)
  /-- The work that a caller has joined has settled, and so does its call. -/
  | finish (id : Id)
  | work (number : Nat) (input : LockWorkInput)

def lockStep {Id : Type} [DecidableEq Id] (system : LockSystem Id) : LockOp Id → LockSystem Id
  | .setStore store => { system with store := store }
  | .syncWithActiveWallet activeWalletId => system.syncWithActiveWallet activeWalletId
  | .syncFromWalletStore => system.syncFromWalletStore
  | .call id request =>
    match system.callers id with
    | none => system.call id request
    | some _ => system
  | .wake id =>
    match system.callers id with
    | some (.waiting request work purgesBefore) =>
      match system.waited work with
      | some (.ok _) => system.proceed id request purgesBefore
      | some (.error message) => system.setCaller id (.threw message)
      | none => system
    | _ => system
  | .finish id =>
    match system.callers id with
    | some (.joined _ number _) =>
      match system.outcome number with
      | some (.ok _) => system.setCaller id .returned
      | some (.error message) => system.setCaller id (.threw message)
      | none => system
    | _ => system
  | .work number input =>
    match system.works number with
    | some work => system.stepWork number work input
    | none => system

end Bitboard.Frontend
