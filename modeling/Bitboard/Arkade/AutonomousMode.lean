/-
# Autonomous mode

In autonomous mode the session works from its stored records alone. A sync and a full
reconcile ask once, at their start, whether they may use the operator, and then await
one request after the other. The worker's calls that enter and leave the mode flush the
flag with the rest of the persistence, unless the session call throws first.

The module adds to the trust machine what these calls are about: the operator requests
that a sync starts between two of its refreshes, the log of requests and commits with the
flag they were made under, and the flushes of the flag. The flushes of all calls go
through one promise. The requests inside a single call of the operator client count as
one.
-/

import Bitboard.Arkade.OperatorTrust

namespace Bitboard.Arkade

open Bitboard.Lib

inductive OperatorRequest where
  | getInfo
  | discoverKeys
  | listVtxos
  | listVtxosForOutpoints
  | listVtxosForAddresses
  | prefetchUnilateralExitMaterials
deriving DecidableEq

/-- What a call awaits between its first refresh and the gate before the commit. -/
inductive FetchAwait where
  | operator (request : OperatorRequest)
  | esplora
  /-- The refresh of the gate. -/
  | gate
deriving DecidableEq

/-- The request by which the await begins, if the operator is asked. -/
def FetchAwait.request : FetchAwait → Option OperatorRequest
  | .operator request => some request
  | .esplora => none
  | .gate => some .getInfo

/-- The request that a call starts as it comes to this await. The first fetch of a catch-up
depends on the snapshot and is an input. -/
def startedRequest : Option TrustCall → Option OperatorRequest
  | some (.starting _) => some .getInfo
  | some (.fetching .userSync) => some .discoverKeys
  | some (.fetching .fullList) => some .listVtxos
  | some .stamping => some .getInfo
  | some (.leaving _) => some .getInfo
  | some (.accepting _) => some .getInfo
  | some (.fetching .catchUp) => none
  | some (.settling _) => none
  | none => none

inductive SyncAction where
  | request (request : OperatorRequest)
  | commit
deriving DecidableEq

/-- A request or a commit, with the session's flag at that time. -/
structure SyncEvent where
  action : SyncAction
  autonomousMode : Bool
deriving DecidableEq

/-- Where a call of `enterAutonomousMode` or `exitAutonomousMode` stands. -/
inductive AutonomyCall where
  /-- The session's exit runs under this name. -/
  | exiting (sync : Nat)
  /-- The session call has returned and the flush is under way. -/
  | flushing
  /-- The call has settled: whether its own flush failed, and both flags at that moment. -/
  | settled (flushFailed persisted active : Bool)
deriving DecidableEq

/-- The flush that holds the promise, of an enter or exit or of any other call, with the
flag that it has exported. -/
structure FlagFlush where
  owner : Option Nat
  exported : Bool

structure AutonomyWorker where
  session : TrustSession
  fetchAwaits : Nat → FetchAwait
  events : List SyncEvent
  /-- The flag of the stored JSON. -/
  persistedFlag : Bool
  inFlightPersist : Option FlagFlush
  calls : Nat → Option AutonomyCall
  /-- The last flush of an enter or exit has failed. -/
  lastFlushFailed : Bool

inductive AutonomyOp where
  | syncWithOperator (name : Nat)
  | reconcileFullOffchainVtxoList (name : Nat)
  | refreshed (name : Nat) (answer : Option CachedOperatorInfoRecord)
  /-- The fetch that the call awaits is over and it comes to the next one. -/
  | fetchGoesOn (name : Nat) (next : FetchAwait)
  /-- What follows the commit is over; `next` is the first await of a catch-up. -/
  | settled (name : Nat) (next : FetchAwait)
  | failed (name : Nat)
  /-- A request of the call was refused for its digest and the client has fetched the new info. -/
  | infoRefreshHook (name : Nat) (info : CachedOperatorInfoRecord)
  /-- The worker's enter; `installs` tells whether the client takes the stored record. -/
  | enterAutonomousMode (call : Nat) (installs : Bool)
  | exitAutonomousMode (call sync : Nat)
  | exportFlag (owner : Option Nat)
  | writeFlag (ok : Bool)
  /-- The flush of the call throws while it waits for its turn. -/
  | flushThrows (call : Nat)

namespace AutonomyWorker

variable (worker : AutonomyWorker)

def log (action : SyncAction) : AutonomyWorker :=
  { worker with events := worker.events ++ [{ action, autonomousMode :=
      worker.session.autonomousMode }] }

def logRequest : Option OperatorRequest → AutonomyWorker
  | some request => worker.log (.request request)
  | none => worker

def setCall (call : Nat) (stage : AutonomyCall) : AutonomyWorker :=
  { worker with calls := Function.update worker.calls call (some stage) }

/-- The call settles without a flush of its own that failed. -/
def settleCall (call : Nat) (flushFailed : Bool) : AutonomyWorker :=
  worker.setCall call
    (.settled flushFailed worker.persistedFlag worker.session.autonomousMode)

/-- The session takes a step for the call, which may commit and may start a request. -/
def advance (name : Nat) (op : TrustOp) : AutonomyWorker :=
  let session := trustStep worker.session op
  let started := startedRequest (session.calls name)
  let logged := { worker with
    session
    fetchAwaits := Function.update worker.fetchAwaits name
      (started.elim .esplora FetchAwait.operator) }.logRequest started
  if session.commits.length = worker.session.commits.length then logged
  else logged.log .commit

def goOn (name : Nat) (next : FetchAwait) : AutonomyWorker :=
  match worker.session.calls name with
  | some (.fetching _) =>
    if worker.fetchAwaits name = .gate then worker
    else
      { worker with fetchAwaits := Function.update worker.fetchAwaits name next }.logRequest
        next.request
  | _ => worker

/-- An exit whose session call has ended flushes, or throws before it comes to the flush. -/
def returnExit (sync : Nat) (threw : Bool) : AutonomyWorker :=
  match worker.session.calls sync with
  | some _ => worker
  | none =>
    { worker with
      calls := fun call =>
        match worker.calls call with
        | some (.exiting name) =>
          if name = sync then
            some (if threw then
              .settled false worker.persistedFlag worker.session.autonomousMode
            else .flushing)
          else some (.exiting name)
        | other => other }

/-- A sync that leaves autonomous mode is refused if the mode is on again; any other call
throws if its refresh fails. -/
def refreshThrows (call : TrustCall) (answer : Option CachedOperatorInfoRecord) : Bool :=
  match call, answer with
  | .leaving _, _ => worker.session.autonomousMode
  | _, none => true
  | _, some _ => false

/-- One step. What does not fit the state of its call changes nothing. -/
def step : AutonomyOp → AutonomyWorker
  | .syncWithOperator name =>
    match worker.session.calls name with
    | some _ => worker
    | none => worker.advance name (.syncWithOperator name)
  | .reconcileFullOffchainVtxoList name =>
    match worker.session.calls name with
    | some _ => worker
    | none => worker.advance name (.reconcileFullOffchainVtxoList name)
  | .refreshed name answer =>
    match worker.session.calls name with
    | none | some (.settling _) => worker
    | some (.fetching write) =>
      if worker.fetchAwaits name = .gate then
        (worker.advance name (.refreshed name answer)).returnExit name
          (worker.refreshThrows (.fetching write) answer)
      else worker
    | some call =>
      (worker.advance name (.refreshed name answer)).returnExit name
        (worker.refreshThrows call answer)
  | .fetchGoesOn name next => worker.goOn name next
  | .settled name next =>
    match worker.session.calls name with
    | some (.settling _) =>
      ((worker.advance name (.settled name)).goOn name next).returnExit name false
    | _ => worker
  | .failed name =>
    match worker.session.calls name with
    | none => worker
    | some _ => (worker.advance name (.failed name)).returnExit name true
  | .infoRefreshHook name info =>
    match worker.session.calls name with
    | none => worker
    | some _ => { worker with session := trustStep worker.session (.infoRefreshHook info) }
  | .enterAutonomousMode call installs =>
    match worker.calls call with
    | some _ => worker
    | none =>
      if worker.session.cachedOperatorInfo.isSome && installs then
        { worker with session := trustStep worker.session .enterAutonomousMode }.setCall call
          .flushing
      else worker.settleCall call false
  | .exitAutonomousMode call sync =>
    match worker.calls call, worker.session.calls sync with
    | none, none =>
      if !worker.session.autonomousMode then worker.setCall call .flushing
      else if worker.session.operatorTrustPending then worker.settleCall call false
      else (worker.advance sync (.exitAutonomousMode sync)).setCall call (.exiting sync)
    | _, _ => worker
  | .exportFlag owner =>
    match worker.inFlightPersist with
    | some _ => worker
    | none =>
      if owner.all fun call => decide (worker.calls call = some .flushing) then
        { worker with
          inFlightPersist := some { owner, exported := worker.session.autonomousMode } }
      else worker
  | .writeFlag ok =>
    match worker.inFlightPersist with
    | none => worker
    | some { owner, exported } =>
      let written := { worker with
        inFlightPersist := none
        persistedFlag := if ok then exported else worker.persistedFlag }
      match owner with
      | none => written
      | some call => { written with lastFlushFailed := !ok }.settleCall call !ok
  | .flushThrows call =>
    match worker.calls call with
    | some .flushing =>
      if worker.inFlightPersist.any fun flush => flush.owner == some call then worker
      else { worker with lastFlushFailed := true }.settleCall call true
    | _ => worker

def run (ops : List AutonomyOp) : AutonomyWorker :=
  Lib.run step worker ops

end AutonomyWorker

/-- A worker whose session has just been opened: nothing runs, the persisted flag is that of
the session, and an autonomous session was connected from the accepted record. -/
structure AtOpen (worker : AutonomyWorker) : Prop where
  calls : ∀ name, worker.session.calls name = none
  workerCalls : ∀ call, worker.calls call = none
  events : worker.events = []
  inFlightPersist : worker.inFlightPersist = none
  persistedFlag : worker.persistedFlag = worker.session.autonomousMode
  serverInfo : worker.session.autonomousMode = true →
    worker.session.cachedOperatorInfo = some worker.session.serverInfo

end Bitboard.Arkade
