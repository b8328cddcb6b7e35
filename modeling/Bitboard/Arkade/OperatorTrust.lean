/-
# Operator trust

The wallet keeps the operator's `getInfo` twice: the record the user accepted and,
after the operator has changed its digest, the record that waits for review. The
session's calls run interleaved on one worker: between two awaits a call is alone,
and what it finds after an await is what the others left. This module states the
calls that read or write these records as one state machine, whose inputs are the
calls made and the answers of the operator.

A call is known by its name. It is at one of its awaits, and the next answer resumes
it: a refresh of `getInfo`, or the end of the awaits between the commit of a snapshot
and the write of the accepted record.
-/

import Bitboard.Lib.Run

namespace Bitboard.Arkade

open Bitboard.Lib

structure CachedIntentFeeInfoRecord where
  offchainInput : Option String
  offchainOutput : Option String
  onchainInput : Option String
  onchainOutput : Option String
deriving DecidableEq

structure CachedFeeInfoRecord where
  intentFee : CachedIntentFeeInfoRecord
  txFeeRate : String
deriving DecidableEq

structure CachedScheduledSessionRecord where
  nextStartTime : Int
  nextEndTime : Int
  period : Int
  duration : Int
  fees : Option CachedFeeInfoRecord
deriving DecidableEq

structure CachedDeprecatedSignerRecord where
  signerPkHex : String
  cutoffDate : Int
deriving DecidableEq

/-- The stored form of the operator's `getInfo`. The trust gate compares its digest. -/
structure CachedOperatorInfoRecord where
  version : String
  signerPkHex : String
  forfeitPkHex : String
  forfeitAddress : String
  checkpointTapscriptHex : String
  network : String
  sessionDuration : Nat
  unilateralExitDelayConsensus : Nat
  boardingExitDelayConsensus : Nat
  utxoMinAmountSats : Option Nat
  utxoMaxAmountSats : Option Nat
  vtxoMinAmountSats : Option Nat
  vtxoMaxAmountSats : Option Nat
  dustSats : Nat
  fees : Option CachedFeeInfoRecord
  scheduledSession : Option CachedScheduledSessionRecord
  deprecatedSigners : List CachedDeprecatedSignerRecord
  serviceStatus : List (String × String)
  digest : String
  maxTxWeight : Int
  maxOpReturnOutputs : Int
deriving DecidableEq

/-- The live digest differs from that of the last accepted record. -/
def operatorDigestMismatch (accepted : Option CachedOperatorInfoRecord) (newDigest : String) :
    Bool :=
  accepted.any fun cached => cached.digest != newDigest

/-- Operator sync must not persist a snapshot or the accepted record. -/
def shouldBlockSyncPersistForOperatorTrust (operatorTrustPending : Bool)
    (accepted : Option CachedOperatorInfoRecord) (newDigest : String) : Bool :=
  if operatorTrustPending then true else operatorDigestMismatch accepted newDigest

theorem operatorDigestMismatch_eq_false_iff {accepted : Option CachedOperatorInfoRecord}
    {newDigest : String} :
    operatorDigestMismatch accepted newDigest = false ↔
      ∀ cached, accepted = some cached → newDigest = cached.digest := by
  cases accepted with
  | none => simp [operatorDigestMismatch]
  | some cached =>
    simp only [operatorDigestMismatch, Option.any_some, bne_eq_false_iff_eq, Option.some.injEq,
      forall_eq']
    exact eq_comm

/-- The snapshot that a call is about to write: that of a user-facing sync, the full
list of a background reconcile, or the catch-up fetch that follows it. -/
inductive SnapshotWrite where
  | userSync
  | fullList
  | catchUp
deriving DecidableEq

inductive LeaveCause where
  | exitAutonomousMode
  | trustAccept (pending : CachedOperatorInfoRecord)

inductive TrustCall where
  /-- The refresh with which a sync or a reconcile starts. -/
  | starting (write : SnapshotWrite)
  /-- Fetches and heals, which end with the refresh of the gate before the commit. -/
  | fetching (write : SnapshotWrite)
  /-- What follows the commit, up to the write of the accepted record. -/
  | settling (write : SnapshotWrite)
  /-- The refresh before `full_listed_at` is stamped. -/
  | stamping
  /-- The refresh after autonomous mode has been left, whose failure is ignored. -/
  | leaving (cause : LeaveCause)
  /-- The refresh of an accept call that has read `pending`. -/
  | accepting (pending : CachedOperatorInfoRecord)

/-- The trust state that a snapshot was committed under. -/
structure CommitView where
  operatorTrustPending : Bool
  acceptedDigest : Option String
  lastRefreshed : Option String
deriving DecidableEq

/-- The stored trust fields, the session's flag, the client's current server info, the
calls under way, and the log of the commits made so far. -/
structure TrustSession where
  cachedOperatorInfo : Option CachedOperatorInfoRecord
  pendingOperatorInfo : Option CachedOperatorInfoRecord
  operatorTrustPending : Bool
  autonomousMode : Bool
  serverInfo : CachedOperatorInfoRecord
  lastRefreshed : Option String
  calls : Nat → Option TrustCall
  commits : List CommitView

namespace TrustSession

variable (session : TrustSession)
variable (info : CachedOperatorInfoRecord) (name : Nat)

def setCall (call : Option TrustCall) : TrustSession :=
  { session with calls := Function.update session.calls name call }

def stageOperatorTrustPending : TrustSession :=
  { session with pendingOperatorInfo := some info, operatorTrustPending := true }

def clearOperatorTrustState : TrustSession :=
  { session with pendingOperatorInfo := none, operatorTrustPending := false }

def setCachedOperatorInfo : TrustSession :=
  { session with cachedOperatorInfo := some info }

def refreshServerInfo : TrustSession :=
  { session with serverInfo := info, lastRefreshed := some info.digest }

/-- A write of the offchain snapshot by an operator sync. -/
def commitOperatorSnapshot : TrustSession :=
  { session with
    commits := session.commits ++
      [{ operatorTrustPending := session.operatorTrustPending
         acceptedDigest := session.cachedOperatorInfo.map (·.digest)
         lastRefreshed := session.lastRefreshed }] }

def persistCachedOperatorInfoFromClient : TrustSession :=
  session.setCachedOperatorInfo session.serverInfo

def shouldBlockSyncPersist (newDigest : String) : Bool :=
  shouldBlockSyncPersistForOperatorTrust session.operatorTrustPending
    session.cachedOperatorInfo newDigest

/-- `sync_with_operator` up to its first await. -/
def syncWithOperator : TrustSession :=
  if session.autonomousMode then session.setCall name none
  else session.setCall name (some (.starting .userSync))

/-- `reconcile_full_offchain_vtxo_list` up to its first await. -/
def reconcileFullOffchainVtxoList : TrustSession :=
  if session.autonomousMode then session.setCall name none
  else session.setCall name (some (.starting .fullList))

/-- `accept_pending_operator_config` up to its first await. -/
def acceptPendingOperatorConfig : TrustSession :=
  if session.operatorTrustPending then
    match session.pendingOperatorInfo with
    | none => session
    | some pending =>
      if session.autonomousMode then
        { session with autonomousMode := false }.setCall name
          (some (.leaving (.trustAccept pending)))
      else session.setCall name (some (.accepting pending))
  else session

/-- `enter_autonomous_mode`, which a review of a pending record goes through as well. -/
def enterAutonomousMode : TrustSession :=
  match session.cachedOperatorInfo with
  | none => session
  | some cached => { session with serverInfo := cached, autonomousMode := true }

/-- `exit_autonomous_mode` up to its first await. -/
def exitAutonomousMode : TrustSession :=
  if session.autonomousMode then
    if session.operatorTrustPending then session
    else
      { session with autonomousMode := false }.setCall name
        (some (.leaving .exitAutonomousMode))
  else session

/-- The gate after a refresh: a digest that must not be persisted is staged and ends the
call. -/
def unlessBlocked (info : CachedOperatorInfoRecord) (passed : TrustSession) : TrustSession :=
  if session.shouldBlockSyncPersist info.digest then
    (session.stageOperatorTrustPending info).setCall name none
  else passed

/-- What a call does once its refresh has stored `info`, up to its next await. -/
def resume (info : CachedOperatorInfoRecord) : TrustCall → TrustSession
  | .starting write =>
    session.unlessBlocked name info (session.setCall name (some (.fetching write)))
  | .fetching write =>
    session.unlessBlocked name info
      (session.commitOperatorSnapshot.setCall name (some (.settling write)))
  | .stamping =>
    session.unlessBlocked name info (session.commitOperatorSnapshot.setCall name none)
  | .leaving .exitAutonomousMode => session.syncWithOperator name
  | .leaving (.trustAccept pending) => session.setCall name (some (.accepting pending))
  | .accepting pending =>
    if pending.digest != info.digest then
      (session.stageOperatorTrustPending info).setCall name none
    else
      ((session.setCachedOperatorInfo pending).clearOperatorTrustState).syncWithOperator name
  | .settling _ => session

def refreshFailed : TrustCall → TrustSession
  | .leaving .exitAutonomousMode => session.syncWithOperator name
  | .leaving (.trustAccept pending) => session.setCall name (some (.accepting pending))
  | .settling _ => session
  | .starting _ | .fetching _ | .stamping | .accepting _ => session.setCall name none

/-- The end of the awaits after a commit: the accepted record is written from the client,
and a reconcile goes on with its catch-up or its stamp. -/
def settle : SnapshotWrite → TrustSession
  | .userSync => session.persistCachedOperatorInfoFromClient.setCall name none
  | .fullList =>
    session.persistCachedOperatorInfoFromClient.setCall name (some (.fetching .catchUp))
  | .catchUp => session.persistCachedOperatorInfoFromClient.setCall name (some .stamping)

inductive SessionOpenConnectMode where
  | liveOperator
  | cachedOperatorInfo
deriving DecidableEq

/-- A persisted autonomous session connects from the cached record and fails without one. -/
def sessionOpenConnectMode (autonomousMode cachedOperatorInfoPresent : Bool) :
    Option SessionOpenConnectMode :=
  if !autonomousMode then some .liveOperator
  else if cachedOperatorInfoPresent then some .cachedOperatorInfo
  else none

def applyLiveOperatorDigestOnOpen : TrustSession :=
  let digestMismatch := operatorDigestMismatch session.cachedOperatorInfo info.digest
  if session.operatorTrustPending && digestMismatch then
    { session with pendingOperatorInfo := some info }
  else if digestMismatch && session.cachedOperatorInfo.isSome then
    session.stageOperatorTrustPending info
  else if !digestMismatch then session.setCachedOperatorInfo info
  else session

/-- A new session over the stored fields: no call of an earlier session is left. A live
connection has answered with `info`. -/
def openSession : TrustSession :=
  let opened := { session with calls := fun _ => none }
  match sessionOpenConnectMode session.autonomousMode session.cachedOperatorInfo.isSome with
  | none => opened
  | some .liveOperator => (opened.refreshServerInfo info).applyLiveOperatorDigestOnOpen info
  | some .cachedOperatorInfo =>
    { opened with serverInfo := session.cachedOperatorInfo.getD session.serverInfo }

end TrustSession

inductive TrustOp where
  | openSession (info : CachedOperatorInfoRecord)
  | syncWithOperator (name : Nat)
  | reconcileFullOffchainVtxoList (name : Nat)
  | acceptPendingOperatorConfig (name : Nat)
  | enterAutonomousMode
  | exitAutonomousMode (name : Nat)
  /-- The refresh that the call awaits has been answered, or has failed. -/
  | refreshed (name : Nat) (answer : Option CachedOperatorInfoRecord)
  /-- Some request was refused for its digest and the client has fetched the new info. -/
  | infoRefreshHook (info : CachedOperatorInfoRecord)
  /-- The awaits of the call between its commit and its write are over. -/
  | settled (name : Nat)
  /-- The call has ended with an error of another await. -/
  | failed (name : Nat)

/-- A name that is in use is not given to a second call. -/
def startCall (session : TrustSession) (name : Nat) (started : TrustSession) : TrustSession :=
  if (session.calls name).isSome then session else started

def trustStep (session : TrustSession) : TrustOp → TrustSession
  | .openSession info => session.openSession info
  | .syncWithOperator name => startCall session name (session.syncWithOperator name)
  | .reconcileFullOffchainVtxoList name =>
    startCall session name (session.reconcileFullOffchainVtxoList name)
  | .acceptPendingOperatorConfig name =>
    startCall session name (session.acceptPendingOperatorConfig name)
  | .enterAutonomousMode => session.enterAutonomousMode
  | .exitAutonomousMode name => startCall session name (session.exitAutonomousMode name)
  | .refreshed name answer =>
    match session.calls name, answer with
    | none, _ | some (.settling _), _ => session
    | some call, some info => (session.refreshServerInfo info).resume name info call
    | some call, none => session.refreshFailed name call
  | .infoRefreshHook info => session.refreshServerInfo info
  | .settled name =>
    match session.calls name with
    | some (.settling write) => session.settle name write
    | _ => session
  | .failed name => session.setCall name none

def trustRun (session : TrustSession) (ops : List TrustOp) : TrustSession :=
  run trustStep session ops

end Bitboard.Arkade
