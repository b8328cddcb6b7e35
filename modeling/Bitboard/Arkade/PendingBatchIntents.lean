/-
# Pending batch intents

An intent that waits for the operator's next batch is stored with the inputs it
has committed: boarding outputs on chain and virtual outputs. The store is a list,
and its writers keep the stored intents apart: a new intent takes the place of
every stored one that shares an input with it.

The operations follow `persistence.rs`, and the two callers that add to the list
follow `mapping.rs` and `join.rs`. A boarding output and a virtual output are
different inputs even under one outpoint, as the overlap test has it.
-/

import Bitboard.Arkade.Outpoint
import Bitboard.Lib.Run

namespace Bitboard.Arkade

open Bitboard.Lib

inductive PendingBatchIntentKind where
  | board
  | recover
  | renew
  | collaborativeExit
  | migrate
  deriving DecidableEq

inductive PendingBatchIntentLifecyclePhase where
  | processing
  | timedOut
  deriving DecidableEq

structure PendingBatchOutpointRecord where
  txid : String
  vout : UInt32
  deriving DecidableEq

structure PendingBatchIntentRecord where
  kind : PendingBatchIntentKind
  intentId : Option String
  onchainOutpoints : List PendingBatchOutpointRecord
  vtxoOutpoints : List PendingBatchOutpointRecord
  amountSats : Nat
  registeredAt : Int
  destinationAddress : Option String
  lifecyclePhase : PendingBatchIntentLifecyclePhase
  deriving DecidableEq

def outpointSetsOverlap (left right : List PendingBatchOutpointRecord) : Bool :=
  left.any fun candidate =>
    right.any fun other => candidate.txid = other.txid ∧ candidate.vout = other.vout

def pendingBatchRecordOverlapsOutpoints (record : PendingBatchIntentRecord)
    (onchainOutpoints vtxoOutpoints : List PendingBatchOutpointRecord) : Bool :=
  outpointSetsOverlap record.onchainOutpoints onchainOutpoints ||
    outpointSetsOverlap record.vtxoOutpoints vtxoOutpoints

def pendingBatchIntentsOverlap (left right : PendingBatchIntentRecord) : Bool :=
  pendingBatchRecordOverlapsOutpoints left right.onchainOutpoints right.vtxoOutpoints

def pendingIntentOutpointsEmpty (record : PendingBatchIntentRecord) : Bool :=
  record.onchainOutpoints.isEmpty && record.vtxoOutpoints.isEmpty

section Store

variable (stored : List PendingBatchIntentRecord)
variable (record : PendingBatchIntentRecord)

def upsertPendingBatchIntent : List PendingBatchIntentRecord :=
  (stored.filter fun existing => !pendingBatchIntentsOverlap existing record) ++ [record]

/-- The loop body that times a processing record out. -/
def timeOut : PendingBatchIntentRecord :=
  if record.lifecyclePhase = .processing then { record with lifecyclePhase := .timedOut }
  else record

variable (onchainOutpoints : List PendingBatchOutpointRecord)

/-- `stamp_overlapping_pending_batch_intent_timed_out`: whether a record was stamped, and
the list afterwards. -/
def stampOverlappingPendingBatchIntentTimedOut (vtxoOutpoints : List PendingBatchOutpointRecord) :
    Bool × List PendingBatchIntentRecord :=
  let overlaps := fun record =>
    pendingBatchRecordOverlapsOutpoints record onchainOutpoints vtxoOutpoints
  (stored.any fun record => overlaps record && record.lifecyclePhase = .processing,
    stored.map fun record => if overlaps record then timeOut record else record)

def promoteStrandedProcessingIntents : List PendingBatchIntentRecord :=
  stored.map timeOut

def removePendingBatchIntentsOverlapping (vtxoOutpoints : List PendingBatchOutpointRecord) :
    List PendingBatchIntentRecord :=
  stored.filter fun existing =>
    !pendingBatchRecordOverlapsOutpoints existing onchainOutpoints vtxoOutpoints

/-- `persist_and_waiting_join_result`, by what it stores: nothing for an intent without
inputs, and otherwise the timed-out record. -/
def persistAndWaitingJoinResult : List PendingBatchIntentRecord :=
  if pendingIntentOutpointsEmpty record then stored
  else upsertPendingBatchIntent stored { record with lifecyclePhase := .timedOut }

/-- `stamp_registered_intent_timed_out`, by what it stores. The record is the one made from
the registered intent; it is added when no stored record was stamped. -/
def stampRegisteredIntentTimedOut : List PendingBatchIntentRecord :=
  let (stamped, afterStamp) := stampOverlappingPendingBatchIntentTimedOut stored
    record.onchainOutpoints record.vtxoOutpoints
  if stamped then afterStamp
  else upsertPendingBatchIntent afterStamp { record with lifecyclePhase := .timedOut }

end Store

inductive IntentOp where
  /-- The registration hook and every other direct upsert. -/
  | upsert (record : PendingBatchIntentRecord)
  | persistAndWaiting (record : PendingBatchIntentRecord)
  | stampRegistered (record : PendingBatchIntentRecord)
  | stamp (onchainOutpoints vtxoOutpoints : List PendingBatchOutpointRecord)
  | promote
  | remove (onchainOutpoints vtxoOutpoints : List PendingBatchOutpointRecord)

def intentStep (stored : List PendingBatchIntentRecord) : IntentOp → List PendingBatchIntentRecord
  | .upsert record => upsertPendingBatchIntent stored record
  | .persistAndWaiting record => persistAndWaitingJoinResult stored record
  | .stampRegistered record => stampRegisteredIntentTimedOut stored record
  | .stamp onchainOutpoints vtxoOutpoints =>
    (stampOverlappingPendingBatchIntentTimedOut stored onchainOutpoints vtxoOutpoints).2
  | .promote => promoteStrandedProcessingIntents stored
  | .remove onchainOutpoints vtxoOutpoints =>
    removePendingBatchIntentsOverlapping stored onchainOutpoints vtxoOutpoints

def intentRun (start : List PendingBatchIntentRecord) (ops : List IntentOp) :
    List PendingBatchIntentRecord :=
  run intentStep start ops

end Bitboard.Arkade
