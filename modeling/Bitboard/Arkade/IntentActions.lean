/-
# Cancelling and retrying an intent

The user may cancel a stored intent, or retry it: the operator forgets the old
registration and the session joins a batch again. Both look first whether the
inputs are already spent, and drop the record if so.

The functions follow `actions.rs` and `boarding.rs`. The
second part says what a cancel and a retry of one intent leave of the others, and
what the status they return stands for. A record names its inputs by texts, so two
records share an output when the texts agree or read as one outpoint.
-/

import Bitboard.Arkade.SignerMigration

namespace Bitboard.Arkade

open Bitboard.Lib
open SignerMigration (MigrateAnswers OperatorIdentity migrateDeprecatedSignerVtxos)

structure PendingBatchIntentActionParams where
  onchainOutpoints : List PendingBatchOutpointRecord
  vtxoOutpoints : List PendingBatchOutpointRecord

def outpointRecordsEqual (left right : List PendingBatchOutpointRecord) : Bool :=
  left.length = right.length &&
    left.all fun leftItem =>
      right.any fun rightItem => leftItem.txid = rightItem.txid ∧ leftItem.vout = rightItem.vout

def findExactPendingIntent (stored : List PendingBatchIntentRecord)
    (params : PendingBatchIntentActionParams) : Option PendingBatchIntentRecord :=
  stored.find? fun record =>
    outpointRecordsEqual record.onchainOutpoints params.onchainOutpoints &&
      outpointRecordsEqual record.vtxoOutpoints params.vtxoOutpoints

variable (record : PendingBatchIntentRecord)

def parsedOnchainOutpoints : List OutPoint :=
  record.onchainOutpoints.filterMap parseOutpointRecord

def parsedVtxoOutpoints : List OutPoint :=
  record.vtxoOutpoints.filterMap parseOutpointRecord

def boardingDeleteIntentUnsupported : String :=
  "The operator cannot cancel boarding batch registrations via deleteIntent yet. " ++
    "Wait for the registration to expire, then use Retry."

def boardingReregisterWhileIntentLive : String :=
  "A boarding intent is already registered with the operator. Re-registering now can make " ++
    "the operator round fail with \"not enough intent confirmations\". Keep waiting for the " ++
    "batch, or Retry after ~2 minutes when the registration expires."

def isBoardingOnlyPendingRecord : Bool :=
  !record.onchainOutpoints.isEmpty && record.vtxoOutpoints.isEmpty

def boardingRegisterIntentTtlSecs : Int := 2 * 60

def shouldRefuseBoardingReregister (now : Int) (record : PendingBatchIntentRecord) : Bool :=
  record.intentId.isSome && now - record.registeredAt < boardingRegisterIntentTtlSecs

def dropPendingIntentRecord (store : BatchStore) (record : PendingBatchIntentRecord) : BatchStore :=
  { store with
    pendingBatchIntents := removePendingBatchIntentsOverlapping store.pendingBatchIntents
      record.onchainOutpoints record.vtxoOutpoints }

/-- What a cancel is answered: by the lookups of its spend check, and by the operator to the
deletion of the intent with these virtual and boarding outputs. -/
structure CancelAnswers where
  resolution : IntentAnswers
  deleteRegisteredIntent : List OutPoint → List OutPoint → Except ClientError Unit

def shouldClearCollaborativeExitDeductionOnCancel (kind : PendingBatchIntentKind)
    (resolution : PendingBatchIntentResolution) : Bool :=
  kind = .collaborativeExit && resolution = .stillPending

/-- The store after the operator no longer has the intent. -/
def forgetDeletedIntent (store : BatchStore) (record : PendingBatchIntentRecord)
    (resolution : PendingBatchIntentResolution) : BatchStore :=
  let dropped := dropPendingIntentRecord store record
  if shouldClearCollaborativeExitDeductionOnCancel record.kind resolution then
    { dropped with
      pendingExitDeductions := clearPendingCollaborativeExitDeduction
        dropped.pendingExitDeductions }
  else dropped

/-- `cancel_pending_batch_intent` once the record is found. -/
def cancelRecord (answers : CancelAnswers) (record : PendingBatchIntentRecord)
    (store : BatchStore) : Except BatchError BatchJoinResult × BatchStore :=
  match pendingBatchIntentResolution answers.resolution record with
  | .error text => (.error (.client { text }), store)
  | .ok resolution =>
    if resolution ≠ .stillPending then
      (.ok completedWithoutTxid, dropPendingIntentRecord store record)
    else if isBoardingOnlyPendingRecord record then
      (.error (.boarding boardingDeleteIntentUnsupported), store)
    else
      match answers.deleteRegisteredIntent (parsedVtxoOutpoints record)
        (parsedOnchainOutpoints record) with
      | .ok () => (.ok completedWithoutTxid, forgetDeletedIntent store record resolution)
      | .error error =>
        if error.isIdempotentIntentDeleteMiss then
          (.ok completedWithoutTxid, forgetDeletedIntent store record resolution)
        else (.error (.client error), store)

/-- `cancel_pending_batch_intent`, with no batch join left in flight. -/
def cancelPendingBatchIntent (answers : CancelAnswers) (params : PendingBatchIntentActionParams)
    (store : BatchStore) : Except BatchError BatchJoinResult × BatchStore :=
  match findExactPendingIntent store.pendingBatchIntents params with
  | none => (.ok completedWithoutTxid, store)
  | some record => cancelRecord answers record store

inductive PendingIntentRetryDecision where
  | completeWithoutRetry
  | retryAfterDelete
  | retryWithoutDelete
  | refuseBoardingReregister

def pendingIntentRetryDecision (now : Int) (resolution : PendingBatchIntentResolution)
    (record : PendingBatchIntentRecord) : PendingIntentRetryDecision :=
  if resolution ≠ .stillPending then .completeWithoutRetry
  else if isBoardingOnlyPendingRecord record then
    if shouldRefuseBoardingReregister now record then .refuseBoardingReregister
    else .retryWithoutDelete
  else .retryAfterDelete

def migrateRetryBlockedByOtherPending : String :=
  "Cannot retry signer migration while another batch intent is still pending."

def migrateRetryJoinResult (overlapping : Option PendingBatchIntentRecord)
    (otherPendingRemain : Bool) : Except BatchError BatchJoinResult :=
  if overlapping.isSome then .ok (waitingJoinResult overlapping)
  else if otherPendingRemain then .error (.wallet migrateRetryBlockedByOtherPending)
  else .ok completedWithoutTxid

/-- What a retry is answered: to its spend check, to the cancel, to the spend check before
the join, and to the join of each kind; and the operator's identity that it finds stored. -/
structure RetryAnswers where
  resolution : IntentAnswers
  cancel : CancelAnswers
  beforeJoin : IntentAnswers
  settle : SettleAnswers
  exit : CollaborativeExitAnswers
  migrate : MigrateAnswers
  operatorIdentity : OperatorIdentity
  now : Int

variable (answers : RetryAnswers)

def retrySettle (record : PendingBatchIntentRecord) :
    JoinRun (Except ClientError (Option JoinBatchOutcome)) :=
  settleVtxos answers.settle (parsedVtxoOutpoints record) (parsedOnchainOutpoints record)

/-- `retry_pending_record` for boarding, recovery and renewal. -/
def retrySettledRecord (record : PendingBatchIntentRecord) (store : BatchStore) :
    Except BatchError BatchJoinResult × BatchStore :=
  let (settle, joined) := withBatchJoin store.pendingBatchIntents
    { kind := record.kind, amountSats := record.amountSats, destinationAddress := none }
    (retrySettle answers record)
  match settle with
  | .ok (some outcome) =>
    let (result, after) := mapSettleOutcome joined record.kind outcome
      (parsedOnchainOutpoints record) (parsedVtxoOutpoints record) record.amountSats
      answers.now
    (.ok result, { store with pendingBatchIntents := after })
  | .ok none => (joinResultForAbsentSettleInputs, { store with pendingBatchIntents := joined })
  | .error error =>
    let (result, after) := mapSettleError joined record.kind error
      (parsedOnchainOutpoints record) (parsedVtxoOutpoints record) record.amountSats
      answers.now
    (result, { store with pendingBatchIntents := after })

def retryPendingRecord (record : PendingBatchIntentRecord) (store : BatchStore) :
    Except BatchError BatchJoinResult × BatchStore :=
  match record.kind with
  | .board | .recover | .renew => retrySettledRecord answers record store
  | .collaborativeExit =>
    match record.destinationAddress with
    | none =>
      (.error (.wallet "missing collaborative exit destination on pending intent"), store)
    | some destinationAddress =>
      collaborativeExit answers.exit destinationAddress (some record.amountSats) store
  | .migrate =>
    let (outcome, migrated) := migrateDeprecatedSignerVtxos answers.migrate
      { pendingBatchIntents := store.pendingBatchIntents
        operatorIdentity := answers.operatorIdentity }
    let after := migrated.pendingBatchIntents
    match outcome with
    | .error error => (.error error, { store with pendingBatchIntents := after })
    | .ok _ =>
      (migrateRetryJoinResult (findOverlappingPendingIntent after
          (parsedOnchainOutpoints record) (parsedVtxoOutpoints record)) (!after.isEmpty),
        { store with pendingBatchIntents := after })

def retryPendingRecordIfStillPending (record : PendingBatchIntentRecord) (store : BatchStore) :
    Except BatchError BatchJoinResult × BatchStore :=
  match pendingBatchIntentResolution answers.beforeJoin record with
  | .error text => (.error (.client { text }), store)
  | .ok resolution =>
    if resolution ≠ .stillPending then
      (.ok completedWithoutTxid, dropPendingIntentRecord store record)
    else retryPendingRecord answers record store

def retryAfterDeletingOperatorIntent (record : PendingBatchIntentRecord)
    (params : PendingBatchIntentActionParams) (store : BatchStore) :
    Except BatchError BatchJoinResult × BatchStore :=
  match cancelPendingBatchIntent answers.cancel params store with
  | (.error error, after) => (.error error, after)
  | (.ok result, after) =>
    if result.status ≠ .completed then (.ok result, after)
    else retryPendingRecordIfStillPending answers record after

/-- `retry_pending_batch_intent` once the record is found. -/
def retryRecord (record : PendingBatchIntentRecord) (params : PendingBatchIntentActionParams)
    (store : BatchStore) : Except BatchError BatchJoinResult × BatchStore :=
  match pendingBatchIntentResolution answers.resolution record with
  | .error text => (.error (.client { text }), store)
  | .ok resolution =>
    match pendingIntentRetryDecision answers.now resolution record with
    | .completeWithoutRetry =>
      (.ok completedWithoutTxid, dropPendingIntentRecord store record)
    | .refuseBoardingReregister =>
      (.error (.boarding boardingReregisterWhileIntentLive), store)
    | .retryWithoutDelete => retryPendingRecordIfStillPending answers record store
    | .retryAfterDelete => retryAfterDeletingOperatorIntent answers record params store

/-- `retry_pending_batch_intent`, with no batch join left in flight. -/
def retryPendingBatchIntent (params : PendingBatchIntentActionParams) (store : BatchStore) :
    Except BatchError BatchJoinResult × BatchStore :=
  match findExactPendingIntent store.pendingBatchIntents params with
  | none => (.ok completedWithoutTxid, store)
  | some record => retryRecord answers record params store

end Bitboard.Arkade
