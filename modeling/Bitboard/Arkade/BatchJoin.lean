/-
# Joining a batch

A join hands some outputs to the operator. The client registers an intent for them
and calls the session's hook, which stores the intent with the kind, amount and
destination of the join. Whatever happens after the registration is either a
completed batch or an intent that waits for a later one; an error comes before it.

The first part follows the client's `batch.rs`: which inputs a settlement and a
collaborative redemption register, given what the chain and the operator answer.
The second part follows `mapping.rs` and `join.rs`: what the session stores while a
join runs and what it returns afterwards. The join of one call runs alone here.
-/

import Bitboard.Arkade.IntentReconcile

namespace Bitboard.Arkade

open Bitboard.Lib

/-- `ark_client::Error`, by the text it prints. -/
structure ClientError where
  text : String
  deriving DecidableEq

variable (error : ClientError)

/-- The text contains the phrase once its ASCII letters are lower case. -/
def ClientError.mentions (phrase : String) : Bool :=
  phrase.toList <:+: error.text.toList.map Char.toLower

def ClientError.isDuplicatedInput : Bool :=
  error.mentions "duplicated input"

def ClientError.isIntentNotFound : Bool :=
  error.mentions "intent not found"

def ClientError.isIntentProofNoOperatorMatch : Bool :=
  error.mentions "no matching intents found for intent proof"

def ClientError.isIdempotentIntentDeleteMiss : Bool :=
  error.isIntentNotFound || error.isIntentProofNoOperatorMatch

/-- The errors of `ArkWasmError` that the batch operations return. -/
inductive BatchError where
  | autonomousModeBlocksOperatorRpc
  | invalidOnchainAddress (text : String)
  | boarding (text : String)
  | wallet (text : String)
  | client (error : ClientError)
  deriving DecidableEq

structure RegisteredBatchIntent where
  intentId : String
  onchainOutpoints : List OutPoint
  vtxoOutpoints : List OutPoint

inductive JoinBatchOutcome where
  | completed (txid : Txid)
  | waiting (intent : RegisteredBatchIntent)

/-- What a call into the client comes to: the intents it registered, each with the clock at
the time of the hook, and what it returns. -/
structure JoinRun (α : Type) where
  registered : List (RegisteredBatchIntent × Int)
  result : α

def JoinRun.unregistered {α : Type} (result : α) : JoinRun α where
  registered := []
  result := result

/-- What the operator and the batch stream answer to a join: the id of the registered intent
or a refusal, the clock when it is registered, and the commitment transaction if the batch
completes. -/
structure JoinAnswers where
  registration : Except ClientError String
  registeredAt : Int
  commitment : Option Txid

/-- `join_next_batch`, with the context that its callers add to an error. Participation that
fails after the registration is no error. -/
def joinNextBatch (answers : JoinAnswers) (onchainInputs vtxoInputs : List OutPoint) :
    JoinRun (Except ClientError JoinBatchOutcome) :=
  if onchainInputs.isEmpty && vtxoInputs.isEmpty then
    .unregistered
      (.error { text := "Failed to join batch: cannot prepare intent without inputs" })
  else
    match answers.registration with
    | .error error => .unregistered (.error error)
    | .ok intentId =>
      let intent :=
        { intentId, onchainOutpoints := onchainInputs, vtxoOutpoints := vtxoInputs }
      { registered := [(intent, answers.registeredAt)]
        result := .ok (match answers.commitment with
          | some txid => .completed txid
          | none => .waiting intent) }

/-- An output that can be an input of a commitment transaction. -/
structure CommitmentInput where
  outpoint : OutPoint
  amountSats : Nat

def totalSats (inputs : List CommitmentInput) : Nat :=
  inputs.foldl (fun total input => total + input.amountSats) 0

/-- What a settlement asks for before it joins: the session's own address, the boarding
outputs, the settleable virtual outputs, and what is left after the intent fee. -/
structure SettleAnswers where
  offchainAddress : Except ClientError Unit
  boardingInputs : Except ClientError (List CommitmentInput)
  vtxoInputs : Except ClientError (List CommitmentInput)
  amountAfterIntentFee : List CommitmentInput → List CommitmentInput → Except ClientError Nat
  join : JoinAnswers

/-- The wanted ones of the inputs that were found; nothing is asked for an empty list. -/
def matchingInputs (found : Except ClientError (List CommitmentInput)) (wanted : List OutPoint) :
    Except ClientError (List CommitmentInput) :=
  if wanted.isEmpty then .ok []
  else found.map fun inputs => inputs.filter fun input => wanted.contains input.outpoint

/-- The boarding and virtual inputs of a settlement, which may be none. -/
def settleInputs (answers : SettleAnswers) (vtxoOutpoints boardingOutpoints : List OutPoint) :
    Except ClientError (List CommitmentInput × List CommitmentInput) := do
  answers.offchainAddress
  let boardingInputs ← matchingInputs answers.boardingInputs boardingOutpoints
  let vtxoInputs ← matchingInputs answers.vtxoInputs vtxoOutpoints
  return (boardingInputs, vtxoInputs)

def settleVtxos (answers : SettleAnswers) (vtxoOutpoints boardingOutpoints : List OutPoint) :
    JoinRun (Except ClientError (Option JoinBatchOutcome)) :=
  match settleInputs answers vtxoOutpoints boardingOutpoints with
  | .error error => .unregistered (.error error)
  | .ok (boardingInputs, vtxoInputs) =>
    if boardingInputs.isEmpty && vtxoInputs.isEmpty then .unregistered (.ok none)
    else
      match answers.amountAfterIntentFee boardingInputs vtxoInputs with
      | .error error => .unregistered (.error error)
      | .ok _ =>
        let joined := joinNextBatch answers.join
          (boardingInputs.map CommitmentInput.outpoint)
          (vtxoInputs.map CommitmentInput.outpoint)
        { registered := joined.registered, result := joined.result.map some }

/-- What a redemption asks for before it joins. The text of the coin-selection error holds
printed bitcoin amounts and is an answer too. -/
structure RedeemAnswers where
  offchainAddress : Except ClientError Unit
  commitmentInputs : Except ClientError (List CommitmentInput × List CommitmentInput)
  insufficientBalance : String
  offboardIntentFee : List CommitmentInput → List CommitmentInput → Except ClientError Nat
  join : JoinAnswers

/-- The inputs of a redemption: every boarding output, and every settleable virtual output
that is not excluded, if they pay the amount and the fee. -/
def redeemInputs (answers : RedeemAnswers) (toAmount : Nat) (excludeVtxos : List OutPoint) :
    Except ClientError (List CommitmentInput × List CommitmentInput) := do
  answers.offchainAddress
  let (boardingInputs, settleable) ← answers.commitmentInputs
  let vtxoInputs := settleable.filter fun input => !excludeVtxos.contains input.outpoint
  if totalSats boardingInputs + totalSats vtxoInputs < toAmount then
    .error { text := answers.insufficientBalance }
  else
    let intentFee ← answers.offboardIntentFee boardingInputs vtxoInputs
    if totalSats boardingInputs + totalSats vtxoInputs - toAmount < intentFee then
      .error { text := answers.insufficientBalance }
    else return (boardingInputs, vtxoInputs)

def collaborativeRedeemExcludingVtxos (answers : RedeemAnswers) (toAmount : Nat)
    (excludeVtxos : List OutPoint) : JoinRun (Except ClientError JoinBatchOutcome) :=
  match redeemInputs answers toAmount excludeVtxos with
  | .error error => .unregistered (.error error)
  | .ok (boardingInputs, vtxoInputs) =>
    joinNextBatch answers.join (boardingInputs.map CommitmentInput.outpoint)
      (vtxoInputs.map CommitmentInput.outpoint)

def outpointRecord (outpoint : OutPoint) : PendingBatchOutpointRecord where
  txid := outpoint.txid.text
  vout := outpoint.vout

def recordFromRegisteredIntent (kind : PendingBatchIntentKind) (intent : RegisteredBatchIntent)
    (amountSats : Nat) (registeredAt : Int) : PendingBatchIntentRecord where
  kind := kind
  intentId := if intent.intentId.isEmpty then none else some intent.intentId
  onchainOutpoints := intent.onchainOutpoints.map outpointRecord
  vtxoOutpoints := intent.vtxoOutpoints.map outpointRecord
  amountSats := amountSats
  registeredAt := registeredAt
  destinationAddress := none
  lifecyclePhase := .processing

def duplicatedInputWaitingRecord (kind : PendingBatchIntentKind)
    (onchainOutpoints vtxoOutpoints : List OutPoint) (amountSats : Nat) (now : Int) :
    PendingBatchIntentRecord where
  kind := kind
  intentId := none
  onchainOutpoints := onchainOutpoints.map outpointRecord
  vtxoOutpoints := vtxoOutpoints.map outpointRecord
  amountSats := amountSats
  registeredAt := now
  destinationAddress := none
  lifecyclePhase := .timedOut

structure BatchJoinContext where
  kind : PendingBatchIntentKind
  amountSats : Nat
  destinationAddress : Option String

/-- The record of an intent that a join with this context registered. -/
def joinRecord (context : BatchJoinContext) (intent : RegisteredBatchIntent)
    (registeredAt : Int) : PendingBatchIntentRecord :=
  { recordFromRegisteredIntent context.kind intent context.amountSats registeredAt with
    destinationAddress := context.destinationAddress
    lifecyclePhase := .processing }

def persistIntentFromJoinContext (context : Option BatchJoinContext)
    (stored : List PendingBatchIntentRecord) (intent : RegisteredBatchIntent)
    (registeredAt : Int) : List PendingBatchIntentRecord :=
  match context with
  | none => stored
  | some context => upsertPendingBatchIntent stored (joinRecord context intent registeredAt)

def latestPendingRecordOfKind (stored : List PendingBatchIntentRecord)
    (kind : PendingBatchIntentKind) : Option PendingBatchIntentRecord :=
  stored.reverse.find? fun item => item.kind = kind

/-- `latest_pending_outpoints_for_kind`: the boarding and virtual outputs of that record. -/
def latestPendingOutpointsForKind (stored : List PendingBatchIntentRecord)
    (kind : PendingBatchIntentKind) : List OutPoint × List OutPoint :=
  match latestPendingRecordOfKind stored kind with
  | none => ([], [])
  | some record =>
    (record.onchainOutpoints.filterMap parseOutpointRecord,
      record.vtxoOutpoints.filterMap parseOutpointRecord)

def findOverlappingPendingIntent (stored : List PendingBatchIntentRecord)
    (onchainOutpoints vtxoOutpoints : List OutPoint) : Option PendingBatchIntentRecord :=
  stored.find? fun record =>
    pendingBatchRecordOverlapsOutpoints record (onchainOutpoints.map outpointRecord)
      (vtxoOutpoints.map outpointRecord)

inductive BatchJoinStatus where
  | completed
  | waitingForOperator
  deriving DecidableEq

/-- The result of a batch operation. The intent is shown as it is stored. -/
structure BatchJoinResult where
  status : BatchJoinStatus
  commitmentTxid : Option String
  pendingIntent : Option PendingBatchIntentRecord
  deriving DecidableEq

def waitingJoinResult (pendingIntent : Option PendingBatchIntentRecord) : BatchJoinResult where
  status := .waitingForOperator
  commitmentTxid := none
  pendingIntent := pendingIntent

def completedWithoutTxid : BatchJoinResult where
  status := .completed
  commitmentTxid := none
  pendingIntent := none

def batchJoinCompletedResult (txid : Txid) : BatchJoinResult where
  status := .completed
  commitmentTxid := some txid.text
  pendingIntent := none

def settleReturnedNoMatchingInputs : String :=
  "Settle returned no matching inputs even though the pending intent still looks unspent. " ++
    "Try again in a moment."

def joinResultForAbsentSettleInputs : Except BatchError BatchJoinResult :=
  .error (.boarding settleReturnedNoMatchingInputs)

section Join

variable (stored : List PendingBatchIntentRecord)

/-- What the hook has stored for the registered intents, in order. -/
def persistRegistered (context : BatchJoinContext)
    (registered : List (RegisteredBatchIntent × Int)) : List PendingBatchIntentRecord :=
  registered.foldl (fun stored entry =>
    persistIntentFromJoinContext (some context) stored entry.1 entry.2) stored

/-- `with_batch_join`, with no other join in flight: its end times every processing intent
out. -/
def withBatchJoin {α : Type} (context : BatchJoinContext) (joined : JoinRun α) :
    α × List PendingBatchIntentRecord :=
  (joined.result,
    promoteStrandedProcessingIntents (persistRegistered stored context joined.registered))

/-- `stamp_registered_intent_timed_out`, with its result. -/
def waitForRegisteredIntent (intent : RegisteredBatchIntent) (context : BatchJoinContext)
    (now : Int) : BatchJoinResult × List PendingBatchIntentRecord :=
  let after := stampRegisteredIntentTimedOut stored
    { recordFromRegisteredIntent context.kind intent context.amountSats now with
      destinationAddress := context.destinationAddress }
  (waitingJoinResult (findOverlappingPendingIntent after intent.onchainOutpoints
    intent.vtxoOutpoints), after)

variable (kind : PendingBatchIntentKind)

def batchJoinDuplicatedInputResult (onchainOutpoints vtxoOutpoints : List OutPoint)
    (amountSats : Nat) (now : Int) : BatchJoinResult × List PendingBatchIntentRecord :=
  let record :=
    duplicatedInputWaitingRecord kind onchainOutpoints vtxoOutpoints amountSats now
  (waitingJoinResult (if pendingIntentOutpointsEmpty record
      then latestPendingRecordOfKind stored kind else some record),
    persistAndWaitingJoinResult stored record)

def mapSettleOutcome (outcome : JoinBatchOutcome) (onchainOutpoints vtxoOutpoints : List OutPoint)
    (amountSats : Nat) (now : Int) : BatchJoinResult × List PendingBatchIntentRecord :=
  match outcome with
  | .completed txid =>
    (batchJoinCompletedResult txid,
      removePendingBatchIntentsOverlapping stored (onchainOutpoints.map outpointRecord)
        (vtxoOutpoints.map outpointRecord))
  | .waiting intent =>
    waitForRegisteredIntent stored intent
      { kind, amountSats, destinationAddress := none } now

def mapSettleError (error : ClientError) (onchainOutpoints vtxoOutpoints : List OutPoint)
    (amountSats : Nat) (now : Int) :
    Except BatchError BatchJoinResult × List PendingBatchIntentRecord :=
  if error.isDuplicatedInput then
    let (result, after) := batchJoinDuplicatedInputResult stored kind onchainOutpoints
      vtxoOutpoints amountSats now
    (.ok result, after)
  else (.error (.client error), stored)

end Join

end Bitboard.Arkade
