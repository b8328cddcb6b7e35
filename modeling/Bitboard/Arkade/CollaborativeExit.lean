/-
# Collaborative exits

A collaborative exit asks the operator to pay an on-chain address from the wallet's
outputs in a batch. While it waits it is a stored intent like any other. Once the
batch has completed, its amount is remembered as a deduction until the spendable
balance has dropped.

The functions follow `collaborative_exit.rs`, and those on deductions follow
`persistence.rs`, `pending_exit.rs` and `exit_balance.rs`.
-/

import Bitboard.Arkade.BatchJoin
import Mathlib.Algebra.BigOperators.Group.List.Basic
import Mathlib.Algebra.GroupWithZero.Nat

namespace Bitboard.Arkade

open Bitboard.Lib

/-- A pending exit deduction with the fields that the balance reads. -/
structure PendingExitDeduction extends PendingExitDeductionRecord where
  startedAt : Int
  baselineOffchainSpendableSats : Option Nat
  retainUntilSpendableDrops : Bool
  deriving DecidableEq

/-- The part of the wallet database that the batch operations write. -/
structure BatchStore where
  pendingBatchIntents : List PendingBatchIntentRecord
  pendingExitDeductions : List PendingExitDeduction
  deriving DecidableEq

/-- The deduction of a unilateral exit is that of the given output. -/
def PendingExitDeduction.isUnilateralOf (deduction : PendingExitDeduction) (txid : String)
    (vout : UInt32) : Bool :=
  deduction.kind = .unilateral && deduction.vtxoTxid = some txid &&
    deduction.vout.getD 0 = vout

variable (deductions : List PendingExitDeduction)

/-- `upsert_pending_exit_deduction`. There is one collaborative deduction at most. -/
def upsertPendingExitDeduction (record : PendingExitDeduction) : List PendingExitDeduction :=
  match record.kind, record.vtxoTxid with
  | .unilateral, none => deductions ++ [record]
  | .unilateral, some txid =>
    let vout := record.vout.getD 0
    if deductions.any fun existing => existing.isUnilateralOf txid vout then
      modifyFirst (fun existing => existing.isUnilateralOf txid vout) (fun _ => record)
        deductions
    else deductions ++ [record]
  | .collaborative, _ =>
    (deductions.filter fun existing => existing.kind ≠ .collaborative) ++ [record]

def recordPendingCollaborativeExit (amountSats baselineSats : Nat) (now : Int) :
    List PendingExitDeduction :=
  upsertPendingExitDeduction deductions
    { kind := .collaborative
      vtxoTxid := none
      vout := none
      amountSats
      startedAt := now
      baselineOffchainSpendableSats := some baselineSats
      retainUntilSpendableDrops := true }

def clearPendingCollaborativeExitDeduction : List PendingExitDeduction :=
  deductions.filter fun record => record.kind ≠ .collaborative

variable (stillSpendable : String → UInt32 → ArkResult Bool)

/-- `should_keep_pending_exit_deduction`. Whether the output of a unilateral exit is still
spendable in the snapshot is an answer. -/
def shouldKeepPendingExitDeduction (grossOffchainSpendableSats : Nat)
    (record : PendingExitDeduction) : ArkResult Bool :=
  match record.kind with
  | .unilateral =>
    match record.vtxoTxid with
    | none => .ok false
    | some txid =>
      match stillSpendable txid (record.vout.getD 0) with
      | .ok keep => .ok keep
      | .error (.invalidTxid _) => .ok false
      | .error error => .error error
  | .collaborative =>
    if !record.retainUntilSpendableDrops then .ok false
    else
      match record.baselineOffchainSpendableSats with
      | none => .ok false
      | some baseline => .ok (baseline - record.amountSats < grossOffchainSpendableSats)

def reconcilePendingExitDeductions (grossOffchainSpendableSats : Nat)
    (records : List PendingExitDeduction) : ArkResult (List PendingExitDeduction) :=
  records.foldlM (fun retained record => do
    if ← shouldKeepPendingExitDeduction stillSpendable grossOffchainSpendableSats record then
      return retained ++ [record]
    else return retained) []

def saturatingAdd (left right : Nat) : Nat := min (left + right) (UInt64.size - 1)

theorem foldl_saturatingAdd {α : Type} (amount : α → Nat) (records : List α) (start : Nat)
    (hstart : start ≤ UInt64.size - 1) :
    records.foldl (fun total record => saturatingAdd total (amount record)) start =
      min (start + (records.map amount).sum) (UInt64.size - 1) := by
  induction records generalizing start with
  | nil =>
    rw [List.map_nil, List.sum_nil, Nat.add_zero]
    exact (Nat.min_eq_left hstart).symm
  | cons record rest ih =>
    have hnext : saturatingAdd start (amount record) ≤ UInt64.size - 1 := Nat.min_le_right _ _
    rw [List.foldl_cons, ih _ hnext, List.map_cons, List.sum_cons, saturatingAdd]
    omega

/-- The deduction of a completed collaborative exit, which waits for the balance to drop. -/
def isRetainedCollaborative (record : PendingExitDeduction) : Bool :=
  record.kind = .collaborative && record.retainUntilSpendableDrops

def collaborativeExitInProgressSats (store : BatchStore) : Nat :=
  let fromIntents := (store.pendingBatchIntents.filter fun record =>
    record.kind = .collaborativeExit).foldl
      (fun total record => saturatingAdd total record.amountSats) 0
  let fromCompletedDeductions := (store.pendingExitDeductions.filter
    isRetainedCollaborative).foldl (fun total record => saturatingAdd total record.amountSats) 0
  saturatingAdd fromIntents fromCompletedDeductions

/-- `reconcile_pending_batch_intents`, run without other operations in between and with no
batch join in flight. -/
def reconcilePendingBatchIntents (answers : Nat → IntentAnswers)
    (stored : List PendingBatchIntentRecord) :
    Except String (Option String) × List PendingBatchIntentRecord :=
  let pending := promoteStrandedProcessingIntents stored
  if pending.isEmpty then (.ok none, pending)
  else
    match reconcileLoop answers 0 [] none pending with
    | .error error => (.error error, pending)
    | .ok (remaining, finalizedTxid) => (.ok finalizedTxid, remaining)

def existingPendingBatchJoinResult (answers : Nat → IntentAnswers)
    (stored : List PendingBatchIntentRecord) (onchainOutpoints vtxoOutpoints : List OutPoint) :
    Except BatchError (Option BatchJoinResult) × List PendingBatchIntentRecord :=
  match reconcilePendingBatchIntents answers stored with
  | (.error error, pending) => (.error (.client { text := error }), pending)
  | (.ok _, remaining) =>
    (.ok ((findOverlappingPendingIntent remaining onchainOutpoints vtxoOutpoints).map
      fun overlap => waitingJoinResult (some overlap)), remaining)

def unspentSnapshotOutpoints (snapshot : Option OffchainVtxoSnapshot) : List OutPoint :=
  match snapshot with
  | none => []
  | some snapshot =>
    (snapshot.virtualTxOutpoints.filter fun row => !row.isSpent).filterMap fun row =>
      (Txid.fromStr row.txid).map fun txid => { txid, vout := row.vout }

structure CollaborativeExitAnswers where
  autonomousMode : Bool
  snapshot : Option OffchainVtxoSnapshot
  /-- The answers for each record of the list that the overlap check reconciles. -/
  resolutions : Nat → IntentAnswers
  parseOnchainAddress : String → Except String Unit
  netCooperativeSpendableSats : Except BatchError Nat
  spendLockedOutpoints : List OutPoint
  redeem : RedeemAnswers
  now : Int

def resolveCooperativeExitAmount (amountSats : Option Nat) (netCooperativeSpendableSats : Nat) :
    Nat :=
  amountSats.getD netCooperativeSpendableSats

variable (answers : CollaborativeExitAnswers)

/-- `collaborative_exit` from its join on, with the spendable balance it started from. -/
def joinCollaborativeExit (destinationAddress : String) (exitAmount baselineSats : Nat)
    (store : BatchStore) : Except BatchError BatchJoinResult × BatchStore :=
  let context : BatchJoinContext :=
    { kind := .collaborativeExit
      amountSats := exitAmount
      destinationAddress := some destinationAddress }
  let (redeem, joined) := withBatchJoin store.pendingBatchIntents context
    (collaborativeRedeemExcludingVtxos answers.redeem exitAmount answers.spendLockedOutpoints)
  match redeem with
  | .ok (.completed txid) =>
    (.ok (batchJoinCompletedResult txid),
      { pendingBatchIntents := joined
        pendingExitDeductions := recordPendingCollaborativeExit store.pendingExitDeductions
          exitAmount baselineSats answers.now })
  | .ok (.waiting intent) =>
    let (result, after) := waitForRegisteredIntent joined intent context answers.now
    (.ok result, { store with pendingBatchIntents := after })
  | .error error =>
    let (onchainOutpoints, vtxoOutpoints) :=
      latestPendingOutpointsForKind joined .collaborativeExit
    let (result, after) := mapSettleError joined .collaborativeExit error onchainOutpoints
      vtxoOutpoints exitAmount answers.now
    (result, { store with pendingBatchIntents := after })

def collaborativeExit (destinationAddress : String) (amountSats : Option Nat) (store : BatchStore) :
    Except BatchError BatchJoinResult × BatchStore :=
  if answers.autonomousMode then (.error .autonomousModeBlocksOperatorRpc, store)
  else
    match existingPendingBatchJoinResult answers.resolutions store.pendingBatchIntents []
      (unspentSnapshotOutpoints answers.snapshot) with
    | (.error error, intents) => (.error error, { store with pendingBatchIntents := intents })
    | (.ok (some waiting), intents) =>
      (.ok waiting, { store with pendingBatchIntents := intents })
    | (.ok none, intents) =>
      let checked := { store with pendingBatchIntents := intents }
      match answers.parseOnchainAddress destinationAddress with
      | .error text => (.error (.invalidOnchainAddress text), checked)
      | .ok () =>
        match answers.netCooperativeSpendableSats with
        | .error error => (.error error, checked)
        | .ok baselineSats =>
          joinCollaborativeExit answers destinationAddress
            (resolveCooperativeExitAmount amountSats baselineSats) baselineSats checked

end Bitboard.Arkade
