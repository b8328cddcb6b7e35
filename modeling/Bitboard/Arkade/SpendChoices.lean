/-
# Choosing inputs while others work

Five operations of a session choose virtual outputs as inputs: sends, renewals,
collaborative exits, recoveries and migrations to a new signer. Two kinds of state
speak against an output: an exit record that locks it, and a stored batch intent that
has committed it. Each operation looks at some of this state at some point, and most
of them wait for the operator or the chain between a look and the choice, while plans
are tagged and intents are stored.

The machine follows `payments.rs`, `vtxo.rs`, `collaborative_exit.rs` and
`signer_migration.rs`; a step is what runs without waiting. The client is only
trusted to take outputs that it was given and none that it was told to exclude. A
round of a recovery is an operation of its own.
-/

import Bitboard.Arkade.CollaborativeExit
import Bitboard.Arkade.ExitMachine

namespace Bitboard.Arkade

open Bitboard.Lib

/-- `spend_locked_outpoints` of a session. -/
def spendLockedOutpoints (db : WalletDb) : Finset OutPoint :=
  unilateralExitSpendLockedOutpoints db.vtxoExitRecords

/-- `unilateral_exit_pipeline_outpoints`: what recoveries and migrations exclude. -/
def unilateralExitPipelineOutpoints (records : VtxoExitRecords) : Finset OutPoint :=
  recordOutpointKeysWhere records VtxoExitPhase.isPipeline

/-- `pipeline_outpoints` of a session. -/
def pipelineOutpoints (db : WalletDb) : Finset OutPoint :=
  unilateralExitPipelineOutpoints db.vtxoExitRecords

/-- The output is a virtual input of a stored intent. -/
def PendingInput (stored : List PendingBatchIntentRecord) (outpoint : OutPoint) : Prop :=
  ∃ record ∈ stored, outpointRecord outpoint ∈ record.vtxoOutpoints

instance (stored : List PendingBatchIntentRecord) (outpoint : OutPoint) :
    Decidable (PendingInput stored outpoint) :=
  inferInstanceAs (Decidable (∃ record ∈ stored, outpointRecord outpoint ∈ record.vtxoOutpoints))

/-- The operations that choose virtual outputs as inputs. -/
inductive Spender where
  | send
  | renew
  | collaborativeExit
  | recover
  | migrate

/-- The outputs that exit records keep from the operation. A recovery or a migration may
take one whose funding is lost. -/
def Spender.lockedOutpoints (db : WalletDb) : Spender → Finset OutPoint
  | .send => spendLockedOutpoints db
  | .renew => spendLockedOutpoints db
  | .collaborativeExit => spendLockedOutpoints db
  | .recover => pipelineOutpoints db
  | .migrate => pipelineOutpoints db

/-- The operations that look for a stored intent on their outputs. -/
inductive CheckedSpend where
  | renew
  | collaborativeExit
  | recover
  deriving DecidableEq

def CheckedSpend.spender : CheckedSpend → Spender
  | .renew => .renew
  | .collaborativeExit => .collaborativeExit
  | .recover => .recover

inductive SpendStage where
  /-- A recovery that has read its exclusions waits for the list of outputs. -/
  | listing (excluded : Finset OutPoint)
  /-- The lookups for the stored intents that the overlap check has read are under way. -/
  | checking (spend : CheckedSpend) (outpoints : List OutPoint)
      (pending : List PendingBatchIntentRecord)
  /-- A collaborative exit without overlap waits for the spendable balance. -/
  | checked (overlap : List OutPoint)
  /-- The client redeems, except from the exclusions. -/
  | redeeming (overlap : List OutPoint) (excluded : Finset OutPoint)
  /-- A migration waits outside its passes; so far they have taken the given outputs. -/
  | migrating (taken : List OutPoint)
  /-- The client migrates, except the exclusions. -/
  | migratePass (taken : List OutPoint) (excluded : Finset OutPoint)

/-- The inputs that an operation chose, and the state it chose them in. -/
structure InputChoice where
  spender : Spender
  outpoints : List OutPoint
  db : WalletDb
  stored : List PendingBatchIntentRecord

/-- A session with the operations under way, by name, and the choices made so far. -/
structure SpendSession where
  db : WalletDb
  intents : IntentSession
  spends : Nat → Option SpendStage
  choices : List InputChoice

namespace SpendSession

variable (session : SpendSession)

/-- The operation of that name goes on to a stage, or ends. -/
def setStage (name : Nat) (stage : Option SpendStage) : SpendSession :=
  { session with spends := Function.update session.spends name stage }

def store (stored : List PendingBatchIntentRecord) : SpendSession :=
  { session with intents := { session.intents with stored := stored } }

def choose (spender : Spender) (outpoints : List OutPoint) : SpendSession :=
  { session with
    choices := session.choices ++
      [{ spender, outpoints, db := session.db, stored := session.intents.stored }] }

/-- `existing_pending_batch_join_result` after its reconcile, and what follows at once: an
overlap ends the operation, a collaborative exit waits for the balance, and the others settle
their outputs if there are any. -/
def overlapCheck (name : Nat) (spend : CheckedSpend) (outpoints : List OutPoint) : SpendSession :=
  match findOverlappingPendingIntent session.intents.stored [] outpoints with
  | some _ => session.setStage name none
  | none =>
    if spend = .collaborativeExit then session.setStage name (some (.checked outpoints))
    else if outpoints.isEmpty then session.setStage name none
    else (session.choose spend.spender outpoints).setStage name none

/-- `existing_pending_batch_join_result` up to the lookups of its reconcile, of which there
are none if nothing is stored. -/
def beginOverlapCheck (name : Nat) (spend : CheckedSpend) (outpoints : List OutPoint)
    (idle : Bool) : SpendSession :=
  let pending := readPending idle session.intents.stored
  if pending.isEmpty then (session.store pending).overlapCheck name spend outpoints
  else (session.store pending).setStage name (some (.checking spend outpoints pending))

end SpendSession

inductive SpendOp where
  /-- Anything that touches exit records, tagging and untagging of plans among it. -/
  | exit (op : ExitOp)
  /-- Any other operation on the stored intents. -/
  | intent (op : IntentSessionOp)
  /-- `send_payment` up to its selection among the listed spendable outputs. -/
  | send (listed picks : List OutPoint)
  /-- `renew_vtxos_now` from its exclusions on: `idle` says that no batch join is in flight. -/
  | renew (name : Nat) (expiring : List OutPoint) (idle : Bool)
  | collaborativeExit (name : Nat) (idle : Bool)
  /-- The balance has answered, and a collaborative exit reads its exclusions. -/
  | redeem (name : Nat)
  /-- A round of `recover_recoverable_vtxos`. -/
  | recover (name : Nat)
  | recoverList (name : Nat) (settleable : List OutPoint) (idle : Bool)
  /-- The lookups of an overlap check have answered. -/
  | reconciled (name : Nat) (answers : Nat → IntentAnswers)
  | migrate (name : Nat)
  /-- A pass of `migrate_deprecated_signer_vtxos` reads its exclusions. -/
  | migratePass (name : Nat)
  /-- The client picks the candidates that it was not told to exclude. -/
  | pick (name : Nat) (candidates : List OutPoint)
  /-- The operation ends without another choice. -/
  | finish (name : Nat)

section Step

variable (codec : Codec)

/-- One part of an operation that runs without waiting. -/
def spendStep (session : SpendSession) : SpendOp → SpendSession
  | .exit op => { session with db := exitStep codec session.db op }
  | .intent op => { session with intents := intentSessionStep session.intents op }
  | .send listed picks =>
    let spendable := listed.filter fun outpoint => outpoint ∉ spendLockedOutpoints session.db
    session.choose .send (spendable.filter fun outpoint => outpoint ∈ picks)
  | .renew name expiring idle =>
    match session.spends name with
    | some _ => session
    | none => session.beginOverlapCheck name .renew
        (expiring.filter fun outpoint => outpoint ∉ spendLockedOutpoints session.db) idle
  | .collaborativeExit name idle =>
    match session.spends name with
    | some _ => session
    | none => session.beginOverlapCheck name .collaborativeExit
        (unspentSnapshotOutpoints session.db.offchainVtxoSnapshot) idle
  | .redeem name =>
    match session.spends name with
    | some (.checked overlap) =>
      session.setStage name (some (.redeeming overlap (spendLockedOutpoints session.db)))
    | _ => session
  | .recover name =>
    match session.spends name with
    | some _ => session
    | none => session.setStage name (some (.listing (pipelineOutpoints session.db)))
  | .recoverList name settleable idle =>
    match session.spends name with
    | some (.listing excluded) =>
      let outpoints := settleable.filter fun outpoint => outpoint ∉ excluded
      if outpoints.isEmpty then session.setStage name none
      else session.beginOverlapCheck name .recover outpoints idle
    | _ => session
  | .reconciled name answers =>
    match session.spends name with
    | some (.checking spend outpoints pending) =>
      match reconcileLoop answers 0 [] none pending with
      | .error _ => session.setStage name none
      | .ok (remaining, _) => (session.store remaining).overlapCheck name spend outpoints
    | _ => session
  | .migrate name =>
    match session.spends name with
    | some _ => session
    | none =>
      if session.intents.stored.isEmpty then session.setStage name (some (.migrating []))
      else session
  | .migratePass name =>
    match session.spends name with
    | some (.migrating taken) =>
      session.setStage name (some (.migratePass taken (pipelineOutpoints session.db)))
    | _ => session
  | .pick name candidates =>
    match session.spends name with
    | some (.redeeming _ excluded) =>
      let outpoints := candidates.filter fun outpoint => outpoint ∉ excluded
      (session.choose .collaborativeExit outpoints).setStage name none
    | some (.migratePass taken excluded) =>
      let outpoints := candidates.filter fun outpoint => outpoint ∉ excluded
      (session.choose .migrate outpoints).setStage name
        (some (.migrating (taken ++ outpoints)))
    | _ => session
  | .finish name => session.setStage name none

def spendRun (session : SpendSession) (ops : List SpendOp) : SpendSession :=
  run (spendStep codec) session ops

end Step

/-- No operation is under way and none has chosen anything. -/
def SpendSession.Fresh (session : SpendSession) : Prop :=
  (∀ name, session.spends name = none) ∧ session.choices = []

/-- No input was locked from its spender or committed by a stored intent when it was
chosen. -/
def InputChoice.Clean (choice : InputChoice) : Prop :=
  ∀ outpoint ∈ choice.outpoints,
    outpoint ∉ choice.spender.lockedOutpoints choice.db ∧ ¬ PendingInput choice.stored outpoint

instance (choice : InputChoice) : Decidable choice.Clean :=
  inferInstanceAs (Decidable (∀ outpoint ∈ choice.outpoints,
    outpoint ∉ choice.spender.lockedOutpoints choice.db ∧ ¬ PendingInput choice.stored outpoint))

def SpendSession.AllClean (session : SpendSession) : Prop :=
  ∀ choice ∈ session.choices, choice.Clean

instance (session : SpendSession) : Decidable session.AllClean :=
  inferInstanceAs (Decidable (∀ choice ∈ session.choices, choice.Clean))

end Bitboard.Arkade
