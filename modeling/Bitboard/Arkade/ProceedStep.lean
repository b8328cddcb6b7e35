/-
# Proceeding with an exit

`proceed_unilateral_exit_step` finds the first step of the plan that is not yet
confirmed, registers its transaction, broadcasts it, and stamps a step wait, by which
the next call knows that the step has been submitted. The step wait lives beside the
host observations in the wallet database and is cleared by other code.

The plan and what the chain and the broadcast answer are inputs. A whole call is its
submit part, then a finality pass, then the reading of its result; a progress query is
a finality pass and the same reading. The parts are steps of their own here, so that a
run of them covers every run of whole calls.
-/

import Bitboard.Arkade.ExitMachine

namespace Bitboard.Arkade

open Bitboard.Lib

structure UnilateralExitStepWaitRecord where
  stepTxid : String
  stepIndex : Nat
  startedAt : Int

/-- The wallet database with the step wait that is stored in it. -/
structure ExitJob where
  walletDb : WalletDb
  unilateralExitStepWait : Option UnilateralExitStepWaitRecord

/-- An input of a branch transaction: what it spends and whether it is unsigned. -/
structure BranchInput where
  previousOutput : OutPoint
  witnessIsEmpty : Bool

/-- The steps in their order and the transactions they broadcast. -/
structure UnilateralBatchPlan where
  orderedStepTxids : List Txid
  txById : Txid → Option (List BranchInput)

namespace ExitJob

variable (job : ExitJob)

def ensureUnilateralExitStepWait (stepTxid : String) (stepIndex : Nat) (now : Int) : ExitJob :=
  match job.unilateralExitStepWait with
  | none =>
    { job with unilateralExitStepWait := some { stepTxid, stepIndex, startedAt := now } }
  | some existing =>
    if existing.stepTxid = stepTxid ∧ existing.stepIndex = stepIndex then job
    else { job with unilateralExitStepWait := some { stepTxid, stepIndex, startedAt := now } }

def clearUnilateralExitStepWait : ExitJob := { job with unilateralExitStepWait := none }

def waitsFor (stepTxid : Txid) : Bool :=
  job.unilateralExitStepWait.any fun record => record.stepTxid == stepTxid.text

end ExitJob

/-- A step after the last one that this wallet has submitted is not skipped. -/
def waitCapHoldsUnbroadcastSuccessor (index : Nat) (waitIndex : Option Nat) : Bool :=
  waitIndex.any fun wait => wait < index

/-- The loop of `first_incomplete_step_index` over the steps from `index` on. -/
def firstIncompleteStepFrom (waitIndex : Option Nat) (txConfirmations : Txid → ArkResult Nat) :
    Nat → List Txid → ArkResult Nat
  | index, [] => .ok index
  | index, txid :: rest => do
      let confirmations ← txConfirmations txid
      if !stepReachedConfirmation confirmations ||
          waitCapHoldsUnbroadcastSuccessor index waitIndex then .ok index
      else firstIncompleteStepFrom waitIndex txConfirmations (index + 1) rest

def firstIncompleteStepIndex (job : ExitJob) (txConfirmations : Txid → ArkResult Nat)
    (orderedStepTxids : List Txid) : ArkResult Nat :=
  firstIncompleteStepFrom (job.unilateralExitStepWait.map (·.stepIndex)) txConfirmations 0
    orderedStepTxids

/-- `current_step_waiting_since`, which drops the wait of a plan that is complete and of a
step that is confirmed. -/
def currentStepWaitingSince (job : ExitJob) (plan : UnilateralBatchPlan) (currentStepIndex : Nat)
    (txConfirmations : Txid → ArkResult Nat) : ArkResult (Option Int) × ExitJob :=
  match plan.orderedStepTxids[currentStepIndex]? with
  | none => (.ok none, job.clearUnilateralExitStepWait)
  | some stepTxid =>
    match txConfirmations stepTxid with
    | .error error => (.error error, job)
    | .ok confirmations =>
      if job.waitsFor stepTxid && stepReachedConfirmation confirmations then
        (.ok none, job.clearUnilateralExitStepWait)
      else
        (.ok ((job.unilateralExitStepWait.filter fun record =>
          record.stepTxid == stepTxid.text).map (·.startedAt)), job)

def containsText (text pattern : String) : Bool :=
  text.toList.tails.any fun rest => pattern.toList.isPrefixOf rest

def isPackageNotChildWithUnconfirmedParentsMessage (message : String) : Bool :=
  containsText message.toLower "package-not-child-with-unconfirmed-parents"

def isAlreadyRelayedBroadcastErrorMessage (message : String) : Bool :=
  let lowered := message.toLower
  containsText lowered "already in mempool" ||
    containsText lowered "txn-already-in-mempool" ||
    containsText lowered "txn-already-known" ||
    containsText lowered "already known" ||
    containsText lowered "code\":-25" ||
    containsText lowered "code\": -25" ||
    containsText lowered "\"code\":-25" ||
    containsText lowered "\"code\": -25" ||
    (containsText lowered "sendrawtransaction" && containsText lowered "-25")

def unilateralExitStepBroadcastSatisfied (rawRelayed : Bool) (stepTxid : Txid)
    (job : ExitJob) : Bool :=
  rawRelayed || job.waitsFor stepTxid

/-- What one call is given and answered: the plan it builds, the confirmations its cursor
reads and those of the current step, the clock, and how the bumper sync, the broadcast and
the relay check after a failed broadcast end. -/
structure ProceedCall where
  plan : ArkResult UnilateralBatchPlan
  cursorConfirmations : Txid → ArkResult Nat
  confirmationsBefore : ArkResult Nat
  registeredAt : Int
  bumperSync : ArkResult Unit
  broadcastResult : Except String Unit
  relayedAfterError : ArkResult Bool
  waitStartedAt : Int

def emptyWitnessInputSummaries (parent : List BranchInput) : List String :=
  (parent.zipIdx.filter fun input => input.1.witnessIsEmpty).map fun input =>
    "input " ++ toString input.2 ++ " spending " ++ input.1.previousOutput.txid.text ++ ":" ++
      toString input.1.previousOutput.vout

structure CurrentStep where
  index : Nat
  txid : Txid
  confirmationsBefore : Nat

/-- A call up to its decision: the current step, or `none` if the plan is complete. -/
def currentStep (job : ExitJob) (call : ProceedCall) : ArkResult (Option CurrentStep) := do
  let plan ← call.plan
  let index ← firstIncompleteStepIndex job call.cursorConfirmations plan.orderedStepTxids
  match plan.orderedStepTxids[index]? with
  | none => .ok none
  | some txid =>
    match plan.txById txid with
    | none => .error (.snapshot ("missing branch tx for " ++ txid.text))
    | some parent =>
      let emptyWitnessInputs := emptyWitnessInputSummaries parent
      if emptyWitnessInputs.isEmpty then do
        let confirmationsBefore ← call.confirmationsBefore
        .ok (some { index, txid, confirmationsBefore })
      else
        .error (.client ("refusing to broadcast unsigned unilateral-exit inputs: " ++
          "; ".intercalate emptyWitnessInputs))

inductive SubmitOutcome where
  /-- It has failed before it wrote anything. -/
  | refused (error : ArkWasmError)
  | complete
  | alreadySubmitted (stepTxid : Txid)
  /-- It has registered the step but not broadcast it. -/
  | bumperSyncFailed (stepTxid : Txid) (error : ArkWasmError)
  /-- It has registered the step and broadcast it. -/
  | broadcast (stepTxid : Txid) (result : ArkResult Unit)

def broadcastVerdict (job : ExitJob) (call : ProceedCall) (stepTxid : Txid) : ArkResult Unit :=
  match call.broadcastResult with
  | .ok () => .ok ()
  | .error message =>
    if isPackageNotChildWithUnconfirmedParentsMessage message then .error (.client message)
    else
      match call.relayedAfterError with
      | .error error => .error error
      | .ok rawRelayed =>
        if !isAlreadyRelayedBroadcastErrorMessage message &&
            !unilateralExitStepBroadcastSatisfied rawRelayed stepTxid job then
          .error (.client message)
        else .ok ()

/-- The registration of a step and the advance of its records, before the broadcast. -/
def registerStep (job : ExitJob) (stepTxid : Txid) (now : Int) : ExitJob :=
  { job with
    walletDb := advanceRegisteredHost (registerHostTxObservation job.walletDb stepTxid.text now)
      stepTxid.text }

/-- A step that no wait names is registered, broadcast and stamped; a confirmed one that a
wait names loses its wait. -/
def submitStep (job : ExitJob) (call : ProceedCall) (step : CurrentStep) :
    SubmitOutcome × ExitJob :=
  if job.waitsFor step.txid then
    (.alreadySubmitted step.txid,
      if stepReachedConfirmation step.confirmationsBefore then job.clearUnilateralExitStepWait
      else job)
  else
    let registered := registerStep job step.txid call.registeredAt
    match call.bumperSync with
    | .error error => (.bumperSyncFailed step.txid error, registered)
    | .ok () =>
      match broadcastVerdict registered call step.txid with
      | .error error => (.broadcast step.txid (.error error), registered)
      | .ok () =>
        (.broadcast step.txid (.ok ()),
          registered.ensureUnilateralExitStepWait step.txid.text step.index
            call.waitStartedAt)

/-- `proceed_unilateral_exit_step` up to its finality pass. -/
def proceedSubmit (job : ExitJob) (call : ProceedCall) : SubmitOutcome × ExitJob :=
  match currentStep job call with
  | .error error => (.refused error, job)
  | .ok none => (.complete, job.clearUnilateralExitStepWait)
  | .ok (some step) => submitStep job call step

/-- A part of a proceed call or a progress query, or any other write of the database, a
finality pass, a tag or an untag among them. -/
inductive JobOp where
  | submit (call : ProceedCall)
  | readStep (plan : UnilateralBatchPlan) (cursorConfirmations : Txid → ArkResult Nat)
      (stepConfirmations : Txid → ArkResult Nat)
  | store (op : ExitOp)

def jobStep (codec : Codec) (job : ExitJob) : JobOp → ExitJob
  | .submit call => (proceedSubmit job call).2
  | .readStep plan cursorConfirmations stepConfirmations =>
    match firstIncompleteStepIndex job cursorConfirmations plan.orderedStepTxids with
    | .error _ => job
    | .ok index => (currentStepWaitingSince job plan index stepConfirmations).2
  | .store op => { job with walletDb := exitStep codec job.walletDb op }

def jobRun (codec : Codec) (job : ExitJob) (ops : List JobOp) : ExitJob :=
  run (jobStep codec) job ops

end Bitboard.Arkade
