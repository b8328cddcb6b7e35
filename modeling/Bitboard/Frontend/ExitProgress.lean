/-
# Exit progress

The worker reports how far the unroll of the selected leaves has come: the first step
that is not yet confirmed, whether this wallet has submitted it, and the confirmations
of every step. The app reads from such a report whether the step must still be
broadcast, whether it only waits for a confirmation, and whether the branch is complete.
From the error of a broadcast it reads whether the parent of the step is still unknown
to the node it was submitted to.
-/

import Mathlib.Data.List.Infix

namespace Bitboard.Frontend

inductive ArkadeUnilateralExitPhaseKind where
  | idle
  | waiting
  | complete
deriving DecidableEq

inductive ArkadeUnilateralExitNodeStatusKind where
  | pending
  | inProgress
  | confirmed
deriving DecidableEq

structure ArkadeUnilateralExitNodeStatus where
  txid : String
  confirmations : Nat
  status : ArkadeUnilateralExitNodeStatusKind
deriving DecidableEq

structure ArkadeUnilateralExitProgress where
  stepIndex : Nat
  totalSteps : Nat
  phase : ArkadeUnilateralExitPhaseKind
  currentStepWaitingSince : Option Int
  currentStepTxRelayed : Bool
  nodeStatuses : List ArkadeUnilateralExitNodeStatus
deriving DecidableEq

variable (progress : ArkadeUnilateralExitProgress)

def isUnilateralExitBranchComplete : Bool :=
  decide (progress.phase = .complete) && decide (progress.totalSteps ≠ 0) &&
    progress.nodeStatuses.all fun node => decide (node.status = .confirmed)

def isUnilateralExitJobComplete : Bool :=
  isUnilateralExitBranchComplete progress

/-- The step is on the network, or this wallet has stamped a wait for it. -/
def isCurrentStepRelayed : Bool :=
  progress.currentStepTxRelayed || progress.currentStepWaitingSince.isSome

def needsBroadcastEnsurance : Bool :=
  !isUnilateralExitBranchComplete progress && !isCurrentStepRelayed progress

def isWaitingForRelayedStepConfirmation : Bool :=
  !isUnilateralExitBranchComplete progress && isCurrentStepRelayed progress &&
    (decide (progress.phase = .waiting) || progress.currentStepWaitingSince.isSome)

/-- `true` only if both reports are there. -/
def stepIndexAdvancedPastContext :
    Option ArkadeUnilateralExitProgress → ArkadeUnilateralExitProgress → Bool
  | none, _ => false
  | some previous, next => decide (previous.stepIndex < next.stepIndex)

def relayWaitUnixFromProgress : Option Int :=
  progress.currentStepWaitingSince

structure UnconfirmedParentRetry where
  stepIndex : Nat
  parentConfirmationsAtFail : Nat
deriving DecidableEq

def parentConfirmationsForStep (stepIndex : Nat) : Nat :=
  if stepIndex = 0 then 0
  else (progress.nodeStatuses[stepIndex - 1]?.map (·.confirmations)).getD 0

def unconfirmedParentRetryFromProgress :
    Option ArkadeUnilateralExitProgress → Option UnconfirmedParentRetry
  | none => none
  | some progress =>
    some
      { stepIndex := progress.stepIndex
        parentConfirmationsAtFail := parentConfirmationsForStep progress progress.stepIndex }

/-- What an actor threw: its text, the text shown to the user in its place, and, if it is
an `Error`, the fields that the broadcasting actor adds to the one it wraps. -/
structure ActorError where
  message : String
  userFacingMessage : String
  isError : Bool
  rewoundProgress : Option ArkadeUnilateralExitProgress
  retryableUnconfirmedParent : Bool

def includesText (text pattern : String) : Bool :=
  text.toList.tails.any fun rest => pattern.toList.isPrefixOf rest

variable (error : ActorError)

def isPackageNotChildWithUnconfirmedParentsError : Bool :=
  includesText error.message.toLower "package-not-child-with-unconfirmed-parents"

def isInsufficientConfirmedBumperFundsError : Bool :=
  includesText error.message.toLower "insufficient confirmed funds"

def unconfirmedParentPackageRetryMessage : String :=
  "Previous unroll step is not confirmed on-chain yet. Wait for a confirmation, then " ++
    "proceed again."

def isRetryableUnconfirmedParentPackageError : Bool :=
  isPackageNotChildWithUnconfirmedParentsError error ||
    isInsufficientConfirmedBumperFundsError error ||
    error.isError && (error.message == unconfirmedParentPackageRetryMessage ||
      error.retryableUnconfirmedParent)

def rewoundProgressFromPackageError : Option ArkadeUnilateralExitProgress :=
  if error.isError then error.rewoundProgress else none

def actorErrorMessage (fallback : String) : String :=
  if error.userFacingMessage = "" then fallback else error.userFacingMessage

end Bitboard.Frontend
