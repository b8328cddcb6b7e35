/-
# The exit graph

Each coin that exits has a chain of transactions, the anchor on the chain first, and a status for
all of them or one mark for each. The chains of several coins are merged into one graph with a
node for each transaction. A transaction takes the highest status that a chain gives it; an anchor
is on the chain already, so that it is confirmed unless a pending transaction waits for it.

The functions follow `emergency_exit.rs`.
-/

import Bitboard.Lib.OrderedMap
import Mathlib.Data.String.Basic
import Mathlib.Data.List.Destutter

namespace Bitboard.Bark

open Bitboard.Lib

inductive ExitGraphTxType where
  | tree
  | checkpoint
  | commitment
  deriving DecidableEq

structure ExitGraphTransaction where
  txid : String
  inputTxids : List String
  txType : ExitGraphTxType
  deriving DecidableEq

inductive ExitGraphTransactionKind where
  | pending
  | waitingOnInputs
  | needsChild
  | inProgress
  | confirmed
  deriving DecidableEq

structure ExitGraphTransactionStatus where
  txid : String
  kind : ExitGraphTransactionKind
  waitingOnTxids : List String
  deriving DecidableEq

/-- A status for every transaction of a chain, or one mark for each exit transaction. -/
inductive ExitGraphChainStatus where
  | pending
  | confirmed
  | transactions (marks : List ExitGraphTransactionStatus)
  deriving DecidableEq

structure ExitGraphChain where
  vtxoId : String
  transactions : List ExitGraphTransaction
  status : ExitGraphChainStatus
  deriving DecidableEq

structure ExitGraphDraft where
  inputTxids : List String
  leafVtxoIds : List String
  rank : Nat
  waitingOnTxids : List String
  txType : ExitGraphTxType

inductive ExitGraphStatusLabel where
  | confirmed
  | inProgress
  | pending
  deriving DecidableEq

structure ExitGraphNode where
  txid : String
  spends : List String
  leafVtxoIds : List String
  status : ExitGraphStatusLabel
  needsChild : Bool
  waitingOnTxids : List String
  txType : ExitGraphTxType
  deriving DecidableEq

def EXIT_GRAPH_RANK_PENDING : Nat := 0

def EXIT_GRAPH_RANK_NEEDS_CHILD : Nat := 1

def EXIT_GRAPH_RANK_IN_PROGRESS : Nat := 2

def EXIT_GRAPH_RANK_CONFIRMED : Nat := 3

def exitGraphRank : ExitGraphTransactionKind → Nat
  | .pending => EXIT_GRAPH_RANK_PENDING
  | .waitingOnInputs => EXIT_GRAPH_RANK_PENDING
  | .needsChild => EXIT_GRAPH_RANK_NEEDS_CHILD
  | .inProgress => EXIT_GRAPH_RANK_IN_PROGRESS
  | .confirmed => EXIT_GRAPH_RANK_CONFIRMED

def exitGraphStatusLabel (rank : Nat) : ExitGraphStatusLabel :=
  if rank = EXIT_GRAPH_RANK_CONFIRMED then .confirmed
  else if rank = EXIT_GRAPH_RANK_NEEDS_CHILD ∨ rank = EXIT_GRAPH_RANK_IN_PROGRESS then .inProgress
  else .pending

def mergedTxType (current incoming : ExitGraphTxType) : ExitGraphTxType :=
  if current = .checkpoint ∨ incoming = .checkpoint then .checkpoint
  else if current = .commitment ∨ incoming = .commitment then .commitment
  else .tree

def pushUnique (values : List String) (value : String) : List String :=
  if value ∈ values then values else values ++ [value]

/-- Sorted, and without elements that equal the one before. -/
def sortedUnique (values : List String) : List String :=
  (values.mergeSort (· ≤ ·)).destutter (· ≠ ·)

/-- One transaction of a chain is entered. The first chain that has it decides on its inputs. -/
def enterTransaction (chain : ExitGraphChain) (drafts : BTreeMap String ExitGraphDraft)
    (transaction : ExitGraphTransaction) : BTreeMap String ExitGraphDraft :=
  let leafTxid := chain.transactions.getLast?.map ExitGraphTransaction.txid
  let draft := drafts[transaction.txid]?.getD {
    inputTxids := transaction.inputTxids
    leafVtxoIds := []
    rank := EXIT_GRAPH_RANK_PENDING
    waitingOnTxids := []
    txType := .tree }
  drafts.insert transaction.txid { draft with
    txType := mergedTxType draft.txType transaction.txType
    leafVtxoIds :=
      if leafTxid = some transaction.txid ∧ transaction.txType ≠ .commitment then
        pushUnique draft.leafVtxoIds chain.vtxoId
      else draft.leafVtxoIds }

/-- `note_transaction_status` for the draft of the transaction. -/
def notedDraft (mark : ExitGraphTransactionStatus) (draft : ExitGraphDraft) : ExitGraphDraft :=
  let incomingRank := exitGraphRank mark.kind
  if draft.rank < incomingRank then
    { draft with
      rank := incomingRank
      waitingOnTxids := if mark.kind = .waitingOnInputs then mark.waitingOnTxids else [] }
  else if incomingRank = draft.rank ∧ mark.kind = .waitingOnInputs then
    { draft with waitingOnTxids := draft.waitingOnTxids ++ mark.waitingOnTxids }
  else draft

variable (drafts : BTreeMap String ExitGraphDraft)

def noteTransactionStatus (mark : ExitGraphTransactionStatus) : BTreeMap String ExitGraphDraft :=
  match drafts[mark.txid]? with
  | none => drafts
  | some draft => drafts.insert mark.txid (notedDraft mark draft)

def chainMarks (chain : ExitGraphChain) : List ExitGraphTransactionStatus :=
  match chain.status with
  | .pending => chain.transactions.map fun transaction =>
    { txid := transaction.txid, kind := .pending, waitingOnTxids := [] }
  | .confirmed => chain.transactions.map fun transaction =>
    { txid := transaction.txid, kind := .confirmed, waitingOnTxids := [] }
  | .transactions marks => marks

def applyChainStatus (chain : ExitGraphChain) : BTreeMap String ExitGraphDraft :=
  (chainMarks chain).foldl noteTransactionStatus drafts

def mergeChain (chain : ExitGraphChain) : BTreeMap String ExitGraphDraft :=
  applyChainStatus (chain.transactions.foldl (enterTransaction chain) drafts) chain

def waitedOnTxids : List String :=
  (drafts.vals.filter fun draft => draft.rank = EXIT_GRAPH_RANK_PENDING).flatMap
    ExitGraphDraft.waitingOnTxids

/-- `confirm_chain_anchors` for one draft. -/
def anchorDraft (waitedOn : List String) (txid : String) (draft : ExitGraphDraft) :
    ExitGraphDraft :=
  if draft.txType ≠ .commitment then draft
  else { draft with
    waitingOnTxids := []
    rank :=
      if txid ∈ waitedOn then EXIT_GRAPH_RANK_PENDING else EXIT_GRAPH_RANK_CONFIRMED }

def confirmChainAnchors : BTreeMap String ExitGraphDraft :=
  drafts.map (anchorDraft (waitedOnTxids drafts))

/-- The node of a draft. An input that is no node stays off the graph. -/
def exitGraphNode (isNode : String → Bool) (txid : String) (draft : ExitGraphDraft) :
    ExitGraphNode where
  txid := txid
  spends := sortedUnique (draft.inputTxids.filter isNode)
  leafVtxoIds := draft.leafVtxoIds.mergeSort (· ≤ ·)
  status := exitGraphStatusLabel draft.rank
  needsChild := draft.rank = EXIT_GRAPH_RANK_NEEDS_CHILD
  waitingOnTxids :=
    if draft.rank = EXIT_GRAPH_RANK_PENDING then sortedUnique draft.waitingOnTxids else []
  txType := draft.txType

def mergeExitGraph (chains : List ExitGraphChain) : List ExitGraphNode :=
  let drafts := confirmChainAnchors (chains.foldl mergeChain ∅)
  drafts.toList.map fun entry => exitGraphNode (fun txid => drafts.contains txid) entry.1 entry.2

/-- A chain as it is made of a coin: the anchor without inputs, then the exit transactions, each of
which spends the one before. A status for single transactions is one for exit transactions. -/
structure IsBarkExitChain (chain : ExitGraphChain) : Prop where
  anchored : ∃ anchorTxid, chain.transactions.head? =
    some { txid := anchorTxid, inputTxids := [], txType := .commitment }
  exits : ∀ transaction ∈ chain.transactions.tail, transaction.txType ≠ .commitment
  nodup : (chain.transactions.map ExitGraphTransaction.txid).Nodup
  linked : chain.transactions.IsChain fun previous next => previous.txid ∈ next.inputTxids
  marked : ∀ marks, chain.status = .transactions marks → ∀ mark ∈ marks,
    ∃ transaction ∈ chain.transactions.tail, transaction.txid = mark.txid

/-- The chains of the coins of a wallet. A txid is the hash of its transaction, so that it fixes
the inputs. -/
structure AreBarkExitChains (chains : List ExitGraphChain) : Prop where
  each : ∀ chain ∈ chains, IsBarkExitChain chain
  hashed : ∀ chain ∈ chains, ∀ other ∈ chains, ∀ transaction ∈ chain.transactions.tail,
    ∀ same ∈ other.transactions.tail, transaction.txid = same.txid →
      transaction.inputTxids = same.inputTxids

end Bitboard.Bark
