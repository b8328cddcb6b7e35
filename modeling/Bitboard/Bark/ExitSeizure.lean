/-
# Watching the exit outputs of Bark VTXOs

A Bark VTXO leaves the tree through a chain of exit transactions: a chain anchor,
then hops, the last of which creates the VTXO's own output. The wallet asks the
chain who spent each earlier output. An output is watched with the one
transaction that may spend it, and outputs that several VTXOs share are listed
once; a confirmed spend by another transaction is an anchor sweep or a seizure,
and every VTXO whose history contains the spent output is reported.

The module follows `exit_seizure.rs`: the watched outputs, the outcomes of their
spends, the notices, and the two-phase scan in which histories with a swept
anchor are left out of the hop check. The chain is a map from outpoints to
spends. Ordered maps and sets are read through membership only, so ids may be
ordered by their text.
-/

import Bitboard.Arkade.Outpoint

namespace Bitboard.Bark

open Bitboard.Lib
open Bitboard.Arkade (Txid OutPoint)

attribute [local instance] lexOrd

instance : Ord Txid where
  compare := compareOn Txid.text

instance : Std.TransOrd Txid := inferInstanceAs (Std.TransCmp (compareOn Txid.text))

instance : Std.LawfulEqOrd Txid := lawfulEqCmp_compareOn fun a b h => by
  cases a
  cases b
  simpa using h

def outpointKey (outpoint : OutPoint) : Txid × UInt32 := (outpoint.txid, outpoint.vout)

theorem outpointKey_inj (a b : OutPoint) (h : outpointKey a = outpointKey b) : a = b := by
  cases a
  cases b
  simpa [outpointKey] using h

instance : Ord OutPoint where
  compare := compareOn outpointKey

instance : Std.TransOrd OutPoint := inferInstanceAs (Std.TransCmp (compareOn outpointKey))

instance : Std.LawfulEqOrd OutPoint := lawfulEqCmp_compareOn outpointKey_inj

/-- What kind of exit transaction created a watched output. -/
inductive ExitHopRole where
  | checkpoint
  | leaf
  | internal
  deriving DecidableEq

structure ExitHop where
  txid : Txid
  outputIndex : UInt32
  role : ExitHopRole
  deriving DecidableEq

/-- The output of the hop that the history continues through. -/
def ExitHop.outpoint (hop : ExitHop) : OutPoint where
  txid := hop.txid
  vout := hop.outputIndex

/-- An unspent VTXO reduced to the outputs the scan can watch. The hops stand in chain
order and the last one is the VTXO outpoint. -/
structure VtxoExitHistory where
  vtxoId : String
  anchor : OutPoint
  hops : List ExitHop
  deriving DecidableEq

/-- A confirmed foreign spend of a watched exit output. -/
inductive ExitChainOutcome where
  | anchorSweep (outpoint : OutPoint)
  | checkpointSeizure (outpoint : OutPoint)
  | leafSeizure (outpoint : OutPoint)
  | internalSeizure (outpoint : OutPoint)
  deriving DecidableEq

/-- The constructor's position and the outpoint: the derived order of the enumeration. -/
def outcomeKey : ExitChainOutcome → Nat × OutPoint
  | .anchorSweep outpoint => (0, outpoint)
  | .checkpointSeizure outpoint => (1, outpoint)
  | .leafSeizure outpoint => (2, outpoint)
  | .internalSeizure outpoint => (3, outpoint)

theorem outcomeKey_inj (a b : ExitChainOutcome) (h : outcomeKey a = outcomeKey b) : a = b := by
  cases a <;> cases b <;> simp_all [outcomeKey]

instance : Ord ExitChainOutcome where
  compare := compareOn outcomeKey

instance : Std.TransOrd ExitChainOutcome :=
  inferInstanceAs (Std.TransCmp (compareOn outcomeKey))

instance : Std.LawfulEqOrd ExitChainOutcome := lawfulEqCmp_compareOn outcomeKey_inj

/-- An output to ask the chain about, and the only transaction allowed to spend it. -/
structure WatchedExitOutput where
  outpoint : OutPoint
  allowedSpend : Txid
  outcome : ExitChainOutcome

inductive ExitOutputSpend where
  | unspent
  | mempool (spender : Txid)
  | confirmed (spender : Txid)

def anchorOutputOfOne (history : VtxoExitHistory) : Option WatchedExitOutput :=
  history.hops.head?.map fun firstExit =>
    { outpoint := history.anchor
      allowedSpend := firstExit.txid
      outcome := .anchorSweep history.anchor }

def seizureOutcome (role : ExitHopRole) (outpoint : OutPoint) : ExitChainOutcome :=
  match role with
  | .checkpoint => .checkpointSeizure outpoint
  | .leaf => .leafSeizure outpoint
  | .internal => .internalSeizure outpoint

/-- The loop of `hop_outputs_of_one`: a hop without a next one ends it, and a hop whose
next transaction is confirmed is passed over. -/
def hopOutputs (confirmedNextHopTxids : BTreeSet Txid) : List ExitHop → List WatchedExitOutput
  | [] => []
  | [_] => []
  | hop :: nextHop :: rest =>
    let watched := hopOutputs confirmedNextHopTxids (nextHop :: rest)
    if confirmedNextHopTxids.contains nextHop.txid then watched
    else
      { outpoint := hop.outpoint
        allowedSpend := nextHop.txid
        outcome := seizureOutcome hop.role hop.outpoint } :: watched

def hopOutputsOfOne (confirmedNextHopTxids : BTreeSet Txid) (history : VtxoExitHistory) :
    List WatchedExitOutput :=
  hopOutputs confirmedNextHopTxids history.hops

variable (histories : List VtxoExitHistory)

def watchedAnchorOutputs : List WatchedExitOutput :=
  BTreeMap.vals (BTreeMap.orInsertAll WatchedExitOutput.outpoint ∅
    (histories.filterMap anchorOutputOfOne))

def watchedHopOutputs (confirmedNextHopTxids : BTreeSet Txid) : List WatchedExitOutput :=
  BTreeMap.vals (BTreeMap.orInsertAll WatchedExitOutput.outpoint ∅
    (histories.flatMap (hopOutputsOfOne confirmedNextHopTxids)))

/-- `watched_exit_outputs`: anchors first, so an anchor wins a clash. -/
def watchedExitOutputs (confirmedNextHopTxids : BTreeSet Txid) : List WatchedExitOutput :=
  BTreeMap.vals (BTreeMap.orInsertAll WatchedExitOutput.outpoint
    (BTreeMap.orInsertAll WatchedExitOutput.outpoint ∅ (watchedAnchorOutputs histories))
    (watchedHopOutputs histories confirmedNextHopTxids))

def hopOutputsAfterAnchorCheck (confirmedNextHopTxids : BTreeSet Txid)
    (anchorOutpoints : BTreeSet OutPoint) : List WatchedExitOutput :=
  (watchedExitOutputs histories confirmedNextHopTxids).filter fun watched =>
    !anchorOutpoints.contains watched.outpoint

variable (spends : BTreeMap OutPoint ExitOutputSpend)

/-- The outcome of one watched output: nothing unless a transaction other than the allowed
one has confirmed. -/
def outcomeOfSpend (output : WatchedExitOutput) : Option ExitChainOutcome :=
  match spends[output.outpoint]? with
  | some (.confirmed spender) =>
    if spender = output.allowedSpend then none else some output.outcome
  | _ => none

def exitOutcomesFromSpends (watched : List WatchedExitOutput)
    (spends : BTreeMap OutPoint ExitOutputSpend) : List ExitChainOutcome :=
  (Std.ExtTreeSet.ofList (watched.filterMap (outcomeOfSpend spends)) compare).toList

def historyMatchesOutcome (history : VtxoExitHistory) : ExitChainOutcome → Bool
  | .anchorSweep anchor => decide (history.anchor = anchor)
  | .checkpointSeizure spent => history.hops.any fun hop => hop.outpoint = spent
  | .leafSeizure spent => history.hops.any fun hop => hop.outpoint = spent
  | .internalSeizure spent => history.hops.any fun hop => hop.outpoint = spent

inductive ExitNodeKind where
  | anchor
  | internal
  | leaf
  | checkpoint
  deriving DecidableEq

def ExitChainOutcome.nodeKind : ExitChainOutcome → ExitNodeKind
  | .anchorSweep _ => .anchor
  | .checkpointSeizure _ => .checkpoint
  | .leafSeizure _ => .leaf
  | .internalSeizure _ => .internal

/-- Anchor sweeps and hop seizures as separate lists, each ordered by VTXO id. -/
structure ExitChainNotices where
  anchorSweepVtxoIds : List String
  checkpointSeizureVtxoIds : List String
  leafSeizureVtxoIds : List String
  internalSeizureVtxoIds : List String

variable (outcomes : List ExitChainOutcome)

/-- The flag of one kind of node that the loop over the outcomes sets for a history. -/
def nodeSpent (kind : ExitNodeKind) (history : VtxoExitHistory) : Bool :=
  outcomes.any fun outcome =>
    historyMatchesOutcome history outcome && outcome.nodeKind = kind

/-- The ids of the histories that meet a test, as an ordered set lists them. -/
def vtxoIdsWhere (test : VtxoExitHistory → Bool) (histories : List VtxoExitHistory) : List String :=
  (Std.ExtTreeSet.ofList ((histories.filter test).map VtxoExitHistory.vtxoId) compare).toList

/-- The ids with a seizure of one kind: a history with a swept anchor is left out. -/
def seizedIds (kind : ExitNodeKind) (histories : List VtxoExitHistory) : List String :=
  vtxoIdsWhere
    (fun history => !nodeSpent outcomes .anchor history && nodeSpent outcomes kind history)
    histories

def splitExitNotices : ExitChainNotices where
  anchorSweepVtxoIds := vtxoIdsWhere (nodeSpent outcomes .anchor) histories
  checkpointSeizureVtxoIds := seizedIds outcomes .checkpoint histories
  leafSeizureVtxoIds := seizedIds outcomes .leaf histories
  internalSeizureVtxoIds := seizedIds outcomes .internal histories

structure RecordedExitNodeSweepVtxoItem where
  vtxoId : String
  nodeKind : ExitNodeKind

def anchorNotices : ExitChainNotices :=
  splitExitNotices histories (exitOutcomesFromSpends (watchedAnchorOutputs histories) spends)

/-- The histories the anchor check leaves for the hop check. -/
def remainingHistories : List VtxoExitHistory :=
  histories.filter fun history =>
    !(anchorNotices histories spends).anchorSweepVtxoIds.any (· = history.vtxoId)

def anchorOutpoints : BTreeSet OutPoint :=
  Std.ExtTreeSet.ofList ((watchedAnchorOutputs histories).map WatchedExitOutput.outpoint)
    compare

variable (confirmedNextHops : BTreeSet Txid)

def hopNotices (spends : BTreeMap OutPoint ExitOutputSpend) : ExitChainNotices :=
  let remaining := remainingHistories histories spends
  let hopWatched :=
    hopOutputsAfterAnchorCheck remaining confirmedNextHops (anchorOutpoints histories)
  splitExitNotices remaining (exitOutcomesFromSpends hopWatched spends)

/-- `push_recorded_items`, as the list of the pushed items. -/
def recordedItemsOf (kind : ExitNodeKind) (vtxoIds : List String) :
    List RecordedExitNodeSweepVtxoItem :=
  vtxoIds.map fun vtxoId => { vtxoId, nodeKind := kind }

def recordedItems (anchor hop : ExitChainNotices) : List RecordedExitNodeSweepVtxoItem :=
  recordedItemsOf .anchor anchor.anchorSweepVtxoIds ++
    recordedItemsOf .internal hop.internalSeizureVtxoIds ++
    recordedItemsOf .leaf hop.leafSeizureVtxoIds ++
    recordedItemsOf .checkpoint hop.checkpointSeizureVtxoIds

/-- `scan_exit_chain_notices`, once the chain has answered for every watched output. -/
def scanExitChainNotices (spends : BTreeMap OutPoint ExitOutputSpend) :
    List RecordedExitNodeSweepVtxoItem :=
  recordedItems (anchorNotices histories spends)
    (hopNotices histories confirmedNextHops spends)

end Bitboard.Bark
