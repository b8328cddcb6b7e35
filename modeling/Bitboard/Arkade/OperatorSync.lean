/-
# Finalizing an operator sync

Before an operator list is committed it goes through five passes: rows and materials
the operator left out are brought back, `is_unrolled` and `is_spent` stick where the
wallet knows better, Esplora is asked about exiting outputs, an unrolled flag that only
the indexer claims is cleared, and every confirmed exit record is reconciled with the
list. The passes are modelled as the source runs them, from `offchain_snapshot.rs`,
`unilateral_exit_materials.rs` and `watch_reconcile.rs`.

What Esplora and the operator answer during the sync enters as `SyncAnswers`. An
output is asked about twice, by the Esplora pass and when its record is reconciled, and
the answers may differ. A host is asked for relay once and its answer is cached.
-/

import Bitboard.Lib.FallibleLoop
import Bitboard.Arkade.OffchainSnapshot
import Bitboard.Arkade.VtxoExitLookup

namespace Bitboard.Arkade

open Bitboard.Lib

def recordHasConfirmedUnroll : VtxoExitPhase → Bool
  | .unrolled | .completeReady => true
  | _ => false

def confirmedUnrollStickyHostTxids (observations : HostTxObservations)
    (vtxoExitRecords : VtxoExitRecords) : List String :=
  ((observations.toList.filter fun (_, observation) =>
    decide (unilateralExitHostTxConfirmations ≤ observation.confirmations)).map (·.1)) ++
  (((BTreeMap.vals vtxoExitRecords).filter fun record =>
    recordHasConfirmedUnroll record.phase).map (·.hostTxid))

/-- The row update of `merge_sticky_unrolled_flags`. -/
def stickUnrolledFlag (stickyTxids : List String) (row : VirtualTxOutPointRecord) :
    VirtualTxOutPointRecord :=
  if row.isSpent then row
  else if row.txid ∈ stickyTxids then { row with isUnrolled := true }
  else row

/-- The hosts that `merge_sticky_unrolled_flags` keeps unrolled. -/
def priorStickyTxids (prior : OffchainVtxoSnapshot) (confirmedUnrollHostTxids : List String) :
    List String :=
  ((prior.virtualTxOutpoints.filter fun row => row.isUnrolled && !row.isSpent).map
    (·.txid)).filter fun txid => decide (txid ∈ confirmedUnrollHostTxids)

variable (prior : Option OffchainVtxoSnapshot)

def mergeStickyUnrolledFlags (incoming : OffchainVtxoSnapshot)
    (confirmedUnrollHostTxids : List String) : OffchainVtxoSnapshot :=
  match prior with
  | none => incoming
  | some prior =>
    incoming.mapRows (stickUnrolledFlag (priorStickyTxids prior confirmedUnrollHostTxids))

/-- The row update of `clear_indexer_unrolled_without_local_finality`. -/
def clearIndexerUnrolled (confirmedUnrollHostTxids : List String)
    (row : VirtualTxOutPointRecord) : VirtualTxOutPointRecord :=
  if row.isSpent || !row.isUnrolled then row
  else if row.txid ∉ confirmedUnrollHostTxids then { row with isUnrolled := false }
  else row

def clearIndexerUnrolledWithoutLocalFinality (incoming : OffchainVtxoSnapshot)
    (confirmedUnrollHostTxids : List String) : OffchainVtxoSnapshot :=
  incoming.mapRows (clearIndexerUnrolled confirmedUnrollHostTxids)

/-- The row update of `merge_sticky_spent_flags`. -/
def stickSpentFlag (prior : OffchainVtxoSnapshot) (row : VirtualTxOutPointRecord) :
    VirtualTxOutPointRecord :=
  match snapshotRecord prior row.txid row.vout with
  | none => row
  | some priorRecord =>
    if !priorRecord.isSpent then row
    else { row with
      isSpent := true
      spentBy := if row.spentBy.isNone then priorRecord.spentBy else row.spentBy }

def mergeStickySpentFlags (incoming : OffchainVtxoSnapshot) : OffchainVtxoSnapshot :=
  match prior with
  | none => incoming
  | some prior => incoming.mapRows (stickSpentFlag prior)

def pendingUnilateralOutpoints (pending : List PendingExitDeductionRecord) :
    List (String × UInt32) :=
  pending.filterMap fun record =>
    if record.kind ≠ .unilateral then none
    else do
      let txid ← record.vtxoTxid
      let vout ← record.vout
      return (txid, vout)

/-- The loop body of `reinject_pending_unilateral_exit_records`. -/
def reinjectPendingRecord (prior : OffchainVtxoSnapshot) (snapshot : OffchainVtxoSnapshot)
    (outpoint : String × UInt32) : OffchainVtxoSnapshot :=
  if snapshot.virtualTxOutpoints.any fun row => row.isAt outpoint.1 outpoint.2 then snapshot
  else
    match snapshotRecord prior outpoint.1 outpoint.2 with
    | none => snapshot
    | some priorRecord =>
      { snapshot with virtualTxOutpoints := snapshot.virtualTxOutpoints ++ [priorRecord] }

def reinjectPendingUnilateralExitRecords (snapshot : OffchainVtxoSnapshot)
    (pendingOutpoints : List (String × UInt32)) : OffchainVtxoSnapshot :=
  match prior with
  | none => snapshot
  | some prior => pendingOutpoints.foldl (reinjectPendingRecord prior) snapshot

def mergeUnilateralExitMaterialsMaps (snapshot : OffchainVtxoSnapshot) : OffchainVtxoSnapshot :=
  match prior with
  | none => snapshot
  | some prior =>
    { snapshot with
      unilateralExitMaterialsByHostTx :=
        prior.unilateralExitMaterialsByHostTx.toList.foldl
          (fun materials (hostTxid, record) =>
            if materials.contains hostTxid then materials
            else materials.insert hostTxid record)
          snapshot.unilateralExitMaterialsByHostTx }

/-- The answers of Esplora and of the operator's indexer during one sync. -/
structure SyncAnswers where
  /-- The spend of an output, when the Esplora pass asks. -/
  outputSpend : Txid → UInt32 → ArkResult (Option Txid)
  isTxRelayedOnNetwork : Txid → ArkResult Bool
  /-- The spend of an output, when its record is reconciled. -/
  outputSpendLater : Txid → UInt32 → ArkResult (Option Txid)
  findTx : Txid → ArkResult Bool
  /-- The operator's rows for an outpoint; `none` is a failed request. -/
  listVtxosForOutpoint : OutPoint → Option (List VirtualTxOutPoint)

variable (codec : Codec) (answers : SyncAnswers)

/-- `VirtualOutPoint::parse` and the parse in `detect_exiting_vtxo_completion_on_esplora`. -/
def parseTxid (txid : String) : ArkResult Txid :=
  match Txid.fromStr txid with
  | some txid => .ok txid
  | none => .error (.invalidTxid (codec.txidError txid))

/-- `detect_exiting_vtxo_completion_on_esplora`, given who answers. -/
def detectExitingVtxoCompletionOnEsplora (spend : Txid → UInt32 → ArkResult (Option Txid))
    (hostTxid : String) (vout : UInt32) : ArkResult (Option Txid) := do
  let host ← parseTxid codec hostTxid
  spend host vout

def virtualTxIsRelayed (hostTxid : String) : ArkResult Bool :=
  match Txid.fromStr hostTxid with
  | none => .ok false
  | some txid => answers.isTxRelayedOnNetwork txid

variable (snapshot : OffchainVtxoSnapshot)

def markVtxoSpentInSnapshot (txid : String) (vout : UInt32) (spentBy : String) :
    OffchainVtxoSnapshot :=
  snapshot.mapRows fun row =>
    if row.isAt txid vout then { row with isSpent := true, spentBy := some spentBy } else row

def snapshotRecordAlreadySpent (txid : String) (vout : UInt32) : Bool :=
  (snapshotRecord snapshot txid vout).any (·.isSpent)

inductive VirtualOutpointChainFact where
  | spent (spendTxid : Txid)
  | relayedUnspent
  | absent

structure EsploraPass where
  snapshot : OffchainVtxoSnapshot
  spentOutpoints : List OutPoint
  chainVisibleUnrolledHosts : List String

/-- `apply_virtual_outpoint_chain_fact`, with the push of the outpoint it returns. -/
def applyVirtualOutpointChainFact (pass : EsploraPass) (hostTxid : String) (vout : UInt32) :
    VirtualOutpointChainFact → EsploraPass
  | .spent spendTxid =>
    { pass with
      snapshot := markVtxoSpentInSnapshot pass.snapshot hostTxid vout spendTxid.text
      spentOutpoints := pass.spentOutpoints ++
        ((Txid.fromStr hostTxid).map fun txid => { txid, vout : OutPoint }).toList }
  | .relayedUnspent =>
    { pass with
      chainVisibleUnrolledHosts := pass.chainVisibleUnrolledHosts ++ [hostTxid] }
  | .absent => pass

/-- The record of a key with a confirmed unroll, as an outpoint. -/
def confirmedUnrollOutpoint (key : String) (record : VtxoExitRecord) : Option (String × UInt32) :=
  if recordHasConfirmedUnroll record.phase then parseVtxoExitRecordKey key else none

/-- A confirmed record adds its outpoint to the targets of the Esplora pass, unless the outpoint
is spent or among them. -/
def addProbeTarget (targets : List (String × UInt32)) (entry : String × VtxoExitRecord) :
    List (String × UInt32) :=
  match confirmedUnrollOutpoint entry.1 entry.2 with
  | none => targets
  | some target =>
    if snapshotRecordAlreadySpent snapshot target.1 target.2 || decide (target ∈ targets)
    then targets
    else targets ++ [target]

/-- The targets of the Esplora pass: unrolled rows that are not spent, then confirmed records. -/
def esploraProbeTargets (records : VtxoExitRecords) : List (String × UInt32) :=
  records.toList.foldl (addProbeTarget snapshot)
    ((snapshot.virtualTxOutpoints.filter fun row => row.isUnrolled && !row.isSpent).map
      VirtualTxOutPointRecord.outpointKey)

/-- The loop body of `reconcile_exiting_vtxos_spent_on_esplora`. -/
def probeExitingVtxo (pass : EsploraPass) (target : String × UInt32) : ArkResult EsploraPass := do
  let spendTxid ← detectExitingVtxoCompletionOnEsplora codec answers.outputSpend target.1 target.2
  match spendTxid with
  | some spendTxid =>
    return applyVirtualOutpointChainFact pass target.1 target.2 (.spent spendTxid)
  | none => do
      let relayed ← virtualTxIsRelayed answers target.1
      return applyVirtualOutpointChainFact pass target.1 target.2
        (if relayed then .relayedUnspent else .absent)

/-- `reconcile_exiting_vtxos_spent_on_esplora`, up to the write of the exited records. -/
def reconcileExitingVtxosSpentOnEsplora (records : VtxoExitRecords) : ArkResult EsploraPass :=
  (esploraProbeTargets snapshot records).foldlM (probeExitingVtxo codec answers)
    { snapshot, spentOutpoints := [], chainVisibleUnrolledHosts := [] }

def warnAspMismatch : String :=
  "Operator reports this exiting VTXO as swept without unrolled; " ++
    "balance kept until the indexer catches up."

def warnIndexerLag : String :=
  "Exiting VTXO is missing from the operator list but visible on-chain; " ++
    "waiting for the indexer to catch up."

def warnMissingIndex : String :=
  "Exiting VTXO is missing from the operator index with no on-chain evidence yet; " ++
    "balance kept until sync confirms."

inductive ExitingVtxoReconcileOutcome where
  | ok
  | clearSpent
  | clearOnChainSpent
  | keepWarnAspMismatch
  | keepWarnIndexerLag
  | keepWarnMissingIndex

def warningForOutcome : ExitingVtxoReconcileOutcome → Option String
  | .ok | .clearSpent | .clearOnChainSpent => none
  | .keepWarnAspMismatch => some warnAspMismatch
  | .keepWarnIndexerLag => some warnIndexerLag
  | .keepWarnMissingIndex => some warnMissingIndex

def classifyOperatorVtxo (point : VirtualTxOutPoint) : ExitingVtxoReconcileOutcome :=
  if point.isUnrolled && !point.isSpent then .ok
  else if point.isSpent then .clearSpent
  else if point.isSwept && !point.isUnrolled then .keepWarnAspMismatch
  else .ok

def recordForReinject (priorRecord : Option VirtualTxOutPointRecord) (txid : String)
    (vout : UInt32) (amountSats : Nat) : VirtualTxOutPointRecord :=
  match priorRecord with
  | some prior => { prior with isUnrolled := true, isSpent := false }
  | none =>
    { txid
      vout
      amountSats
      createdAt := 0
      expiresAt := Int64.maxValue.toInt
      scriptHex := ""
      isPreconfirmed := false
      isSwept := false
      isUnrolled := true
      isSpent := false
      spentBy := none
      commitmentTxids := []
      settledBy := none
      arkTxid := none
      assets := []
      serverPkHex := none }

/-- What `reinject_exiting_record` does to a row that is there. -/
def reviveRow (amountSats : Nat) (row : VirtualTxOutPointRecord) : VirtualTxOutPointRecord :=
  { row with
    isUnrolled := true
    isSpent := false
    amountSats := if row.amountSats = 0 then amountSats else row.amountSats }

def reinjectExitingRecord (record : VirtualTxOutPointRecord) : OffchainVtxoSnapshot :=
  match snapshotRecord snapshot record.txid record.vout with
  | some _ =>
    { snapshot with
      virtualTxOutpoints := modifyFirst (·.isAt record.txid record.vout)
        (reviveRow record.amountSats) snapshot.virtualTxOutpoints }
  | none => { snapshot with virtualTxOutpoints := snapshot.virtualTxOutpoints ++ [record] }

def clearExitingRecord (txid : String) (vout : UInt32) : OffchainVtxoSnapshot :=
  { snapshot with
    virtualTxOutpoints := modifyFirst (·.isAt txid vout) (fun row => { row with isSpent := true })
      snapshot.virtualTxOutpoints }

/-- `unroll_branch_visible_on_chain` for the published host and the branch. -/
def unrollBranchVisibleOnChain (publishedVtxoTxid : String) (branchTxids : List String) :
    ArkResult Bool := do
  let published ← match Txid.fromStr publishedVtxoTxid with
    | some txid => answers.findTx txid
    | none => .ok false
  if published then return true
  (branchTxids.filterMap Txid.fromStr).foldlM
    (fun visible txid => if visible then .ok true else answers.findTx txid) false

/-- The operator's row for an outpoint, if the request succeeds and has it. -/
def operatorVtxo (outpoint : OutPoint) : Option VirtualTxOutPoint :=
  (answers.listVtxosForOutpoint outpoint).bind fun points =>
    points.find? fun point => decide (point.outpoint = outpoint)

def reconcileMissingSurvival (txid : String) (vout : UInt32) (hostTxid : String) :
    ArkResult ExitingVtxoReconcileOutcome := do
  let parsed ← parseTxid codec txid
  match operatorVtxo answers { txid := parsed, vout } with
  | some point => return classifyOperatorVtxo point
  | none => do
      let spend ← detectExitingVtxoCompletionOnEsplora codec answers.outputSpendLater txid vout
      if spend.isSome then return .clearOnChainSpent
      let visible ← unrollBranchVisibleOnChain answers hostTxid
        (materialsChainTxidStringsForHost codec snapshot hostTxid)
      return if visible then .keepWarnIndexerLag else .keepWarnMissingIndex

structure ExitingVtxoReconcileResult where
  snapshot : OffchainVtxoSnapshot
  warnings : List String

/-- `apply_reconcile_outcome` for a record with a confirmed unroll. -/
def applyReconcileOutcome (result : ExitingVtxoReconcileResult) (txid : String) (vout : UInt32)
    (amountSats : Nat) (priorRecord : Option VirtualTxOutPointRecord)
    (outcome : ExitingVtxoReconcileOutcome) : ExitingVtxoReconcileResult :=
  match outcome with
  | .ok =>
    if (snapshotRecord result.snapshot txid vout).isNone then
      { result with
        snapshot := reinjectExitingRecord result.snapshot
          (recordForReinject priorRecord txid vout amountSats) }
    else result
  | .clearSpent | .clearOnChainSpent =>
    { result with snapshot := clearExitingRecord result.snapshot txid vout }
  | outcome =>
    { snapshot := reinjectExitingRecord result.snapshot
        (recordForReinject priorRecord txid vout amountSats)
      warnings := result.warnings ++ (warningForOutcome outcome).toList }

/-- The outcome for a row that is in the list, and the snapshot after the unroll stickiness. -/
def reconcilePresentRow (row : VirtualTxOutPointRecord) (txid : String) (vout : UInt32)
    (amountSats : Nat) (priorRecord : Option VirtualTxOutPointRecord) :
    ArkResult (OffchainVtxoSnapshot × ExitingVtxoReconcileOutcome) :=
  if row.isUnrolled && !row.isSpent then do
    let spend ← detectExitingVtxoCompletionOnEsplora codec answers.outputSpendLater txid vout
    return (snapshot, if spend.isSome then .clearOnChainSpent else .ok)
  else if row.isSpent then .ok (snapshot, .clearSpent)
  else if row.isSwept && !row.isUnrolled then .ok (snapshot, .keepWarnAspMismatch)
  else if !row.isUnrolled then
    .ok (reinjectExitingRecord snapshot (recordForReinject priorRecord txid vout amountSats), .ok)
  else .ok (snapshot, .ok)

/-- The loop body of `reconcile_exiting_vtxo_records`. -/
def reconcileExitingVtxoRecord (prior : Option OffchainVtxoSnapshot)
    (result : ExitingVtxoReconcileResult) (entry : String × VtxoExitRecord) :
    ArkResult ExitingVtxoReconcileResult :=
  match confirmedUnrollOutpoint entry.1 entry.2 with
  | none => .ok result
  | some (txid, vout) => do
      let priorRecord := prior.bind fun prior => snapshotRecord prior txid vout
      match snapshotRecord result.snapshot txid vout with
      | some row =>
        let (snapshot, outcome) ← reconcilePresentRow codec answers result.snapshot row txid vout
          entry.2.amountSats priorRecord
        return applyReconcileOutcome { result with snapshot } txid vout entry.2.amountSats
          priorRecord outcome
      | none =>
        let outcome ← reconcileMissingSurvival codec answers result.snapshot txid vout
          entry.2.hostTxid
        return applyReconcileOutcome result txid vout entry.2.amountSats priorRecord outcome

def reconcileExitingVtxoRecords (prior : Option OffchainVtxoSnapshot) (records : VtxoExitRecords) :
    ArkResult ExitingVtxoReconcileResult :=
  records.toList.foldlM (reconcileExitingVtxoRecord codec answers prior)
    { snapshot, warnings := [] }

structure FinalizedSync where
  snapshot : OffchainVtxoSnapshot
  warnings : List String
  spentOutpoints : List OutPoint

/-- The rows the pipeline starts its flag passes from. -/
def restoredSnapshot (incoming : OffchainVtxoSnapshot) (prior : Option OffchainVtxoSnapshot)
    (pending : List PendingExitDeductionRecord) : OffchainVtxoSnapshot :=
  mergeUnilateralExitMaterialsMaps prior
    (reinjectPendingUnilateralExitRecords prior incoming (pendingUnilateralOutpoints pending))

/-- The passes of `finalize_operator_sync_snapshot`. The exit records are read before the
Esplora pass and again after it; `reread` is what the second read gives, after a pass that found
the given outpoints spent. -/
def finalizePasses (observations : HostTxObservations)
    (pending : List PendingExitDeductionRecord) (records : VtxoExitRecords)
    (reread : List OutPoint → VtxoExitRecords) (incoming : OffchainVtxoSnapshot)
    (prior : Option OffchainVtxoSnapshot) : ArkResult FinalizedSync := do
  let stickyUnrollHosts := confirmedUnrollStickyHostTxids observations records
  let flagged := mergeStickySpentFlags prior
    (mergeStickyUnrolledFlags prior (restoredSnapshot incoming prior pending) stickyUnrollHosts)
  let esplora ← reconcileExitingVtxosSpentOnEsplora codec answers flagged records
  let cleared := clearIndexerUnrolledWithoutLocalFinality esplora.snapshot
    (stickyUnrollHosts ++ esplora.chainVisibleUnrolledHosts)
  let reconciled ← reconcileExitingVtxoRecords codec answers cleared prior
    (reread esplora.spentOutpoints)
  return {
    snapshot := reconciled.snapshot
    warnings := reconciled.warnings
    spentOutpoints := esplora.spentOutpoints }

/-- `finalize_operator_sync_snapshot` up to the commit, when nothing else runs meanwhile: the
second read sees the records of the first with the spent ones marked exited. -/
def finalizeOperatorSyncSnapshot (db : WalletDb) (incoming : OffchainVtxoSnapshot)
    (prior : Option OffchainVtxoSnapshot) : ArkResult FinalizedSync :=
  finalizePasses codec answers db.hostTxObservations db.pendingExitDeductions db.vtxoExitRecords
    (markRecordsExitedForOutpoints db.vtxoExitRecords) incoming prior

end Bitboard.Arkade
