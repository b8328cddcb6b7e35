/-
# Exit-record operations

The functions of `vtxo_exit.rs` and its neighbours that write the exit-record map:
tag and untag of a plan, the host registration of proceed, the rewinds and advances
of the finality pass, the completion marks, the funding-lost stamps and the heal of
leftovers from older wallets. A function that mutates its map and may fail returns
the outcome together with the map as it leaves it.

What each operation does to the record at one key is stated in `VtxoExitLookup`.
-/

import Bitboard.Arkade.ExitMaterials

namespace Bitboard.Arkade

open Bitboard.Lib

/-- `upsert_tagged_record` on the record at its key: insert `tagged`, or refresh the host and
the amount of an existing record without touching its phase. -/
def taggedRecord (existing : Option VtxoExitRecord) (hostTxid : String) (amountSats : Nat)
    (now : Int) : VtxoExitRecord :=
  match existing with
  | some existing => { existing with hostTxid, amountSats }
  | none => { phase := .tagged, taggedAt := now, hostTxid, amountSats }

variable (records : VtxoExitRecords)

def upsertTaggedRecord (txid : String) (vout : UInt32) (hostTxid : String) (amountSats : Nat)
    (now : Int) : VtxoExitRecords :=
  let key := vtxoExitRecordKey txid vout
  records.insert key (taggedRecord records[key]? hostTxid amountSats now)

def amountForOutpoint (snapshot : OffchainVtxoSnapshot) (txid : String) (vout : UInt32) : Nat :=
  (vtxoAmountSatsFromSnapshot (some snapshot) txid vout).getD 0

/-- One outpoint that a plan tags, with the amount its record stores. -/
structure PlanTarget where
  txid : String
  vout : UInt32
  amountSats : Nat

def PlanTarget.key (target : PlanTarget) : String :=
  vtxoExitRecordKey target.txid target.vout

/-- The `seen` guard of the tagging loops around `upsert_tagged_record`. -/
def tagUnseenTarget (now : Int) (state : Finset (String × UInt32) × VtxoExitRecords)
    (target : PlanTarget) : Finset (String × UInt32) × VtxoExitRecords :=
  let (seen, records) := state
  if (target.txid, target.vout) ∈ seen then state
  else
    (insert (target.txid, target.vout) seen,
      upsertTaggedRecord records target.txid target.vout target.txid target.amountSats now)

variable (codec : Codec)

/-- The materials chains of every selected leaf, or the first failure. -/
def planChainSets (snapshot : OffchainVtxoSnapshot) (selectedLeaves : List VirtualOutPoint) :
    ArkResult (List VtxoChains) :=
  selectedLeaves.mapM fun leaf => do
    let _ ← requireUnilateralExitMaterialsForHostTx codec snapshot leaf.txid.text
    vtxoChainsFromSnapshotMaterials codec snapshot leaf.txid.text

/-- Selected leaves first, then every exit-eligible outpoint on the plan's hosts. -/
def planTargets (snapshot : OffchainVtxoSnapshot) (selectedLeaves : List VirtualOutPoint)
    (chainSets : List VtxoChains) : List PlanTarget :=
  let hostTxids := exitHostTxids (mergeTopologyNodesFromChains chainSets)
  let leafTargets := selectedLeaves.map fun leaf => {
    txid := leaf.txid.text
    vout := leaf.vout
    amountSats := amountForOutpoint snapshot leaf.txid.text leaf.vout : PlanTarget }
  let hostTargets := (exitEligibleRecordsForTopologyHosts snapshot hostTxids).map fun record => {
    txid := record.txid
    vout := record.vout
    amountSats := record.amountSats : PlanTarget }
  leafTargets ++ hostTargets

/-- The outpoints `tag_unilateral_exit_plan_in_records` writes, or why it writes none. -/
def taggedTargets (snapshot : OffchainVtxoSnapshot) (selectedLeaves : List VirtualOutPoint) :
    ArkResult (List PlanTarget) :=
  if selectedLeaves.isEmpty then .error .emptyVtxoOutpoints
  else do
    let chainSets ← planChainSets codec snapshot selectedLeaves
    return planTargets snapshot selectedLeaves chainSets

def tagUnilateralExitPlanInRecords (snapshot : OffchainVtxoSnapshot)
    (selectedLeaves : List VirtualOutPoint) (records : VtxoExitRecords) (now : Int) :
    ArkResult Unit × VtxoExitRecords :=
  match taggedTargets codec snapshot selectedLeaves with
  | .error error => (.error error, records)
  | .ok targets => (.ok (), (targets.foldl (tagUnseenTarget now) (∅, records)).2)

/-- `plan_relevant_outpoint_keys`: the keys a plan tags in an empty map. -/
def planRelevantOutpointKeys (snapshot : OffchainVtxoSnapshot)
    (selectedLeaves : List VirtualOutPoint) : ArkResult (Finset String) :=
  match tagUnilateralExitPlanInRecords codec snapshot selectedLeaves ∅ 0 with
  | (.error error, _) => .error error
  | (.ok (), records) => .ok records.keys.toFinset

/-- `untag_unilateral_exit_plan_if_safe_in_records`: of the plan's records, drop those still
`tagged` whose host has no observation. -/
def untagUnilateralExitPlanIfSafeInRecords (snapshot : OffchainVtxoSnapshot)
    (selectedLeaves : List VirtualOutPoint) (records : VtxoExitRecords)
    (observations : HostTxObservations) : ArkResult Unit × VtxoExitRecords :=
  if selectedLeaves.isEmpty then (.ok (), records)
  else
    match planRelevantOutpointKeys codec snapshot selectedLeaves with
    | .error error => (.error error, records)
    | .ok relevant =>
      (.ok (), records.filter fun key record =>
        if key ∉ relevant then true
        else if record.phase ≠ .tagged then true
        else observations.contains record.hostTxid)

/-- `advance_records_for_host_registered` on one record. -/
def advanceRecordForHostRegistered (hostTxid : String) (record : VtxoExitRecord) : VtxoExitRecord :=
  if record.hostTxid = hostTxid ∧ record.phase = .tagged then
    { record with phase := .hostBroadcastAttempted }
  else record

def advanceRecordsForHostRegistered (hostTxid : String) : VtxoExitRecords :=
  records.map fun _ => advanceRecordForHostRegistered hostTxid

/-- `rewind_records_on_host` on one record: `unrolled` and later are on chain and stay. -/
def rewindRecordOnHost (hostTxid : String) (phase : VtxoExitPhase) (record : VtxoExitRecord) :
    VtxoExitRecord :=
  if record.hostTxid ≠ hostTxid then record
  else if !record.phase.isPreUnroll then record
  else { record with phase }

def rewindRecordsOnHost (hostTxid : String) (phase : VtxoExitPhase) : VtxoExitRecords :=
  records.map fun _ => rewindRecordOnHost hostTxid phase

/-- The pre-unroll target of `apply_host_observation_to_vtxo_exit_records`. -/
def nextPhase (relayed : Bool) (confirmations : Nat) (unrolled : Bool) : VtxoExitPhase :=
  if unrolled then .unrolled
  else if stepReachedConfirmation confirmations then .hostConfirmed
  else if relayed then .hostRelayed
  else .hostBroadcastAttempted

/-- `apply_host_observation_to_vtxo_exit_records` on one record. -/
def applyHostObservation (hostTxid : String) (relayed : Bool) (confirmations : Nat)
    (unrolled : Bool) (record : VtxoExitRecord) : VtxoExitRecord :=
  let next := nextPhase relayed confirmations unrolled
  if record.hostTxid ≠ hostTxid then record
  else if record.phase.isTerminal || record.phase == .completeReady then record
  else if unrolled && record.phase.isPreUnroll then { record with phase := .unrolled }
  else if !unrolled && record.phase == .unrolled then { record with phase := next }
  else if record.phase.isPreUnroll && decide (record.phase < next)
      && decide (next < .unrolled) then { record with phase := next }
  else record

def applyHostObservationToVtxoExitRecords (hostTxid : String) (relayed : Bool) (confirmations : Nat)
    (unrolled : Bool) : VtxoExitRecords :=
  records.map fun _ => applyHostObservation hostTxid relayed confirmations unrolled

/-- `host_txids_from_vtxo_exit_records`: the hosts of records that are not yet unrolled. -/
def hostTxidsFromVtxoExitRecords : List String :=
  let preUnroll := (BTreeMap.vals records).filter fun record => record.phase.isPreUnroll
  (preUnroll.map (·.hostTxid)).eraseDups

/-- `observation_all_records_terminal`: the host has records and all of them are terminal. -/
def observationAllRecordsTerminal (hostTxid : String) : Bool :=
  let onHost := (BTreeMap.vals records).filter fun record => record.hostTxid == hostTxid
  !onHost.isEmpty && onHost.all fun record => record.phase.isTerminal

def exitOutpointKeyFromStr (txid : String) (vout : UInt32) : Option OutPoint :=
  (Txid.fromStr txid).map fun txid => { txid, vout }

def recordOutpointKeysWhere (includePhase : VtxoExitPhase → Bool) : Finset OutPoint :=
  ((records.toList.filter fun (_, record) => includePhase record.phase).filterMap
    fun (key, _) => (parseVtxoExitRecordKey key).bind fun (txid, vout) =>
      exitOutpointKeyFromStr txid vout).toFinset

/-- `unilateral_exit_spend_locked_outpoints`: what sends and collaborative exits exclude. -/
def unilateralExitSpendLockedOutpoints : Finset OutPoint :=
  recordOutpointKeysWhere records VtxoExitPhase.locksCollaborativeSpend

/-- `mark_records_exited_for_outpoints`: missing keys are ignored. -/
def markRecordsExitedForOutpoints (outpoints : List OutPoint) : VtxoExitRecords :=
  outpoints.foldl (fun records outpoint =>
    records.modify (vtxoExitRecordKey outpoint.txid.text outpoint.vout) fun record =>
      { record with phase := .exited }) records

def markRecordCompleteReady (record : VtxoExitRecord) : VtxoExitRecord :=
  if record.phase = .unrolled then { record with phase := .completeReady } else record

/-- The complete-ready stamp of the candidates overlay on the record at one key. -/
def stampCompleteReady (key : String) : VtxoExitRecords :=
  records.modify key markRecordCompleteReady

/-- `note_spent_pipeline_records_exited` on the record at one key. -/
def noteSpentRecord (snapshotRecords : List VirtualTxOutPointRecord) (key : String)
    (record : VtxoExitRecord) : VtxoExitRecord :=
  if !record.phase.isPipeline then record
  else
    match parseVtxoExitRecordKey key with
    | none => record
    | some (txid, vout) =>
      if snapshotRecords.any fun row => row.isAt txid vout && row.isSpent then
        { record with phase := .exited }
      else record

def noteSpentPipelineRecordsExited (snapshotRecords : List VirtualTxOutPointRecord) :
    VtxoExitRecords :=
  records.map (noteSpentRecord snapshotRecords)

/-- `stamp_pre_unroll_records_funding_lost` on the record at one key. -/
def fundingLostRecord (keys : Finset String) (key : String) (record : VtxoExitRecord) :
    VtxoExitRecord :=
  if key ∈ keys ∧ record.phase.isPreUnroll = true then { record with phase := .fundingLost }
  else record

def stampPreUnrollRecordsFundingLost (keys : Finset String) : VtxoExitRecords :=
  records.map (fundingLostRecord keys)

def preUnrollRecordKeysOnSameBranch (snapshot : OffchainVtxoSnapshot)
    (records : VtxoExitRecords) (seedTxid : String) (seedVout : UInt32) :
    ArkResult (Finset String) := do
  let seedKey := vtxoExitRecordKey seedTxid seedVout
  let seedHost := (records[seedKey]?.map (·.hostTxid)).getD seedTxid
  let branchHosts ← hostTxidsOnSameMaterialsBranch codec snapshot seedHost
  let onBranch := records.toList.filter fun (_, record) =>
    record.phase.isPreUnroll && decide (record.hostTxid ∈ branchHosts)
  return insert seedKey (onBranch.map (·.1)).toFinset

/-- The keys `stamp_pre_unroll_records_funding_lost_for_asp_swept` collects for one record. -/
def aspSweptKeys (snapshot : OffchainVtxoSnapshot) (records : VtxoExitRecords)
    (virtualTxIsMarkedUnrolled : String → Bool) (outpoint : String × UInt32) :
    ArkResult (Finset String) :=
  let (txid, vout) := outpoint
  if virtualTxIsMarkedUnrolled txid then .ok ∅
  else
    match snapshotRecord snapshot txid vout with
    | none => .ok ∅
    | some row =>
      if row.isSwept && !row.isUnrolled then
        preUnrollRecordKeysOnSameBranch codec snapshot records txid vout
      else .ok ∅

def stampPreUnrollRecordsFundingLostForAspSwept (snapshot : OffchainVtxoSnapshot)
    (records : VtxoExitRecords) (autonomousMode : Bool)
    (virtualTxIsMarkedUnrolled : String → Bool) : ArkResult Bool × VtxoExitRecords :=
  if autonomousMode then (.ok false, records)
  else
    let preUnroll := (records.toList.filter fun (_, record) => record.phase.isPreUnroll).filterMap
      fun (key, _) => parseVtxoExitRecordKey key
    match preUnroll.mapM (aspSweptKeys codec snapshot records virtualTxIsMarkedUnrolled) with
    | .error error => (.error error, records)
    | .ok keySets =>
      let keysToStamp := keySets.foldl (· ∪ ·) ∅
      if keysToStamp = ∅ then (.ok false, records)
      else (.ok true, stampPreUnrollRecordsFundingLost records keysToStamp)

def insertIfAbsent (txid : String) (vout : UInt32) (amountSats : Nat) (phase : VtxoExitPhase)
    (now : Int) : VtxoExitRecords :=
  records.insertIfNew (vtxoExitRecordKey txid vout)
    { phase, taggedAt := now, hostTxid := txid, amountSats }

variable (snapshot : Option OffchainVtxoSnapshot)

def snapshotRowIsSpent (txid : String) (vout : UInt32) : Bool :=
  match snapshot with
  | none => false
  | some snapshot => snapshot.virtualTxOutpoints.any fun row => row.isAt txid vout && row.isSpent

def healRow (now : Int) (records : VtxoExitRecords) (row : VirtualTxOutPointRecord) :
    VtxoExitRecords :=
  if row.isUnrolled && !row.isSpent then
    insertIfAbsent records row.txid row.vout row.amountSats .unrolled now
  else records

def healPending (now : Int) (records : VtxoExitRecords) (pending : PendingExitDeductionRecord) :
    VtxoExitRecords :=
  if pending.kind ≠ .unilateral then records
  else
    match pending.vtxoTxid with
    | none => records
    | some txid =>
      let vout := pending.vout.getD 0
      if snapshotRowIsSpent snapshot txid vout then records
      else insertIfAbsent records txid vout pending.amountSats .tagged now

/-- The loop over snapshot rows, if there is a snapshot. -/
def healRows (records : VtxoExitRecords) (now : Int) : VtxoExitRecords :=
  match snapshot with
  | none => records
  | some snapshot => snapshot.virtualTxOutpoints.foldl (healRow now) records

/-- `heal_vtxo_exit_records_from_legacy`: snapshot rows first, so that a pending deduction
cannot overwrite `unrolled`. -/
def healVtxoExitRecordsFromLegacy (pending : List PendingExitDeductionRecord)
    (records : VtxoExitRecords) (now : Int) : VtxoExitRecords :=
  pending.foldl (healPending snapshot now) (healRows snapshot records now)

end Bitboard.Arkade
