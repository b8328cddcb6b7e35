/-
# The finality pass over host transactions

`reconcile_host_tx_finality_state` probes every host transaction that is not final,
stamps or clears `is_unrolled` on the rows of stampable hosts, feeds what the probe
saw into observations and record phases, counts misses of transactions that were
never seen, and drops observations that have no more use.

The loop is modelled as the source runs it, host after host. `HostTxFinalityLookup`
reads it one host at a time.
-/

import Bitboard.Arkade.VtxoExit

namespace Bitboard.Arkade

open Bitboard.Lib

/-- First never-seen miss is eligible this many seconds after registration. -/
def hostTxNeverSeenFirstProbeAfterSecs : Int := 10 * 60

/-- Minimum spacing in seconds between eligible never-seen misses. -/
def hostTxNeverSeenProbeSpacingSecs : Int := 60

/-- Eligible misses after which the observation is deleted. -/
def hostTxNeverSeenMaxEligibleMisses : Nat := 5

/-- What Esplora answered for one host transaction. A probe that failed is `none`. -/
structure HostTxProbe where
  seen : Bool
  confirmations : Nat

def HostTxProbe.found (probe : HostTxProbe) : Bool :=
  decide (0 < probe.confirmations) || probe.seen

variable (record : HostTxObservationRecord)

def neverSeenMissIsEligible (now : Int) : Bool :=
  if record.neverSeenProbes = 0 then
    decide (record.registeredAt + hostTxNeverSeenFirstProbeAfterSecs ≤ now)
  else decide (record.lastProbedAt + hostTxNeverSeenProbeSpacingSecs ≤ now)

def saturatingSucc (n : Nat) : Nat := min (n + 1) (UInt32.size - 1)

/-- The record `apply_absent_probe` leaves: an eligible miss is counted and timed. -/
def countAbsentProbe (now : Int) : HostTxObservationRecord :=
  if neverSeenMissIsEligible record now then
    { record with neverSeenProbes := saturatingSucc record.neverSeenProbes, lastProbedAt := now }
  else record

/-- `apply_absent_probe`: the updated record and whether the budget is exhausted. -/
def applyAbsentProbe (now : Int) : HostTxObservationRecord × Bool :=
  let record := countAbsentProbe record now
  (record, decide (hostTxNeverSeenMaxEligibleMisses ≤ record.neverSeenProbes))

def pendingUnilateralHostTxids (pending : List PendingExitDeductionRecord) : List String :=
  (pending.filterMap fun record =>
    if record.kind ≠ .unilateral then none else record.vtxoTxid).eraseDups

def hostNotFinal (observations : HostTxObservations) (hostTxid : String) : Bool :=
  match observations[hostTxid]? with
  | none => true
  | some record => decide (record.confirmations < unilateralExitHostTxConfirmations)

variable (codec : Codec)
variable (snapshot : OffchainVtxoSnapshot)

/-- `host_txids_to_probe`, in iteration order. -/
def hostTxidsToProbe (observations : HostTxObservations) (pending : List PendingExitDeductionRecord)
    (vtxoExitRecords : VtxoExitRecords) : BTreeSet String :=
  let observed := (observations.toList.filter fun (_, record) =>
    decide (record.confirmations < unilateralExitHostTxConfirmations)).map (·.1)
  let recorded := (hostTxidsFromVtxoExitRecords vtxoExitRecords).filter
    (hostNotFinal observations)
  let pendingHosts := (hostTxidsForMaterialKeys codec snapshot
    (pendingUnilateralHostTxids pending)).filter fun hostTxid => !observations.contains hostTxid
  Std.ExtTreeSet.ofList (observed ++ recorded ++ pendingHosts)

/-- `mark_virtual_tx_vtxos_unrolled_in_snapshot` and
`clear_virtual_tx_vtxos_unrolled_in_snapshot`, which differ in the flag they write. -/
def setVirtualTxVtxosUnrolled (unrolled : Bool) (snapshot : OffchainVtxoSnapshot)
    (txid : String) : OffchainVtxoSnapshot :=
  snapshot.mapRows fun row => if row.txid = txid then { row with isUnrolled := unrolled } else row

def markVirtualTxVtxosUnrolledInSnapshot : OffchainVtxoSnapshot → String → OffchainVtxoSnapshot :=
  setVirtualTxVtxosUnrolled true

def clearVirtualTxVtxosUnrolledInSnapshot : OffchainVtxoSnapshot → String → OffchainVtxoSnapshot :=
  setVirtualTxVtxosUnrolled false

/-- `stamp_host_if_final`: whether the host is final, and the snapshot it leaves. -/
def stampHostIfFinal (hostTxid : String) (confirmations : Nat) : Bool × OffchainVtxoSnapshot :=
  if !hostTxReachedFinality confirmations then
    (false, clearVirtualTxVtxosUnrolledInSnapshot snapshot hostTxid)
  else (true, markVirtualTxVtxosUnrolledInSnapshot snapshot hostTxid)

/-- The stamp of one probed host, made only for stampable hosts. -/
def stampStampableHost (stampable : Finset String) (snapshot : OffchainVtxoSnapshot)
    (hostTxid : String) (confirmations : Nat) : Bool × OffchainVtxoSnapshot :=
  if hostTxid ∈ stampable then stampHostIfFinal snapshot hostTxid confirmations
  else (false, snapshot)

def observationAllSnapshotVoutsSpent (hostTxid : String) : Bool :=
  let onHost := snapshot.virtualTxOutpoints.filter fun row => row.txid == hostTxid
  !onHost.isEmpty && onHost.all fun row => row.isSpent

/-- The values the loop of `reconcile_host_tx_finality_state` carries. -/
structure FinalityState where
  snapshot : OffchainVtxoSnapshot
  observations : HostTxObservations
  vtxoExitRecords : VtxoExitRecords
  deleteTxids : List String

/-- The loop body of `reconcile_host_tx_finality_state`. -/
def reconcileHostTx (stampable : Finset String) (now : Int)
    (probe : String → Option HostTxProbe) (state : FinalityState) (txid : String) :
    FinalityState :=
  match probe txid with
  | none => state
  | some answer =>
    let (unrolled, snapshot) :=
      stampStampableHost stampable state.snapshot txid answer.confirmations
    match state.observations[txid]? with
    | some record =>
      if answer.found then
        let rewound :=
          if stepReachedConfirmation record.confirmations && answer.confirmations == 0 then
            rewindRecordsOnHost state.vtxoExitRecords txid
              (if answer.seen then .hostRelayed else .hostBroadcastAttempted)
          else state.vtxoExitRecords
        { state with
          snapshot
          observations := state.observations.insert txid { record with
            relayed := true
            confirmations := answer.confirmations
            lastProbedAt := now
            neverSeenProbes := 0 }
          vtxoExitRecords := applyHostObservationToVtxoExitRecords rewound txid true
            answer.confirmations unrolled }
      else if record.relayed || stepReachedConfirmation record.confirmations then
        { state with
          snapshot
          observations := state.observations.insert txid { record with
            relayed := false
            confirmations := 0
            lastProbedAt := now }
          vtxoExitRecords :=
            rewindRecordsOnHost state.vtxoExitRecords txid .hostBroadcastAttempted }
      else
        let (record, exhausted) := applyAbsentProbe record now
        { state with
          snapshot
          observations := state.observations.insert txid record
          deleteTxids :=
            if exhausted then state.deleteTxids ++ [txid] else state.deleteTxids }
    | none =>
      if decide (txid ∈ stampable) && answer.found then
        { state with
          snapshot
          vtxoExitRecords := applyHostObservationToVtxoExitRecords state.vtxoExitRecords txid
            answer.found answer.confirmations unrolled }
      else { state with snapshot }

/-- A host whose budget is exhausted: its records go back to `tagged`, its observation goes. -/
def deleteNeverSeenHost (state : FinalityState) (txid : String) : FinalityState :=
  { state with
    vtxoExitRecords := rewindRecordsOnHost state.vtxoExitRecords txid .tagged
    observations := state.observations.erase txid }

def reconcileHostTxFinalityState (observations : HostTxObservations)
    (pending : List PendingExitDeductionRecord) (vtxoExitRecords : VtxoExitRecords) (now : Int)
    (probe : String → Option HostTxProbe) : FinalityState :=
  let stampable := stampableHosts codec snapshot
  let txids := hostTxidsToProbe codec snapshot observations pending vtxoExitRecords
  let probed := txids.toList.foldl (reconcileHostTx stampable now probe)
    { snapshot, observations, vtxoExitRecords, deleteTxids := [] }
  let state := probed.deleteTxids.foldl deleteNeverSeenHost probed
  { state with
    observations := state.observations.filter fun txid _ =>
      !observationAllSnapshotVoutsSpent state.snapshot txid &&
        !observationAllRecordsTerminal state.vtxoExitRecords txid }

end Bitboard.Arkade
