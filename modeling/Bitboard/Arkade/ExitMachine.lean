/-
# The exit-record machine

Every operation that writes the exit records, as a step of the wallet database. The
session's RPCs read the database, compute, and write back; an operation that fails
writes nothing. Between two operations a sync may replace the snapshot or its exit
materials, and pending deductions may change, so these appear as steps with arbitrary
new values.
-/

import Bitboard.Arkade.HostTxFinality
import Bitboard.Lib.Run

namespace Bitboard.Arkade

open Bitboard.Lib

section Session

variable (codec : Codec) (db : WalletDb)

def tagUnilateralExitPlan (selectedLeaves : List VirtualOutPoint) (now : Int) :
    ArkResult Unit × WalletDb :=
  match db.offchainVtxoSnapshot with
  | none => (.error (.snapshot "offchain snapshot missing"), db)
  | some snapshot =>
    match tagUnilateralExitPlanInRecords codec snapshot selectedLeaves db.vtxoExitRecords now
    with
    | (.error error, _) => (.error error, db)
    | (.ok (), records) => (.ok (), { db with vtxoExitRecords := records })

def untagUnilateralExitPlanIfSafe (selectedLeaves : List VirtualOutPoint) :
    ArkResult Unit × WalletDb :=
  match db.offchainVtxoSnapshot with
  | none => (.ok (), db)
  | some snapshot =>
    match untagUnilateralExitPlanIfSafeInRecords codec snapshot selectedLeaves
      db.vtxoExitRecords db.hostTxObservations with
    | (.error error, _) => (.error error, db)
    | (.ok (), records) => (.ok (), { db with vtxoExitRecords := records })

/-- `register_host_tx_observation`, which proceed calls before it broadcasts. -/
def registerHostTxObservation (hostTxid : String) (now : Int) : WalletDb :=
  { db with
    hostTxObservations := insertHostTxObservation db.hostTxObservations hostTxid now }

/-- Proceed's advance of the records of the host it registered. -/
def advanceRegisteredHost (hostTxid : String) : WalletDb :=
  { db with
    vtxoExitRecords := advanceRecordsForHostRegistered db.vtxoExitRecords hostTxid }

def healVtxoExitRecords (now : Int) : WalletDb :=
  { db with
    vtxoExitRecords := healVtxoExitRecordsFromLegacy db.offchainVtxoSnapshot
      db.pendingExitDeductions db.vtxoExitRecords now }

/-- `reconcile_host_tx_finality_state` on the stored values; without a snapshot the session
returns before it. -/
def reconcileStoredFinality (now : Int) (probe : String → Option HostTxProbe) : WalletDb :=
  match db.offchainVtxoSnapshot with
  | none => db
  | some snapshot =>
    let state := reconcileHostTxFinalityState codec snapshot db.hostTxObservations
      db.pendingExitDeductions db.vtxoExitRecords now probe
    { db with
      offchainVtxoSnapshot := some state.snapshot
      hostTxObservations := state.observations
      vtxoExitRecords := state.vtxoExitRecords }

/-- The rows of the stored snapshot, if there is one. -/
def WalletDb.snapshotRecords : List VirtualTxOutPointRecord :=
  match db.offchainVtxoSnapshot with
  | none => []
  | some snapshot => snapshot.virtualTxOutpoints

def stampStoredAspSwept (autonomousMode : Bool) (virtualTxIsMarkedUnrolled : String → Bool) :
    WalletDb :=
  match db.offchainVtxoSnapshot with
  | none => db
  | some snapshot =>
    { db with
      vtxoExitRecords := (stampPreUnrollRecordsFundingLostForAspSwept codec snapshot
        db.vtxoExitRecords autonomousMode virtualTxIsMarkedUnrolled).2 }

/-- A prefetch stores new exit materials in the snapshot, if there is one. -/
def updateStoredMaterials (materials : ExitMaterialsMap) : WalletDb :=
  { db with
    offchainVtxoSnapshot := db.offchainVtxoSnapshot.map fun snapshot =>
      { snapshot with unilateralExitMaterialsByHostTx := materials } }

end Session

inductive ExitOp where
  | tag (selectedLeaves : List VirtualOutPoint) (now : Int)
  | untag (selectedLeaves : List VirtualOutPoint)
  | registerHost (hostTxid : String) (now : Int)
  | advance (hostTxid : String)
  | reconcile (now : Int) (probe : String → Option HostTxProbe)
  | completeReady (key : String)
  | markExited (outpoints : List OutPoint)
  | noteSpent
  | stampFundingLost (keys : Finset String)
  | stampAspSwept (autonomousMode : Bool) (virtualTxIsMarkedUnrolled : String → Bool)
  | heal (now : Int)
  | rewind (hostTxid : String) (phase : VtxoExitPhase)
  | updateMaterials (materials : ExitMaterialsMap)
  | setSnapshot (snapshot : Option OffchainVtxoSnapshot)
  | setPending (pending : List PendingExitDeductionRecord)

/-- The database after one operation. A refused operation leaves it as it was. -/
def exitStep (codec : Codec) (db : WalletDb) : ExitOp → WalletDb
  | .tag selectedLeaves now => (tagUnilateralExitPlan codec db selectedLeaves now).2
  | .untag selectedLeaves => (untagUnilateralExitPlanIfSafe codec db selectedLeaves).2
  | .registerHost hostTxid now => registerHostTxObservation db hostTxid now
  | .advance hostTxid => advanceRegisteredHost db hostTxid
  | .reconcile now probe => reconcileStoredFinality codec db now probe
  | .completeReady key =>
    { db with vtxoExitRecords := stampCompleteReady db.vtxoExitRecords key }
  | .markExited outpoints =>
    { db with vtxoExitRecords := markRecordsExitedForOutpoints db.vtxoExitRecords outpoints }
  | .noteSpent =>
    { db with
      vtxoExitRecords := noteSpentPipelineRecordsExited db.vtxoExitRecords db.snapshotRecords }
  | .stampFundingLost keys =>
    { db with vtxoExitRecords := stampPreUnrollRecordsFundingLost db.vtxoExitRecords keys }
  | .stampAspSwept autonomousMode virtualTxIsMarkedUnrolled =>
    stampStoredAspSwept codec db autonomousMode virtualTxIsMarkedUnrolled
  | .heal now => healVtxoExitRecords db now
  | .rewind hostTxid phase =>
    { db with vtxoExitRecords := rewindRecordsOnHost db.vtxoExitRecords hostTxid phase }
  | .updateMaterials materials => updateStoredMaterials db materials
  | .setSnapshot snapshot => { db with offchainVtxoSnapshot := snapshot }
  | .setPending pending => { db with pendingExitDeductions := pending }

def exitRun (codec : Codec) (db : WalletDb) (ops : List ExitOp) : WalletDb :=
  run (exitStep codec) db ops

theorem exitRun_nil (codec : Codec) (db : WalletDb) : exitRun codec db [] = db := rfl

theorem exitRun_cons (codec : Codec) (db : WalletDb) (op : ExitOp) (ops : List ExitOp) :
    exitRun codec db (op :: ops) = exitRun codec (exitStep codec db op) ops := rfl

theorem exitRun_append (codec : Codec) (db : WalletDb) (first second : List ExitOp) :
    exitRun codec db (first ++ second) = exitRun codec (exitRun codec db first) second :=
  run_append _ _ _ _

/-- A wallet before any exit: no records yet, anything else as it may be. -/
def WalletDb.withoutRecords (db : WalletDb) : WalletDb := { db with vtxoExitRecords := ∅ }

/-- A wallet that has registered no host yet, anything else as it may be. -/
def WalletDb.withoutObservations (db : WalletDb) : WalletDb := { db with hostTxObservations := ∅ }

end Bitboard.Arkade
