/-
# Writers of the off-chain snapshot

The session is shared by tasks that read the stored snapshot, wait for the network, and
commit later. A light sync reads a prior snapshot for its fetch, stages a merge onto the
snapshot stored by then, and commits by overlay. A full-list sync reads its prior when the
list has arrived and commits by replacing. A finality pass reads its base and commits by
overlay. Completion marks an output spent in the stored snapshot at once.

A state holds every snapshot committed so far, newest first, and the tasks under way. The
other stores are not part of it: what a task reads of them is an input of its commit, so a
run covers every interleaving with their writers.
-/

import Bitboard.Lib.Run
import Bitboard.Arkade.OperatorSync
import Bitboard.Arkade.HostTxFinality

namespace Bitboard.Arkade

open Bitboard.Lib

inductive SnapshotCommit where
  | replace
  | overlayOnto (base : OffchainVtxoSnapshot)

/-- `commit_operator_snapshot`: what is stored afterwards. -/
def commitOperatorSnapshot (stored : Option OffchainVtxoSnapshot)
    (snapshot : OffchainVtxoSnapshot) : SnapshotCommit → OffchainVtxoSnapshot
  | .replace => snapshot
  | .overlayOnto base =>
    match stored with
    | none => snapshot
    | some latest => overlayChangedVtxoRows latest base snapshot

/-- A task that waits for the network, with the snapshots it has read and made. -/
inductive SyncTask where
  /-- A light sync that waits for its fetch. -/
  | light (prior : OffchainVtxoSnapshot)
  /-- A light sync whose merge is being finalized. -/
  | staged (base merged : OffchainVtxoSnapshot)
  /-- A full-list sync whose list is being finalized. -/
  | full (prior : Option OffchainVtxoSnapshot) (listed : OffchainVtxoSnapshot)
  /-- A finality pass that waits for its probes. -/
  | finality (base : OffchainVtxoSnapshot)

/-- What one finalize reads besides its snapshots: the other stores, the network, and the exit
materials that the prefetch leaves. -/
structure FinalizeReads where
  observations : HostTxObservations
  pending : List PendingExitDeductionRecord
  records : VtxoExitRecords
  reread : List OutPoint → VtxoExitRecords
  answers : SyncAnswers
  prefetched : ExitMaterialsMap

/-- What one finality pass reads besides its snapshot. -/
structure FinalityReads where
  observations : HostTxObservations
  pending : List PendingExitDeductionRecord
  records : VtxoExitRecords
  now : Int
  probe : String → Option HostTxProbe

inductive SyncOp where
  /-- A light sync starts. -/
  | beginLight
  /-- Its fetch arrives and is merged onto the stored snapshot. -/
  | stageLight (task : Nat) (pks : ServerPks) (fetched : List VirtualTxOutPoint) (now : Int)
  /-- A full list arrives; a blocking sync stamps it as listed, a background one keeps the
  stamp it has. -/
  | listFull (blocking : Bool) (pks : ServerPks) (dustSats : Nat) (now : Int)
      (points : List VirtualTxOutPoint)
  /-- A finality pass starts. -/
  | beginFinality
  /-- A staged or full sync is finalized and commits, or fails. -/
  | commitSync (task : Nat) (reads : FinalizeReads)
  /-- The probes of a finality pass are in and it commits. -/
  | commitFinality (task : Nat) (reads : FinalityReads)
  /-- Completion spends an output. -/
  | markSpent (txid : String) (vout : UInt32) (spentBy : String)
  /-- A background full-list sync is complete. -/
  | stampFullListedAt (fullListedAt : Int)

/-- Every snapshot committed so far, newest first, and the tasks under way. -/
structure SyncState where
  committed : List OffchainVtxoSnapshot
  tasks : List SyncTask

variable (state : SyncState)

namespace SyncState

def stored : Option OffchainVtxoSnapshot := state.committed.head?

/-- A session that opens with the given snapshot stored. -/
def opened (stored : Option OffchainVtxoSnapshot) : SyncState where
  committed := stored.toList
  tasks := []

def begin (task : SyncTask) : SyncState :=
  { state with tasks := state.tasks ++ [task] }

def write (snapshot : OffchainVtxoSnapshot) : SyncState :=
  { state with committed := snapshot :: state.committed }

def finish (task : Nat) : SyncState :=
  { state with tasks := state.tasks.eraseIdx task }

/-- A writer that changes the stored snapshot in place, if there is one. -/
def update (f : OffchainVtxoSnapshot → OffchainVtxoSnapshot) : SyncState :=
  match state.stored with
  | none => state
  | some snapshot => state.write (f snapshot)

end SyncState

def fullList (blocking : Bool) (pks : ServerPks) (dustSats : Nat) (now : Int)
    (points : List VirtualTxOutPoint) (prior : Option OffchainVtxoSnapshot) :
    OffchainVtxoSnapshot :=
  { snapshotFromVirtualTxOutpoints pks dustSats now points with
    fullListedAt := if blocking then now else (prior.map (·.fullListedAt)).getD 0 }

variable (codec : Codec)

def finalizedSnapshot (reads : FinalizeReads) (incoming : OffchainVtxoSnapshot)
    (prior : Option OffchainVtxoSnapshot) : ArkResult OffchainVtxoSnapshot := do
  let result ← finalizePasses codec reads.answers reads.observations reads.pending reads.records
    reads.reread incoming prior
  return { result.snapshot with unilateralExitMaterialsByHostTx := reads.prefetched }

/-- `finalize_operator_sync_snapshot` up to its commit; a finalize that fails writes nothing.
One that is stopped between its passes and its commit, by a row that does not convert or by the
operator's trust check, is a task whose commit is not in the run. -/
def finalizeAndCommit (state : SyncState) (reads : FinalizeReads)
    (incoming : OffchainVtxoSnapshot) (prior : Option OffchainVtxoSnapshot)
    (commit : SnapshotCommit) : SyncState :=
  match finalizedSnapshot codec reads incoming prior with
  | .error _ => state
  | .ok snapshot => state.write (commitOperatorSnapshot state.stored snapshot commit)

def finalitySnapshot (reads : FinalityReads) (base : OffchainVtxoSnapshot) : OffchainVtxoSnapshot :=
  (reconcileHostTxFinalityState codec base reads.observations reads.pending reads.records
    reads.now reads.probe).snapshot

def syncStep (state : SyncState) : SyncOp → SyncState
  | .beginLight =>
    match state.stored with
    | none => state
    | some prior => state.begin (.light prior)
  | .stageLight task pks fetched now =>
    match state.tasks[task]? with
    | some (.light prior) =>
      let base := state.stored.getD prior
      (state.finish task).begin
        (.staged base (mergeIncrementalVtxoSnapshot pks base fetched now))
    | _ => state
  | .listFull blocking pks dustSats now points =>
    state.begin (.full state.stored (fullList blocking pks dustSats now points state.stored))
  | .beginFinality =>
    match state.stored with
    | none => state
    | some base => state.begin (.finality base)
  | .commitSync task reads =>
    match state.tasks[task]? with
    | some (.staged base merged) =>
      finalizeAndCommit codec (state.finish task) reads merged (some base)
        (.overlayOnto base)
    | some (.full prior listed) =>
      finalizeAndCommit codec (state.finish task) reads listed prior .replace
    | _ => state
  | .commitFinality task reads =>
    match state.tasks[task]? with
    | some (.finality base) =>
      (state.finish task).write (commitOperatorSnapshot state.stored
        (finalitySnapshot codec reads base) (.overlayOnto base))
    | _ => state
  | .markSpent txid vout spentBy =>
    state.update fun snapshot => markVtxoSpentInSnapshot snapshot txid vout spentBy
  | .stampFullListedAt fullListedAt =>
    state.update fun snapshot => { snapshot with fullListedAt }

def syncRun (state : SyncState) (ops : List SyncOp) : SyncState := run (syncStep codec) state ops

end Bitboard.Arkade
