/-
# The persisted exit job

The app keeps the exit job of a wallet scope in memory and writes it behind to the
SDK persistence of the worker. A write is scheduled behind the earlier ones of the
scope, reads the memory only when its turn comes, and then awaits the worker. A
session reset forgets the memory, and a hydrate fetches the stored bundle, or
migrates the job of the older settings table, before it replaces the memory.

All stores are keyed by the scope, so one scope is modelled. Its inputs are the calls
of the app and the points at which an await ends.
-/

import Bitboard.Lib.Run

namespace Bitboard.Frontend

open Bitboard.Lib

structure ArkadeVtxoOutpoint where
  txid : String
  vout : Nat
deriving DecidableEq

/-- The order of the sort. The texts are lower-case hexadecimal, on which `localeCompare`
is the order of their characters. -/
def ArkadeVtxoOutpoint.le (left right : ArkadeVtxoOutpoint) : Bool :=
  match compare left.txid right.txid with
  | .lt => true
  | .gt => false
  | .eq => left.vout ≤ right.vout

variable (outpoints : List ArkadeVtxoOutpoint)

def sortArkadeVtxoOutpoints : List ArkadeVtxoOutpoint :=
  outpoints.mergeSort ArkadeVtxoOutpoint.le

def arkadeVtxoOutpointListsEqual (left right : List ArkadeVtxoOutpoint) : Bool :=
  left == right

def arkadeVtxoOutpointCacheKey : String :=
  ",".intercalate ((sortArkadeVtxoOutpoints outpoints).map fun outpoint =>
    outpoint.txid ++ ":" ++ toString outpoint.vout)

structure PersistedUnilateralExitJob where
  selectedLeafOutpoints : List ArkadeVtxoOutpoint
  currentStepRelayedSinceUnix : Option Int
  jobStartedAtUnix : Option Int
deriving DecidableEq

def emptyPersistedUnilateralExitJob : PersistedUnilateralExitJob where
  selectedLeafOutpoints := []
  currentStepRelayedSinceUnix := none
  jobStartedAtUnix := none

def newActivePersistedJob (selectedLeafOutpoints : List ArkadeVtxoOutpoint) (now : Int) :
    PersistedUnilateralExitJob where
  selectedLeafOutpoints
  currentStepRelayedSinceUnix := none
  jobStartedAtUnix := some now

def persistedJobOutpointsUnchanged (current : PersistedUnilateralExitJob)
    (selectedLeafOutpoints : List ArkadeVtxoOutpoint) : Bool :=
  decide (0 < current.selectedLeafOutpoints.length) &&
    arkadeVtxoOutpointCacheKey current.selectedLeafOutpoints ==
      arkadeVtxoOutpointCacheKey selectedLeafOutpoints

structure LegacyPersistedJob where
  selectedLeafOutpoints : Option (List ArkadeVtxoOutpoint)
  currentStepRelayedSinceUnix : Option Int
  jobStartedAtUnix : Option Int
  jobActive : Option Bool
  suppressHydrateResume : Option Bool

def migratePersistedUnilateralExitJob (job : LegacyPersistedJob) : PersistedUnilateralExitJob :=
  let selectedLeafOutpoints := job.selectedLeafOutpoints.getD []
  if job.jobActive = some false ∨ job.suppressHydrateResume = some true ∨
      selectedLeafOutpoints.length = 0 then
    emptyPersistedUnilateralExitJob
  else
    { selectedLeafOutpoints
      currentStepRelayedSinceUnix := job.currentStepRelayedSinceUnix
      jobStartedAtUnix := job.jobStartedAtUnix }

/-- The job to migrate: that of the settings row, or an empty one without a row. -/
def settingsJobToMigrate : Option LegacyPersistedJob → PersistedUnilateralExitJob
  | none => emptyPersistedUnilateralExitJob
  | some job => migratePersistedUnilateralExitJob job

inductive Hydrate where
  /-- It has asked the worker for the bundle. -/
  | reading
  /-- The worker had no bundle; it reads the settings table. -/
  | readingSettings
  /-- It has asked the worker to store the migrated job. -/
  | storing (job : PersistedUnilateralExitJob)
  /-- The answer of the worker is on its way back. -/
  | applying (job : PersistedUnilateralExitJob)
  /-- It removes the settings row. -/
  | cleaning

def Hydrate.isPastRead : Hydrate → Bool
  | .readingSettings | .storing _ | .applying _ => true
  | .reading | .cleaning => false

def Hydrate.isMigrating : Hydrate → Bool
  | .readingSettings | .storing _ => true
  | .reading | .applying _ | .cleaning => false

/-- The job in memory, the job in the worker's bundle, the settings row, the scheduled
writes that have not read the memory yet, the write that awaits the worker, and the
hydrates under way. `lastJob` is the job of the last persist, update or clear; before the
first one, it is the job that the bundle held or that was migrated into it. -/
structure JobStore where
  memory : Option PersistedUnilateralExitJob
  hydrated : Bool
  durable : Option PersistedUnilateralExitJob
  settingsJob : Option LegacyPersistedJob
  queued : Nat
  inFlight : Option PersistedUnilateralExitJob
  hydrates : Nat → Option Hydrate
  lastJob : Option PersistedUnilateralExitJob

namespace JobStore

variable (store : JobStore)
variable (name : Nat)
variable (job : PersistedUnilateralExitJob)

def getJob : PersistedUnilateralExitJob :=
  store.memory.getD emptyPersistedUnilateralExitJob

/-- A change of the job in memory, with the write it schedules. -/
def writeJob : JobStore :=
  { store with memory := some job, queued := store.queued + 1, lastJob := some job }

def persistActiveUnilateralExitJob (outpoints : List ArkadeVtxoOutpoint) (now : Int) : JobStore :=
  store.writeJob (newActivePersistedJob (sortArkadeVtxoOutpoints outpoints) now)

/-- Only a job that differs from the one before schedules a write. -/
def ensurePersistedUnilateralExitJob (outpoints : List ArkadeVtxoOutpoint) (now : Int) : JobStore :=
  let before := store.getJob
  let sorted := sortArkadeVtxoOutpoints outpoints
  if persistedJobOutpointsUnchanged before sorted then store
  else
    let after := newActivePersistedJob sorted now
    if before.jobStartedAtUnix ≠ after.jobStartedAtUnix ∨
        before.currentStepRelayedSinceUnix ≠ after.currentStepRelayedSinceUnix ∨
        arkadeVtxoOutpointCacheKey before.selectedLeafOutpoints ≠
          arkadeVtxoOutpointCacheKey after.selectedLeafOutpoints then
      store.writeJob after
    else { store with memory := some after }

def updatePersistedUnilateralExitRelayWait (sinceUnix : Option Int) : JobStore :=
  let current := store.getJob
  if current.currentStepRelayedSinceUnix = sinceUnix then store
  else store.writeJob { current with currentStepRelayedSinceUnix := sinceUnix }

def clearPersistedUnilateralExitJob : JobStore :=
  store.writeJob emptyPersistedUnilateralExitJob

/-- `clearUnilateralExitFrontendMemoryForScope`, which a session teardown calls. -/
def clearScope : JobStore := { store with memory := none, hydrated := false }

/-- The next scheduled write reads the memory, once the one before it has settled. -/
def beginWrite : JobStore :=
  match store.inFlight, store.queued with
  | none, queued + 1 => { store with queued, inFlight := some store.getJob }
  | _, _ => store

/-- The worker has stored the job of the write, or the write has failed. -/
def settleWrite (stored : Bool) : JobStore :=
  match store.inFlight with
  | none => store
  | some job =>
    { store with
      durable := if stored then some job else store.durable
      inFlight := none }

def setHydrate (hydrate : Option Hydrate) : JobStore :=
  { store with hydrates := Function.update store.hydrates name hydrate }

/-- The worker answers a hydrate with the job of its bundle. -/
def readBundle : JobStore :=
  match store.durable with
  | some job => store.setHydrate name (some (.applying job))
  | none => store.setHydrate name (some .readingSettings)

/-- The worker stores the bundle that a hydrate has migrated. -/
def storeBundle : JobStore :=
  { store with durable := some job, lastJob := store.lastJob.or (some job) }.setHydrate name
    (some (.applying job))

/-- The job of the bundle replaces the one in memory. -/
def hydrateJob : JobStore :=
  { store with memory := some job, hydrated := true }.setHydrate name (some .cleaning)

end JobStore

inductive JobStoreOp where
  | persistActive (outpoints : List ArkadeVtxoOutpoint) (now : Int)
  | ensure (outpoints : List ArkadeVtxoOutpoint) (now : Int)
  | updateRelayWait (sinceUnix : Option Int)
  | clear
  | reset
  | beginWrite
  | settleWrite (stored : Bool)
  | hydrate (name : Nat)
  /-- The await of the hydrate has ended. -/
  | advance (name : Nat)
  /-- The await of the hydrate has thrown. -/
  | abandon (name : Nat)

def advanceHydrate (store : JobStore) (name : Nat) : Hydrate → JobStore
  | .reading => store.readBundle name
  | .readingSettings =>
    store.setHydrate name (some (.storing (settingsJobToMigrate store.settingsJob)))
  | .storing job => store.storeBundle name job
  | .applying job => store.hydrateJob name job
  | .cleaning => { store with settingsJob := none }.setHydrate name none

def jobStoreStep (store : JobStore) : JobStoreOp → JobStore
  | .persistActive outpoints now => store.persistActiveUnilateralExitJob outpoints now
  | .ensure outpoints now => store.ensurePersistedUnilateralExitJob outpoints now
  | .updateRelayWait sinceUnix => store.updatePersistedUnilateralExitRelayWait sinceUnix
  | .clear => store.clearPersistedUnilateralExitJob
  | .reset => store.clearScope
  | .beginWrite => store.beginWrite
  | .settleWrite stored => store.settleWrite stored
  | .hydrate name =>
    if (store.hydrates name).isSome then store else store.setHydrate name (some .reading)
  | .advance name =>
    match store.hydrates name with
    | none => store
    | some hydrate => advanceHydrate store name hydrate
  | .abandon name => store.setHydrate name none

def jobStoreRun (store : JobStore) (ops : List JobStoreOp) : JobStore :=
  run jobStoreStep store ops

end Bitboard.Frontend
