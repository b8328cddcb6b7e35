/-
# What the wallet database stores

The part of the persisted wallet state that unilateral exits and operator syncs
read and write: snapshot rows, exit materials, pending deductions, host-transaction
observations and per-outpoint exit records. Field names and enumeration orders are
those of `persistence.rs`. Unix times are unbounded integers and satoshi amounts
and confirmation counts natural numbers; `neverSeenProbes` is a `u32` counter whose
saturation is kept where it is incremented.
-/

import Bitboard.Arkade.Outpoint

namespace Bitboard.Arkade

open Bitboard.Lib

/-- The errors of `ArkWasmError` that the modelled functions return. -/
inductive ArkWasmError where
  | invalidTxid (message : String)
  | emptyVtxoOutpoints
  | vtxoFundingLost (txid : String) (vout : UInt32)
  | autonomousExitMaterialsMissing
  | snapshot (message : String)
  | client (message : String)
  | blockchain (message : String)
  deriving DecidableEq

abbrev ArkResult := Except ArkWasmError

/-- Confirmations required before `is_unrolled` is stamped on a virtual host transaction. -/
def unilateralExitHostTxConfirmations : Nat := 6

/-- Confirmations required on each intermediate virtual transaction. -/
def unilateralExitStepConfirmations : Nat := 1

def hostTxReachedFinality (confirmations : Nat) : Bool :=
  unilateralExitHostTxConfirmations ≤ confirmations

def stepReachedConfirmation (confirmations : Nat) : Bool :=
  unilateralExitStepConfirmations ≤ confirmations

structure VirtualTxOutPointAssetRecord where
  assetIdHex : String
  amount : Nat
  deriving DecidableEq

structure VirtualPsbtRecord where
  virtualTxid : String
  psbtHex : String
  deriving DecidableEq

structure UnilateralExitMaterialsRecord where
  cachedAt : Int
  chainJson : String
  virtualPsbts : List VirtualPsbtRecord
  deriving DecidableEq

structure VirtualTxOutPointRecord where
  txid : String
  vout : UInt32
  createdAt : Int
  expiresAt : Int
  amountSats : Nat
  scriptHex : String
  isPreconfirmed : Bool
  isSwept : Bool
  isUnrolled : Bool
  isSpent : Bool
  spentBy : Option String
  commitmentTxids : List String
  settledBy : Option String
  arkTxid : Option String
  assets : List VirtualTxOutPointAssetRecord
  serverPkHex : Option String
  deriving DecidableEq

/-- The row describes the output `vout` of `txid`. -/
def VirtualTxOutPointRecord.isAt (row : VirtualTxOutPointRecord) (txid : String)
    (vout : UInt32) : Bool :=
  row.txid == txid && row.vout == vout

@[simp]
theorem VirtualTxOutPointRecord.isAt_iff {row : VirtualTxOutPointRecord} {txid : String}
    {vout : UInt32} : row.isAt txid vout = true ↔ row.txid = txid ∧ row.vout = vout := by
  simp [VirtualTxOutPointRecord.isAt]

abbrev ExitMaterialsMap := BTreeMap String UnilateralExitMaterialsRecord

structure OffchainVtxoSnapshot where
  syncedAt : Int
  dustSats : Nat
  virtualTxOutpoints : List VirtualTxOutPointRecord
  unilateralExitMaterialsByHostTx : ExitMaterialsMap
  fullListedAt : Int

variable (snapshot : OffchainVtxoSnapshot)

/-- The first row at an outpoint, as every lookup of the session finds it. -/
def snapshotRecord (txid : String) (vout : UInt32) : Option VirtualTxOutPointRecord :=
  snapshot.virtualTxOutpoints.find? fun row => row.isAt txid vout

def OffchainVtxoSnapshot.mapRows (update : VirtualTxOutPointRecord → VirtualTxOutPointRecord) :
    OffchainVtxoSnapshot :=
  { snapshot with virtualTxOutpoints := snapshot.virtualTxOutpoints.map update }

theorem OffchainVtxoSnapshot.mapRows_mapRows
    (first second : VirtualTxOutPointRecord → VirtualTxOutPointRecord) :
    (snapshot.mapRows first).mapRows second = snapshot.mapRows (second ∘ first) := by
  simp [OffchainVtxoSnapshot.mapRows]

inductive PendingExitKind where
  | unilateral
  | collaborative
  deriving DecidableEq

/-- A pending exit deduction, without the balance fields that only the balance reads. -/
structure PendingExitDeductionRecord where
  kind : PendingExitKind
  vtxoTxid : Option String
  vout : Option UInt32
  amountSats : Nat
  deriving DecidableEq

/-- Per virtual host transaction: broadcast attempt, relay and confirmations seen by
Esplora, and the never-seen probe budget. -/
structure HostTxObservationRecord where
  registeredAt : Int
  relayed : Bool
  confirmations : Nat
  neverSeenProbes : Nat
  lastProbedAt : Int

def HostTxObservationRecord.freshlyRegistered (now : Int) : HostTxObservationRecord where
  registeredAt := now
  relayed := false
  confirmations := 0
  neverSeenProbes := 0
  lastProbedAt := 0

abbrev HostTxObservations := BTreeMap String HostTxObservationRecord

def insertHostTxObservation (observations : HostTxObservations) (txid : String) (now : Int) :
    HostTxObservations :=
  observations.insert txid (.freshlyRegistered now)

/-- The unilateral-exit phase of one outpoint, in the persisted order. Idle is the
absence of a record. -/
inductive VtxoExitPhase where
  | tagged
  | hostBroadcastAttempted
  | hostRelayed
  | hostConfirmed
  | unrolled
  | completeReady
  | exited
  | fundingLost
  deriving DecidableEq

namespace VtxoExitPhase

/-- The position in the persisted order, which the derived comparison uses. -/
def rank : VtxoExitPhase → Nat
  | tagged => 0
  | hostBroadcastAttempted => 1
  | hostRelayed => 2
  | hostConfirmed => 3
  | unrolled => 4
  | completeReady => 5
  | exited => 6
  | fundingLost => 7

instance : LT VtxoExitPhase := ⟨fun left right => left.rank < right.rank⟩

instance : DecidableLT VtxoExitPhase := fun left right =>
  inferInstanceAs (Decidable (left.rank < right.rank))

theorem lt_iff {left right : VtxoExitPhase} : left < right ↔ left.rank < right.rank :=
  Iff.rfl

def isTerminal : VtxoExitPhase → Bool
  | exited | fundingLost => true
  | _ => false

def isPipeline : VtxoExitPhase → Bool
  | tagged | hostBroadcastAttempted | hostRelayed | hostConfirmed | unrolled
  | completeReady => true
  | _ => false

/-- Pipeline phases and `funding_lost`: sends and collaborative exits exclude these outpoints. -/
def locksCollaborativeSpend (phase : VtxoExitPhase) : Bool :=
  phase.isPipeline || phase == fundingLost

def isPreUnroll : VtxoExitPhase → Bool
  | tagged | hostBroadcastAttempted | hostRelayed | hostConfirmed => true
  | _ => false

end VtxoExitPhase

structure VtxoExitRecord where
  phase : VtxoExitPhase
  taggedAt : Int
  hostTxid : String
  amountSats : Nat

abbrev VtxoExitRecords := BTreeMap String VtxoExitRecord

/-- The wallet database, without the fields no modelled operation reads. -/
structure WalletDb where
  offchainVtxoSnapshot : Option OffchainVtxoSnapshot
  pendingExitDeductions : List PendingExitDeductionRecord
  hostTxObservations : HostTxObservations
  vtxoExitRecords : VtxoExitRecords

end Bitboard.Arkade
