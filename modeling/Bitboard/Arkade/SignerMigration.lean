/-
# What a signer migration reports

A migration moves the outputs of an old operator signer to the current one, in passes with
a leg for virtual outputs and a leg for boarding outputs. It returns how much each leg has
moved over all passes, the settlements, and whether anything is left that the operator
still signs for. Only a migration that leaves nothing stores the current signer as the
operator's identity.

The functions follow `signer_migration.rs` of the session and of the crate, and the reports
those of the client's `migration.rs`. Counts are natural numbers until the result holds them
in 32 bits.
-/

import Bitboard.Arkade.CollaborativeExit
import Bitboard.Arkade.OperatorInfo
import Mathlib.Algebra.GroupWithZero.Nat

namespace Bitboard.Arkade.SignerMigration

open Bitboard.Lib

structure MigrationVtxoRef where
  outpoint : OutPoint
  amount : Nat

structure MigrationLegReport where
  settleTxid : Option Txid
  migrated : List MigrationVtxoRef
  deferred : List MigrationVtxoRef
  oversized : List MigrationVtxoRef
  error : Option String
  waitingIntent : Option RegisteredBatchIntent

structure DeprecatedSignerMigrationReport where
  vtxo : MigrationLegReport
  boarding : MigrationLegReport

namespace DeprecatedSignerMigrationReport

variable (report : DeprecatedSignerMigrationReport)

def failed : Bool := report.vtxo.error.isSome || report.boarding.error.isSome

def rotated : Bool := report.vtxo.settleTxid.isSome || report.boarding.settleTxid.isSome

def settleTxids : List Txid := report.vtxo.settleTxid.toList ++ report.boarding.settleTxid.toList

/-- The intent that a leg waits for, of the VTXO leg first. -/
def waitingIntent : Option RegisteredBatchIntent :=
  report.vtxo.waitingIntent.or report.boarding.waitingIntent

end DeprecatedSignerMigrationReport

structure DeprecatedSignerReport where
  status : DeprecatedSignerStatus
  vtxoCount : Nat
  vtxoValue : Nat
  boardingCount : Nat
  boardingValue : Nat

structure PreCutoffCooperativeRemaining where
  vtxoCount : Nat
  vtxoSats : Nat
  boardingCount : Nat
  boardingSats : Nat

def PreCutoffCooperativeRemaining.hasRemaining (remaining : PreCutoffCooperativeRemaining) : Bool :=
  0 < remaining.vtxoCount || 0 < remaining.boardingCount

def falseSuccessMigrationMessage (remaining : PreCutoffCooperativeRemaining) : String :=
  "Cooperative signer migration settled no funds while " ++ toString remaining.vtxoCount ++
    " deprecated-signer VTXO(s) (" ++ toString remaining.vtxoSats ++ " sats) and " ++
    toString remaining.boardingCount ++ " boarding output(s) (" ++
    toString remaining.boardingSats ++
    " sats) still require migration. Sync Arkade and try again."

def maxSignerMigrationPasses : Nat := 20

structure SignerMigrationLegAccum where
  migratedCount : Nat
  migratedSats : Nat
  deferredCount : Nat
  deferredSats : Nat
  oversizedCount : Nat
  oversizedSats : Nat
  lastSettleTxid : Option String
  lastError : Option String

def SignerMigrationLegAccum.zero : SignerMigrationLegAccum where
  migratedCount := 0
  migratedSats := 0
  deferredCount := 0
  deferredSats := 0
  oversizedCount := 0
  oversizedSats := 0
  lastSettleTxid := none
  lastError := none

def isPreCutoffCooperativeStatus (status : DeprecatedSignerStatus) : Bool :=
  status = .migratable ∨ status = .dueNow

/-- One round of `pre_cutoff_cooperative_remaining`. -/
def addRemaining (remaining : PreCutoffCooperativeRemaining) (report : DeprecatedSignerReport) :
    PreCutoffCooperativeRemaining :=
  if !isPreCutoffCooperativeStatus report.status then remaining
  else
    { vtxoCount := remaining.vtxoCount + report.vtxoCount
      vtxoSats := saturatingAdd remaining.vtxoSats report.vtxoValue
      boardingCount := remaining.boardingCount + report.boardingCount
      boardingSats := saturatingAdd remaining.boardingSats report.boardingValue }

def preCutoffCooperativeRemaining (reports : List DeprecatedSignerReport) :
    PreCutoffCooperativeRemaining :=
  reports.foldl addRemaining
    { vtxoCount := 0, vtxoSats := 0, boardingCount := 0, boardingSats := 0 }

def sumMigrationRefs (refs : List MigrationVtxoRef) : Nat × Nat :=
  (refs.length, refs.foldl (fun total item => saturatingAdd total item.amount) 0)

def aggregateLegReport (leg : MigrationLegReport) : SignerMigrationLegAccum where
  migratedCount := (sumMigrationRefs leg.migrated).1
  migratedSats := (sumMigrationRefs leg.migrated).2
  deferredCount := (sumMigrationRefs leg.deferred).1
  deferredSats := (sumMigrationRefs leg.deferred).2
  oversizedCount := (sumMigrationRefs leg.oversized).1
  oversizedSats := (sumMigrationRefs leg.oversized).2
  lastSettleTxid := leg.settleTxid.map Txid.text
  lastError := leg.error

/-- `merge_leg_accum`. Deferred and oversized outputs are those of the latest pass. -/
def mergeLegAccum (total pass : SignerMigrationLegAccum) : SignerMigrationLegAccum where
  migratedCount := total.migratedCount + pass.migratedCount
  migratedSats := saturatingAdd total.migratedSats pass.migratedSats
  deferredCount := pass.deferredCount
  deferredSats := pass.deferredSats
  oversizedCount := pass.oversizedCount
  oversizedSats := pass.oversizedSats
  lastSettleTxid := pass.lastSettleTxid.or total.lastSettleTxid
  lastError := pass.lastError.or total.lastError

/-- The variables that the loop over the passes keeps. -/
structure MigrationTotals where
  vtxoTotal : SignerMigrationLegAccum
  boardingTotal : SignerMigrationLegAccum
  settleTxids : List String
  passCount : Nat
  anyPassRotated : Bool

def MigrationTotals.zero : MigrationTotals where
  vtxoTotal := .zero
  boardingTotal := .zero
  settleTxids := []
  passCount := 0
  anyPassRotated := false

def pushSettleTxid (settleTxids : List String) (txid : Txid) : List String :=
  if settleTxids.contains txid.text then settleTxids else settleTxids ++ [txid.text]

variable (totals : MigrationTotals)

/-- `accumulate_pass_reports`, with what the loop makes of its result. -/
def accumulatePassReports (report : DeprecatedSignerMigrationReport) : MigrationTotals :=
  { totals with
    vtxoTotal := mergeLegAccum totals.vtxoTotal (aggregateLegReport report.vtxo)
    boardingTotal := mergeLegAccum totals.boardingTotal (aggregateLegReport report.boarding)
    settleTxids := report.settleTxids.foldl pushSettleTxid totals.settleTxids
    anyPassRotated := totals.anyPassRotated || report.rotated }

structure SignerMigrationLegResult where
  migratedCount : Nat
  migratedSats : Nat
  deferredCount : Nat
  deferredSats : Nat
  oversizedCount : Nat
  oversizedSats : Nat
  settleTxid : Option String
  error : Option String

structure SignerMigrationResult where
  vtxoLeg : SignerMigrationLegResult
  boardingLeg : SignerMigrationLegResult
  passCount : Nat
  migrationComplete : Bool
  passCapReached : Bool
  remainingPreCutoffVtxoCount : Nat
  remainingPreCutoffSats : Nat
  remainingPreCutoffBoardingCount : Nat
  settleTxids : List String

def asU32 (count : Nat) : Nat := count % UInt32.size

def legAccumToDto (accum : SignerMigrationLegAccum) : SignerMigrationLegResult where
  migratedCount := asU32 accum.migratedCount
  migratedSats := accum.migratedSats
  deferredCount := asU32 accum.deferredCount
  deferredSats := accum.deferredSats
  oversizedCount := asU32 accum.oversizedCount
  oversizedSats := accum.oversizedSats
  settleTxid := accum.lastSettleTxid
  error := accum.lastError

def buildSignerMigrationResultDto (remaining : PreCutoffCooperativeRemaining)
    (migrationComplete : Bool) :
    SignerMigrationResult where
  vtxoLeg := legAccumToDto totals.vtxoTotal
  boardingLeg := legAccumToDto totals.boardingTotal
  passCount := totals.passCount
  migrationComplete := migrationComplete
  passCapReached := totals.passCount = maxSignerMigrationPasses ∧ migrationComplete = false
  remainingPreCutoffVtxoCount := asU32 remaining.vtxoCount
  remainingPreCutoffSats := remaining.vtxoSats
  remainingPreCutoffBoardingCount := asU32 remaining.boardingCount
  settleTxids := totals.settleTxids

structure OperatorIdentity where
  signerPkHex : String
  network : String

/-- `operator_identity_for_connected_signer`, for a signer's printed key. -/
def operatorIdentityForConnectedSigner (connectedSigner : String) (network : Network) :
    OperatorIdentity where
  signerPkHex := connectedSigner
  network := networkLabel network

structure MigrationStore where
  pendingBatchIntents : List PendingBatchIntentRecord
  operatorIdentity : OperatorIdentity

/-- What a migration reads and is answered, pass by pass. The current signer is given by its
printed key. -/
structure MigrateAnswers where
  autonomousMode : Bool
  keyDiscoveryWarning : Option String
  passes : Nat → JoinRun (Except ClientError DeprecatedSignerMigrationReport)
  deprecatedSignerStatus : Except ClientError (List DeprecatedSignerReport)
  serverSigner : Except ClientError String
  network : Network
  now : Int

def migrationLegErrorMessage (report : DeprecatedSignerMigrationReport) : String :=
  match report.vtxo.error, report.boarding.error with
  | some error, _ => "VTXO migration leg failed: " ++ error
  | none, some error => "Boarding migration leg failed: " ++ error
  | none, none => "Signer migration failed"

def deferredSats (leg : MigrationLegReport) : Nat :=
  (leg.deferred.map MigrationVtxoRef.amount).sum

/-- The loop over the passes, of which `left` may still run. -/
def migratePasses (answers : MigrateAnswers) :
    (left pass : Nat) → MigrationTotals → List PendingBatchIntentRecord →
      Except BatchError MigrationTotals × List PendingBatchIntentRecord
  | 0, _, totals, stored => (.ok totals, stored)
  | left + 1, pass, totals, stored =>
    let (outcome, joined) := withBatchJoin stored
      { kind := .migrate, amountSats := 0, destinationAddress := none } (answers.passes pass)
    match outcome with
    | .error error => (.error (.client error), joined)
    | .ok report =>
      if report.failed then
        (.error (.client { text := migrationLegErrorMessage report }), joined)
      else
        let counted := { totals with passCount := totals.passCount + 1 }
        match report.waitingIntent with
        | some waiting =>
          (.ok counted, (waitForRegisteredIntent joined waiting
            { kind := .migrate
              amountSats := deferredSats report.vtxo + deferredSats report.boarding
              destinationAddress := none } answers.now).2)
        | none =>
          let accumulated := accumulatePassReports counted report
          if report.rotated then migratePasses answers left (pass + 1) accumulated joined
          else (.ok accumulated, joined)

/-- The end of a migration, once its passes have run. -/
def finishMigration (answers : MigrateAnswers) (totals : MigrationTotals) (store : MigrationStore) :
    Except BatchError SignerMigrationResult × MigrationStore :=
  match answers.deprecatedSignerStatus with
  | .error error => (.error (.client error), store)
  | .ok reports =>
    let remaining := preCutoffCooperativeRemaining reports
    let migrationComplete := !remaining.hasRemaining
    if store.pendingBatchIntents.isEmpty ∧ migrationComplete = false ∧
        totals.anyPassRotated = false ∧ remaining.hasRemaining then
      (.error (.client { text := falseSuccessMigrationMessage remaining }), store)
    else
      let result := buildSignerMigrationResultDto totals remaining migrationComplete
      if migrationComplete then
        match answers.serverSigner with
        | .error error => (.error (.client error), store)
        | .ok serverSigner =>
          (.ok result, { store with
            operatorIdentity :=
              operatorIdentityForConnectedSigner serverSigner answers.network })
      else (.ok result, store)

def migrateDeprecatedSignerVtxos (answers : MigrateAnswers) (store : MigrationStore) :
    Except BatchError SignerMigrationResult × MigrationStore :=
  if answers.autonomousMode then (.error .autonomousModeBlocksOperatorRpc, store)
  else if ¬ store.pendingBatchIntents.isEmpty then
    match answers.deprecatedSignerStatus with
    | .error error => (.error (.client error), store)
    | .ok reports =>
      (.ok (buildSignerMigrationResultDto .zero (preCutoffCooperativeRemaining reports) false),
        store)
  else
    match answers.keyDiscoveryWarning with
    | some warning => (.error (.client { text := warning }), store)
    | none =>
      match migratePasses answers maxSignerMigrationPasses 0 .zero store.pendingBatchIntents with
      | (.error error, after) => (.error error, { store with pendingBatchIntents := after })
      | (.ok totals, after) =>
        finishMigration answers totals { store with pendingBatchIntents := after }

/-- What a pass adds to the totals. A pass that waits for an intent is only counted. -/
def countPass (report : DeprecatedSignerMigrationReport) : MigrationTotals :=
  if report.waitingIntent.isSome then { totals with passCount := totals.passCount + 1 }
  else accumulatePassReports { totals with passCount := totals.passCount + 1 } report

/-- The passes from the given one on returned these reports. -/
def ReportsFrom (answers : MigrateAnswers) (pass : Nat)
    (reports : List DeprecatedSignerMigrationReport) : Prop :=
  ∀ later report, reports[later]? = some report →
    (answers.passes (pass + later)).result = .ok report

theorem reportsFrom_nil (answers : MigrateAnswers) (pass : Nat) : ReportsFrom answers pass [] := by
  intro later report hreport
  cases hreport

variable {reports : List DeprecatedSignerMigrationReport} {answers : MigrateAnswers}
variable {pass : Nat}

theorem reportsFrom_cons {report : DeprecatedSignerMigrationReport}
    (hreport : (answers.passes pass).result = .ok report)
    (hreports : ReportsFrom answers (pass + 1) reports) :
    ReportsFrom answers pass (report :: reports) := by
  intro later other hother
  cases later with
  | zero =>
    cases hother
    exact hreport
  | succ later =>
    have h := hreports later other hother
    rwa [Nat.add_assoc, Nat.add_comm 1 later] at h

/-- These are the reports of all passes that a loop with `left` passes to go runs from the given
one on: none has failed, the loop goes on after a pass that rotates and does not wait, and it ends
after one that waits or rotates nothing, or when no pass is left. -/
structure RunsPasses (answers : MigrateAnswers) (left pass : Nat)
    (reports : List DeprecatedSignerMigrationReport) : Prop where
  answered : ReportsFrom answers pass reports
  succeeded : ∀ report ∈ reports, report.failed = false
  goesOn : ∀ later report, later + 1 < reports.length → reports[later]? = some report →
    report.rotated = true ∧ report.waitingIntent = none
  atMost : reports.length ≤ left
  ends : reports.length = left ∨ ∃ report, reports.getLast? = some report ∧
    (report.waitingIntent.isSome = true ∨ report.rotated = false)

theorem runsPasses_zero (answers : MigrateAnswers) (pass : Nat) : RunsPasses answers 0 pass [] where
  answered := reportsFrom_nil answers pass
  succeeded := List.forall_mem_nil _
  goesOn _ _ hlater := absurd hlater (Nat.not_lt_zero _)
  atMost := Nat.le_refl 0
  ends := .inl rfl

/-- A pass that waits or rotates nothing is the last one. -/
theorem runsPasses_last {left : Nat} {report : DeprecatedSignerMigrationReport}
    (hreport : (answers.passes pass).result = .ok report) (hfailed : report.failed = false)
    (hlast : report.waitingIntent.isSome = true ∨ report.rotated = false) :
    RunsPasses answers (left + 1) pass [report] where
  answered := reportsFrom_cons hreport (reportsFrom_nil answers (pass + 1))
  succeeded := List.forall_mem_singleton.mpr hfailed
  goesOn later _ hlater := by
    rw [List.length_singleton] at hlater
    omega
  atMost := Nat.le_add_left 1 left
  ends := .inr ⟨report, rfl, hlast⟩

/-- After a pass that rotates and does not wait the loop goes on. -/
theorem runsPasses_cons {left : Nat} {report : DeprecatedSignerMigrationReport}
    (hreport : (answers.passes pass).result = .ok report) (hfailed : report.failed = false)
    (hgoesOn : report.rotated = true ∧ report.waitingIntent = none)
    (hruns : RunsPasses answers left (pass + 1) reports) :
    RunsPasses answers (left + 1) pass (report :: reports) where
  answered := reportsFrom_cons hreport hruns.answered
  succeeded := List.forall_mem_cons.mpr ⟨hfailed, hruns.succeeded⟩
  goesOn later other hlater hother := by
    cases later with
    | zero =>
      cases hother
      exact hgoesOn
    | succ later => exact hruns.goesOn later other (Nat.lt_of_succ_lt_succ hlater) hother
  atMost := Nat.succ_le_succ hruns.atMost
  ends := by
    rcases hruns.ends with hcap | ⟨last, hlast, hstops⟩
    · exact .inl (congrArg Nat.succ hcap)
    · refine .inr ⟨last, ?_, hstops⟩
      rw [List.getLast?_cons, hlast, Option.getD_some]

/-- A loop that ends well has counted the reports of all its passes, one after the other. -/
theorem migratePasses_eq_foldl {left : Nat} {totals final : MigrationTotals}
    {stored after : List PendingBatchIntentRecord}
    (hloop : migratePasses answers left pass totals stored = (.ok final, after)) :
    ∃ reports, RunsPasses answers left pass reports ∧ final = reports.foldl countPass totals := by
  induction left generalizing pass totals stored with
  | zero =>
    cases hloop
    exact ⟨[], runsPasses_zero answers pass, rfl⟩
  | succ left ih =>
    rw [migratePasses] at hloop
    simp only [withBatchJoin] at hloop
    cases hresult : (answers.passes pass).result with
    | error error =>
      rw [hresult] at hloop
      cases hloop
    | ok report =>
      rw [hresult] at hloop
      dsimp only at hloop
      split at hloop
      · cases hloop
      rename_i hfailed
      rw [Bool.not_eq_true] at hfailed
      cases hwaiting : report.waitingIntent with
      | some waiting =>
        rw [hwaiting] at hloop
        cases hloop
        refine ⟨[report], runsPasses_last hresult hfailed (.inl ?_), ?_⟩
        · rw [hwaiting]
          rfl
        · simp [countPass, hwaiting]
      | none =>
        rw [hwaiting] at hloop
        dsimp only at hloop
        have hcount : accumulatePassReports
            { totals with passCount := totals.passCount + 1 } report = countPass totals report := by
          simp [countPass, hwaiting]
        rw [hcount] at hloop
        split at hloop
        · rename_i hrotated
          obtain ⟨reports, hreports, hfinal⟩ := ih hloop
          exact ⟨report :: reports,
            runsPasses_cons hresult hfailed ⟨hrotated, hwaiting⟩ hreports, hfinal⟩
        · rename_i hrotated
          cases hloop
          exact ⟨[report],
            runsPasses_last hresult hfailed (.inr (Bool.not_eq_true _ ▸ hrotated)), rfl⟩

/-- A leg waits for an intent in a pass in which something was migrated. -/
def WaitsAfterMigrating (report : DeprecatedSignerMigrationReport) : Prop :=
  report.waitingIntent.isSome = true ∧
    (report.vtxo.migrated ≠ [] ∨ report.boarding.migrated ≠ [] ∨ report.settleTxids ≠ [])

/-- What one leg has migrated over some passes: how many outputs, and their amounts. -/
def migratedCountOf (legs : List MigrationLegReport) : Nat :=
  (legs.map fun leg => leg.migrated.length).sum

def migratedSatsOf (legs : List MigrationLegReport) : Nat :=
  (legs.map fun leg => (leg.migrated.map MigrationVtxoRef.amount).sum).sum

theorem sumMigrationRefs_sats (refs : List MigrationVtxoRef) :
    (sumMigrationRefs refs).2 = min (refs.map MigrationVtxoRef.amount).sum (UInt64.size - 1) := by
  have hfold := foldl_saturatingAdd MigrationVtxoRef.amount refs 0 (Nat.zero_le _)
  rwa [Nat.zero_add] at hfold

theorem saturatingAdd_min (total pass : Nat) :
    saturatingAdd total (min pass (UInt64.size - 1)) = min (total + pass) (UInt64.size - 1) := by
  unfold saturatingAdd
  omega

section Fold

variable {reports : List DeprecatedSignerMigrationReport}

/-- A pass that does not wait after migrating adds what its legs have migrated. -/
theorem countPass_legs {report : DeprecatedSignerMigrationReport}
    (hreport : ¬ WaitsAfterMigrating report)
    (hvtxo : totals.vtxoTotal.migratedSats ≤ UInt64.size - 1)
    (hboarding : totals.boardingTotal.migratedSats ≤ UInt64.size - 1) :
    (countPass totals report).vtxoTotal.migratedCount =
        totals.vtxoTotal.migratedCount + report.vtxo.migrated.length ∧
      (countPass totals report).vtxoTotal.migratedSats = min (totals.vtxoTotal.migratedSats +
        (report.vtxo.migrated.map MigrationVtxoRef.amount).sum) (UInt64.size - 1) ∧
      (countPass totals report).boardingTotal.migratedCount =
        totals.boardingTotal.migratedCount + report.boarding.migrated.length ∧
      (countPass totals report).boardingTotal.migratedSats =
        min (totals.boardingTotal.migratedSats +
          (report.boarding.migrated.map MigrationVtxoRef.amount).sum) (UInt64.size - 1) := by
  unfold countPass
  split
  · rename_i hwaits
    have hnothing : report.vtxo.migrated = [] ∧ report.boarding.migrated = [] := by
      constructor
      · by_contra hmigrated
        exact hreport ⟨hwaits, .inl hmigrated⟩
      · by_contra hmigrated
        exact hreport ⟨hwaits, .inr (.inl hmigrated)⟩
    simp only [hnothing.1, hnothing.2, List.length_nil, List.map_nil, List.sum_nil, Nat.add_zero,
      Nat.min_eq_left hvtxo, Nat.min_eq_left hboarding, and_self]
  · simp only [accumulatePassReports, mergeLegAccum, aggregateLegReport, sumMigrationRefs_sats,
      saturatingAdd_min, and_true, true_and]
    exact ⟨rfl, rfl⟩

theorem foldl_countPass_passCount :
    (reports.foldl countPass totals).passCount = totals.passCount + reports.length := by
  induction reports generalizing totals with
  | nil => rfl
  | cons report reports ih =>
    have hcount : (countPass totals report).passCount = totals.passCount + 1 := by
      unfold countPass
      split
      · rfl
      · rfl
    rw [List.foldl_cons, ih, hcount, List.length_cons]
    omega

/-- The legs' totals after some passes. -/
theorem foldl_countPass_legs (hreports : ∀ report ∈ reports, ¬ WaitsAfterMigrating report)
    (totals : MigrationTotals) (hvtxo : totals.vtxoTotal.migratedSats ≤ UInt64.size - 1)
    (hboarding : totals.boardingTotal.migratedSats ≤ UInt64.size - 1) :
    (reports.foldl countPass totals).vtxoTotal.migratedCount =
        totals.vtxoTotal.migratedCount +
          migratedCountOf (reports.map DeprecatedSignerMigrationReport.vtxo) ∧
      (reports.foldl countPass totals).vtxoTotal.migratedSats =
        min (totals.vtxoTotal.migratedSats +
          migratedSatsOf (reports.map DeprecatedSignerMigrationReport.vtxo))
          (UInt64.size - 1) ∧
      (reports.foldl countPass totals).boardingTotal.migratedCount =
        totals.boardingTotal.migratedCount +
          migratedCountOf (reports.map DeprecatedSignerMigrationReport.boarding) ∧
      (reports.foldl countPass totals).boardingTotal.migratedSats =
        min (totals.boardingTotal.migratedSats +
          migratedSatsOf (reports.map DeprecatedSignerMigrationReport.boarding))
          (UInt64.size - 1) := by
  induction reports generalizing totals with
  | nil =>
    simp only [migratedCountOf, migratedSatsOf, List.foldl_nil, List.map_nil, List.sum_nil,
      Nat.add_zero, Nat.min_eq_left hvtxo, Nat.min_eq_left hboarding, and_self]
  | cons report reports ih =>
    have hreport := hreports report List.mem_cons_self
    have hrest : ∀ other ∈ reports, ¬ WaitsAfterMigrating other :=
      fun other hother => hreports other (List.mem_cons_of_mem _ hother)
    obtain ⟨hvc, hvs, hbc, hbs⟩ := countPass_legs totals hreport hvtxo hboarding
    obtain ⟨ivc, ivs, ibc, ibs⟩ := ih hrest (countPass totals report)
      (by rw [hvs]; exact Nat.min_le_right _ _) (by rw [hbs]; exact Nat.min_le_right _ _)
    rw [List.foldl_cons, ivc, ivs, ibc, ibs, hvc, hvs, hbc, hbs]
    simp only [migratedCountOf, migratedSatsOf, List.map_cons, List.sum_cons]
    omega

theorem foldl_pushSettleTxid (txids : List Txid) {settleTxids : List String}
    (hnodup : settleTxids.Nodup) :
    (txids.foldl pushSettleTxid settleTxids).Nodup ∧
      ∀ text, text ∈ txids.foldl pushSettleTxid settleTxids ↔
        text ∈ settleTxids ∨ ∃ txid ∈ txids, text = txid.text := by
  induction txids generalizing settleTxids with
  | nil => simp [hnodup]
  | cons txid txids ih =>
    have hpush : (pushSettleTxid settleTxids txid).Nodup ∧
        ∀ text, text ∈ pushSettleTxid settleTxids txid ↔ text ∈ settleTxids ∨ text = txid.text := by
      unfold pushSettleTxid
      split
      · rename_i hlisted
        have hmem := List.contains_iff_mem.mp hlisted
        constructor
        · exact hnodup
        · intro text
          constructor
          · exact .inl
          · intro htext
            cases htext with
            | inl hmem => exact hmem
            | inr heq => rwa [heq]
      · rename_i hlisted
        have hnot : txid.text ∉ settleTxids := by
          simpa using hlisted
        constructor
        · exact List.nodup_append.mpr ⟨hnodup, List.nodup_singleton _, by
            intro text hmem other hother
            rw [List.mem_singleton.mp hother]
            intro heq
            exact hnot (heq ▸ hmem)⟩
        · simp
    have hrest := ih hpush.1
    rw [List.foldl_cons]
    apply And.intro hrest.1
    intro text
    rw [hrest.2, hpush.2]
    simp [or_assoc]

/-- The listed settlements after some passes. -/
theorem foldl_countPass_settleTxids (hreports : ∀ report ∈ reports, ¬ WaitsAfterMigrating report)
    (totals : MigrationTotals) (hnodup : totals.settleTxids.Nodup) :
    (reports.foldl countPass totals).settleTxids.Nodup ∧
      ∀ text, text ∈ (reports.foldl countPass totals).settleTxids ↔
        text ∈ totals.settleTxids ∨
          ∃ report ∈ reports, ∃ txid ∈ report.settleTxids, text = txid.text := by
  induction reports generalizing totals with
  | nil => simp [hnodup]
  | cons report reports ih =>
    have hreport := hreports report List.mem_cons_self
    have hrest : ∀ other ∈ reports, ¬ WaitsAfterMigrating other :=
      fun other hother => hreports other (List.mem_cons_of_mem _ hother)
    have hpass : (countPass totals report).settleTxids =
        report.settleTxids.foldl pushSettleTxid totals.settleTxids := by
      unfold countPass
      split
      · rename_i hwaits
        have hnothing : report.settleTxids = [] := by
          by_contra hsettled
          exact hreport ⟨hwaits, .inr (.inr hsettled)⟩
        rw [hnothing]
        rfl
      · rfl
    have hlisted := foldl_pushSettleTxid report.settleTxids hnodup
    rw [← hpass] at hlisted
    have hfold := ih hrest (countPass totals report) hlisted.1
    rw [List.foldl_cons]
    apply And.intro hfold.1
    intro text
    rw [hfold.2, hlisted.2]
    simp [or_assoc]

end Fold

/-! ## The outcome of a migration -/

/-- No output is left under an old signer that still signs. -/
def NoPreCutoffRemains (signers : List DeprecatedSignerReport) : Prop :=
  ∀ report ∈ signers, isPreCutoffCooperativeStatus report.status = true →
    report.vtxoCount = 0 ∧ report.boardingCount = 0

variable (signers : List DeprecatedSignerReport)
variable (remaining : PreCutoffCooperativeRemaining)

theorem hasRemaining_foldl_addRemaining :
    (signers.foldl addRemaining remaining).hasRemaining = false ↔
      remaining.hasRemaining = false ∧ NoPreCutoffRemains signers := by
  induction signers generalizing remaining with
  | nil => simp [NoPreCutoffRemains]
  | cons report signers ih =>
    rw [List.foldl_cons, ih]
    unfold NoPreCutoffRemains
    rw [List.forall_mem_cons]
    unfold addRemaining
    split
    · rename_i hstatus
      simp_all
    · rename_i hstatus
      simp only [PreCutoffCooperativeRemaining.hasRemaining, Bool.or_eq_false_iff,
        decide_eq_false_iff_not, Nat.not_lt, Nat.le_zero]
      have hcooperative : isPreCutoffCooperativeStatus report.status = true := by
        simpa using hstatus
      rw [hcooperative]
      constructor
      · intro h
        exact ⟨⟨by omega, by omega⟩, fun _ => ⟨by omega, by omega⟩, h.2⟩
      · intro h
        have hcounts := h.2.1 rfl
        exact ⟨⟨by omega, by omega⟩, h.2.2⟩

theorem hasRemaining_preCutoffCooperativeRemaining :
    (preCutoffCooperativeRemaining signers).hasRemaining = false ↔ NoPreCutoffRemains signers := by
  rw [preCutoffCooperativeRemaining, hasRemaining_foldl_addRemaining]
  simp [PreCutoffCooperativeRemaining.hasRemaining]

/-- The result's leg holds the sums of what the leg has migrated. Counts are held in 32 bits,
and a sum of amounts stops at the largest value. -/
structure HoldsSums (result : SignerMigrationLegResult) (legs : List MigrationLegReport) :
    Prop where
  migratedCount : result.migratedCount = asU32 (migratedCountOf legs)
  migratedSats : result.migratedSats = min (migratedSatsOf legs) (UInt64.size - 1)

/-- The result adds these passes up and lists each of their settlements once. -/
structure AddsUp (result : SignerMigrationResult)
    (reports : List DeprecatedSignerMigrationReport) : Prop where
  vtxoLeg : HoldsSums result.vtxoLeg (reports.map DeprecatedSignerMigrationReport.vtxo)
  boardingLeg : HoldsSums result.boardingLeg (reports.map DeprecatedSignerMigrationReport.boarding)
  listedOnce : result.settleTxids.Nodup
  listed : ∀ text, text ∈ result.settleTxids ↔
    ∃ report ∈ reports, ∃ txid ∈ report.settleTxids, text = txid.text

/-- The result of a migration that found a pending intent and ran no pass. -/
structure LeavesPending (store after : MigrationStore) (result : SignerMigrationResult) :
    Prop where
  nothingMigrated : AddsUp result []
  noPass : result.passCount = 0
  incomplete : result.migrationComplete = false
  identity : after.operatorIdentity = store.operatorIdentity

/-- The result of a migration that ran passes: it adds up all of them, unless one waited after
migrating, it is complete if nothing remains, and the current operator is then stored. -/
structure ReportsPasses (answers : MigrateAnswers) (store after : MigrationStore)
    (result : SignerMigrationResult) : Prop where
  passes : ∃ reports, RunsPasses answers maxSignerMigrationPasses 0 reports ∧
    reports.length = result.passCount ∧
    ((∀ report ∈ reports, ¬ WaitsAfterMigrating report) → AddsUp result reports)
  complete : ∃ signers, answers.deprecatedSignerStatus = .ok signers ∧
    (result.migrationComplete = true ↔ NoPreCutoffRemains signers)
  identity : if result.migrationComplete then
      ∃ serverSigner, answers.serverSigner = .ok serverSigner ∧ after.operatorIdentity =
        operatorIdentityForConnectedSigner serverSigner answers.network
    else after.operatorIdentity = store.operatorIdentity

theorem addsUp_nil (complete : Bool) :
    AddsUp (buildSignerMigrationResultDto .zero remaining complete) [] where
  vtxoLeg := ⟨rfl, rfl⟩
  boardingLeg := ⟨rfl, rfl⟩
  listedOnce := List.nodup_nil
  listed := by simp [buildSignerMigrationResultDto, MigrationTotals.zero]

theorem addsUp_foldl_countPass (hreports : ∀ report ∈ reports, ¬ WaitsAfterMigrating report)
    (remaining : PreCutoffCooperativeRemaining) (complete : Bool) :
    AddsUp (buildSignerMigrationResultDto (reports.foldl countPass .zero) remaining complete)
      reports := by
  have hzero : MigrationTotals.zero.vtxoTotal.migratedSats = 0 ∧
      MigrationTotals.zero.boardingTotal.migratedSats = 0 ∧
      MigrationTotals.zero.vtxoTotal.migratedCount = 0 ∧
      MigrationTotals.zero.boardingTotal.migratedCount = 0 := ⟨rfl, rfl, rfl, rfl⟩
  obtain ⟨hvtxoCount, hvtxoSats, hboardingCount, hboardingSats⟩ := foldl_countPass_legs hreports
    .zero (Nat.zero_le _) (Nat.zero_le _)
  rw [hzero.2.2.1, Nat.zero_add] at hvtxoCount
  rw [hzero.1, Nat.zero_add] at hvtxoSats
  rw [hzero.2.2.2, Nat.zero_add] at hboardingCount
  rw [hzero.2.1, Nat.zero_add] at hboardingSats
  have hsettled := foldl_countPass_settleTxids hreports .zero List.nodup_nil
  exact {
    vtxoLeg := ⟨congrArg asU32 hvtxoCount, hvtxoSats⟩
    boardingLeg := ⟨congrArg asU32 hboardingCount, hboardingSats⟩
    listedOnce := hsettled.1
    listed := by
      intro text
      rw [buildSignerMigrationResultDto, hsettled.2]
      simp [MigrationTotals.zero] }

theorem reportsPasses_finishMigration
    {store passed after : MigrationStore} {result : SignerMigrationResult}
    (hreports : RunsPasses answers maxSignerMigrationPasses 0 reports)
    (hpassed : passed.operatorIdentity = store.operatorIdentity)
    (hfinish : finishMigration answers (reports.foldl countPass .zero) passed =
      (.ok result, after)) :
    ReportsPasses answers store after result := by
  unfold finishMigration at hfinish
  cases hstatus : answers.deprecatedSignerStatus with
  | error error =>
    rw [hstatus] at hfinish
    cases hfinish
  | ok signers =>
    rw [hstatus] at hfinish
    dsimp only at hfinish
    have hremains := hasRemaining_preCutoffCooperativeRemaining signers
    have hpasses : ∀ complete, ∃ passReports,
        RunsPasses answers maxSignerMigrationPasses 0 passReports ∧
        passReports.length = (buildSignerMigrationResultDto (reports.foldl countPass .zero)
          (preCutoffCooperativeRemaining signers) complete).passCount ∧
        ((∀ report ∈ passReports, ¬ WaitsAfterMigrating report) →
          AddsUp (buildSignerMigrationResultDto (reports.foldl countPass .zero)
            (preCutoffCooperativeRemaining signers) complete) passReports) := by
      intro complete
      refine ⟨reports, hreports, ?_, fun hnone => addsUp_foldl_countPass hnone _ _⟩
      rw [buildSignerMigrationResultDto, foldl_countPass_passCount]
      exact (Nat.zero_add _).symm
    split at hfinish
    · cases hfinish
    split at hfinish
    · rename_i hcomplete
      cases hserver : answers.serverSigner with
      | error error =>
        rw [hserver] at hfinish
        cases hfinish
      | ok serverSigner =>
        rw [hserver] at hfinish
        cases hfinish
        have hnone := hremains.mp (by simpa using hcomplete)
        exact {
          passes := hpasses _
          complete := ⟨signers, hstatus, iff_of_true hcomplete hnone⟩
          identity := by
            rw [buildSignerMigrationResultDto, if_pos hcomplete]
            exact ⟨serverSigner, hserver, rfl⟩ }
    · rename_i hincomplete
      cases hfinish
      have hsome : ¬ NoPreCutoffRemains signers := by
        rw [← hremains]
        simpa using hincomplete
      exact {
        passes := hpasses _
        complete := ⟨signers, hstatus, iff_of_false hincomplete hsome⟩
        identity := by
          rw [buildSignerMigrationResultDto, if_neg hincomplete]
          exact hpassed }

theorem finishMigration_error_keeps {totals : MigrationTotals}
    {passed after : MigrationStore} {error : BatchError}
    (hfinish : finishMigration answers totals passed = (.error error, after)) :
    after.operatorIdentity = passed.operatorIdentity := by
  unfold finishMigration at hfinish
  cases hstatus : answers.deprecatedSignerStatus with
  | error error =>
    rw [hstatus] at hfinish
    cases hfinish
    rfl
  | ok signers =>
    rw [hstatus] at hfinish
    dsimp only at hfinish
    split at hfinish
    · cases hfinish
      rfl
    split at hfinish
    · cases hserver : answers.serverSigner with
      | error error =>
        rw [hserver] at hfinish
        cases hfinish
        rfl
      | ok serverSigner =>
        rw [hserver] at hfinish
        cases hfinish
    · cases hfinish

def MigrationOutcome (answers : MigrateAnswers) (store : MigrationStore) :
    Except BatchError SignerMigrationResult × MigrationStore → Prop
  | (.error _, after) => after.operatorIdentity = store.operatorIdentity
  | (.ok result, after) =>
    if store.pendingBatchIntents.isEmpty then ReportsPasses answers store after result
    else LeavesPending store after result

/-- A migration fails and keeps the operator's identity, or finds a pending intent and does
nothing, or reports the passes it ran and stores the current signer exactly if it is
complete. -/
theorem migrate_deprecated_signer_vtxos_outcome (answers : MigrateAnswers)
    (store : MigrationStore) :
    MigrationOutcome answers store (migrateDeprecatedSignerVtxos answers store) := by
  cases hrun : migrateDeprecatedSignerVtxos answers store with
  | mk outcome after =>
      unfold migrateDeprecatedSignerVtxos at hrun
      split at hrun
      · cases hrun
        exact rfl
      split at hrun
      · rename_i hpending
        cases hstatus : answers.deprecatedSignerStatus with
        | error error =>
            rw [hstatus] at hrun
            cases hrun
            exact rfl
        | ok reports =>
            rw [hstatus] at hrun
            cases hrun
            show if store.pendingBatchIntents.isEmpty then _ else _
            rw [if_neg hpending]
            exact {
              nothingMigrated := addsUp_nil _ _
              noPass := rfl
              incomplete := rfl
              identity := rfl }
      · rename_i hidle
        cases hwarning : answers.keyDiscoveryWarning with
        | some warning =>
            rw [hwarning] at hrun
            cases hrun
            exact rfl
        | none =>
            rw [hwarning] at hrun
            dsimp only at hrun
            cases hpasses : migratePasses answers maxSignerMigrationPasses 0 .zero
                store.pendingBatchIntents with
            | mk passOutcome stored =>
                rw [hpasses] at hrun
                cases passOutcome with
                | error error =>
                    cases hrun
                    exact rfl
                | ok totals =>
                    dsimp only at hrun
                    obtain ⟨reports, hreports, htotals⟩ := migratePasses_eq_foldl hpasses
                    rw [htotals] at hrun
                    cases outcome with
                    | ok result =>
                        show if store.pendingBatchIntents.isEmpty then _ else _
                        rw [if_pos (not_not.mp hidle)]
                        have hpassed : ({ store with pendingBatchIntents := stored } :
                            MigrationStore).operatorIdentity = store.operatorIdentity := rfl
                        exact reportsPasses_finishMigration hreports hpassed hrun
                    | error error =>
                        have hkept := finishMigration_error_keeps hrun
                        exact hkept

/-- A migration that finds a pending intent is incomplete even if nothing is left. -/
theorem migrate_pending_intent_incomplete :
    ¬ ∀ (answers : MigrateAnswers) (store after : MigrationStore)
      (result : SignerMigrationResult) (signers : List DeprecatedSignerReport),
      migrateDeprecatedSignerVtxos answers store = (.ok result, after) →
      answers.deprecatedSignerStatus = .ok signers →
      (result.migrationComplete = true ↔ NoPreCutoffRemains signers) := by
  intro hclaim
  let answers : MigrateAnswers :=
    { autonomousMode := false
      keyDiscoveryWarning := none
      passes := fun _ => .unregistered (.error { text := "no pass runs" })
      deprecatedSignerStatus := .ok []
      serverSigner := .ok "4f355bdcb7cc0af728ef3cceb9615d90684bb5b2ca5f859ab0f0b704075871aa"
      network := .signet
      now := 1700000000 }
  let pending : PendingBatchIntentRecord :=
    { kind := .collaborativeExit
      intentId := some "intent"
      onchainOutpoints := []
      vtxoOutpoints := []
      amountSats := 50000
      registeredAt := 1700000000
      destinationAddress := none
      lifecyclePhase := .timedOut }
  let store : MigrationStore :=
    { pendingBatchIntents := [pending]
      operatorIdentity := operatorIdentityForConnectedSigner
        "466d7fcae563e5cb09a0d1870bb580344804617879a14949cf22285f1bae3f27" .signet }
  have hincomplete := (hclaim answers store store _ [] rfl rfl).mpr (List.forall_mem_nil _)
  cases hincomplete

end Bitboard.Arkade.SignerMigration
