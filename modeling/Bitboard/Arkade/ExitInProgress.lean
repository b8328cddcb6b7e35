/-
# Collaborative exits in progress

The balance shows how much is leaving by collaborative exits. The amount is summed
over two places: the stored exit intents, and the deductions of exits whose batch
has completed. This module asks when each exit is in exactly one of them from its
registration until it is cancelled or a committed snapshot shows its inputs spent.

The machine takes the parts of an exit one by one, as `collaborative_exit.rs` runs
them: the overlap check, the registration, and the end of the join as completed,
waiting or refused. Between the parts of an exit the session may sync and show its
balance; a cancel waits for the join. Two exits at once are the subject of
`JoinInterleaving`. Beside the stored data the machine keeps the list of the exits
that are open in the sense above, which the code does not have.

An exit whose batch completes is in both places at once. In every run without one,
with the other conditions of `SingleTracker`, each open exit is counted once.
-/

import Bitboard.Arkade.IntentActionEffects
import Bitboard.Arkade.SpentIntents
import Mathlib

namespace Bitboard.Arkade

open Bitboard.Lib

structure OpenExit where
  onchainOutpoints : List PendingBatchOutpointRecord
  vtxoOutpoints : List PendingBatchOutpointRecord
  amountSats : Nat

def exitOf (record : PendingBatchIntentRecord) : OpenExit where
  onchainOutpoints := record.onchainOutpoints
  vtxoOutpoints := record.vtxoOutpoints
  amountSats := record.amountSats

def OpenExit.toRecord (exit : OpenExit) : PendingBatchIntentRecord where
  kind := .collaborativeExit
  intentId := none
  onchainOutpoints := exit.onchainOutpoints
  vtxoOutpoints := exit.vtxoOutpoints
  amountSats := exit.amountSats
  registeredAt := 0
  destinationAddress := none
  lifecyclePhase := .timedOut

def exitRecords (stored : List PendingBatchIntentRecord) : List OpenExit :=
  (stored.filter fun record => record.kind = .collaborativeExit).map exitOf

def exitContributions (store : BatchStore) : List Nat :=
  (exitRecords store.pendingBatchIntents).map OpenExit.amountSats ++
    (store.pendingExitDeductions.filter isRetainedCollaborative).map
      fun record => record.amountSats

structure ChainAnswers where
  outputStatus : OutPoint → Except String (Option Txid)
  pastCooperativeWindow : OutPoint → Except String Bool

/-- The answers of a spend check that reads the snapshot. -/
def ChainAnswers.withSnapshot (chain : ChainAnswers) (snapshot : Option OffchainVtxoSnapshot) :
    IntentAnswers where
  outputStatus := chain.outputStatus
  pastCooperativeWindow := chain.pastCooperativeWindow
  snapshot := snapshot

/-- What a snapshot says about the balance: the spendable sats, and whether an output in a
unilateral exit is still spendable. -/
structure BalanceAnswers where
  grossOffchainSpendableSats : ArkResult Nat
  stillSpendable : String → UInt32 → ArkResult Bool

structure ExitSession where
  store : BatchStore
  /-- The committed snapshot. -/
  snapshot : Option OffchainVtxoSnapshot
  /-- The registered intent of the exit that is in the client, its amount and destination. -/
  joining : Option (RegisteredBatchIntent × Nat × String)
  openExits : List OpenExit

inductive CollaborativeExitOp where
  /-- The overlap check with which an exit starts. -/
  | check (chain : ChainAnswers)
  /-- The operator registers the exit and the hook runs. -/
  | register (intent : RegisteredBatchIntent) (amountSats : Nat) (destinationAddress : String)
      (registeredAt : Int)
  /-- The batch of the exit completes. -/
  | complete (baselineSats : Nat) (now : Int)
  /-- The join gives up and the exit waits. -/
  | wait (now : Int)
  /-- The join fails before anything is registered. -/
  | refuse (error : ClientError) (amountSats : Nat) (now : Int)
  | cancel (chain : ChainAnswers)
      (deleteRegisteredIntent : List OutPoint → List OutPoint → Except ClientError Unit)
      (params : PendingBatchIntentActionParams)
  /-- An operator sync commits a snapshot and reconciles with it. -/
  | sync (snapshot : OffchainVtxoSnapshot) (balance : BalanceAnswers) (chain : ChainAnswers)
  /-- The balance is shown. -/
  | readBalance (balance : BalanceAnswers)

def reconcileDeductions (balance : BalanceAnswers) (deductions : List PendingExitDeduction) :
    ArkResult (List PendingExitDeduction) := do
  let gross ← balance.grossOffchainSpendableSats
  reconcilePendingExitDeductions balance.stillSpendable gross deductions

/-- `reconcile_pending_batch_intents`, while a join is in flight or not. -/
def reconcileIntents (idle : Bool) (answers : IntentAnswers)
    (stored : List PendingBatchIntentRecord) : List PendingBatchIntentRecord :=
  match reconcileLoop (fun _ => answers) 0 [] none (readPending idle stored) with
  | .error _ => readPending idle stored
  | .ok (remaining, _) => remaining

def OpenExit.isStillPending (answers : IntentAnswers) (exit : OpenExit) : Bool :=
  pendingBatchIntentResolution answers exit.toRecord = .ok .stillPending

def OpenExit.isApartFrom (record : PendingBatchIntentRecord) (exit : OpenExit) : Bool :=
  !pendingBatchIntentsOverlap exit.toRecord record

def collaborativeExitContext (amountSats : Nat) (destinationAddress : String) :
    BatchJoinContext where
  kind := .collaborativeExit
  amountSats := amountSats
  destinationAddress := some destinationAddress

def ExitSession.withStored (session : ExitSession) (stored : List PendingBatchIntentRecord) :
    ExitSession :=
  { session with store := { session.store with pendingBatchIntents := stored } }

def ExitSession.stored (session : ExitSession) : List PendingBatchIntentRecord :=
  session.store.pendingBatchIntents

def cancelExitIntent (session : ExitSession) (answers : CancelAnswers)
    (params : PendingBatchIntentActionParams) : ExitSession :=
  match findExactPendingIntent session.stored params with
  | none => session
  | some record =>
    match cancelRecord answers record session.store with
    | (.error _, after) => { session with store := after }
    | (.ok _, after) =>
      { session with
        store := after
        openExits := session.openExits.filter (OpenExit.isApartFrom record) }

/-- One part of an operation. A part that is not due changes nothing. -/
def exitSessionStep (session : ExitSession) : CollaborativeExitOp → ExitSession
  | .check chain =>
    let answers := chain.withSnapshot session.snapshot
    { session.withStored (reconcileIntents session.joining.isNone answers session.stored) with
      openExits := session.openExits.filter (OpenExit.isStillPending answers) }
  | .register intent amountSats destinationAddress registeredAt =>
    -- The client prepares no intent without inputs.
    if session.joining.isSome ||
        (intent.onchainOutpoints.isEmpty && intent.vtxoOutpoints.isEmpty) then session
    else
      let context := collaborativeExitContext amountSats destinationAddress
      let record := joinRecord context intent registeredAt
      { session.withStored (persistIntentFromJoinContext (some context) session.stored intent
          registeredAt) with
        joining := some (intent, amountSats, destinationAddress)
        openExits := session.openExits ++ [exitOf record] }
  | .complete baselineSats now =>
    match session.joining with
    | none => session
    | some (_, amountSats, _) =>
      { session with
        joining := none
        store :=
          { pendingBatchIntents := promoteStrandedProcessingIntents session.stored
            pendingExitDeductions := recordPendingCollaborativeExit
              session.store.pendingExitDeductions amountSats baselineSats now } }
  | .wait now =>
    match session.joining with
    | none => session
    | some (intent, amountSats, destinationAddress) =>
      { session.withStored (waitForRegisteredIntent
          (promoteStrandedProcessingIntents session.stored) intent
          (collaborativeExitContext amountSats destinationAddress) now).2 with
        joining := none }
  | .refuse error amountSats now =>
    if session.joining.isSome then session
    else
      let joined := promoteStrandedProcessingIntents session.stored
      let latest := latestPendingOutpointsForKind joined .collaborativeExit
      session.withStored (mapSettleError joined .collaborativeExit error latest.1 latest.2
        amountSats now).2
  | .cancel chain deleteRegisteredIntent params =>
    if session.joining.isSome then session
    else
      cancelExitIntent session
        { resolution := chain.withSnapshot session.snapshot, deleteRegisteredIntent } params
  | .sync snapshot balance chain =>
    let answers := chain.withSnapshot (some snapshot)
    let committed :=
      { session with
        snapshot := some snapshot
        openExits := session.openExits.filter (OpenExit.isStillPending answers) }
    match reconcileDeductions balance session.store.pendingExitDeductions with
    | .error _ => committed
    | .ok retained =>
      { committed with
        store :=
          { pendingBatchIntents :=
              reconcileIntents session.joining.isNone answers session.stored
            pendingExitDeductions := retained } }
  | .readBalance balance =>
    match session.snapshot, reconcileDeductions balance session.store.pendingExitDeductions with
    | some _, .ok retained =>
      { session with store := { session.store with pendingExitDeductions := retained } }
    | _, _ => session

def exitSessionRun (session : ExitSession) (ops : List CollaborativeExitOp) : ExitSession :=
  run exitSessionStep session ops

/-- Each open exit contributes its amount once, and nothing else contributes. -/
def CountsOnce (session : ExitSession) : Prop :=
  (exitContributions session.store).Perm (session.openExits.map OpenExit.amountSats)

/-- Conditions on the steps of a run. No exit completes; a registered exit has no input of a
stored intent; an exit that waits is open; an exit that is refused for a duplicated input
finds no exit stored; and the lookups of a check and of a sync succeed. -/
def SingleTracker (session : ExitSession) : CollaborativeExitOp → Prop
  | .check chain => ¬ LookupFails (fun _ => chain.withSnapshot session.snapshot)
      (readPending session.joining.isNone session.stored)
  | .register intent amountSats destinationAddress registeredAt =>
    ∀ record ∈ session.stored, ¬ SharesInput record
      (joinRecord (collaborativeExitContext amountSats destinationAddress) intent registeredAt)
  | .complete _ _ => False
  | .wait now => ∀ intent amountSats destinationAddress,
      session.joining = some (intent, amountSats, destinationAddress) →
      exitOf (joinRecord (collaborativeExitContext amountSats destinationAddress) intent now) ∈
        session.openExits
  | .refuse error _ _ => error.isDuplicatedInput = true →
      exitRecords session.stored = []
  | .sync snapshot balance chain =>
    (∃ retained, reconcileDeductions balance session.store.pendingExitDeductions = .ok retained) ∧
    ¬ LookupFails (fun _ => chain.withSnapshot (some snapshot))
      (readPending session.joining.isNone session.stored)
  | _ => True

/-! ## The exits of a list -/

section ExitRecords

variable {stored : List PendingBatchIntentRecord}

theorem exitRecords_append (first second : List PendingBatchIntentRecord) :
    exitRecords (first ++ second) = exitRecords first ++ exitRecords second := by
  simp [exitRecords]

theorem exitRecords_filter (keep : PendingBatchIntentRecord → Bool) (keepExit : OpenExit → Bool)
    (hkeep : ∀ record ∈ stored, record.kind = .collaborativeExit →
      keep record = keepExit (exitOf record)) :
    exitRecords (stored.filter keep) = (exitRecords stored).filter keepExit := by
  unfold exitRecords
  rw [List.filter_map, List.filter_filter, List.filter_filter]
  congr 1
  apply List.filter_congr
  intro record hmem
  by_cases hkind : record.kind = .collaborativeExit
  · simp [hkind, hkeep record hmem hkind]
  · simp [hkind]

theorem kind_timeOut (record : PendingBatchIntentRecord) : (timeOut record).kind = record.kind := by
  unfold timeOut
  split <;> rfl

theorem exitOf_timeOut (record : PendingBatchIntentRecord) :
    exitOf (timeOut record) = exitOf record := by
  unfold timeOut
  split <;> rfl

theorem exitRecords_map {restamp : PendingBatchIntentRecord → PendingBatchIntentRecord}
    (hrestamp : Restamps restamp) : exitRecords (stored.map restamp) = exitRecords stored := by
  have hkind : ∀ record, (restamp record).kind = record.kind := by
    intro record
    cases hrestamp record with
    | inl heq => rw [heq]
    | inr heq => rw [heq, kind_timeOut]
  have hexit : ∀ record, exitOf (restamp record) = exitOf record := by
    intro record
    cases hrestamp record with
    | inl heq => rw [heq]
    | inr heq => rw [heq, exitOf_timeOut]
  simp only [exitRecords, List.filter_map, List.map_map, Function.comp_def, hkind, hexit]

theorem exitRecords_readPending (idle : Bool) :
    exitRecords (readPending idle stored) = exitRecords stored := by
  cases idle with
  | false => rfl
  | true => exact exitRecords_map fun _ => .inr rfl

theorem inputsDisjoint_readPending (hdisjoint : InputsDisjoint stored) (idle : Bool) :
    InputsDisjoint (readPending idle stored) := by
  cases idle with
  | false => exact hdisjoint
  | true => exact (rewrites_intentStep stored .promote).inputsDisjoint hdisjoint

variable {record : PendingBatchIntentRecord}

theorem resolution_exitOf (answers : IntentAnswers) (hkind : record.kind = .collaborativeExit) :
    pendingBatchIntentResolution answers record =
      pendingBatchIntentResolution answers (exitOf record).toRecord := by
  unfold pendingBatchIntentResolution resolveOnchainPendingIntent resolveVtxoPendingIntent
  rw [hkind]
  rfl

variable {answers : IntentAnswers}

/-- A loop whose lookups succeed leaves what is still pending. -/
theorem reconcileLoop_eq_filter (hlookups : ¬ LookupFails (fun _ => answers) stored)
    (remaining : List PendingBatchIntentRecord) (finalizedTxid : Option String) :
    ∃ after, reconcileLoop (fun _ => answers) 0 remaining finalizedTxid stored =
      .ok (remaining ++ stored.filter fun record =>
        pendingBatchIntentResolution answers record = .ok .stillPending, after) := by
  induction stored generalizing remaining finalizedTxid with
  | nil => exact ⟨finalizedTxid, by simp [reconcileLoop]⟩
  | cons record rest ih =>
    rw [lookupFails_cons, not_or] at hlookups
    cases hresolution : pendingBatchIntentResolution answers record with
    | error error => exact absurd ⟨error, hresolution⟩ hlookups.1
    | ok resolution =>
      cases resolution with
      | stillPending =>
        obtain ⟨after, hafter⟩ := ih hlookups.2 (remaining ++ [record]) finalizedTxid
        refine ⟨after, ?_⟩
        simp only [reconcileLoop, hresolution, reconcileLoop_shift]
        rw [List.filter_cons_of_pos (by simp [hresolution])]
        rw [List.append_assoc, List.singleton_append] at hafter
        exact hafter
      | spent spendTxid =>
        obtain ⟨after, hafter⟩ := ih hlookups.2 remaining (some spendTxid)
        refine ⟨after, ?_⟩
        simp only [reconcileLoop, hresolution, reconcileLoop_shift]
        rw [List.filter_cons_of_neg (by simp [hresolution])]
        exact hafter
      | boardingWindowExpired =>
        obtain ⟨after, hafter⟩ := ih hlookups.2 remaining finalizedTxid
        refine ⟨after, ?_⟩
        simp only [reconcileLoop, hresolution, reconcileLoop_shift]
        rw [List.filter_cons_of_neg (by simp [hresolution])]
        exact hafter

theorem reconcileIntents_eq_filter {idle : Bool}
    (hlookups : ¬ LookupFails (fun _ => answers) (readPending idle stored)) :
    reconcileIntents idle answers stored = (readPending idle stored).filter fun record =>
      pendingBatchIntentResolution answers record = .ok .stillPending := by
  obtain ⟨after, hafter⟩ := reconcileLoop_eq_filter hlookups [] none
  simp [reconcileIntents, hafter]

/-- A sync whose lookups succeed leaves an exit open unless the inputs that it examines are
spent. -/
theorem OpenExit.isStillPending_iff {exit : OpenExit}
    (hlooked : ∀ error, pendingBatchIntentResolution answers exit.toRecord ≠ .error error) :
    exit.isStillPending answers = true ↔ ¬ ExaminedInputsSpent answers exit.toRecord := by
  rw [← pendingBatchIntentResolution_eq_spent_iff, OpenExit.isStillPending, decide_eq_true_iff]
  constructor
  · rintro hpending ⟨spendTxid, hspent⟩
    rw [hpending] at hspent
    cases hspent
  · intro hunspent
    cases hresolution : pendingBatchIntentResolution answers exit.toRecord with
    | error error => exact absurd hresolution (hlooked error)
    | ok resolution =>
      cases resolution with
      | stillPending => rfl
      | spent spendTxid => exact absurd ⟨spendTxid, hresolution⟩ hunspent
      | boardingWindowExpired =>
        cases ((pendingBatchIntentResolution_eq_expired_iff answers _).mp hresolution).1

theorem exitRecords_reconcileIntents {idle : Bool}
    (hlookups : ¬ LookupFails (fun _ => answers) (readPending idle stored)) :
    exitRecords (reconcileIntents idle answers stored) =
      (exitRecords stored).filter (OpenExit.isStillPending answers) := by
  have hfilter : exitRecords ((readPending idle stored).filter fun record =>
      pendingBatchIntentResolution answers record = .ok .stillPending) =
      (exitRecords (readPending idle stored)).filter (OpenExit.isStillPending answers) := by
    apply exitRecords_filter
    intro record _ hkind
    rw [OpenExit.isStillPending, resolution_exitOf answers hkind]
  rw [reconcileIntents_eq_filter hlookups, hfilter, exitRecords_readPending]

theorem exitRecords_removeOverlapping (record : PendingBatchIntentRecord) :
    exitRecords (removePendingBatchIntentsOverlapping stored record.onchainOutpoints
      record.vtxoOutpoints) = (exitRecords stored).filter (OpenExit.isApartFrom record) := by
  apply exitRecords_filter
  intro existing _ _
  rfl

/-- Of disjoint intents, only the one with the inputs of a record overlaps it. -/
theorem filter_overlap_eq_singleton (hdisjoint : InputsDisjoint stored)
    {existing : PendingBatchIntentRecord} (hmem : existing ∈ stored)
    (honchain : existing.onchainOutpoints = record.onchainOutpoints)
    (hvtxo : existing.vtxoOutpoints = record.vtxoOutpoints)
    (hself : SharesInput existing existing) :
    (stored.filter fun other => pendingBatchIntentsOverlap other record) = [existing] := by
  have hoverlap : ∀ other, pendingBatchIntentsOverlap other record = true ↔
      SharesInput other existing := by
    intro other
    rw [pendingBatchIntentsOverlap_iff, SharesInput, SharesInput, honchain, hvtxo]
  induction stored with
  | nil => cases hmem
  | cons first rest ih =>
    obtain ⟨hfirst, hrest⟩ := List.pairwise_cons.mp hdisjoint
    cases List.mem_cons.mp hmem with
    | inl heq =>
      subst heq
      simp only [List.filter_cons, (hoverlap existing).mpr hself, if_true]
      have hnone : (rest.filter fun other => pendingBatchIntentsOverlap other record) = [] := by
        apply List.filter_eq_nil_iff.mpr
        intro other hother
        rw [hoverlap]
        exact fun hshares => hfirst other hother hshares.symm
      rw [hnone]
    | inr hlater =>
      have hnot : ¬ pendingBatchIntentsOverlap first record = true := by
        rw [hoverlap]
        exact hfirst existing hlater
      simp only [List.filter_cons, hnot]
      exact ih hrest hlater

end ExitRecords

/-- The stored exits are the open ones, and no deduction of an exit is retained. -/
structure Tracked (session : ExitSession) : Prop where
  disjoint : InputsDisjoint session.stored
  exits : (exitRecords session.stored).Perm session.openExits
  inputs : ∀ exit ∈ session.openExits, pendingIntentOutpointsEmpty exit.toRecord = false
  noDeductions : ∀ record ∈ session.store.pendingExitDeductions,
    isRetainedCollaborative record = false

section Tracked

variable {session : ExitSession}

theorem Tracked.countsOnce (htracked : Tracked session) : CountsOnce session := by
  have hnone : session.store.pendingExitDeductions.filter isRetainedCollaborative = [] := by
    apply List.filter_eq_nil_iff.mpr
    intro record hrecord
    rw [htracked.noDeductions record hrecord]
    exact Bool.false_ne_true
  unfold CountsOnce exitContributions
  rw [hnone, List.map_nil, List.append_nil]
  exact htracked.exits.map OpenExit.amountSats

/-- The deductions that a reconcile keeps were there before. -/
theorem mem_of_reconcileDeductions {balance : BalanceAnswers}
    {deductions retained : List PendingExitDeduction}
    (h : reconcileDeductions balance deductions = .ok retained) :
    ∀ record ∈ retained, record ∈ deductions := by
  obtain ⟨gross, -, hreconcile⟩ := bind_eq_ok.mp h
  apply foldlM_invariant (fun kept => ∀ record ∈ kept, record ∈ deductions) _ _ hreconcile
  · intro kept input hinput next hnext hkept
    obtain ⟨keep, -, hnext⟩ := bind_eq_ok.mp hnext
    cases keep with
    | false =>
      cases hnext
      exact hkept
    | true =>
      cases hnext
      intro record hrecord
      cases List.mem_append.mp hrecord with
      | inl hold => exact hkept record hold
      | inr hnew =>
        rw [List.mem_singleton.mp hnew]
        exact hinput
  · intro record hrecord
    cases hrecord

variable {stored : List PendingBatchIntentRecord}

theorem inputsDisjoint_reconcileIntents {answers : IntentAnswers} {idle : Bool}
    (hdisjoint : InputsDisjoint stored)
    (hlookups : ¬ LookupFails (fun _ => answers) (readPending idle stored)) :
    InputsDisjoint (reconcileIntents idle answers stored) := by
  rw [reconcileIntents_eq_filter hlookups]
  exact (inputsDisjoint_readPending hdisjoint idle).filter _

theorem Tracked.close (htracked : Tracked session) {next : ExitSession} {keep : OpenExit → Bool}
    (hexits : exitRecords next.stored = (exitRecords session.stored).filter keep)
    (hopen : next.openExits = session.openExits.filter keep)
    (hdisjoint : InputsDisjoint next.stored)
    (hdeductions : ∀ record ∈ next.store.pendingExitDeductions,
      record ∈ session.store.pendingExitDeductions) : Tracked next where
  disjoint := hdisjoint
  exits := by
    rw [hexits, hopen]
    exact htracked.exits.filter keep
  inputs exit hexit := by
    rw [hopen] at hexit
    exact htracked.inputs exit (List.mem_filter.mp hexit).1
  noDeductions record hrecord := htracked.noDeductions record (hdeductions record hrecord)

theorem Tracked.frame (htracked : Tracked session) {next : ExitSession}
    (hexits : (exitRecords next.stored).Perm (exitRecords session.stored))
    (hopen : next.openExits = session.openExits) (hdisjoint : InputsDisjoint next.stored)
    (hdeductions : ∀ record ∈ next.store.pendingExitDeductions,
      record ∈ session.store.pendingExitDeductions) : Tracked next where
  disjoint := hdisjoint
  exits := by
    rw [hopen]
    exact hexits.trans htracked.exits
  inputs := by
    rw [hopen]
    exact htracked.inputs
  noDeductions record hrecord := htracked.noDeductions record (hdeductions record hrecord)

variable {record : PendingBatchIntentRecord}

theorem upsert_eq_append (hapart : ∀ existing ∈ stored, ¬ SharesInput existing record) :
    upsertPendingBatchIntent stored record = stored ++ [record] := by
  have hall : (stored.filter fun existing => !pendingBatchIntentsOverlap existing record) =
      stored := by
    apply List.filter_eq_self.mpr
    intro existing hmem
    rw [Bool.not_eq_true', ← Bool.not_eq_true, pendingBatchIntentsOverlap_iff]
    exact hapart existing hmem
  rw [upsertPendingBatchIntent, hall]

theorem Tracked.register (htracked : Tracked session) {intent : RegisteredBatchIntent}
    {amountSats : Nat} {destinationAddress : String} {registeredAt : Int}
    (hapart : ∀ record ∈ session.stored, ¬ SharesInput record
      (joinRecord (collaborativeExitContext amountSats destinationAddress) intent
        registeredAt)) :
    Tracked (exitSessionStep session
      (.register intent amountSats destinationAddress registeredAt)) := by
  simp only [exitSessionStep]
  split
  · exact htracked
  · rename_i hdue
    let record := joinRecord (collaborativeExitContext amountSats destinationAddress) intent
      registeredAt
    have hupsert := upsert_eq_append hapart
    have hinput : pendingIntentOutpointsEmpty (exitOf record).toRecord = false := by
      rw [Bool.or_eq_true, not_or] at hdue
      simpa [pendingIntentOutpointsEmpty, OpenExit.toRecord, exitOf, record, joinRecord,
        recordFromRegisteredIntent] using hdue.2
    refine ⟨?_, ?_, ?_, htracked.noDeductions⟩
    · exact (rewrites_intentStep session.stored (.upsert record)).inputsDisjoint
        htracked.disjoint
    · change (exitRecords (upsertPendingBatchIntent session.stored record)).Perm
        (session.openExits ++ [exitOf record])
      rw [hupsert, exitRecords_append]
      exact htracked.exits.append_right [exitOf record]
    · intro exit hexit
      cases List.mem_append.mp hexit with
      | inl hold => exact htracked.inputs exit hold
      | inr hnew =>
        rw [List.mem_singleton.mp hnew]
        exact hinput

/-- Once every intent is timed out, the time-out of a registered one replaces its record. -/
theorem stampRegistered_promote (stored : List PendingBatchIntentRecord)
    (record : PendingBatchIntentRecord) :
    stampRegisteredIntentTimedOut (promoteStrandedProcessingIntents stored) record =
      upsertPendingBatchIntent (promoteStrandedProcessingIntents stored)
        { record with lifecyclePhase := .timedOut } := by
  have hphase : ∀ existing ∈ promoteStrandedProcessingIntents stored,
      existing.lifecyclePhase = .timedOut ∧ timeOut existing = existing := by
    intro existing hmem
    obtain ⟨before, -, rfl⟩ := List.mem_map.mp hmem
    exact ⟨lifecyclePhase_timeOut before, timeOut_timeOut before⟩
  have hstamped : (stampOverlappingPendingBatchIntentTimedOut
      (promoteStrandedProcessingIntents stored) record.onchainOutpoints
      record.vtxoOutpoints).1 = false := by
    apply List.any_eq_false.mpr
    intro existing hmem
    simp [(hphase existing hmem).1]
  have hlist : (stampOverlappingPendingBatchIntentTimedOut
      (promoteStrandedProcessingIntents stored) record.onchainOutpoints
      record.vtxoOutpoints).2 = promoteStrandedProcessingIntents stored := by
    apply (List.map_congr_left _).trans (List.map_id _)
    intro existing hmem
    simp [(hphase existing hmem).2]
  simp only [stampRegisteredIntentTimedOut, hstamped, hlist]
  rfl

/-- The new record of an open exit takes the place of the old one. -/
theorem exitRecords_upsert_perm (hdisjoint : InputsDisjoint stored)
    (hkind : record.kind = .collaborativeExit)
    (hinputs : pendingIntentOutpointsEmpty record = false)
    (hopen : exitOf record ∈ exitRecords stored) :
    (exitRecords (upsertPendingBatchIntent stored record)).Perm (exitRecords stored) := by
  obtain ⟨existing, hexisting, hexit⟩ := List.mem_map.mp hopen
  have hmem : existing ∈ stored := (List.mem_filter.mp hexisting).1
  have honchain : existing.onchainOutpoints = record.onchainOutpoints :=
    congrArg OpenExit.onchainOutpoints hexit
  have hvtxo : existing.vtxoOutpoints = record.vtxoOutpoints :=
    congrArg OpenExit.vtxoOutpoints hexit
  have hself : SharesInput existing existing := by
    apply sharesInput_self
    rwa [pendingIntentOutpointsEmpty, honchain, hvtxo]
  have hold := filter_overlap_eq_singleton hdisjoint hmem honchain hvtxo hself
  have hexistingKind : existing.kind = .collaborativeExit := by
    simpa using (List.mem_filter.mp hexisting).2
  have hsingle : exitRecords [existing] = exitRecords [record] := by
    simp [exitRecords, hkind, hexistingKind, hexit]
  have hsplit := List.filter_append_perm
    (fun other => pendingBatchIntentsOverlap other record) stored
  rw [hold] at hsplit
  have hrecords := (hsplit.filter fun record => record.kind = .collaborativeExit).map exitOf
  change (exitRecords ([existing] ++ _)).Perm (exitRecords stored) at hrecords
  rw [exitRecords_append, hsingle] at hrecords
  rw [upsertPendingBatchIntent, exitRecords_append]
  exact List.perm_append_comm.trans hrecords

theorem Tracked.wait (htracked : Tracked session) {now : Int}
    (hopen : SingleTracker session (.wait now)) :
    Tracked (exitSessionStep session (.wait now)) := by
  simp only [exitSessionStep]
  cases hjoining : session.joining with
  | none => exact htracked
  | some joining =>
    obtain ⟨intent, amountSats, destinationAddress⟩ := joining
    let context := collaborativeExitContext amountSats destinationAddress
    let timedOut := { joinRecord context intent now with lifecyclePhase := .timedOut }
    let promoted := promoteStrandedProcessingIntents session.stored
    have hmem : exitOf timedOut ∈ session.openExits :=
      hopen intent amountSats destinationAddress hjoining
    have hpromoted : exitRecords promoted = exitRecords session.stored :=
      exitRecords_readPending true
    have hdisjoint : InputsDisjoint promoted :=
      inputsDisjoint_readPending htracked.disjoint true
    have hstored : (waitForRegisteredIntent promoted intent context now).2 =
        upsertPendingBatchIntent promoted timedOut := stampRegistered_promote _ _
    have hinputs : pendingIntentOutpointsEmpty timedOut = false := htracked.inputs _ hmem
    have hstoredExit : exitOf timedOut ∈ exitRecords promoted := by
      rw [hpromoted]
      exact htracked.exits.mem_iff.mpr hmem
    have hkind : timedOut.kind = .collaborativeExit := rfl
    have hperm := exitRecords_upsert_perm hdisjoint hkind hinputs hstoredExit
    refine Tracked.frame htracked ?_ rfl ?_ fun _ h => h
    · change (exitRecords (waitForRegisteredIntent promoted intent context now).2).Perm _
      rw [hstored, ← hpromoted]
      exact hperm
    · change InputsDisjoint (waitForRegisteredIntent promoted intent context now).2
      rw [hstored]
      exact (rewrites_intentStep _ (.upsert _)).inputsDisjoint hdisjoint

theorem latestPendingOutpoints_of_noExits (hnone : exitRecords stored = []) :
    latestPendingOutpointsForKind stored .collaborativeExit = ([], []) := by
  have hfind : latestPendingRecordOfKind stored .collaborativeExit = none := by
    apply List.find?_eq_none.mpr
    intro record hmem hkind
    have hexit : exitOf record ∈ exitRecords stored :=
      List.mem_map_of_mem (List.mem_filter.mpr ⟨List.mem_reverse.mp hmem, hkind⟩)
    rw [hnone] at hexit
    cases hexit
  rw [latestPendingOutpointsForKind, hfind]

theorem Tracked.refuse (htracked : Tracked session) {error : ClientError} {amountSats : Nat}
    {now : Int}
    (hnone : error.isDuplicatedInput = true → exitRecords session.stored = []) :
    Tracked (exitSessionStep session (.refuse error amountSats now)) := by
  have hpromoted : exitRecords (promoteStrandedProcessingIntents session.stored) =
      exitRecords session.stored := exitRecords_readPending true
  have hjoined : (mapSettleError (promoteStrandedProcessingIntents session.stored)
      .collaborativeExit error
      (latestPendingOutpointsForKind (promoteStrandedProcessingIntents session.stored)
        .collaborativeExit).1
      (latestPendingOutpointsForKind (promoteStrandedProcessingIntents session.stored)
        .collaborativeExit).2 amountSats now).2 =
      promoteStrandedProcessingIntents session.stored := by
    unfold mapSettleError
    split
    · rename_i hduplicated
      rw [latestPendingOutpoints_of_noExits (hpromoted.trans (hnone hduplicated))]
      rfl
    · rfl
  simp only [exitSessionStep]
  split
  · exact htracked
  · refine Tracked.frame htracked ?_ rfl ?_ fun _ h => h
    · change (exitRecords (mapSettleError _ _ _ _ _ _ _).2).Perm _
      rw [hjoined, hpromoted]
    · change InputsDisjoint (mapSettleError _ _ _ _ _ _ _).2
      rw [hjoined]
      exact inputsDisjoint_readPending htracked.disjoint true

theorem mem_deductions_of_cancelRecord {answers : CancelAnswers} {store : BatchStore} :
    ∀ deduction ∈ (cancelRecord answers record store).2.pendingExitDeductions,
      deduction ∈ store.pendingExitDeductions := by
  have hends := @cancelEnds_cancelRecord record store answers
  generalize cancelRecord answers record store = outcome at hends
  intro deduction hdeduction
  cases hends with
  | failed | resolved => exact hdeduction
  | deleted hforgets =>
    simp only [forgetDeletedIntent] at hdeduction
    split at hdeduction
    · exact (List.mem_filter.mp hdeduction).1
    · exact hdeduction

theorem Tracked.cancel (htracked : Tracked session) (answers : CancelAnswers)
    (params : PendingBatchIntentActionParams) :
    Tracked (cancelExitIntent session answers params) := by
  unfold cancelExitIntent
  cases findExactPendingIntent session.stored params with
  | none => exact htracked
  | some record =>
    have hends := @cancelEnds_cancelRecord record session.store answers
    have hdeductions := @mem_deductions_of_cancelRecord record answers session.store
    have hdropped : exitRecords (dropPendingIntentRecord session.store
        record).pendingBatchIntents =
        (exitRecords session.stored).filter (OpenExit.isApartFrom record) :=
      exitRecords_removeOverlapping record
    have hdisjoint : InputsDisjoint (dropPendingIntentRecord session.store
        record).pendingBatchIntents := htracked.disjoint.filter _
    simp only
    generalize cancelRecord answers record session.store = outcome at hends hdeductions
    cases hends with
    | failed error => exact htracked
    | resolved hresolved => exact htracked.close hdropped rfl hdisjoint hdeductions
    | deleted hforgets =>
      have hsame := @pendingBatchIntents_forgetDeletedIntent record session.store
        .stillPending
      refine htracked.close ?_ rfl ?_ hdeductions
      · change exitRecords (forgetDeletedIntent _ _ _).pendingBatchIntents = _
        rw [hsame, hdropped]
      · change InputsDisjoint (forgetDeletedIntent _ _ _).pendingBatchIntents
        rw [hsame]
        exact hdisjoint

theorem tracked_exitSessionStep {op : CollaborativeExitOp} (hguard : SingleTracker session op)
    (htracked : Tracked session) : Tracked (exitSessionStep session op) := by
  cases op with
  | check chain =>
    exact htracked.close (exitRecords_reconcileIntents hguard) rfl
      (inputsDisjoint_reconcileIntents htracked.disjoint hguard) fun _ h => h
  | register intent amountSats destinationAddress registeredAt => exact htracked.register hguard
  | complete baselineSats now => exact absurd hguard id
  | wait now => exact htracked.wait hguard
  | refuse error amountSats now => exact htracked.refuse hguard
  | cancel chain deleteRegisteredIntent params =>
    simp only [exitSessionStep]
    split
    · exact htracked
    · exact htracked.cancel _ params
  | sync snapshot balance chain =>
    obtain ⟨⟨retained, hretained⟩, hlookups⟩ := hguard
    simp only [exitSessionStep, hretained]
    exact htracked.close (exitRecords_reconcileIntents hlookups) rfl
      (inputsDisjoint_reconcileIntents htracked.disjoint hlookups)
      (mem_of_reconcileDeductions hretained)
  | readBalance balance =>
    simp only [exitSessionStep]
    split
    · rename_i hretained
      exact htracked.frame (List.Perm.refl _) rfl htracked.disjoint
        (mem_of_reconcileDeductions hretained)
    · exact htracked

end Tracked

/-! ## The call as a run -/

section Call

variable {session : ExitSession} {answers : CollaborativeExitAnswers}

theorem reconcilePendingBatchIntents_snd (answers : IntentAnswers)
    (stored : List PendingBatchIntentRecord) :
    (reconcilePendingBatchIntents (fun _ => answers) stored).2 =
      reconcileIntents true answers stored := by
  have hread : readPending true stored = promoteStrandedProcessingIntents stored := rfl
  unfold reconcilePendingBatchIntents reconcileIntents
  rw [hread]
  dsimp only
  split
  · rename_i hempty
    rw [List.isEmpty_iff] at hempty
    simp [hempty, reconcileLoop]
  · cases reconcileLoop (fun _ => answers) 0 [] none (promoteStrandedProcessingIntents stored) with
    | error | ok => rfl

theorem joinCollaborativeExit_eq_run (hidle : session.joining = none)
    (destinationAddress : String) (exitAmount baselineSats : Nat) :
    ∃ ops, (exitSessionRun session ops).store =
        (joinCollaborativeExit answers destinationAddress exitAmount baselineSats
          session.store).2 ∧
      (exitSessionRun session ops).joining = none := by
  have hends := redeemEnds_collaborativeRedeem answers.redeem exitAmount
    answers.spendLockedOutpoints
  unfold joinCollaborativeExit
  generalize collaborativeRedeemExcludingVtxos answers.redeem exitAmount
    answers.spendLockedOutpoints = joined at hends
  cases hends with
  | refused error =>
    refine ⟨[.refuse error exitAmount answers.now], ?_, ?_⟩
    · simp only [exitSessionRun, run_cons, run_nil, exitSessionStep, hidle, Option.isSome_none]
      rfl
    · simp only [exitSessionRun, run_cons, run_nil, exitSessionStep, hidle, Option.isSome_none]
      exact hidle
  | completed intent registeredAt txid hinput =>
    refine ⟨[.register intent exitAmount destinationAddress registeredAt,
      .complete baselineSats answers.now], ?_, ?_⟩
    · simp only [exitSessionRun, run_cons, run_nil, exitSessionStep, hidle, Option.isSome_none,
        Bool.false_or, if_neg hinput]
      rfl
    · simp only [exitSessionRun, run_cons, run_nil, exitSessionStep, hidle, Option.isSome_none,
        Bool.false_or, if_neg hinput]
  | waiting intent registeredAt hinput =>
    refine ⟨[.register intent exitAmount destinationAddress registeredAt,
      .wait answers.now], ?_, ?_⟩
    · simp only [exitSessionRun, run_cons, run_nil, exitSessionStep, hidle, Option.isSome_none,
        Bool.false_or, if_neg hinput]
      rfl
    · simp only [exitSessionRun, run_cons, run_nil, exitSessionStep, hidle, Option.isSome_none,
        Bool.false_or, if_neg hinput]

theorem collaborativeExit_eq_run (hidle : session.joining = none) (chain : ChainAnswers)
    (hresolutions : answers.resolutions = fun _ => chain.withSnapshot session.snapshot)
    (destinationAddress : String) (amountSats : Option Nat) :
    ∃ ops, (exitSessionRun session ops).store =
        (collaborativeExit answers destinationAddress amountSats session.store).2 ∧
      (exitSessionRun session ops).joining = none := by
  let checked := exitSessionStep session (.check chain)
  have hchecked : checked.store = { session.store with
      pendingBatchIntents := (existingPendingBatchJoinResult answers.resolutions
        session.store.pendingBatchIntents []
        (unspentSnapshotOutpoints answers.snapshot)).2 } := by
    rw [existingPendingBatchJoinResult_snd, hresolutions, reconcilePendingBatchIntents_snd]
    simp only [checked, exitSessionStep, hidle]
    rfl
  have hidleChecked : checked.joining = none := hidle
  have hdone : ∃ ops, (exitSessionRun session ops).store = checked.store ∧
      (exitSessionRun session ops).joining = none := ⟨[.check chain], rfl, hidleChecked⟩
  unfold collaborativeExit
  split
  · exact ⟨[], rfl, hidle⟩
  · cases hexisting : existingPendingBatchJoinResult answers.resolutions
      session.store.pendingBatchIntents [] (unspentSnapshotOutpoints answers.snapshot) with
    | mk existing intents =>
      rw [hexisting] at hchecked
      rw [hchecked] at hdone
      cases existing with
      | error error => exact hdone
      | ok overlap =>
        cases overlap with
        | some waiting => exact hdone
        | none =>
          simp only
          cases answers.parseOnchainAddress destinationAddress with
          | error text => exact hdone
          | ok parsed =>
            cases answers.netCooperativeSpendableSats with
            | error error => exact hdone
            | ok baselineSats =>
              obtain ⟨ops, hstore, hjoining⟩ := @joinCollaborativeExit_eq_run checked
                answers hidleChecked destinationAddress
                (resolveCooperativeExitAmount amountSats baselineSats) baselineSats
              rw [hchecked] at hstore
              exact ⟨.check chain :: ops, hstore, hjoining⟩

end Call

theorem collaborativeExitInProgressSats_eq (store : BatchStore) :
    collaborativeExitInProgressSats store =
      min (exitContributions store).sum (UInt64.size - 1) := by
  have hintents : (exitRecords store.pendingBatchIntents).map OpenExit.amountSats =
      (store.pendingBatchIntents.filter fun record => record.kind = .collaborativeExit).map
        fun record => record.amountSats := by
    rw [exitRecords, List.map_map]
    rfl
  unfold collaborativeExitInProgressSats
  dsimp only
  rw [foldl_saturatingAdd (fun record : PendingBatchIntentRecord => record.amountSats) _ 0
      (Nat.zero_le _),
    foldl_saturatingAdd (fun record : PendingExitDeduction => record.amountSats) _ 0
      (Nat.zero_le _), saturatingAdd, exitContributions, List.sum_append, hintents]
  omega

/-- A session that is opened with a store: the stored exits are open. -/
def openedSession (store : BatchStore) (snapshot : Option OffchainVtxoSnapshot) : ExitSession where
  store := store
  snapshot := snapshot
  joining := none
  openExits := exitRecords store.pendingBatchIntents

def quietChain : ChainAnswers where
  outputStatus _ := .ok none
  pastCooperativeWindow _ := .ok false

def sampleBalance : BalanceAnswers where
  grossOffchainSpendableSats := .ok 0
  stillSpendable _ _ := .ok false

def sampleExitIntent : RegisteredBatchIntent where
  intentId := "exit"
  onchainOutpoints := []
  vtxoOutpoints := [sampleInput]

def emptyStore : BatchStore where
  pendingBatchIntents := []
  pendingExitDeductions := []

def exitWaits : List CollaborativeExitOp :=
  [.check quietChain, .register sampleExitIntent 1000 "address" 1, .wait 2,
    .sync (snapshotWith sampleInput true) sampleBalance quietChain]

def exitCompletes : List CollaborativeExitOp :=
  [.check quietChain, .register sampleExitIntent 1000 "address" 1, .complete 1000 2]

theorem not_lookupFails_of_vtxoOnly {answers : IntentAnswers}
    {stored : List PendingBatchIntentRecord}
    (hvtxo : ∀ record ∈ stored, record.onchainOutpoints = []) :
    ¬ LookupFails (fun _ => answers) stored := by
  intro hfails
  obtain ⟨position, record, error, hposition, herror⟩ := hfails
  have honchain := hvtxo record (List.mem_of_getElem? hposition)
  simp only [pendingBatchIntentResolution, honchain] at herror
  split at herror
  · contradiction
  · split at herror
    · cases herror
    · cases herror

end Bitboard.Arkade
