/-
# Reconciling the pending intents

A reconcile reads the stored intents, asks the chain and the snapshot about each of
them, and writes those that are still pending back as the new list. The lookups
take time: the registration hook and the other writers of the list run between the
read and the write-back, and so do other reconciles.

The first part follows `reconcile.rs`. What the chain and the snapshot answer for
the record at each position of the list that was read is an input. The second part
is the session as a machine whose steps are the atomic parts of these operations,
and says when an intent that was registered in between survives the write-back.
-/

import Bitboard.Arkade.ExitMaterials
import Bitboard.Arkade.IntentRuns
import Bitboard.Lib.FallibleLoop

namespace Bitboard.Arkade

open Bitboard.Lib

inductive PendingBatchIntentResolution where
  | stillPending
  | spent (spendTxid : String)
  | boardingWindowExpired
  deriving DecidableEq

structure OnchainOutpointResolution where
  spendTxid : Option String
  boardingWindowExpired : Bool

/-- What a reconcile learns while it resolves one record: the spending transaction of an
output, whether the cooperative window of a boarding output is over, and the snapshot. A
lookup that fails has a text. -/
structure IntentAnswers where
  outputStatus : OutPoint → Except String (Option Txid)
  pastCooperativeWindow : OutPoint → Except String Bool
  snapshot : Option OffchainVtxoSnapshot

def parseOutpointRecord (record : PendingBatchOutpointRecord) : Option OutPoint :=
  (Txid.fromStr record.txid).map fun txid => { txid, vout := record.vout }

def resolveOnchainOutputsStatus (perOutpoint : List OnchainOutpointResolution)
    (kind : PendingBatchIntentKind) : PendingBatchIntentResolution :=
  if perOutpoint.isEmpty then .stillPending
  else if perOutpoint.all fun item => item.spendTxid.isSome then
    .spent ((perOutpoint.findSome? OnchainOutpointResolution.spendTxid).getD "")
  else if kind = .board ∧
      perOutpoint.all (fun item => item.spendTxid.isNone && item.boardingWindowExpired) then
    .boardingWindowExpired
  else .stillPending

/-- One round of the loop over the on-chain inputs. The window is asked for only while a
boarding output is unspent. -/
def resolveOnchainOutpoint (answers : IntentAnswers) (kind : PendingBatchIntentKind)
    (perOutpoint : List OnchainOutpointResolution) (record : PendingBatchOutpointRecord) :
    Except String (List OnchainOutpointResolution) :=
  match parseOutpointRecord record with
  | none => .ok perOutpoint
  | some outpoint => do
      let spendTxid ← answers.outputStatus outpoint
      let expired ←
        if kind = .board ∧ spendTxid = none then answers.pastCooperativeWindow outpoint
        else .ok false
      return perOutpoint ++
        [{ spendTxid := spendTxid.map Txid.text, boardingWindowExpired := expired }]

def resolveOnchainPendingIntent (answers : IntentAnswers) (record : PendingBatchIntentRecord) :
    Except String PendingBatchIntentResolution := do
  let perOutpoint ← record.onchainOutpoints.foldlM
    (resolveOnchainOutpoint answers record.kind) []
  return resolveOnchainOutputsStatus perOutpoint record.kind

/-- The state of the loop of `resolve_vtxo_pending_intent`. -/
structure VtxoIntentScan where
  sawAny : Bool
  allSpent : Bool
  spendTxid : Option String

def scanVtxoOutpoint (snapshot : OffchainVtxoSnapshot) (scan : VtxoIntentScan)
    (pending : PendingBatchOutpointRecord) : VtxoIntentScan :=
  match snapshot.virtualTxOutpoints.find? fun row =>
    row.txid = pending.txid ∧ row.vout = pending.vout with
  | none => scan
  | some row =>
    if row.isSpent ∨ row.settledBy.isSome then
      { scan with
        sawAny := true
        spendTxid := (row.settledBy.or row.spentBy).or scan.spendTxid }
    else { scan with sawAny := true, allSpent := false }

def resolveVtxoPendingIntent (record : PendingBatchIntentRecord)
    (snapshot : Option OffchainVtxoSnapshot) : PendingBatchIntentResolution :=
  match snapshot with
  | none => .stillPending
  | some snapshot =>
    let scan := record.vtxoOutpoints.foldl (scanVtxoOutpoint snapshot)
      { sawAny := false, allSpent := true, spendTxid := none }
    if scan.sawAny ∧ scan.allSpent then .spent (scan.spendTxid.getD "") else .stillPending

def pendingBatchIntentResolution (answers : IntentAnswers) (record : PendingBatchIntentRecord) :
    Except String PendingBatchIntentResolution :=
  if ¬ record.onchainOutpoints.isEmpty then resolveOnchainPendingIntent answers record
  else if ¬ record.vtxoOutpoints.isEmpty then
    .ok (resolveVtxoPendingIntent record answers.snapshot)
  else .ok .stillPending

/-- The loop of `reconcile_pending_batch_intents` from the given position on: the remaining
records and the transaction that finalized one. -/
def reconcileLoop (answers : Nat → IntentAnswers) (position : Nat)
    (remaining : List PendingBatchIntentRecord) (finalizedTxid : Option String) :
    List PendingBatchIntentRecord →
      Except String (List PendingBatchIntentRecord × Option String)
  | [] => .ok (remaining, finalizedTxid)
  | record :: rest => do
      match ← pendingBatchIntentResolution (answers position) record with
      | .stillPending =>
        reconcileLoop answers (position + 1) (remaining ++ [record]) finalizedTxid rest
      | .spent spendTxid =>
        reconcileLoop answers (position + 1) remaining (some spendTxid) rest
      | .boardingWindowExpired =>
        reconcileLoop answers (position + 1) remaining finalizedTxid rest

/-- The stored intents, and the lists that the reconciles under way have read. -/
structure IntentSession where
  stored : List PendingBatchIntentRecord
  reconciles : Nat → Option (List PendingBatchIntentRecord)

inductive IntentSessionOp where
  | write (op : IntentOp)
  /-- A reconcile starts under a free name; `idle` says that no batch join is in flight. -/
  | beginReconcile (name : Nat) (idle : Bool)
  /-- The lookups of the reconcile have answered and it writes back. -/
  | endReconcile (name : Nat) (answers : Nat → IntentAnswers)

/-- The list a reconcile reads: stranded processing intents are timed out before, unless a
batch join is in flight. -/
def readPending (idle : Bool) (stored : List PendingBatchIntentRecord) :
    List PendingBatchIntentRecord :=
  if idle then promoteStrandedProcessingIntents stored else stored

/-- One atomic part of an operation. A reconcile that reads an empty list returns at once, and
one with a failed lookup returns without writing. -/
def intentSessionStep (session : IntentSession) : IntentSessionOp → IntentSession
  | .write op => { session with stored := intentStep session.stored op }
  | .beginReconcile name idle =>
    match session.reconciles name with
    | some _ => session
    | none =>
      let pending := readPending idle session.stored
      if pending.isEmpty then { session with stored := pending }
      else
        { stored := pending
          reconciles := Function.update session.reconciles name (some pending) }
  | .endReconcile name answers =>
    match session.reconciles name with
    | none => session
    | some pending =>
      let reconciles := Function.update session.reconciles name none
      match reconcileLoop answers 0 [] none pending with
      | .error _ => { session with reconciles }
      | .ok (remaining, _) => { stored := remaining, reconciles }

def intentSessionRun (session : IntentSession) (ops : List IntentSessionOp) : IntentSession :=
  run intentSessionStep session ops

/-! ## The write-back -/

/-- The record is in the list that was read, and is resolved as still pending there. -/
def StillPendingIn (answers : Nat → IntentAnswers) (pending : List PendingBatchIntentRecord)
    (record : PendingBatchIntentRecord) : Prop :=
  ∃ position, pending[position]? = some record ∧
    pendingBatchIntentResolution (answers position) record = .ok .stillPending

def LookupFails (answers : Nat → IntentAnswers) (pending : List PendingBatchIntentRecord) : Prop :=
  ∃ position record error, pending[position]? = some record ∧
    pendingBatchIntentResolution (answers position) record = .error error

variable {pending remaining : List PendingBatchIntentRecord}

section Loop

variable {answers : Nat → IntentAnswers}
variable {rest : List PendingBatchIntentRecord}

theorem stillPendingIn_cons {first record : PendingBatchIntentRecord} :
    StillPendingIn answers (first :: rest) record ↔
      (first = record ∧
        pendingBatchIntentResolution (answers 0) record = .ok .stillPending) ∨
      StillPendingIn (fun position => answers (position + 1)) rest record := by
  unfold StillPendingIn
  rw [← Nat.or_exists_add_one]
  simp

theorem lookupFails_cons {first : PendingBatchIntentRecord} :
    LookupFails answers (first :: rest) ↔
      (∃ error, pendingBatchIntentResolution (answers 0) first = .error error) ∨
      LookupFails (fun position => answers (position + 1)) rest := by
  unfold LookupFails
  rw [← Nat.or_exists_add_one]
  simp

theorem reconcileLoop_shift (position : Nat) (remaining : List PendingBatchIntentRecord)
    (finalizedTxid : Option String) (rest : List PendingBatchIntentRecord) :
    reconcileLoop answers (position + 1) remaining finalizedTxid rest =
      reconcileLoop (fun later => answers (later + 1)) position remaining finalizedTxid
        rest := by
  induction rest generalizing position remaining finalizedTxid with
  | nil => rfl
  | cons record rest ih => simp only [reconcileLoop, ih]

/-- A loop that finishes leaves what it had and the records that are still pending. -/
theorem mem_of_reconcileLoop {final : List PendingBatchIntentRecord} {before after : Option String}
    (h : reconcileLoop answers 0 remaining before pending = .ok (final, after))
    (record : PendingBatchIntentRecord) :
    record ∈ final ↔ record ∈ remaining ∨ StillPendingIn answers pending record := by
  induction pending generalizing answers remaining before with
  | nil =>
    cases h
    simp [StillPendingIn]
  | cons first rest ih =>
    obtain ⟨resolution, hresolution, hrest⟩ := bind_eq_ok.mp h
    rw [stillPendingIn_cons]
    cases resolution with
    | stillPending =>
      simp only [reconcileLoop_shift] at hrest
      rw [ih hrest, List.mem_append, List.mem_singleton]
      grind
    | spent | boardingWindowExpired =>
      simp only [reconcileLoop_shift] at hrest
      rw [ih hrest]
      grind

/-- The loop fails exactly if a lookup does. -/
theorem reconcileLoop_eq_error_iff {finalizedTxid : Option String} :
    (∃ error, reconcileLoop answers 0 remaining finalizedTxid pending = .error error) ↔
      LookupFails answers pending := by
  induction pending generalizing answers remaining finalizedTxid with
  | nil => simp [reconcileLoop, LookupFails]
  | cons first rest ih =>
    rw [lookupFails_cons, reconcileLoop]
    cases hresolution : pendingBatchIntentResolution (answers 0) first with
    | error error => exact ⟨fun _ => .inl ⟨error, rfl⟩, fun _ => ⟨error, rfl⟩⟩
    | ok resolution =>
      cases resolution with
      | stillPending | spent | boardingWindowExpired =>
        simp only [reconcileLoop_shift, reduceCtorEq, exists_false, false_or]
        exact ih

end Loop

/-- The operation neither starts nor ends the reconcile of that name. -/
def IntentSessionOp.LeavesAlone (name : Nat) : IntentSessionOp → Prop
  | .write _ => True
  | .beginReconcile other _ => other ≠ name
  | .endReconcile other _ => other ≠ name

variable {session : IntentSession} {name : Nat}

theorem reconciles_intentSessionStep {op : IntentSessionOp} (hop : op.LeavesAlone name) :
    (intentSessionStep session op).reconciles name = session.reconciles name := by
  cases op with
  | write op => rfl
  | beginReconcile other idle =>
    have hne : name ≠ other := Ne.symm hop
    simp only [intentSessionStep]
    split
    · rfl
    · split
      · rfl
      · exact Function.update_of_ne hne _ _
  | endReconcile other answers =>
    have hne : name ≠ other := Ne.symm hop
    simp only [intentSessionStep]
    split
    · rfl
    · split
      · exact Function.update_of_ne hne _ _
      · exact Function.update_of_ne hne _ _

theorem reconciles_intentSessionRun {ops : List IntentSessionOp}
    (hops : ∀ op ∈ ops, op.LeavesAlone name) (session : IntentSession) :
    (intentSessionRun session ops).reconciles name = session.reconciles name := by
  apply run_invariant_of_runMeets
    (fun reached : IntentSession => reached.reconciles name = session.reconciles name) _ rfl
    (runMeets_of_forall_mem hops)
  intro reached op hop hreached
  rw [reconciles_intentSessionStep hop, hreached]

theorem reconciles_beginReconcile (hfree : session.reconciles name = none) (idle : Bool) :
    (intentSessionStep session (.beginReconcile name idle)).reconciles name =
      if readPending idle session.stored = [] then none
      else some (readPending idle session.stored) := by
  by_cases hempty : readPending idle session.stored = []
  · simp [intentSessionStep, hfree, hempty]
  · simp [intentSessionStep, hfree, hempty]

theorem mem_stored_endReconcile_iff (hname : session.reconciles name = some pending)
    (answers : Nat → IntentAnswers) (record : PendingBatchIntentRecord) :
    record ∈ (intentSessionStep session (.endReconcile name answers)).stored ↔
      (LookupFails answers pending ∧ record ∈ session.stored) ∨
        (¬ LookupFails answers pending ∧ StillPendingIn answers pending record) := by
  simp only [intentSessionStep, hname]
  cases hloop : reconcileLoop answers 0 [] none pending with
  | error error =>
    have hfails := reconcileLoop_eq_error_iff.mp ⟨error, hloop⟩
    simp [hfails]
  | ok result =>
    have hfails : ¬ LookupFails answers pending := by
      intro hfails
      obtain ⟨error, herror⟩ := reconcileLoop_eq_error_iff.mpr hfails
      rw [hloop] at herror
      cases herror
    simp [hfails, mem_of_reconcileLoop hloop record]

/-- Between its read and its write-back a reconcile of the given name runs beside any other
operations, one of which registers the record. The record is stored before the write-back;
it is stored afterwards exactly if the list that was read was empty, a lookup failed, or the
list that was read had this very record as a pending one. -/
theorem registered_intent_survives_iff (session : IntentSession) (name : Nat) (idle : Bool)
    (between later : List IntentSessionOp) (record : PendingBatchIntentRecord)
    (answers : Nat → IntentAnswers) (hfree : session.reconciles name = none)
    (halone : ∀ op ∈ between ++ .write (.upsert record) :: later, op.LeavesAlone name)
    (hstored : record ∈ (intentSessionRun session
      (.beginReconcile name idle :: (between ++ .write (.upsert record) :: later))).stored) :
    record ∈ (intentSessionRun session
        (.beginReconcile name idle :: (between ++ .write (.upsert record) :: later) ++
          [.endReconcile name answers])).stored ↔
      readPending idle session.stored = [] ∨
        LookupFails answers (readPending idle session.stored) ∨
        StillPendingIn answers (readPending idle session.stored) record := by
  let pending := readPending idle session.stored
  have hentry : (intentSessionRun session
      (.beginReconcile name idle :: (between ++ .write (.upsert record) :: later))).reconciles
        name = if pending = [] then none else some pending := by
    exact (reconciles_intentSessionRun halone _).trans (reconciles_beginReconcile hfree idle)
  generalize hreached : intentSessionRun session
    (.beginReconcile name idle :: (between ++ .write (.upsert record) :: later)) = reached
    at hentry hstored
  have hend : intentSessionRun session
      (.beginReconcile name idle :: (between ++ .write (.upsert record) :: later) ++
        [.endReconcile name answers]) =
      intentSessionStep reached (.endReconcile name answers) := by
    rw [← hreached]
    exact run_append _ _ _ _
  rw [hend]
  by_cases hempty : pending = []
  · rw [if_pos hempty] at hentry
    have hunchanged : intentSessionStep reached (.endReconcile name answers) = reached := by
      simp [intentSessionStep, hentry]
    rw [hunchanged]
    exact iff_of_true hstored (.inl hempty)
  · rw [if_neg hempty] at hentry
    rw [mem_stored_endReconcile_iff hentry]
    have hempty' : readPending idle session.stored ≠ [] := hempty
    simp only [hstored, and_true, hempty', false_or]
    exact ⟨fun h => h.imp id And.right, fun h => by
      by_cases hfails : LookupFails answers pending
      · exact .inl hfails
      · exact .inr ⟨hfails, h.resolve_left hfails⟩⟩

/-- A list none of whose on-chain inputs parses is reconciled from the snapshot alone: nothing is
looked up, and nothing can run between the read and the write-back. -/
theorem reconcileLoop_of_no_lookup {answers others : Nat → IntentAnswers}
    (hsnapshot : ∀ position, (answers position).snapshot = (others position).snapshot)
    (hparse : ∀ record ∈ pending, ∀ outpoint ∈ record.onchainOutpoints,
      parseOutpointRecord outpoint = none) (position : Nat)
    (remaining : List PendingBatchIntentRecord) (finalizedTxid : Option String) :
    reconcileLoop answers position remaining finalizedTxid pending =
      reconcileLoop others position remaining finalizedTxid pending := by
  have hskipped : ∀ (answers : IntentAnswers) (kind : PendingBatchIntentKind)
      (outpoints : List PendingBatchOutpointRecord),
      (∀ outpoint ∈ outpoints, parseOutpointRecord outpoint = none) →
      outpoints.foldlM (resolveOnchainOutpoint answers kind) [] = .ok [] := by
    intro answers kind outpoints hnone
    induction outpoints with
    | nil => rfl
    | cons outpoint outpoints ih =>
      have hfirst : resolveOnchainOutpoint answers kind [] outpoint = .ok [] := by
        simp only [resolveOnchainOutpoint, hnone outpoint List.mem_cons_self]
      rw [List.foldlM_cons, hfirst]
      exact ih fun other hother => hnone other (List.mem_cons_of_mem outpoint hother)
  induction pending generalizing position remaining finalizedTxid with
  | nil => rfl
  | cons record rest ih =>
    have hrecord := hparse record List.mem_cons_self
    have hresolution : pendingBatchIntentResolution (answers position) record =
        pendingBatchIntentResolution (others position) record := by
      unfold pendingBatchIntentResolution resolveOnchainPendingIntent
      rw [hskipped _ _ _ hrecord, hskipped _ _ _ hrecord, hsnapshot position]
    have hrest := ih fun other hother => hparse other (List.mem_cons_of_mem record hother)
    simp only [reconcileLoop, hresolution, hrest]

def boardingIntent : PendingBatchIntentRecord :=
  { sampleIntent with
    kind := .board
    onchainOutpoints := [{ txid := sampleCommitment.text, vout := 0 }]
    vtxoOutpoints := [] }

def unspentAnswers : Nat → IntentAnswers := fun _ =>
  { outputStatus := fun _ => .ok none
    pastCooperativeWindow := fun _ => .ok false
    snapshot := none }

def waitingSession : IntentSession where
  stored := [timeOut boardingIntent]
  reconciles := fun _ => none

def freshIntent : PendingBatchIntentRecord :=
  { sampleIntent with intentId := some "fresh", vtxoOutpoints := [{ txid := "bb", vout := 1 }] }

/-- Registering a stored intent once more while its boarding output is looked up keeps it. -/
theorem registered_intent_survives_again :
    waitingSession.reconciles 0 = none ∧
      timeOut boardingIntent ∈ (intentSessionRun waitingSession
        (.beginReconcile 0 true :: ([] ++ .write (.upsert (timeOut boardingIntent)) :: []) ++
          [.endReconcile 0 unspentAnswers])).stored := by
  refine ⟨rfl, (registered_intent_survives_iff waitingSession 0 true [] []
    (timeOut boardingIntent) unspentAnswers rfl ?_ ?_).mpr ?_⟩
  · simp [IntentSessionOp.LeavesAlone]
  · simp [intentSessionRun, intentSessionStep, intentStep, upsertPendingBatchIntent]
  · exact .inr (.inr ⟨0, by decide +kernel, by decide +kernel⟩)

/-- An intent that is registered while the boarding output of another one is looked up is lost at
the write-back. -/
theorem registered_intent_lost :
    freshIntent ∈ (intentSessionRun waitingSession
        [.beginReconcile 0 false, .write (.upsert freshIntent)]).stored ∧
      freshIntent ∉ (intentSessionRun waitingSession
        [.beginReconcile 0 false, .write (.upsert freshIntent),
          .endReconcile 0 unspentAnswers]).stored := by
  decide +kernel

end Bitboard.Arkade
