/-
# Runs of the stored intents

Every write keeps some of the stored intents, may time some of them out, and adds
at most one record. `intentStep_eq` says this once; that stored intents stay apart
and that no timed-out intent is revived follow from it.

An intent without inputs shares none with any other, so nothing ever evicts or
finishes it. The join path refuses to store one; the direct upsert and the
time-out of a registered intent do not, and exactly these writes can store it.
-/

import Bitboard.Arkade.PendingBatchIntents
import Mathlib.Data.List.Pairwise

namespace Bitboard.Arkade

open Bitboard.Lib

variable {stored : List PendingBatchIntentRecord} {op : IntentOp}

/-- The two intents commit a boarding output or a virtual output both. -/
def SharesInput (left right : PendingBatchIntentRecord) : Prop :=
  (∃ outpoint ∈ left.onchainOutpoints, outpoint ∈ right.onchainOutpoints) ∨
    ∃ outpoint ∈ left.vtxoOutpoints, outpoint ∈ right.vtxoOutpoints

def InputsDisjoint (stored : List PendingBatchIntentRecord) : Prop :=
  stored.Pairwise fun left right => ¬ SharesInput left right

variable {left right : PendingBatchIntentRecord}

theorem SharesInput.symm (h : SharesInput left right) : SharesInput right left := by
  cases h with
  | inl honchain =>
    obtain ⟨outpoint, hleft, hright⟩ := honchain
    exact .inl ⟨outpoint, hright, hleft⟩
  | inr hvtxo =>
    obtain ⟨outpoint, hleft, hright⟩ := hvtxo
    exact .inr ⟨outpoint, hright, hleft⟩

instance : Std.Symm fun left right => ¬ SharesInput left right where
  symm _ _ h hshares := h hshares.symm

theorem InputsDisjoint.not_sharesInput (hdisjoint : InputsDisjoint stored) (hleft : left ∈ stored)
    (hright : right ∈ stored) (hne : left ≠ right) : ¬ SharesInput left right :=
  List.Pairwise.forall hdisjoint hleft hright hne

theorem outpointSetsOverlap_iff {left right : List PendingBatchOutpointRecord} :
    outpointSetsOverlap left right = true ↔ ∃ outpoint ∈ left, outpoint ∈ right := by
  simp only [outpointSetsOverlap, List.any_eq_true, decide_eq_true_eq]
  constructor
  · intro h
    obtain ⟨⟨txid, vout⟩, hleft, ⟨otherTxid, otherVout⟩, hright, htxid, hvout⟩ := h
    subst htxid hvout
    exact ⟨_, hleft, hright⟩
  · intro h
    obtain ⟨outpoint, hleft, hright⟩ := h
    exact ⟨outpoint, hleft, outpoint, hright, rfl, rfl⟩

@[simp]
theorem pendingBatchIntentsOverlap_iff :
    pendingBatchIntentsOverlap left right = true ↔ SharesInput left right := by
  simp [pendingBatchIntentsOverlap, pendingBatchRecordOverlapsOutpoints, SharesInput,
    outpointSetsOverlap_iff]

@[simp]
theorem onchainOutpoints_timeOut (record : PendingBatchIntentRecord) :
    (timeOut record).onchainOutpoints = record.onchainOutpoints := by
  unfold timeOut
  split <;> rfl

@[simp]
theorem vtxoOutpoints_timeOut (record : PendingBatchIntentRecord) :
    (timeOut record).vtxoOutpoints = record.vtxoOutpoints := by
  unfold timeOut
  split <;> rfl

theorem lifecyclePhase_timeOut (record : PendingBatchIntentRecord) :
    (timeOut record).lifecyclePhase = .timedOut := by
  unfold timeOut
  split
  · rfl
  · rename_i hphase
    cases hrecord : record.lifecyclePhase with
    | processing => exact absurd hrecord hphase
    | timedOut => rfl

def Restamps (restamp : PendingBatchIntentRecord → PendingBatchIntentRecord) : Prop :=
  ∀ record, restamp record = record ∨ restamp record = timeOut record

variable {record : PendingBatchIntentRecord}

section Restamps

variable {restamp : PendingBatchIntentRecord → PendingBatchIntentRecord}
variable (hrestamp : Restamps restamp)

include hrestamp

theorem Restamps.sharesInput_iff {left right : PendingBatchIntentRecord} :
    SharesInput (restamp left) right ↔ SharesInput left right := by
  cases hrestamp left with
  | inl heq => rw [heq]
  | inr heq => simp [heq, SharesInput]

theorem Restamps.outpointsEmpty (record : PendingBatchIntentRecord) :
    pendingIntentOutpointsEmpty (restamp record) = pendingIntentOutpointsEmpty record := by
  cases hrestamp record with
  | inl heq => rw [heq]
  | inr heq => simp [heq, pendingIntentOutpointsEmpty]

theorem Restamps.eq_of_processing (hphase : (restamp record).lifecyclePhase = .processing) :
    restamp record = record := by
  cases hrestamp record with
  | inl heq => exact heq
  | inr heq =>
    rw [heq, lifecyclePhase_timeOut] at hphase
    cases hphase

end Restamps

def addedRecord (stored : List PendingBatchIntentRecord) : IntentOp →
    Option PendingBatchIntentRecord
  | .upsert record => some record
  | .persistAndWaiting record =>
    if pendingIntentOutpointsEmpty record then none
    else some { record with lifecyclePhase := .timedOut }
  | .stampRegistered record =>
    if (stampOverlappingPendingBatchIntentTimedOut stored record.onchainOutpoints
      record.vtxoOutpoints).1 then none
    else some { record with lifecyclePhase := .timedOut }
  | .stamp _ _ => none
  | .promote => none
  | .remove _ _ => none

theorem restamps_stamp (onchainOutpoints vtxoOutpoints : List PendingBatchOutpointRecord) :
    Restamps fun record =>
      if pendingBatchRecordOverlapsOutpoints record onchainOutpoints vtxoOutpoints then
        timeOut record
      else record := by
  intro record
  dsimp only
  split
  · exact .inr rfl
  · exact .inl rfl

/-- What a write leaves: some of the stored records, restamped, and at most one record more
that shares no input with them. -/
def Rewrites (stored : List PendingBatchIntentRecord) (added : Option PendingBatchIntentRecord)
    (next : List PendingBatchIntentRecord) : Prop :=
  ∃ (keep : PendingBatchIntentRecord → Bool)
    (restamp : PendingBatchIntentRecord → PendingBatchIntentRecord),
    Restamps restamp ∧ next = (stored.filter keep).map restamp ++ added.toList ∧
      ∀ record, added = some record → ∀ existing, keep existing = true →
        ¬ SharesInput existing record

theorem rewrites_filter (stored : List PendingBatchIntentRecord)
    (keep : PendingBatchIntentRecord → Bool) : Rewrites stored none (stored.filter keep) := by
  refine ⟨keep, id, fun _ => .inl rfl, by simp, ?_⟩
  intro record hrecord
  cases hrecord

variable {restamp : PendingBatchIntentRecord → PendingBatchIntentRecord}

theorem rewrites_map (hrestamp : Restamps restamp) : Rewrites stored none (stored.map restamp) := by
  refine ⟨fun _ => true, restamp, hrestamp, by simp, ?_⟩
  intro record hrecord
  cases hrecord

theorem rewrites_upsert (hrestamp : Restamps restamp) (record : PendingBatchIntentRecord) :
    Rewrites stored (some record) (upsertPendingBatchIntent (stored.map restamp) record) := by
  -- Restamping changes no inputs, so what is evicted is known before it.
  have hkeep : ((fun existing => !pendingBatchIntentsOverlap existing record) ∘ restamp) =
      fun existing => !pendingBatchIntentsOverlap existing record := by
    funext existing
    rw [Function.comp_apply, Bool.eq_iff_iff]
    simp only [Bool.not_eq_true', ← Bool.not_eq_true, pendingBatchIntentsOverlap_iff,
      hrestamp.sharesInput_iff]
  refine ⟨fun existing => !pendingBatchIntentsOverlap existing record, restamp, hrestamp, ?_, ?_⟩
  · rw [upsertPendingBatchIntent, List.filter_map, hkeep, Option.toList_some]
  · intro added hadded existing hexisting
    rw [Option.some.injEq] at hadded
    subst hadded
    simpa [← Bool.not_eq_true] using hexisting

theorem rewrites_upsert_stored (stored : List PendingBatchIntentRecord)
    (record : PendingBatchIntentRecord) :
    Rewrites stored (some record) (upsertPendingBatchIntent stored record) := by
  have hid : Restamps id := fun _ => .inl rfl
  have hupsert : Rewrites stored (some record)
      (upsertPendingBatchIntent (stored.map id) record) := rewrites_upsert hid record
  rwa [List.map_id] at hupsert

theorem rewrites_intentStep (stored : List PendingBatchIntentRecord) (op : IntentOp) :
    Rewrites stored (addedRecord stored op) (intentStep stored op) := by
  cases op with
  | upsert record => exact rewrites_upsert_stored stored record
  | persistAndWaiting record =>
    simp only [addedRecord, intentStep, persistAndWaitingJoinResult]
    split
    · have hall := rewrites_filter stored fun _ => true
      rwa [List.filter_true] at hall
    · exact rewrites_upsert_stored stored { record with lifecyclePhase := .timedOut }
  | stampRegistered record =>
    have hstamp := restamps_stamp record.onchainOutpoints record.vtxoOutpoints
    simp only [addedRecord, intentStep, stampRegisteredIntentTimedOut]
    split
    · exact rewrites_map hstamp
    · exact rewrites_upsert hstamp { record with lifecyclePhase := .timedOut }
  | stamp onchainOutpoints vtxoOutpoints =>
    exact rewrites_map (restamps_stamp onchainOutpoints vtxoOutpoints)
  | promote => exact rewrites_map fun record => .inr rfl
  | remove onchainOutpoints vtxoOutpoints => exact rewrites_filter stored _

/-! ## What a write keeps -/

section Step

variable {added : Option PendingBatchIntentRecord} {next : List PendingBatchIntentRecord}
variable (hrewrites : Rewrites stored added next)

include hrewrites

theorem Rewrites.inputsDisjoint (hdisjoint : InputsDisjoint stored) : InputsDisjoint next := by
  obtain ⟨keep, restamp, hrestamp, rfl, hadded⟩ := hrewrites
  apply List.pairwise_append.mpr
  refine ⟨?_, ?_, ?_⟩
  · apply List.pairwise_map.mpr
    apply List.Pairwise.imp _ (hdisjoint.filter keep)
    intro left right hapart hshares
    rw [hrestamp.sharesInput_iff] at hshares
    exact hapart ((hrestamp.sharesInput_iff.mp hshares.symm).symm)
  · cases added with
    | none => exact List.Pairwise.nil
    | some record => exact List.pairwise_singleton _ _
  · intro existing hexisting record hrecord
    obtain ⟨before, hbefore, rfl⟩ := List.mem_map.mp hexisting
    rw [hrestamp.sharesInput_iff]
    exact hadded record (Option.mem_toList.mp hrecord) before (List.mem_filter.mp hbefore).2

theorem Rewrites.outpointsEmpty_eq (hmem : record ∈ next) :
    (∃ before ∈ stored,
      pendingIntentOutpointsEmpty record = pendingIntentOutpointsEmpty before) ∨
      added = some record := by
  obtain ⟨keep, restamp, hrestamp, rfl, -⟩ := hrewrites
  cases List.mem_append.mp hmem with
  | inl hkept =>
    obtain ⟨before, hbefore, rfl⟩ := List.mem_map.mp hkept
    exact .inl ⟨before, (List.mem_filter.mp hbefore).1, hrestamp.outpointsEmpty before⟩
  | inr hnew => exact .inr (Option.mem_toList.mp hnew)

theorem Rewrites.mem_of_added (hadded : added = some record) : record ∈ next := by
  obtain ⟨keep, restamp, -, rfl, -⟩ := hrewrites
  simp [hadded]

/-- A processing record that shares an input with a timed-out one of the list before was
added, and the timed-out one is gone. -/
theorem Rewrites.revived (hdisjoint : InputsDisjoint stored)
    {before after : PendingBatchIntentRecord} (hbefore : before ∈ stored) (hafter : after ∈ next)
    (htimedOut : before.lifecyclePhase = .timedOut)
    (hprocessing : after.lifecyclePhase = .processing) (hshares : SharesInput before after) :
    added = some after ∧ before ∉ next := by
  have hne : before ≠ after := by
    intro heq
    rw [heq, hprocessing] at htimedOut
    cases htimedOut
  have hnew : added = some after := by
    obtain ⟨keep, restamp, hrestamp, rfl, -⟩ := hrewrites
    cases List.mem_append.mp hafter with
    | inr hnew => exact Option.mem_toList.mp hnew
    | inl hkept =>
      obtain ⟨origin, horigin, rfl⟩ := List.mem_map.mp hkept
      rw [hrestamp.eq_of_processing hprocessing] at hne hshares
      have hapart := hdisjoint.not_sharesInput hbefore (List.mem_filter.mp horigin).1 hne
      exact absurd hshares hapart
  refine ⟨hnew, ?_⟩
  intro hkept
  exact (hrewrites.inputsDisjoint hdisjoint).not_sharesInput hkept hafter hne hshares

end Step

/-- A write that may add a record brings one with an input. -/
def IntentOp.CarriesOutpoint : IntentOp → Prop
  | .upsert record => pendingIntentOutpointsEmpty record = false
  | .stampRegistered record => pendingIntentOutpointsEmpty record = false
  | _ => True

def AllHaveInputs (stored : List PendingBatchIntentRecord) : Prop :=
  ∀ record ∈ stored, pendingIntentOutpointsEmpty record = false

/-- Along the run stored intents commit different inputs, each has an input, and a timed-out
intent gives way to a processing one only by an upsert of it. -/
structure IntentsKept (start : List PendingBatchIntentRecord) (ops : List IntentOp) : Prop where
  disjoint : ∀ first rest, ops = first ++ rest → InputsDisjoint (intentRun start first)
  haveInputs : ∀ first rest, ops = first ++ rest → AllHaveInputs (intentRun start first)
  phases : ∀ first op rest, ops = first ++ op :: rest →
    ∀ before ∈ intentRun start first, ∀ after ∈ intentRun start (first ++ [op]),
      before.lifecyclePhase = .timedOut → after.lifecyclePhase = .processing →
      SharesInput before after →
      op = .upsert after ∧ before ∉ intentRun start (first ++ [op])

/-- A write that adds a processing record is the upsert of that record. -/
theorem eq_upsert_of_addedRecord (hadded : addedRecord stored op = some record)
    (hprocessing : record.lifecyclePhase = .processing) : op = .upsert record := by
  cases op with
  | upsert other =>
    cases hadded
    rfl
  | persistAndWaiting | stampRegistered =>
    simp only [addedRecord] at hadded
    split at hadded
    · cases hadded
    · cases hadded
      cases hprocessing
  | stamp | promote | remove => cases hadded

theorem not_stamped_of_outpointsEmpty (hempty : pendingIntentOutpointsEmpty record = true) :
    (stampOverlappingPendingBatchIntentTimedOut stored record.onchainOutpoints
      record.vtxoOutpoints).1 = false := by
  simp only [pendingIntentOutpointsEmpty, Bool.and_eq_true, List.isEmpty_iff] at hempty
  simp [stampOverlappingPendingBatchIntentTimedOut, pendingBatchRecordOverlapsOutpoints,
    outpointSetsOverlap, hempty.1, hempty.2]

/-- The records that writes add have inputs exactly if the writes carry them. -/
theorem carriesOutpoint_iff :
    op.CarriesOutpoint ↔ ∀ record, addedRecord stored op = some record →
      pendingIntentOutpointsEmpty record = false := by
  cases op with
  | upsert | stamp | promote | remove => simp [IntentOp.CarriesOutpoint, addedRecord]
  | persistAndWaiting record =>
    simp only [IntentOp.CarriesOutpoint, addedRecord, true_iff]
    intro added hadded
    split at hadded
    · cases hadded
    · rename_i hempty
      cases hadded
      simpa [pendingIntentOutpointsEmpty] using hempty
  | stampRegistered record =>
    simp only [IntentOp.CarriesOutpoint, addedRecord]
    constructor
    · intro hcarries added hadded
      split at hadded
      · cases hadded
      · cases hadded
        exact hcarries
    · intro hadded
      by_contra hempty
      rw [Bool.not_eq_false] at hempty
      have hnot := @not_stamped_of_outpointsEmpty stored _ hempty
      have := hadded { record with lifecyclePhase := .timedOut } (by simp [hnot])
      simp_all [pendingIntentOutpointsEmpty]

theorem inputsDisjoint_intentRun {start : List PendingBatchIntentRecord}
    (hdisjoint : InputsDisjoint start) (ops : List IntentOp) :
    InputsDisjoint (intentRun start ops) := by
  apply run_invariant InputsDisjoint _ hdisjoint
  intro stored op hstored
  exact (rewrites_intentStep stored op).inputsDisjoint hstored

theorem allHaveInputs_intentStep (hcarries : op.CarriesOutpoint)
    (hinputs : AllHaveInputs stored) : AllHaveInputs (intentStep stored op) := by
  intro record hrecord
  cases (rewrites_intentStep stored op).outpointsEmpty_eq hrecord with
  | inl hbefore =>
    obtain ⟨before, hmem, heq⟩ := hbefore
    rw [heq]
    exact hinputs before hmem
  | inr hadded => exact carriesOutpoint_iff.mp hcarries record hadded

variable (start : List PendingBatchIntentRecord)

theorem intentRun_concat (ops : List IntentOp) (op : IntentOp) :
    intentRun start (ops ++ [op]) = intentStep (intentRun start ops) op :=
  run_append intentStep start ops [op]

/-- Stored intents are kept apart and in their phases by every run, and they all have inputs
exactly if those stored at the start do and every write that may add a record brings one
with an input. -/
theorem intentsKept_iff (hdisjoint : InputsDisjoint start) (ops : List IntentOp) :
    IntentsKept start ops ↔ AllHaveInputs start ∧ ∀ op ∈ ops, op.CarriesOutpoint := by
  constructor
  · intro hkept
    constructor
    · exact hkept.haveInputs [] ops rfl
    · intro op hop
      obtain ⟨first, rest, hsplit⟩ := List.append_of_mem hop
      have hinputs := hkept.haveInputs (first ++ [op]) rest (by simp [hsplit])
      rw [intentRun_concat] at hinputs
      apply carriesOutpoint_iff.mpr
      intro record hadded
      exact hinputs record
        ((rewrites_intentStep (intentRun start first) op).mem_of_added hadded)
  · intro h
    obtain ⟨hstart, hcarries⟩ := h
    constructor
    · intro first rest _
      exact inputsDisjoint_intentRun hdisjoint first
    · intro first rest hsplit
      have hfirst : ∀ op ∈ first, op.CarriesOutpoint := fun op hop =>
        hcarries op (hsplit ▸ List.mem_append_left rest hop)
      apply run_invariant_of_runMeets AllHaveInputs _ hstart (runMeets_of_forall_mem hfirst)
      intro stored op hop hinputs
      exact allHaveInputs_intentStep hop hinputs
    · intro first op rest _ before hbefore after hafter htimedOut hprocessing hshares
      rw [intentRun_concat] at hafter ⊢
      obtain ⟨hadded, hgone⟩ := (rewrites_intentStep (intentRun start first) op).revived
        (inputsDisjoint_intentRun hdisjoint first) hbefore hafter htimedOut hprocessing hshares
      exact ⟨eq_upsert_of_addedRecord hadded hprocessing, hgone⟩

def sampleIntent : PendingBatchIntentRecord where
  kind := .renew
  intentId := some "intent"
  onchainOutpoints := []
  vtxoOutpoints := [{ txid := "aa", vout := 0 }]
  amountSats := 12000
  registeredAt := 1
  destinationAddress := none
  lifecyclePhase := .processing

def inputlessIntent : PendingBatchIntentRecord :=
  { sampleIntent with vtxoOutpoints := [] }

/-- The store takes an intent without inputs. -/
theorem not_intentsKept_inputless :
    InputsDisjoint [] ∧ inputlessIntent ∈ intentRun [] [.upsert inputlessIntent] ∧
      ¬ IntentsKept [] [.upsert inputlessIntent] := by
  have hmem : inputlessIntent ∈ intentRun [] [.upsert inputlessIntent] := by
    simp [intentRun, intentStep, upsertPendingBatchIntent]
  refine ⟨List.Pairwise.nil, hmem, ?_⟩
  intro hkept
  have hinput := hkept.haveInputs [.upsert inputlessIntent] [] (by simp) _ hmem
  exact absurd hinput (by decide)

end Bitboard.Arkade
