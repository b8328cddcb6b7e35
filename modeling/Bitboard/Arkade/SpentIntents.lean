/-
# Intents that a reconcile drops

A reconcile drops an intent as spent when the inputs it examines are spent. It examines
the on-chain inputs that read as outpoints or, for an intent without on-chain inputs, the
virtual inputs that the snapshot lists. Inputs that it does not examine do not keep the
intent, whether they are spent or not. In the same way an input that does not read keeps no
boarding intent whose other outputs are past their cooperative window.
-/

import Bitboard.Arkade.ExitMaterials
import Bitboard.Arkade.IntentReconcile

namespace Bitboard.Arkade

open Bitboard.Lib

/-- The chain names the transaction that spends the on-chain input. -/
def OnchainInputSpent (answers : IntentAnswers) (input : PendingBatchOutpointRecord) : Prop :=
  ∃ outpoint txid, parseOutpointRecord input = some outpoint ∧
    answers.outputStatus outpoint = .ok (some txid)

/-- The row that the snapshot has for a virtual input. -/
def virtualInputRow (snapshot : OffchainVtxoSnapshot) (input : PendingBatchOutpointRecord) :
    Option VirtualTxOutPointRecord :=
  snapshot.virtualTxOutpoints.find? fun row => row.txid = input.txid ∧ row.vout = input.vout

/-- The snapshot lists the virtual input as spent or settled. -/
def VtxoInputSpent (answers : IntentAnswers) (input : PendingBatchOutpointRecord) : Prop :=
  ∃ snapshot row, answers.snapshot = some snapshot ∧
    virtualInputRow snapshot input = some row ∧ (row.isSpent = true ∨ row.settledBy.isSome = true)

def VtxoInputMissing (answers : IntentAnswers) (input : PendingBatchOutpointRecord) : Prop :=
  ∀ snapshot, answers.snapshot = some snapshot → virtualInputRow snapshot input = none

/-- Every input that the intent lists is known to be spent. -/
def AllInputsSpent (answers : IntentAnswers) (record : PendingBatchIntentRecord) : Prop :=
  (∀ input ∈ record.onchainOutpoints, OnchainInputSpent answers input) ∧
    ∀ input ∈ record.vtxoOutpoints, VtxoInputSpent answers input

/-- Some input is examined, and those that are examined are spent. -/
def ExaminedInputsSpent (answers : IntentAnswers) (record : PendingBatchIntentRecord) : Prop :=
  if record.onchainOutpoints = [] then
    (∀ input ∈ record.vtxoOutpoints,
      VtxoInputMissing answers input ∨ VtxoInputSpent answers input) ∧
    ∃ input ∈ record.vtxoOutpoints, VtxoInputSpent answers input
  else
    (∀ input ∈ record.onchainOutpoints,
      parseOutpointRecord input = none ∨ OnchainInputSpent answers input) ∧
    ∃ input ∈ record.onchainOutpoints, OnchainInputSpent answers input

/-- An input that is not known to be spent is not examined: an on-chain input that does not
read, a virtual input beside on-chain ones, or a virtual input that the snapshot misses. -/
def OverlooksInput (answers : IntentAnswers) (record : PendingBatchIntentRecord) : Prop :=
  if record.onchainOutpoints = [] then
    ∃ input ∈ record.vtxoOutpoints, VtxoInputMissing answers input
  else
    (∃ input ∈ record.onchainOutpoints, parseOutpointRecord input = none) ∨
      ∃ input ∈ record.vtxoOutpoints, ¬ VtxoInputSpent answers input

/-- Nothing is known of an input: it does not read as an outpoint, the snapshot misses it, or its
lookup fails. -/
def HasUnknownInput (answers : IntentAnswers) (record : PendingBatchIntentRecord) : Prop :=
  (∃ input ∈ record.onchainOutpoints, parseOutpointRecord input = none) ∨
    (∃ input ∈ record.vtxoOutpoints, VtxoInputMissing answers input) ∨
    ∃ input ∈ record.onchainOutpoints, ∃ outpoint error,
      parseOutpointRecord input = some outpoint ∧ answers.outputStatus outpoint = .error error

/-- The chain has the boarding output unspent, and its cooperative window is over. -/
def BoardingInputExpired (answers : IntentAnswers) (input : PendingBatchOutpointRecord) : Prop :=
  ∃ outpoint, parseOutpointRecord input = some outpoint ∧
    answers.outputStatus outpoint = .ok none ∧ answers.pastCooperativeWindow outpoint = .ok true

/-- A boarding intent examines some output, and those that it examines have expired. -/
def ExaminedInputsExpired (answers : IntentAnswers) (record : PendingBatchIntentRecord) : Prop :=
  record.kind = .board ∧
    (∀ input ∈ record.onchainOutpoints,
      parseOutpointRecord input = none ∨ BoardingInputExpired answers input) ∧
    ∃ input ∈ record.onchainOutpoints, BoardingInputExpired answers input

/-- An input that does not read or that the snapshot misses, beside boarding outputs that have
expired. -/
def OverlooksBesideExpired (answers : IntentAnswers) (record : PendingBatchIntentRecord) : Prop :=
  ExaminedInputsExpired answers record ∧
    ((∃ input ∈ record.onchainOutpoints, parseOutpointRecord input = none) ∨
      ∃ input ∈ record.vtxoOutpoints, VtxoInputMissing answers input)

variable {after : List OnchainOutpointResolution}

section Resolution

variable {answers : IntentAnswers} {record : PendingBatchIntentRecord}
variable {input : PendingBatchOutpointRecord}

theorem not_onchainInputSpent_of_unreadable
    (hinput : parseOutpointRecord input = none) : ¬ OnchainInputSpent answers input := by
  intro hspent
  cases hspent with
  | intro outpoint hspent =>
    cases hspent with
    | intro txid hspent =>
      rw [hinput] at hspent
      cases hspent.1

theorem not_vtxoInputSpent_of_missing
    (hinput : VtxoInputMissing answers input) : ¬ VtxoInputSpent answers input := by
  intro hspent
  obtain ⟨snapshot, row, hsnapshot, hrow, _⟩ := hspent
  rw [hinput snapshot hsnapshot] at hrow
  cases hrow

/-- When the examined inputs are spent, all inputs are unless one is overlooked. -/
theorem allInputsSpent_iff_of_examined (hexamined : ExaminedInputsSpent answers record) :
    AllInputsSpent answers record ↔ ¬ OverlooksInput answers record := by
  unfold ExaminedInputsSpent at hexamined
  unfold AllInputsSpent OverlooksInput
  by_cases honchain : record.onchainOutpoints = []
  · rw [if_pos honchain] at hexamined ⊢
    have hnone : ∀ input ∈ record.onchainOutpoints, OnchainInputSpent answers input := by
      rw [honchain]
      exact List.forall_mem_nil _
    constructor
    · intro hall hoverlooks
      obtain ⟨input, hmem, hmissing⟩ := hoverlooks
      exact not_vtxoInputSpent_of_missing hmissing (hall.2 input hmem)
    · intro hlooks
      apply And.intro hnone
      intro input hmem
      exact (hexamined.1 input hmem).resolve_left fun hmissing => hlooks ⟨input, hmem, hmissing⟩
  · rw [if_neg honchain] at hexamined ⊢
    constructor
    · intro hall hoverlooks
      cases hoverlooks with
      | inl hunreadable =>
        obtain ⟨input, hmem, hnone⟩ := hunreadable
        exact not_onchainInputSpent_of_unreadable hnone (hall.1 input hmem)
      | inr hunspent =>
        obtain ⟨input, hmem, hnot⟩ := hunspent
        exact hnot (hall.2 input hmem)
    · intro hlooks
      constructor
      · intro input hmem
        exact (hexamined.1 input hmem).resolve_left
          fun hnone => hlooks (.inl ⟨input, hmem, hnone⟩)
      · intro input hmem
        by_contra hnot
        exact hlooks (.inr ⟨input, hmem, hnot⟩)

/-- Every collected status names a spending transaction. -/
def AllStatusesSpent (perOutpoint : List OnchainOutpointResolution) : Prop :=
  ∀ item ∈ perOutpoint, item.spendTxid.isSome = true

variable {perOutpoint : List OnchainOutpointResolution}

theorem resolveOnchainOutpoint_of_unreadable {kind : PendingBatchIntentKind}
    (hinput : parseOutpointRecord input = none) :
    resolveOnchainOutpoint answers kind perOutpoint input = .ok perOutpoint := by
  rw [resolveOnchainOutpoint, hinput]

theorem resolveOnchainOutpoint_of_spent
    (hspent : OnchainInputSpent answers input) (kind : PendingBatchIntentKind)
    (perOutpoint : List OnchainOutpointResolution) :
    ∃ txid, resolveOnchainOutpoint answers kind perOutpoint input =
      .ok (perOutpoint ++ [{ spendTxid := some txid, boardingWindowExpired := false }]) := by
  obtain ⟨outpoint, txid, hparse, hstatus⟩ := hspent
  apply Exists.intro txid.text
  rw [resolveOnchainOutpoint, hparse]
  dsimp only
  rw [hstatus]
  simp [bind, Except.bind, pure, Except.pure]

/-- Another input fails the lookup or adds a status without a spending transaction. -/
theorem resolveOnchainOutpoint_of_not_spent {kind : PendingBatchIntentKind}
    {perOutpoint : List OnchainOutpointResolution} (hparse : parseOutpointRecord input ≠ none)
    (hnot : ¬ OnchainInputSpent answers input)
    (hround : resolveOnchainOutpoint answers kind perOutpoint input = .ok after) :
    ¬ AllStatusesSpent after := by
  cases houtpoint : parseOutpointRecord input with
  | none => exact absurd houtpoint hparse
  | some outpoint =>
    rw [resolveOnchainOutpoint, houtpoint] at hround
    obtain ⟨spendTxid, hstatus, hround⟩ := bind_eq_ok.mp hround
    cases spendTxid with
    | some txid => exact absurd ⟨outpoint, txid, houtpoint, hstatus⟩ hnot
    | none =>
      have hadded : ∃ expired, after =
          perOutpoint ++ [{ spendTxid := none, boardingWindowExpired := expired }] := by
        dsimp only at hround
        split at hround
        · obtain ⟨expired, _, hround⟩ := bind_eq_ok.mp hround
          cases hround
          exact ⟨expired, rfl⟩
        · cases hround
          exact ⟨false, rfl⟩
      intro hall
      obtain ⟨expired, rfl⟩ := hadded
      have hlast := hall _ (List.mem_append_right _ (List.mem_singleton_self _))
      cases hlast

/-- The loop collects spent statuses only, exactly if the inputs that read are spent. -/
theorem exists_foldlM_resolveOnchainOutpoint_iff (answers : IntentAnswers)
    (kind : PendingBatchIntentKind)
    (inputs : List PendingBatchOutpointRecord) (before : List OnchainOutpointResolution) :
    (∃ after, inputs.foldlM (resolveOnchainOutpoint answers kind) before = .ok after ∧
      AllStatusesSpent after ∧ after ≠ []) ↔
    AllStatusesSpent before ∧
      (∀ input ∈ inputs, parseOutpointRecord input = none ∨ OnchainInputSpent answers input) ∧
      (before ≠ [] ∨ ∃ input ∈ inputs, OnchainInputSpent answers input) := by
  refine exists_foldlM_all_good_iff (fun _ _ => resolveOnchainOutpoint_of_unreadable) ?_
    (fun _ _ _ => resolveOnchainOutpoint_of_not_spent)
    (fun _ => not_onchainInputSpent_of_unreadable) inputs before
  intro input before hspent
  obtain ⟨txid, hround⟩ := resolveOnchainOutpoint_of_spent hspent kind before
  exact ⟨_, rfl, hround⟩

theorem resolveOnchainOutputsStatus_eq_spent_iff (kind : PendingBatchIntentKind) :
    (∃ spendTxid, resolveOnchainOutputsStatus perOutpoint kind = .spent spendTxid) ↔
      AllStatusesSpent perOutpoint ∧ perOutpoint ≠ [] := by
  unfold resolveOnchainOutputsStatus AllStatusesSpent
  cases perOutpoint with
  | nil => simp
  | cons item items =>
    simp only [List.isEmpty_cons, Bool.false_eq_true, if_false, List.all_eq_true]
    split
    · simp_all
    · split
      · simp_all
      · simp_all

theorem resolveOnchainPendingIntent_eq_spent_iff (answers : IntentAnswers)
    (record : PendingBatchIntentRecord) :
    (∃ spendTxid, resolveOnchainPendingIntent answers record = .ok (.spent spendTxid)) ↔
      (∀ input ∈ record.onchainOutpoints,
        parseOutpointRecord input = none ∨ OnchainInputSpent answers input) ∧
      ∃ input ∈ record.onchainOutpoints, OnchainInputSpent answers input := by
  have hloop := exists_foldlM_resolveOnchainOutpoint_iff answers record.kind
    record.onchainOutpoints []
  have hnil : AllStatusesSpent [] := List.forall_mem_nil _
  simp only [hnil, true_and, ne_eq, not_true_eq_false, false_or] at hloop
  rw [← hloop]
  constructor
  · intro hspent
    obtain ⟨spendTxid, hspent⟩ := hspent
    obtain ⟨after, hfold, hstatus⟩ := bind_eq_ok.mp hspent
    cases hstatus' : resolveOnchainOutputsStatus after record.kind with
    | spent spendTxid =>
      exact ⟨after, hfold, (resolveOnchainOutputsStatus_eq_spent_iff _).mp ⟨spendTxid, hstatus'⟩⟩
    | stillPending | boardingWindowExpired =>
      rw [hstatus'] at hstatus
      cases hstatus
  · intro hafter
    obtain ⟨after, hfold, hstatuses⟩ := hafter
    obtain ⟨spendTxid, hspent⟩ :=
      (resolveOnchainOutputsStatus_eq_spent_iff record.kind).mpr hstatuses
    apply Exists.intro spendTxid
    rw [resolveOnchainPendingIntent, hfold]
    simp only [bind, Except.bind, pure, Except.pure, hspent]

/-- Every collected status is of an unspent output past its window. -/
def AllStatusesExpired (perOutpoint : List OnchainOutpointResolution) : Prop :=
  ∀ item ∈ perOutpoint, item.spendTxid = none ∧ item.boardingWindowExpired = true

theorem resolveOnchainOutpoint_of_expired (hexpired : BoardingInputExpired answers input)
    (perOutpoint : List OnchainOutpointResolution) :
    resolveOnchainOutpoint answers .board perOutpoint input =
      .ok (perOutpoint ++ [{ spendTxid := none, boardingWindowExpired := true }]) := by
  obtain ⟨outpoint, hparse, hstatus, hwindow⟩ := hexpired
  rw [resolveOnchainOutpoint, hparse]
  dsimp only
  rw [hstatus]
  simp [bind, Except.bind, pure, Except.pure, hwindow]

/-- Another input that reads fails a lookup or adds a status of another kind. -/
theorem resolveOnchainOutpoint_of_not_expired (hparse : parseOutpointRecord input ≠ none)
    (hnot : ¬ BoardingInputExpired answers input)
    (hround : resolveOnchainOutpoint answers .board perOutpoint input = .ok after) :
    ¬ AllStatusesExpired after := by
  obtain ⟨outpoint, houtpoint⟩ := Option.ne_none_iff_exists'.mp hparse
  rw [resolveOnchainOutpoint, houtpoint] at hround
  obtain ⟨spendTxid, hstatus, hround⟩ := bind_eq_ok.mp hround
  intro hall
  cases spendTxid with
  | some txid =>
    simp only [reduceCtorEq, and_false, if_false] at hround
    cases hround
    cases (hall _ (List.mem_append_right _ (List.mem_singleton_self _))).1
  | none =>
    simp only [and_self, if_true] at hround
    obtain ⟨expired, hwindow, hround⟩ := bind_eq_ok.mp hround
    cases hround
    have hexpired := (hall _ (List.mem_append_right _ (List.mem_singleton_self _))).2
    cases hexpired
    exact hnot ⟨outpoint, houtpoint, hstatus, hwindow⟩

/-- The loop collects expired statuses only, exactly if the inputs that read have expired. -/
theorem exists_foldlM_expired_iff (answers : IntentAnswers)
    (inputs : List PendingBatchOutpointRecord) (before : List OnchainOutpointResolution) :
    (∃ after, inputs.foldlM (resolveOnchainOutpoint answers .board) before = .ok after ∧
      AllStatusesExpired after ∧ after ≠ []) ↔
    AllStatusesExpired before ∧
      (∀ input ∈ inputs, parseOutpointRecord input = none ∨ BoardingInputExpired answers input) ∧
      (before ≠ [] ∨ ∃ input ∈ inputs, BoardingInputExpired answers input) := by
  refine exists_foldlM_all_good_iff (fun _ _ => resolveOnchainOutpoint_of_unreadable) ?_
    (fun _ _ _ => resolveOnchainOutpoint_of_not_expired) ?_ inputs before
  · intro input before hexpired
    exact ⟨_, ⟨rfl, rfl⟩, resolveOnchainOutpoint_of_expired hexpired before⟩
  · rintro input hnone ⟨outpoint, houtpoint, -⟩
    rw [hnone] at houtpoint
    cases houtpoint

theorem resolveOnchainOutputsStatus_eq_expired_iff (kind : PendingBatchIntentKind) :
    resolveOnchainOutputsStatus perOutpoint kind = .boardingWindowExpired ↔
      kind = .board ∧ AllStatusesExpired perOutpoint ∧ perOutpoint ≠ [] := by
  unfold resolveOnchainOutputsStatus AllStatusesExpired
  cases perOutpoint with
  | nil => simp
  | cons item items =>
    simp only [List.isEmpty_cons, Bool.false_eq_true, if_false, List.all_eq_true,
      Bool.and_eq_true, Option.isNone_iff_eq_none, ne_eq, reduceCtorEq, not_false_eq_true,
      and_true]
    split
    · rename_i hspent
      simp only [reduceCtorEq, false_iff, not_and]
      intro _ hall
      have hfirst := hspent item List.mem_cons_self
      rw [(hall item List.mem_cons_self).1] at hfirst
      cases hfirst
    · split
      · rename_i hexpired
        exact iff_of_true rfl hexpired
      · rename_i hexpired
        exact iff_of_false PendingBatchIntentResolution.noConfusion hexpired

theorem resolveOnchainPendingIntent_eq_expired_iff (answers : IntentAnswers)
    (record : PendingBatchIntentRecord) :
    resolveOnchainPendingIntent answers record = .ok .boardingWindowExpired ↔
      ExaminedInputsExpired answers record := by
  unfold ExaminedInputsExpired
  have hloop := exists_foldlM_expired_iff answers record.onchainOutpoints []
  have hnil : AllStatusesExpired [] := List.forall_mem_nil _
  simp only [hnil, true_and, ne_eq, not_true_eq_false, false_or] at hloop
  rw [← hloop]
  constructor
  · intro hexpired
    obtain ⟨after, hfold, hstatus⟩ := bind_eq_ok.mp hexpired
    have hresolved : resolveOnchainOutputsStatus after record.kind = .boardingWindowExpired :=
      Except.ok.inj hstatus
    obtain ⟨hkind, hall⟩ := (resolveOnchainOutputsStatus_eq_expired_iff _).mp hresolved
    rw [hkind] at hfold
    exact ⟨hkind, after, hfold, hall⟩
  · rintro ⟨hkind, after, hfold, hall⟩
    rw [resolveOnchainPendingIntent, hkind, hfold]
    exact congrArg Except.ok
      ((resolveOnchainOutputsStatus_eq_expired_iff .board).mpr ⟨rfl, hall⟩)

/-- An input whose lookup fails fails the loop, if no earlier one does. -/
theorem exists_foldlM_error {inputs : List PendingBatchOutpointRecord} {outpoint : OutPoint}
    {error : String} (hinput : input ∈ inputs) (hparse : parseOutpointRecord input = some outpoint)
    (hstatus : answers.outputStatus outpoint = .error error) (kind : PendingBatchIntentKind)
    (before : List OnchainOutpointResolution) :
    ∃ error, inputs.foldlM (resolveOnchainOutpoint answers kind) before = .error error := by
  induction inputs generalizing before with
  | nil => cases hinput
  | cons first rest ih =>
    rw [List.foldlM_cons]
    cases hround : resolveOnchainOutpoint answers kind before first with
    | error error => exact ⟨error, rfl⟩
    | ok after =>
      rcases List.mem_cons.mp hinput with rfl | hrest
      · rw [resolveOnchainOutpoint, hparse] at hround
        obtain ⟨spendTxid, hspend, -⟩ := bind_eq_ok.mp hround
        rw [hstatus] at hspend
        cases hspend
      · exact ih hrest after

/-! ## The loop over virtual inputs -/

variable {snapshot : OffchainVtxoSnapshot}

theorem scanVtxoOutpoint_of_missing {scan : VtxoIntentScan}
    (hrow : virtualInputRow snapshot input = none) :
    scanVtxoOutpoint snapshot scan input = scan := by
  unfold virtualInputRow at hrow
  rw [scanVtxoOutpoint, hrow]

theorem scanVtxoOutpoint_of_row {row : VirtualTxOutPointRecord}
    (hrow : virtualInputRow snapshot input = some row) (scan : VtxoIntentScan) :
    (scanVtxoOutpoint snapshot scan input).sawAny = true ∧
      ((scanVtxoOutpoint snapshot scan input).allSpent = true ↔
        scan.allSpent = true ∧ (row.isSpent = true ∨ row.settledBy.isSome = true)) := by
  unfold virtualInputRow at hrow
  rw [scanVtxoOutpoint, hrow]
  dsimp only
  split
  · rename_i hspent
    simp [hspent]
  · rename_i hlive
    simp [hlive]

section

variable (hsnapshot : answers.snapshot = some snapshot)
include hsnapshot

theorem vtxoInputSpent_iff :
    VtxoInputSpent answers input ↔ ∃ row, virtualInputRow snapshot input = some row ∧
      (row.isSpent = true ∨ row.settledBy.isSome = true) := by
  simp [VtxoInputSpent, hsnapshot]

theorem vtxoInputMissing_iff :
    VtxoInputMissing answers input ↔ virtualInputRow snapshot input = none := by
  simp [VtxoInputMissing, hsnapshot]

/-- The loop ends with spent inputs only, exactly if the inputs in the snapshot are spent. -/
theorem foldl_scanVtxoOutpoint_iff (inputs : List PendingBatchOutpointRecord)
    (scan : VtxoIntentScan) :
    ((inputs.foldl (scanVtxoOutpoint snapshot) scan).sawAny = true ∧
      (inputs.foldl (scanVtxoOutpoint snapshot) scan).allSpent = true) ↔
    scan.allSpent = true ∧
      (∀ input ∈ inputs, VtxoInputMissing answers input ∨ VtxoInputSpent answers input) ∧
      (scan.sawAny = true ∨ ∃ input ∈ inputs, VtxoInputSpent answers input) := by
  induction inputs generalizing scan with
  | nil => simp [and_comm]
  | cons input inputs ih =>
    rw [List.foldl_cons, ih]
    simp only [List.forall_mem_cons, List.exists_mem_cons_iff]
    cases hrow : virtualInputRow snapshot input with
    | none =>
      have hmissing := (vtxoInputMissing_iff hsnapshot).mpr hrow
      have hnot := not_vtxoInputSpent_of_missing hmissing
      rw [scanVtxoOutpoint_of_missing hrow]
      tauto
    | some row =>
      have hpresent : ¬ VtxoInputMissing answers input := by
        rw [vtxoInputMissing_iff hsnapshot, hrow]
        exact Option.some_ne_none row
      have hspent : VtxoInputSpent answers input ↔
          (row.isSpent = true ∨ row.settledBy.isSome = true) := by
        simp [vtxoInputSpent_iff hsnapshot, hrow]
      have hscan := scanVtxoOutpoint_of_row hrow scan
      rw [hscan.2, ← hspent]
      have hsaw := hscan.1
      tauto

end

theorem resolveVtxoPendingIntent_eq_spent_iff (answers : IntentAnswers)
    (record : PendingBatchIntentRecord) :
    (∃ spendTxid, resolveVtxoPendingIntent record answers.snapshot = .spent spendTxid) ↔
      (∀ input ∈ record.vtxoOutpoints,
        VtxoInputMissing answers input ∨ VtxoInputSpent answers input) ∧
      ∃ input ∈ record.vtxoOutpoints, VtxoInputSpent answers input := by
  cases hsnapshot : answers.snapshot with
  | none =>
    apply iff_of_false
    · intro hspent
      cases hspent with
      | intro spendTxid hspent => cases hspent
    · intro hspent
      obtain ⟨input, _, snapshot, _, hsome, _⟩ := hspent.2
      rw [hsnapshot] at hsome
      cases hsome
  | some snapshot =>
    have hloop := foldl_scanVtxoOutpoint_iff hsnapshot record.vtxoOutpoints
      { sawAny := false, allSpent := true, spendTxid := none }
    simp only [true_and, Bool.false_eq_true, false_or] at hloop
    rw [← hloop]
    simp only [resolveVtxoPendingIntent]
    split
    · rename_i hscan
      exact iff_of_true ⟨_, rfl⟩ hscan
    · rename_i hscan
      apply iff_of_false
      · intro hspent
        cases hspent with
        | intro spendTxid hspent => cases hspent
      · exact hscan

theorem pendingBatchIntentResolution_eq_spent_iff (answers : IntentAnswers)
    (record : PendingBatchIntentRecord) :
    (∃ spendTxid, pendingBatchIntentResolution answers record = .ok (.spent spendTxid)) ↔
      ExaminedInputsSpent answers record := by
  unfold ExaminedInputsSpent pendingBatchIntentResolution
  cases honchain : record.onchainOutpoints with
  | cons input inputs =>
    have hresolve := resolveOnchainPendingIntent_eq_spent_iff answers record
    rw [honchain] at hresolve
    simpa using hresolve
  | nil =>
    have hresolve := resolveVtxoPendingIntent_eq_spent_iff answers record
    cases hvtxo : record.vtxoOutpoints with
    | nil => simp
    | cons input inputs =>
      rw [hvtxo] at hresolve
      simpa using hresolve

theorem pendingBatchIntentResolution_eq_expired_iff (answers : IntentAnswers)
    (record : PendingBatchIntentRecord) :
    pendingBatchIntentResolution answers record = .ok .boardingWindowExpired ↔
      ExaminedInputsExpired answers record := by
  rw [← resolveOnchainPendingIntent_eq_expired_iff]
  unfold pendingBatchIntentResolution
  cases honchain : record.onchainOutpoints with
  | cons input inputs => simp
  | nil =>
    have hnone : resolveOnchainPendingIntent answers record ≠ .ok .boardingWindowExpired := by
      rw [resolveOnchainPendingIntent, honchain]
      exact fun h => PendingBatchIntentResolution.noConfusion (Except.ok.inj h)
    apply iff_of_false _ hnone
    simp only [List.isEmpty_nil, not_true_eq_false, if_false]
    split
    · intro hresolution
      have hvtxo := Except.ok.inj hresolution
      unfold resolveVtxoPendingIntent at hvtxo
      split at hvtxo
      · cases hvtxo
      · dsimp only at hvtxo
        split at hvtxo <;> cases hvtxo
    · exact fun h => PendingBatchIntentResolution.noConfusion (Except.ok.inj h)

/-- A resolution of an intent with a failing lookup fails. -/
theorem pendingBatchIntentResolution_of_lookup_error {outpoint : OutPoint} {error : String}
    (hinput : input ∈ record.onchainOutpoints)
    (hparse : parseOutpointRecord input = some outpoint)
    (hstatus : answers.outputStatus outpoint = .error error) :
    ∃ error, pendingBatchIntentResolution answers record = .error error := by
  have honchain : record.onchainOutpoints.isEmpty = false :=
    List.isEmpty_eq_false_iff.mpr (List.ne_nil_of_mem hinput)
  obtain ⟨failed, hfold⟩ := exists_foldlM_error hinput hparse hstatus record.kind []
  refine ⟨failed, ?_⟩
  rw [pendingBatchIntentResolution, honchain, if_pos (by simp), resolveOnchainPendingIntent, hfold]
  rfl

/-- An intent all of whose inputs are spent has none that does not read or is missing. -/
theorem AllInputsSpent.known (hspent : AllInputsSpent answers record) :
    ¬ ((∃ input ∈ record.onchainOutpoints, parseOutpointRecord input = none) ∨
      ∃ input ∈ record.vtxoOutpoints, VtxoInputMissing answers input) := by
  rintro (⟨input, hmem, hnone⟩ | ⟨input, hmem, hmissing⟩)
  · exact not_onchainInputSpent_of_unreadable hnone (hspent.1 input hmem)
  · exact not_vtxoInputSpent_of_missing hmissing (hspent.2 input hmem)

end Resolution

/-- The intents stored after a reconcile that nothing interrupts. -/
def reconciledIntents (idle : Bool) (answers : Nat → IntentAnswers)
    (stored : List PendingBatchIntentRecord) : List PendingBatchIntentRecord :=
  (intentSessionRun { stored, reconciles := fun _ => none }
    [.beginReconcile 0 idle, .endReconcile 0 answers]).stored

/-- Of the intents that a reconcile reads, one that it drops as spent has only inputs that are
known to be spent, and one with an input of which nothing is known is stored afterwards. -/
structure KeepsUnspentIntents (idle : Bool) (answers : Nat → IntentAnswers)
    (stored : List PendingBatchIntentRecord) : Prop where
  dropped : ∀ position record, (readPending idle stored)[position]? = some record →
    record ∉ reconciledIntents idle answers stored →
    (∃ spendTxid, pendingBatchIntentResolution (answers position) record = .ok (.spent spendTxid)) →
    AllInputsSpent (answers position) record
  kept : ∀ position record, (readPending idle stored)[position]? = some record →
    HasUnknownInput (answers position) record → record ∈ reconciledIntents idle answers stored

/-- What is stored after a reconcile: everything that it read if a lookup failed, and the intents
that are still pending otherwise. -/
theorem mem_reconciledIntents_iff (idle : Bool) (answers : Nat → IntentAnswers)
    (stored : List PendingBatchIntentRecord) (record : PendingBatchIntentRecord) :
    record ∈ reconciledIntents idle answers stored ↔
      (LookupFails answers (readPending idle stored) ∧ record ∈ readPending idle stored) ∨
        (¬ LookupFails answers (readPending idle stored) ∧
          StillPendingIn answers (readPending idle stored) record) := by
  unfold reconciledIntents
  let session : IntentSession := { stored, reconciles := fun _ => none }
  have hfree : session.reconciles 0 = none := rfl
  have hrun : intentSessionRun session [.beginReconcile 0 idle, .endReconcile 0 answers] =
      intentSessionStep (intentSessionStep session (.beginReconcile 0 idle))
        (.endReconcile 0 answers) := rfl
  have hname := reconciles_beginReconcile hfree idle
  have hstored : (intentSessionStep session (.beginReconcile 0 idle)).stored =
      readPending idle stored := by
    by_cases hempty : readPending idle stored = []
    · simp [session, intentSessionStep, hempty]
    · simp [session, intentSessionStep, hempty]
  rw [hrun]
  generalize intentSessionStep session (.beginReconcile 0 idle) = reached at hname hstored
  by_cases hempty : readPending idle stored = []
  · rw [if_pos hempty] at hname
    have hunchanged : intentSessionStep reached (.endReconcile 0 answers) = reached := by
      simp only [intentSessionStep, hname]
    rw [hunchanged, hstored, hempty]
    simp [StillPendingIn]
  · rw [if_neg hempty] at hname
    rw [mem_stored_endReconcile_iff hname, hstored]

/-- A reconcile keeps the intents that are not known to be spent, unless no lookup fails and some
intent that is not still pending has an overlooked input, beside examined inputs that are all
spent or beside boarding outputs that have all expired. -/
theorem reconcile_keeps_unspent_intents_iff (idle : Bool) (answers : Nat → IntentAnswers)
    (stored : List PendingBatchIntentRecord) :
    KeepsUnspentIntents idle answers stored ↔
      (LookupFails answers (readPending idle stored) ∨
        ∀ position record, (readPending idle stored)[position]? = some record →
          ¬ StillPendingIn answers (readPending idle stored) record →
          ¬ (ExaminedInputsSpent (answers position) record ∧
              OverlooksInput (answers position) record) ∧
            ¬ OverlooksBesideExpired (answers position) record) := by
  constructor
  · intro hkeeps
    by_cases hfails : LookupFails answers (readPending idle stored)
    · exact .inl hfails
    · right
      intro position record hposition hpending
      have hgone : record ∉ reconciledIntents idle answers stored := by
        rw [mem_reconciledIntents_iff]
        simp [hfails, hpending]
      constructor
      · rintro ⟨hexamined, hoverlooks⟩
        exact (allInputsSpent_iff_of_examined hexamined).mp
          (hkeeps.dropped position record hposition hgone
            ((pendingBatchIntentResolution_eq_spent_iff _ _).mpr hexamined)) hoverlooks
      · rintro ⟨-, hunknown⟩
        exact hgone (hkeeps.kept position record hposition
          (hunknown.imp id Or.inl))
  · intro hmeets
    constructor
    · intro position record hposition hgone hspent
      have hexamined := (pendingBatchIntentResolution_eq_spent_iff _ _).mp hspent
      rw [mem_reconciledIntents_iff] at hgone
      simp only [not_or, not_and] at hgone
      have hfails : ¬ LookupFails answers (readPending idle stored) := by
        intro hfails
        exact hgone.1 hfails (List.mem_of_getElem? hposition)
      have hclean := (hmeets.resolve_left hfails) position record hposition (hgone.2 hfails)
      exact (allInputsSpent_iff_of_examined hexamined).mpr
        fun hoverlooks => hclean.1 ⟨hexamined, hoverlooks⟩
    · intro position record hposition hunknown
      rw [mem_reconciledIntents_iff]
      by_cases hfails : LookupFails answers (readPending idle stored)
      · exact .inl ⟨hfails, List.mem_of_getElem? hposition⟩
      · refine .inr ⟨hfails, ?_⟩
        by_contra hpending
        have hclean := (hmeets.resolve_left hfails) position record hposition hpending
        have hread : (∃ input ∈ record.onchainOutpoints, parseOutpointRecord input = none) ∨
            ∃ input ∈ record.vtxoOutpoints, VtxoInputMissing (answers position) input := by
          rcases hunknown with hunreadable | hmissing |
            ⟨input, hmem, outpoint, error, hparse, hstatus⟩
          · exact .inl hunreadable
          · exact .inr hmissing
          · obtain ⟨failed, hfailed⟩ :=
              pendingBatchIntentResolution_of_lookup_error hmem hparse hstatus
            exact absurd ⟨position, record, failed, hposition, hfailed⟩ hfails
        cases hresolution : pendingBatchIntentResolution (answers position) record with
        | error error => exact hfails ⟨position, record, error, hposition, hresolution⟩
        | ok resolution =>
          cases resolution with
          | stillPending => exact hpending ⟨position, hposition, hresolution⟩
          | spent spendTxid =>
            have hexamined :=
              (pendingBatchIntentResolution_eq_spent_iff _ _).mp ⟨spendTxid, hresolution⟩
            have hspent := (allInputsSpent_iff_of_examined hexamined).mpr
              fun hoverlooks => hclean.1 ⟨hexamined, hoverlooks⟩
            exact hspent.known hread
          | boardingWindowExpired =>
            have hexpired := (pendingBatchIntentResolution_eq_expired_iff _ _).mp hresolution
            exact hclean.2 ⟨hexpired, hread⟩

def mixedInputsIntent : PendingBatchIntentRecord where
  kind := .collaborativeExit
  intentId := some "intent"
  onchainOutpoints := [{ txid := sampleCommitment.text, vout := 0 }]
  vtxoOutpoints := [{ txid := sampleHost.text, vout := 0 }]
  amountSats := 50000
  registeredAt := 1700000000
  destinationAddress := none
  lifecyclePhase := .timedOut

def boardingOutputSpent : IntentAnswers where
  outputStatus _ := .ok (some sampleHost)
  pastCooperativeWindow _ := .ok false
  snapshot := some sampleSnapshot

/-- The intent is dropped as spent although the operator still holds its virtual output. -/
theorem reconcile_drops_mixed_intent :
    ¬ KeepsUnspentIntents false (fun _ => boardingOutputSpent) [mixedInputsIntent] := by
  intro hkeeps
  have honchain : OnchainInputSpent boardingOutputSpent
      { txid := sampleCommitment.text, vout := 0 } := by
    refine ⟨{ txid := sampleCommitment, vout := 0 }, sampleHost, ?_, rfl⟩
    rw [parseOutpointRecord, Txid.fromStr_text]
    rfl
  have hexamined : ExaminedInputsSpent boardingOutputSpent mixedInputsIntent :=
    ⟨List.forall_mem_singleton.mpr (.inr honchain), _, List.mem_singleton_self _, honchain⟩
  obtain ⟨spendTxid, hresolution⟩ :=
    (pendingBatchIntentResolution_eq_spent_iff boardingOutputSpent mixedInputsIntent).mpr hexamined
  have hread : readPending false [mixedInputsIntent] = [mixedInputsIntent] := rfl
  have hgone : mixedInputsIntent ∉
      reconciledIntents false (fun _ => boardingOutputSpent) [mixedInputsIntent] := by
    rw [mem_reconciledIntents_iff, hread]
    rintro (⟨⟨position, record, error, hrecord, hfailed⟩, -⟩ | ⟨-, position, hrecord, hpending⟩)
    · rw [List.mem_singleton.mp (List.mem_of_getElem? hrecord), hresolution] at hfailed
      cases hfailed
    · rw [hresolution] at hpending
      cases hpending
  have hspent := hkeeps.dropped 0 mixedInputsIntent rfl hgone ⟨spendTxid, hresolution⟩
  have hsnapshot : boardingOutputSpent.snapshot = some sampleSnapshot := rfl
  have hvirtual := (vtxoInputSpent_iff hsnapshot).mp
    (hspent.2 _ (List.mem_singleton_self _))
  simp [virtualInputRow, sampleSnapshot, sampleRow] at hvirtual

end Bitboard.Arkade
