/-
# Finalizing a sync, one outpoint at a time

Each pass of the pipeline read as what it does to the rows at one outpoint. The flag
passes rewrite rows in place and never clear `is_spent`; the Esplora pass also says what
the probes saw; one round of the record loop is inverted once, into `RecordRound`, and
touches the rows of its own outpoint only.
-/

import Bitboard.Arkade.OperatorSync

namespace Bitboard.Arkade

open Bitboard.Lib
open OffchainVtxoSnapshot

/-- A row update that keeps the outpoint and does not clear `is_spent`. -/
structure KeepsOutpoint (update : VirtualTxOutPointRecord → VirtualTxOutPointRecord) : Prop where
  txid : ∀ row, (update row).txid = row.txid
  vout : ∀ row, (update row).vout = row.vout
  spent : ∀ row, row.isSpent = true → (update row).isSpent = true

namespace KeepsOutpoint

variable {update other : VirtualTxOutPointRecord → VirtualTxOutPointRecord}

theorem id : KeepsOutpoint id := ⟨fun _ => rfl, fun _ => rfl, fun _ h => h⟩

section

variable (h : KeepsOutpoint update)
include h

theorem comp (h' : KeepsOutpoint other) : KeepsOutpoint (update ∘ other) where
  txid row := (h.txid _).trans (h'.txid row)
  vout row := (h.vout _).trans (h'.vout row)
  spent row hspent := h.spent _ (h'.spent row hspent)

theorem isAt (row : VirtualTxOutPointRecord) (txid : String) (vout : UInt32) :
    (update row).isAt txid vout = row.isAt txid vout := by
  simp only [VirtualTxOutPointRecord.isAt, h.txid, h.vout]

theorem snapshotRecord_mapRows (snapshot : OffchainVtxoSnapshot) (txid : String) (vout : UInt32) :
    snapshotRecord (snapshot.mapRows update) txid vout =
      (snapshotRecord snapshot txid vout).map update := by
  unfold snapshotRecord mapRows
  rw [List.find?_map]
  congr 2
  funext row
  exact h.isAt row txid vout

theorem uniqueOutpoints_mapRows {snapshot : OffchainVtxoSnapshot}
    (hunique : UniqueOutpoints snapshot) : UniqueOutpoints (snapshot.mapRows update) := by
  have hkey : (VirtualTxOutPointRecord.outpointKey ∘ update) =
      VirtualTxOutPointRecord.outpointKey := by
    funext row
    simp [VirtualTxOutPointRecord.outpointKey, h.txid, h.vout]
  unfold UniqueOutpoints mapRows
  rw [List.map_map, hkey]
  exact hunique

end

end KeepsOutpoint

theorem keepsOutpoint_stickUnrolledFlag (stickyTxids : List String) :
    KeepsOutpoint (stickUnrolledFlag stickyTxids) := by
  constructor <;> intro row <;> unfold stickUnrolledFlag <;> split_ifs <;> simp_all

theorem keepsOutpoint_clearIndexerUnrolled (hosts : List String) :
    KeepsOutpoint (clearIndexerUnrolled hosts) := by
  constructor <;> intro row <;> unfold clearIndexerUnrolled <;> split_ifs <;> simp_all

theorem keepsOutpoint_stickSpentFlag (prior : OffchainVtxoSnapshot) :
    KeepsOutpoint (stickSpentFlag prior) := by
  constructor <;> intro row <;> unfold stickSpentFlag <;> split <;>
    first | rfl | (split_ifs <;> simp_all) | simp_all

theorem keepsOutpoint_markSpent (txid : String) (vout : UInt32) (spentBy : String) :
    KeepsOutpoint fun row =>
      if row.isAt txid vout then { row with isSpent := true, spentBy := some spentBy }
      else row := by
  constructor <;> intro row <;> split_ifs <;> simp_all

variable {row : VirtualTxOutPointRecord}

theorem isSpent_stickSpentFlag {prior : OffchainVtxoSnapshot}
    (h : snapshotRecordAlreadySpent prior row.txid row.vout = true) :
    (stickSpentFlag prior row).isSpent = true := by
  obtain ⟨priorRecord, hprior, hspent⟩ := (Option.any_eq_true _ _).mp h
  simp [stickSpentFlag, hprior, hspent]

section Restored

variable {prior incoming : OffchainVtxoSnapshot}
variable {snapshot : OffchainVtxoSnapshot}

theorem snapshotRecord_append {txid : String} {vout : UInt32} :
    snapshotRecord { snapshot with
      virtualTxOutpoints := snapshot.virtualTxOutpoints ++ [row] } txid vout =
      (snapshotRecord snapshot txid vout).or (if row.isAt txid vout then some row else none) := by
  unfold snapshotRecord
  rw [List.find?_append]
  cases hat : row.isAt txid vout <;> simp [hat]

theorem uniqueOutpoints_append (hunique : UniqueOutpoints snapshot)
    (hnew : snapshotRecord snapshot row.txid row.vout = none) :
    UniqueOutpoints { snapshot with
      virtualTxOutpoints := snapshot.virtualTxOutpoints ++ [row] } := by
  unfold UniqueOutpoints
  rw [List.map_append, List.nodup_append]
  refine ⟨hunique, List.nodup_singleton _, ?_⟩
  intro key hkey other hother heq
  obtain ⟨present, hpresent, rfl⟩ := List.mem_map.mp hkey
  rw [List.map_singleton, List.mem_singleton] at hother
  have hat := snapshotRecord_eq_none_iff.mp hnew present hpresent
  rw [isAt_iff_outpointKey.mpr (heq.trans hother)] at hat
  cases hat

theorem any_isAt_eq_true_iff {txid : String} {vout : UInt32} :
    (snapshot.virtualTxOutpoints.any fun row => row.isAt txid vout) = true ↔
      snapshotRecord snapshot txid vout ≠ none := by
  rw [Ne, snapshotRecord_eq_none_iff, List.any_eq_true]
  push Not
  simp

/-- One reinjection at one outpoint. -/
theorem snapshotRecord_reinjectPendingRecord (snapshot : OffchainVtxoSnapshot)
    (outpoint : String × UInt32) (txid : String) (vout : UInt32) :
    snapshotRecord (reinjectPendingRecord prior snapshot outpoint) txid vout =
      (snapshotRecord snapshot txid vout).or
        (if outpoint = (txid, vout) then snapshotRecord prior txid vout else none) := by
  obtain ⟨pendingTxid, pendingVout⟩ := outpoint
  unfold reinjectPendingRecord
  dsimp only
  split_ifs with hpresent hsame hsame
  · cases hsame
    obtain ⟨row, hrow⟩ := Option.ne_none_iff_exists'.mp (any_isAt_eq_true_iff.mp hpresent)
    rw [hrow, Option.some_or]
  · rw [Option.or_none]
  · cases hsame
    have hmissing : snapshotRecord snapshot txid vout = none := by
      by_contra hne
      exact hpresent (any_isAt_eq_true_iff.mpr hne)
    cases hprior : snapshotRecord prior txid vout with
    | none => rw [Option.or_none]
    | some priorRecord =>
      rw [snapshotRecord_append, hmissing, (mem_of_snapshotRecord hprior).2]
      rfl
  · cases hprior : snapshotRecord prior pendingTxid pendingVout with
    | none => rw [Option.or_none]
    | some priorRecord =>
      obtain ⟨htxid, hvout⟩ :=
        VirtualTxOutPointRecord.isAt_iff.mp (mem_of_snapshotRecord hprior).2
      have hother : priorRecord.isAt txid vout = false := by
        rw [← Bool.not_eq_true, VirtualTxOutPointRecord.isAt_iff, htxid, hvout]
        rintro ⟨rfl, rfl⟩
        exact hsame rfl
      rw [snapshotRecord_append, hother]
      rfl

theorem uniqueOutpoints_reinjectPendingRecord
    (hunique : UniqueOutpoints snapshot) (outpoint : String × UInt32) :
    UniqueOutpoints (reinjectPendingRecord prior snapshot outpoint) := by
  unfold reinjectPendingRecord
  split_ifs with hpresent
  · exact hunique
  · split
    · exact hunique
    · rename_i priorRecord hprior
      obtain ⟨htxid, hvout⟩ :=
        VirtualTxOutPointRecord.isAt_iff.mp (mem_of_snapshotRecord hprior).2
      apply uniqueOutpoints_append hunique
      rw [htxid, hvout]
      by_contra hne
      exact hpresent (any_isAt_eq_true_iff.mpr hne)

/-- Restored rows: those of the list, and the prior rows of pending outpoints it lacks. -/
theorem snapshotRecord_restored (pending : List PendingExitDeductionRecord) (txid : String)
    (vout : UInt32) :
    snapshotRecord (restoredSnapshot incoming (some prior) pending) txid vout =
      (snapshotRecord incoming txid vout).or
        (if (txid, vout) ∈ pendingUnilateralOutpoints pending then
          snapshotRecord prior txid vout else none) := by
  have hfold : ∀ (outpoints : List (String × UInt32)) (snapshot : OffchainVtxoSnapshot),
      snapshotRecord (outpoints.foldl (reinjectPendingRecord prior) snapshot) txid vout =
        (snapshotRecord snapshot txid vout).or
          (if (txid, vout) ∈ outpoints then snapshotRecord prior txid vout else none) := by
    intro outpoints
    induction outpoints with
    | nil => simp
    | cons outpoint outpoints ih =>
      intro snapshot
      rw [List.foldl_cons, ih, snapshotRecord_reinjectPendingRecord, Option.or_assoc]
      congr 1
      by_cases hhere : outpoint = (txid, vout)
      · subst hhere
        cases snapshotRecord prior txid vout <;> simp
      · have hne : (txid, vout) ≠ outpoint := fun h => hhere h.symm
        simp [hhere, List.mem_cons, hne]
  exact hfold _ incoming

theorem uniqueOutpoints_restored {prior : Option OffchainVtxoSnapshot}
    (hunique : UniqueOutpoints incoming) (pending : List PendingExitDeductionRecord) :
    UniqueOutpoints (restoredSnapshot incoming prior pending) := by
  cases prior with
  | none => exact hunique
  | some prior =>
    change UniqueOutpoints ((pendingUnilateralOutpoints pending).foldl
      (reinjectPendingRecord prior) incoming)
    induction pendingUnilateralOutpoints pending generalizing incoming with
    | nil => exact hunique
    | cons outpoint outpoints ih =>
      exact ih (uniqueOutpoints_reinjectPendingRecord hunique outpoint)

end Restored

variable {pass : EsploraPass} {targets : List (String × UInt32)}

section Flags

variable (codec : Codec) (answers : SyncAnswers)

def flaggedSnapshot (observations : HostTxObservations)
    (pending : List PendingExitDeductionRecord) (records : VtxoExitRecords)
    (incoming : OffchainVtxoSnapshot) (prior : Option OffchainVtxoSnapshot) :
    OffchainVtxoSnapshot :=
  mergeStickySpentFlags prior (mergeStickyUnrolledFlags prior
    (restoredSnapshot incoming prior pending)
    (confirmedUnrollStickyHostTxids observations records))

theorem flaggedSnapshot_eq_mapRows (observations : HostTxObservations)
    (pending : List PendingExitDeductionRecord) (records : VtxoExitRecords)
    (incoming : OffchainVtxoSnapshot) (prior : Option OffchainVtxoSnapshot) :
    ∃ update, KeepsOutpoint update ∧
      flaggedSnapshot observations pending records incoming prior =
        (restoredSnapshot incoming prior pending).mapRows update ∧
      ∀ row, (prior.any fun prior => snapshotRecordAlreadySpent prior row.txid row.vout) = true →
        (update row).isSpent = true := by
  cases prior with
  | none =>
    refine ⟨id, KeepsOutpoint.id, ?_, by simp⟩
    simp [flaggedSnapshot, mergeStickySpentFlags, mergeStickyUnrolledFlags, mapRows]
  | some prior =>
    refine ⟨_, (keepsOutpoint_stickSpentFlag prior).comp (keepsOutpoint_stickUnrolledFlag _),
      mapRows_mapRows _ _ _, ?_⟩
    intro row hspent
    have hsticky := keepsOutpoint_stickUnrolledFlag
    apply isSpent_stickSpentFlag
    rw [(hsticky _).txid, (hsticky _).vout]
    exact hspent

/-- What the Esplora pass did to the rows and where it saw what. -/
structure EsploraSaw (start : OffchainVtxoSnapshot) (pass : EsploraPass) : Prop where
  rows : ∃ update, KeepsOutpoint update ∧ pass.snapshot = start.mapRows update ∧
    ∀ row, update row = row ∨ (update row).isSpent = true
  visible : ∀ host ∈ pass.chainVisibleUnrolledHosts, ∃ txid, Txid.fromStr host = some txid ∧
    answers.isTxRelayedOnNetwork txid = .ok true
  spent : ∀ outpoint ∈ pass.spentOutpoints, ∃ spend,
    answers.outputSpend outpoint.txid outpoint.vout = .ok (some spend)

variable {codec answers}

theorem parseTxid_eq_ok {text : String} {txid : Txid} :
    parseTxid codec text = .ok txid ↔ Txid.fromStr text = some txid := by
  unfold parseTxid
  cases Txid.fromStr text <;> simp

theorem detect_eq_ok {spend : Txid → UInt32 → ArkResult (Option Txid)} {text : String}
    {vout : UInt32} {answer : Option Txid} :
    detectExitingVtxoCompletionOnEsplora codec spend text vout = .ok answer ↔
      ∃ txid, Txid.fromStr text = some txid ∧ spend txid vout = .ok answer := by
  unfold detectExitingVtxoCompletionOnEsplora
  simp only [bind_eq_ok, parseTxid_eq_ok]

/-- One round of the Esplora loop. -/
theorem probeExitingVtxo_cases {next : EsploraPass} {target : String × UInt32}
    (h : probeExitingVtxo codec answers pass target = .ok next) :
    ∃ txid, Txid.fromStr target.1 = some txid ∧
      ((∃ spend, answers.outputSpend txid target.2 = .ok (some spend) ∧
        next = { pass with
          snapshot := markVtxoSpentInSnapshot pass.snapshot target.1 target.2 spend.text
          spentOutpoints := pass.spentOutpoints ++ [{ txid, vout := target.2 }] }) ∨
      (answers.outputSpend txid target.2 = .ok none ∧
        answers.isTxRelayedOnNetwork txid = .ok true ∧
        next = { pass with
          chainVisibleUnrolledHosts := pass.chainVisibleUnrolledHosts ++ [target.1] }) ∨
      (answers.outputSpend txid target.2 = .ok none ∧
        answers.isTxRelayedOnNetwork txid = .ok false ∧ next = pass)) := by
  unfold probeExitingVtxo at h
  obtain ⟨answer, hanswer, hnext⟩ := bind_eq_ok.mp h
  obtain ⟨txid, hparse, hspend⟩ := detect_eq_ok.mp hanswer
  refine ⟨txid, hparse, ?_⟩
  cases answer with
  | some spend =>
    cases hnext
    refine Or.inl ⟨spend, hspend, ?_⟩
    simp [applyVirtualOutpointChainFact, hparse]
  | none =>
    obtain ⟨relayed, hrelayed, hnext⟩ := bind_eq_ok.mp hnext
    simp only [virtualTxIsRelayed, hparse] at hrelayed
    cases hnext
    cases relayed with
    | true => exact Or.inr (Or.inl ⟨hspend, hrelayed, rfl⟩)
    | false => exact Or.inr (Or.inr ⟨hspend, hrelayed, rfl⟩)

variable {records : VtxoExitRecords}

theorem esploraSaw {start : OffchainVtxoSnapshot}
    (h : reconcileExitingVtxosSpentOnEsplora codec answers start records = .ok pass) :
    EsploraSaw answers start pass := by
  refine foldlM_invariant (EsploraSaw answers start) ?_ ?_ h
  · intro state target _ next hnext hstate
    obtain ⟨txid, hparse, ⟨spend, hspend, rfl⟩ | ⟨-, hrelayed, rfl⟩ | ⟨-, -, rfl⟩⟩ :=
      probeExitingVtxo_cases hnext
    · obtain ⟨update, hkeeps, hrows, hspends⟩ := hstate.rows
      have hmark := keepsOutpoint_markSpent target.1 target.2 spend.text
      refine ⟨⟨_, hmark.comp hkeeps, ?_, ?_⟩, hstate.visible, ?_⟩
      · simp only [markVtxoSpentInSnapshot, hrows]
        exact mapRows_mapRows _ _ _
      · intro row
        rcases hspends row with hsame | hspent
        · simp only [Function.comp_apply, hsame]
          split_ifs
          · exact Or.inr rfl
          · exact Or.inl rfl
        · exact Or.inr (hmark.spent _ hspent)
      · intro outpoint houtpoint
        rcases List.mem_append.mp houtpoint with hbefore | hnew
        · exact hstate.spent outpoint hbefore
        · cases List.mem_singleton.mp hnew
          exact ⟨spend, hspend⟩
    · refine ⟨hstate.rows, ?_, hstate.spent⟩
      intro host hhost
      rcases List.mem_append.mp hhost with hbefore | hnew
      · exact hstate.visible host hbefore
      · cases List.mem_singleton.mp hnew
        exact ⟨txid, hparse, hrelayed⟩
    · exact hstate
  · refine ⟨⟨id, KeepsOutpoint.id, ?_, fun _ => Or.inl rfl⟩, by simp, by simp⟩
    simp [mapRows]

variable {snapshot : OffchainVtxoSnapshot} {outpoint : String × UInt32}

theorem mem_addProbeTarget (hmem : outpoint ∈ targets) (entry : String × VtxoExitRecord) :
    outpoint ∈ addProbeTarget snapshot targets entry := by
  unfold addProbeTarget
  split
  · exact hmem
  · split_ifs
    · exact hmem
    · exact List.mem_append_left _ hmem

theorem mem_foldl_addProbeTarget (hmem : outpoint ∈ targets)
    (entries : List (String × VtxoExitRecord)) :
    outpoint ∈ entries.foldl (addProbeTarget snapshot) targets := by
  induction entries generalizing targets with
  | nil => exact hmem
  | cons entry entries ih => exact ih (mem_addProbeTarget hmem entry)

theorem mem_esploraProbeTargets_of_row (hrow : row ∈ snapshot.virtualTxOutpoints)
    (hunrolled : row.isUnrolled = true) (hunspent : row.isSpent = false)
    (records : VtxoExitRecords) : row.outpointKey ∈ esploraProbeTargets snapshot records := by
  refine mem_foldl_addProbeTarget (List.mem_map_of_mem (List.mem_filter.mpr ⟨hrow, ?_⟩)) _
  simp [hunrolled, hunspent]

theorem mem_esploraProbeTargets {key : String} {record : VtxoExitRecord}
    (hrecord : records[key]? = some record)
    (houtpoint : confirmedUnrollOutpoint key record = some outpoint)
    (hunspent : snapshotRecordAlreadySpent snapshot outpoint.1 outpoint.2 = false) :
    outpoint ∈ esploraProbeTargets snapshot records := by
  have hadded : ∀ targets, outpoint ∈ addProbeTarget snapshot targets (key, record) := by
    intro targets
    simp only [addProbeTarget, houtpoint, hunspent, Bool.false_or, decide_eq_true_eq]
    split_ifs with hin
    · exact hin
    · exact List.mem_append_right _ (List.mem_singleton.mpr rfl)
  obtain ⟨before, after, hsplit⟩ := List.append_of_mem (BTreeMap.mem_toList_iff.mpr hrecord)
  rw [esploraProbeTargets, hsplit, List.foldl_append, List.foldl_cons]
  exact mem_foldl_addProbeTarget (hadded _) after

/-- Every target that Esplora reports spent is among the spent outpoints. -/
theorem mem_spentOutpoints {start : OffchainVtxoSnapshot} {text : String} {vout : UInt32}
    {txid spend : Txid}
    (h : reconcileExitingVtxosSpentOnEsplora codec answers start records = .ok pass)
    (htarget : (text, vout) ∈ esploraProbeTargets start records)
    (hparse : Txid.fromStr text = some txid)
    (hspend : answers.outputSpend txid vout = .ok (some spend)) :
    { txid, vout } ∈ pass.spentOutpoints := by
  refine foldlM_establishes (fun pass : EsploraPass => { txid, vout } ∈ pass.spentOutpoints) ?_
    htarget ?_ h
  · intro state target _ next hnext hmem
    obtain ⟨_, -, ⟨_, -, rfl⟩ | ⟨-, -, rfl⟩ | ⟨-, -, rfl⟩⟩ := probeExitingVtxo_cases hnext
    · exact List.mem_append_left _ hmem
    · exact hmem
    · exact hmem
  · intro state next hnext
    obtain ⟨other, hother, hcases⟩ := probeExitingVtxo_cases hnext
    cases hparse.symm.trans hother
    rcases hcases with ⟨_, -, rfl⟩ | ⟨hnone, -⟩ | ⟨hnone, -⟩
    · exact List.mem_append_right _ (List.mem_singleton.mpr rfl)
    · cases hspend.symm.trans hnone
    · cases hspend.symm.trans hnone

end Flags

/-! ## One round of the record loop -/

section RecordRound

variable (answers : SyncAnswers)

/-- Esplora reports the output spent when its record is reconciled. -/
def spentLater (txid : Txid) (vout : UInt32) : Bool :=
  match answers.outputSpendLater txid vout with
  | .ok (some _) => true
  | _ => false

/-- A missing outpoint is reported spent: by the operator if it answers, else by Esplora. -/
def reportedSpent (txid : Txid) (vout : UInt32) : Bool :=
  match operatorVtxo answers { txid, vout } with
  | some point => point.isSpent
  | none => spentLater answers txid vout

/-- The row `record_for_reinject` makes for an outpoint. -/
def reinjectedRow (prior : Option OffchainVtxoSnapshot) (txid : String) (vout : UInt32)
    (amountSats : Nat) : VirtualTxOutPointRecord :=
  recordForReinject (prior.bind fun prior => snapshotRecord prior txid vout) txid vout amountSats

/-- What a round for a confirmed record does to the snapshot, by what it finds there. -/
inductive RecordRound (prior : Option OffchainVtxoSnapshot) (txid : String) (vout : UInt32)
    (before : OffchainVtxoSnapshot) : OffchainVtxoSnapshot → Prop
  /-- A live row that is not spent on chain stays. -/
  | live {row : VirtualTxOutPointRecord} {host : Txid}
      (hrow : snapshotRecord before txid vout = some row)
      (hunrolled : row.isUnrolled = true) (hunspent : row.isSpent = false)
      (hhost : Txid.fromStr txid = some host) (hspend : spentLater answers host vout = false) :
      RecordRound prior txid vout before before
  /-- A live row that is spent on chain is marked spent. -/
  | spentOnChain {row : VirtualTxOutPointRecord} {host : Txid}
      (hrow : snapshotRecord before txid vout = some row)
      (hunrolled : row.isUnrolled = true) (hunspent : row.isSpent = false)
      (hhost : Txid.fromStr txid = some host) (hspend : spentLater answers host vout = true) :
      RecordRound prior txid vout before (clearExitingRecord before txid vout)
  /-- A spent row stays spent. -/
  | spent {row : VirtualTxOutPointRecord} (hrow : snapshotRecord before txid vout = some row)
      (hspent : row.isSpent = true) :
      RecordRound prior txid vout before (clearExitingRecord before txid vout)
  /-- A row that the list shows as spendable becomes unrolled. -/
  | unrolled {row : VirtualTxOutPointRecord} (amountSats : Nat)
      (hrow : snapshotRecord before txid vout = some row) (hunspent : row.isSpent = false)
      (hspendable : row.isUnrolled = false) :
      RecordRound prior txid vout before
        (reinjectExitingRecord before (reinjectedRow prior txid vout amountSats))
  /-- A missing row that is reported spent stays missing. -/
  | missing {host : Txid} (hnone : snapshotRecord before txid vout = none)
      (hhost : Txid.fromStr txid = some host) (hreport : reportedSpent answers host vout = true) :
      RecordRound prior txid vout before before
  /-- A missing row that is not reported spent is brought back. -/
  | reinjected {host : Txid} (amountSats : Nat) (hnone : snapshotRecord before txid vout = none)
      (hhost : Txid.fromStr txid = some host) (hreport : reportedSpent answers host vout = false) :
      RecordRound prior txid vout before
        (reinjectExitingRecord before (reinjectedRow prior txid vout amountSats))

variable {codec : Codec} {answers}
variable {vout : UInt32}

theorem spentLater_of_ok {txid : Txid} {answer : Option Txid}
    (h : answers.outputSpendLater txid vout = .ok answer) :
    spentLater answers txid vout = answer.isSome := by
  unfold spentLater
  rw [h]
  cases answer <;> rfl

variable {snapshot : OffchainVtxoSnapshot} {txid : String}

theorem clearExitingRecord_of_none (h : snapshotRecord snapshot txid vout = none) :
    clearExitingRecord snapshot txid vout = snapshot := by
  unfold clearExitingRecord
  rw [modifyFirst_of_find?_eq_none h]

theorem classifyOperatorVtxo_cases (point : VirtualTxOutPoint) :
    (point.isSpent = true ∧ classifyOperatorVtxo point = .clearSpent) ∨
      (point.isSpent = false ∧ classifyOperatorVtxo point ≠ .clearSpent ∧
        classifyOperatorVtxo point ≠ .clearOnChainSpent) := by
  unfold classifyOperatorVtxo
  cases hspent : point.isSpent <;> cases point.isUnrolled <;> cases point.isSwept <;> simp

theorem isAt_reinjectedRow (prior : Option OffchainVtxoSnapshot) (txid : String) (vout : UInt32)
    (amountSats : Nat) : (reinjectedRow prior txid vout amountSats).isAt txid vout = true := by
  unfold reinjectedRow recordForReinject
  cases hprior : prior.bind fun prior => snapshotRecord prior txid vout with
  | none => simp
  | some priorRecord =>
    obtain ⟨_, -, hrecord⟩ := Option.bind_eq_some_iff.mp hprior
    simpa using (mem_of_snapshotRecord hrecord).2

theorem reinjectedRow_isSpent (prior : Option OffchainVtxoSnapshot) (txid : String)
    (vout : UInt32) (amountSats : Nat) :
    (reinjectedRow prior txid vout amountSats).isSpent = false := by
  unfold reinjectedRow recordForReinject
  split <;> rfl

theorem reinjectedRow_isUnrolled (prior : Option OffchainVtxoSnapshot) (txid : String)
    (vout : UInt32) (amountSats : Nat) :
    (reinjectedRow prior txid vout amountSats).isUnrolled = true := by
  unfold reinjectedRow recordForReinject
  split <;> rfl

theorem reinjectExitingRecord_rows (snapshot : OffchainVtxoSnapshot)
    (prior : Option OffchainVtxoSnapshot) (txid : String) (vout : UInt32) (amountSats : Nat) :
    (reinjectExitingRecord snapshot
      (reinjectedRow prior txid vout amountSats)).virtualTxOutpoints =
      if (snapshotRecord snapshot txid vout).isSome then
        modifyFirst (·.isAt txid vout)
          (reviveRow (reinjectedRow prior txid vout amountSats).amountSats)
          snapshot.virtualTxOutpoints
      else snapshot.virtualTxOutpoints ++ [reinjectedRow prior txid vout amountSats] := by
  obtain ⟨htxid, hvout⟩ :=
    VirtualTxOutPointRecord.isAt_iff.mp (isAt_reinjectedRow prior txid vout amountSats)
  unfold reinjectExitingRecord
  rw [htxid, hvout]
  cases snapshotRecord snapshot txid vout <;> rfl

theorem snapshotRecord_reinjectExitingRecord (snapshot : OffchainVtxoSnapshot)
    (prior : Option OffchainVtxoSnapshot) (txid : String) (vout : UInt32) (amountSats : Nat) :
    ∃ row, snapshotRecord (reinjectExitingRecord snapshot
        (reinjectedRow prior txid vout amountSats)) txid vout = some row ∧
      row.isUnrolled = true ∧ row.isSpent = false := by
  unfold snapshotRecord
  rw [reinjectExitingRecord_rows]
  cases hrow : snapshotRecord snapshot txid vout with
  | some row =>
    rw [Option.isSome_some, if_pos rfl, find?_modifyFirst]
    · unfold snapshotRecord at hrow
      rw [hrow]
      exact ⟨_, rfl, rfl, rfl⟩
    · exact fun row hat => hat
  | none =>
    unfold snapshotRecord at hrow
    rw [Option.isSome_none, if_neg Bool.false_ne_true, List.find?_append, hrow, Option.none_or,
      List.find?_singleton, isAt_reinjectedRow, if_pos rfl]
    exact ⟨_, rfl, reinjectedRow_isUnrolled _ _ _ _, reinjectedRow_isSpent _ _ _ _⟩

/-- A missing row is classified by the report on its outpoint. -/
theorem reconcileMissingSurvival_eq_ok {hostTxid : String} {outcome : ExitingVtxoReconcileOutcome}
    (h : reconcileMissingSurvival codec answers snapshot txid vout hostTxid = .ok outcome) :
    ∃ host, Txid.fromStr txid = some host ∧
      ((reportedSpent answers host vout = true ∧
          (outcome = .clearSpent ∨ outcome = .clearOnChainSpent)) ∨
        (reportedSpent answers host vout = false ∧
          outcome ≠ .clearSpent ∧ outcome ≠ .clearOnChainSpent)) := by
  unfold reconcileMissingSurvival at h
  obtain ⟨host, hparse, hrest⟩ := bind_eq_ok.mp h
  have hhost := parseTxid_eq_ok.mp hparse
  refine ⟨host, hhost, ?_⟩
  unfold reportedSpent
  cases hoperator : operatorVtxo answers { txid := host, vout } with
  | some point =>
    rw [hoperator] at hrest
    cases hrest
    rcases classifyOperatorVtxo_cases point with ⟨hspent, hclear⟩ | ⟨hunspent, hkeep⟩
    · exact Or.inl ⟨hspent, Or.inl hclear⟩
    · exact Or.inr ⟨hunspent, hkeep⟩
  | none =>
    rw [hoperator] at hrest
    obtain ⟨spend, hspend, hrest⟩ := bind_eq_ok.mp hrest
    obtain ⟨other, hother, hlater⟩ := detect_eq_ok.mp hspend
    cases hhost.symm.trans hother
    dsimp only
    rw [spentLater_of_ok hlater]
    cases spend with
    | some spend =>
      cases hrest
      simp
    | none =>
      obtain ⟨visible, -, hrest⟩ := bind_eq_ok.mp hrest
      cases hrest
      cases visible <;> simp

variable {prior : Option OffchainVtxoSnapshot} {result next : ExitingVtxoReconcileResult}

/-- A successful round skips the record or is a `RecordRound` at its outpoint. -/
theorem reconcileExitingVtxoRecord_cases {entry : String × VtxoExitRecord}
    (h : reconcileExitingVtxoRecord codec answers prior result entry = .ok next) :
    (confirmedUnrollOutpoint entry.1 entry.2 = none ∧ next = result) ∨
      ∃ txid vout, confirmedUnrollOutpoint entry.1 entry.2 = some (txid, vout) ∧
        RecordRound answers prior txid vout result.snapshot next.snapshot := by
  unfold reconcileExitingVtxoRecord at h
  cases houtpoint : confirmedUnrollOutpoint entry.1 entry.2 with
  | none =>
    rw [houtpoint] at h
    cases h
    exact Or.inl ⟨rfl, rfl⟩
  | some outpoint =>
    obtain ⟨txid, vout⟩ := outpoint
    refine Or.inr ⟨txid, vout, rfl, ?_⟩
    simp only [houtpoint] at h
    cases hrow : snapshotRecord result.snapshot txid vout with
    | some row =>
      simp only [hrow] at h
      obtain ⟨⟨snapshot, outcome⟩, hpresent, hnext⟩ := bind_eq_ok.mp h
      cases hnext
      unfold reconcilePresentRow at hpresent
      by_cases hlive : (row.isUnrolled && !row.isSpent) = true
      · rw [if_pos hlive] at hpresent
        obtain ⟨spend, hspend, hresult⟩ := bind_eq_ok.mp hpresent
        obtain ⟨host, hhost, hlater⟩ := detect_eq_ok.mp hspend
        have hspent := spentLater_of_ok hlater
        simp only [Bool.and_eq_true, Bool.not_eq_true'] at hlive
        cases hresult
        cases spend with
        | some spend => exact .spentOnChain hrow hlive.1 hlive.2 hhost hspent
        | none =>
          simp only [Option.isSome_none, Bool.false_eq_true, if_false,
            applyReconcileOutcome, hrow, Option.isNone_some]
          exact .live hrow hlive.1 hlive.2 hhost hspent
      · rw [if_neg hlive] at hpresent
        by_cases hspent : row.isSpent = true
        · rw [if_pos hspent] at hpresent
          cases hpresent
          exact .spent hrow hspent
        · rw [if_neg hspent] at hpresent
          rw [Bool.not_eq_true] at hspent
          have hnot : row.isUnrolled = false := by
            simpa [hspent] using hlive
          split_ifs at hpresent with hswept hunrolled
          · cases hpresent
            exact .unrolled entry.2.amountSats hrow hspent hnot
          · cases hpresent
            obtain ⟨revived, hrevived, -⟩ := snapshotRecord_reinjectExitingRecord
              result.snapshot prior txid vout entry.2.amountSats
            change RecordRound answers prior txid vout result.snapshot
              (applyReconcileOutcome { result with
                snapshot := reinjectExitingRecord result.snapshot
                  (reinjectedRow prior txid vout entry.2.amountSats) } _ _ _ _ .ok).snapshot
            simp only [applyReconcileOutcome, hrevived, Option.isNone_some,
              Bool.false_eq_true, if_false]
            exact .unrolled entry.2.amountSats hrow hspent hnot
          · simp [hnot] at hunrolled
    | none =>
      simp only [hrow] at h
      obtain ⟨outcome, houtcome, hnext⟩ := bind_eq_ok.mp h
      cases hnext
      obtain ⟨host, hhost, ⟨hreport, hclear⟩ | ⟨hreport, hkeep⟩⟩ :=
        reconcileMissingSurvival_eq_ok houtcome
      · have hsame : (applyReconcileOutcome result txid vout entry.2.amountSats
            (prior.bind fun prior => snapshotRecord prior txid vout) outcome).snapshot =
            result.snapshot := by
          rcases hclear with rfl | rfl <;>
            exact clearExitingRecord_of_none hrow
        rw [hsame]
        exact .missing hrow hhost hreport
      · have hreinjected : (applyReconcileOutcome result txid vout entry.2.amountSats
            (prior.bind fun prior => snapshotRecord prior txid vout) outcome).snapshot =
            reinjectExitingRecord result.snapshot
              (reinjectedRow prior txid vout entry.2.amountSats) := by
          cases outcome with
          | ok =>
            simp only [applyReconcileOutcome, hrow, Option.isNone_none, if_true]
            rfl
          | clearSpent => exact absurd rfl hkeep.1
          | clearOnChainSpent => exact absurd rfl hkeep.2
          | keepWarnAspMismatch | keepWarnIndexerLag | keepWarnMissingIndex => rfl
        rw [hreinjected]
        exact .reinjected entry.2.amountSats hrow hhost hreport

/-! ## Rows of an outpoint -/

def rowsAt (snapshot : OffchainVtxoSnapshot) (txid : String) (vout : UInt32) :
    List VirtualTxOutPointRecord :=
  snapshot.virtualTxOutpoints.filter fun row => row.isAt txid vout

theorem snapshotRecord_eq_head? (snapshot : OffchainVtxoSnapshot) (txid : String)
    (vout : UInt32) : snapshotRecord snapshot txid vout = (rowsAt snapshot txid vout).head? :=
  (List.head?_filter).symm

theorem mem_rowsAt :
    row ∈ rowsAt snapshot txid vout ↔
      row ∈ snapshot.virtualTxOutpoints ∧ row.isAt txid vout = true :=
  List.mem_filter

theorem snapshotRecord_eq_none_iff_rowsAt :
    snapshotRecord snapshot txid vout = none ↔ rowsAt snapshot txid vout = [] := by
  rw [snapshotRecord_eq_head?, List.head?_eq_none_iff]

theorem rowsAt_clearExitingRecord (snapshot : OffchainVtxoSnapshot) (txid : String)
    (vout : UInt32) :
    rowsAt (clearExitingRecord snapshot txid vout) txid vout =
      match rowsAt snapshot txid vout with
      | [] => []
      | row :: rows => { row with isSpent := true } :: rows := by
  unfold rowsAt clearExitingRecord
  rw [filter_modifyFirst_self]
  · cases snapshot.virtualTxOutpoints.filter fun row => row.isAt txid vout <;> rfl
  · exact fun _ hat => hat

theorem rowsAt_reinjectExitingRecord (snapshot : OffchainVtxoSnapshot)
    (prior : Option OffchainVtxoSnapshot) (txid : String) (vout : UInt32) (amountSats : Nat) :
    rowsAt (reinjectExitingRecord snapshot (reinjectedRow prior txid vout amountSats)) txid vout =
      match rowsAt snapshot txid vout with
      | [] => [reinjectedRow prior txid vout amountSats]
      | row :: rows =>
        reviveRow (reinjectedRow prior txid vout amountSats).amountSats row :: rows := by
  unfold rowsAt
  rw [reinjectExitingRecord_rows, snapshotRecord_eq_head?]
  cases hrows : rowsAt snapshot txid vout with
  | nil =>
    unfold rowsAt at hrows
    rw [List.head?_nil, Option.isSome_none, if_neg Bool.false_ne_true, List.filter_append, hrows,
      List.nil_append, List.filter_singleton, isAt_reinjectedRow]
    rfl
  | cons row rows =>
    unfold rowsAt at hrows
    rw [List.head?_cons, Option.isSome_some, if_pos rfl, filter_modifyFirst_self, hrows]
    exact fun _ hat => hat

/-- Rows of other outpoints are not touched. -/
theorem RecordRound.rowsAt_of_ne {txid txid' : String}
    {vout vout' : UInt32} {before after : OffchainVtxoSnapshot}
    (h : RecordRound answers prior txid vout before after) (hne : (txid, vout) ≠ (txid', vout')) :
    rowsAt after txid' vout' = rowsAt before txid' vout' := by
  have hother : ∀ row : VirtualTxOutPointRecord, row.isAt txid vout = true →
      row.isAt txid' vout' = false := by
    intro row hat
    rw [← Bool.not_eq_true]
    intro hat'
    exact hne ((isAt_iff_outpointKey.mp hat).symm.trans (isAt_iff_outpointKey.mp hat'))
  have hcleared : rowsAt (clearExitingRecord before txid vout) txid' vout' =
      rowsAt before txid' vout' := by
    refine filter_modifyFirst ?_ _
    exact fun row hat => ⟨hother row hat, hother row hat⟩
  have hreinjected : ∀ amountSats, rowsAt (reinjectExitingRecord before
      (reinjectedRow prior txid vout amountSats)) txid' vout' = rowsAt before txid' vout' := by
    intro amountSats
    unfold rowsAt
    rw [reinjectExitingRecord_rows]
    split_ifs
    · refine filter_modifyFirst ?_ _
      exact fun row hat => ⟨hother row hat, hother row hat⟩
    · rw [List.filter_append, List.filter_singleton,
        hother _ (isAt_reinjectedRow prior txid vout amountSats)]
      exact List.append_nil _
  cases h with
  | live | missing => rfl
  | spentOnChain | spent => exact hcleared
  | unrolled amountSats | reinjected amountSats => exact hreinjected amountSats

def SpentAt (snapshot : OffchainVtxoSnapshot) (txid : String) (vout : UInt32) : Prop :=
  rowsAt snapshot txid vout ≠ [] ∧ ∀ row ∈ rowsAt snapshot txid vout, row.isSpent = true

/-- The outpoint has one row, unrolled and not spent. -/
def LiveAt (snapshot : OffchainVtxoSnapshot) (txid : String) (vout : UInt32) : Prop :=
  ∃ row, rowsAt snapshot txid vout = [row] ∧ row.isUnrolled = true ∧ row.isSpent = false

section OwnOutpoint

variable {prior : Option OffchainVtxoSnapshot} {txid : String} {vout : UInt32}
  {before after : OffchainVtxoSnapshot}

theorem SpentAt.recordRound (hspent : SpentAt before txid vout)
    (h : RecordRound answers prior txid vout before after) : SpentAt after txid vout := by
  have hhead : ∀ row, snapshotRecord before txid vout = some row → row.isSpent = true := by
    intro row hrow
    rw [snapshotRecord_eq_head?] at hrow
    exact hspent.2 row (List.mem_of_mem_head? hrow)
  have hpresent : snapshotRecord before txid vout ≠ none :=
    fun hnone => hspent.1 (snapshotRecord_eq_none_iff_rowsAt.mp hnone)
  cases h with
  | live hrow hunrolled hunspent => exact hspent
  | spentOnChain hrow hunrolled hunspent =>
    rw [hhead _ hrow] at hunspent
    cases hunspent
  | spent hrow hrowSpent =>
    unfold SpentAt
    rw [rowsAt_clearExitingRecord]
    cases hrows : rowsAt before txid vout with
    | nil => exact absurd hrows hspent.1
    | cons row rows =>
      refine ⟨List.cons_ne_nil _ _, ?_⟩
      intro other hother
      rcases List.mem_cons.mp hother with rfl | hother
      · rfl
      · exact hspent.2 other (hrows ▸ List.mem_cons_of_mem row hother)
  | unrolled amountSats hrow hunspent =>
    rw [hhead _ hrow] at hunspent
    cases hunspent
  | missing hnone => exact absurd hnone hpresent
  | reinjected amountSats hnone => exact absurd hnone hpresent

theorem LiveAt.recordRound (hlive : LiveAt before txid vout) {host : Txid}
    (hhost : Txid.fromStr txid = some host)
    (h : RecordRound answers prior txid vout before after) :
    if spentLater answers host vout then SpentAt after txid vout else LiveAt after txid vout := by
  obtain ⟨only, honly, hunrolledOnly, hunspentOnly⟩ := hlive
  have hrowOnly : snapshotRecord before txid vout = some only := by
    rw [snapshotRecord_eq_head?, honly]
    rfl
  cases h with
  | live hrow hunrolled hunspent hparsed hspend =>
    cases hhost.symm.trans hparsed
    rw [hspend, if_neg Bool.false_ne_true]
    exact ⟨only, honly, hunrolledOnly, hunspentOnly⟩
  | spentOnChain hrow hunrolled hunspent hparsed hspend =>
    cases hhost.symm.trans hparsed
    rw [hspend, if_pos rfl]
    unfold SpentAt
    rw [rowsAt_clearExitingRecord, honly]
    simp
  | spent hrow hrowSpent =>
    cases hrowOnly.symm.trans hrow
    rw [hunspentOnly] at hrowSpent
    cases hrowSpent
  | unrolled amountSats hrow hunspent hspendable =>
    cases hrowOnly.symm.trans hrow
    rw [hunrolledOnly] at hspendable
    cases hspendable
  | missing hnone => cases hnone.symm.trans hrowOnly
  | reinjected amountSats hnone => cases hnone.symm.trans hrowOnly

theorem recordRound_of_missing (hmissing : rowsAt before txid vout = [])
    (h : RecordRound answers prior txid vout before after) :
    ∃ host, Txid.fromStr txid = some host ∧
      if reportedSpent answers host vout then rowsAt after txid vout = []
      else LiveAt after txid vout := by
  have hnoRow := snapshotRecord_eq_none_iff_rowsAt.mpr hmissing
  cases h with
  | live hrow | spentOnChain hrow | spent hrow => cases hnoRow.symm.trans hrow
  | unrolled amountSats hrow => cases hnoRow.symm.trans hrow
  | @missing host hnone hhost hreport =>
    refine ⟨host, hhost, ?_⟩
    rw [hreport, if_pos rfl]
    exact hmissing
  | @reinjected host amountSats hnone hhost hreport =>
    refine ⟨host, hhost, ?_⟩
    rw [hreport, if_neg Bool.false_ne_true]
    refine ⟨reinjectedRow prior txid vout amountSats, ?_, reinjectedRow_isUnrolled _ _ _ _,
      reinjectedRow_isSpent _ _ _ _⟩
    rw [rowsAt_reinjectExitingRecord, hmissing]

theorem RecordRound.rowsAt_ne_nil (h : RecordRound answers prior txid vout before after)
    (hrows : rowsAt before txid vout ≠ []) : rowsAt after txid vout ≠ [] := by
  obtain ⟨row, rows, hcons⟩ := List.exists_cons_of_ne_nil hrows
  cases h with
  | live | missing => exact hrows
  | spentOnChain | spent =>
    rw [rowsAt_clearExitingRecord, hcons]
    exact List.cons_ne_nil _ _
  | unrolled | reinjected =>
    rw [rowsAt_reinjectExitingRecord, hcons]
    exact List.cons_ne_nil _ _

theorem RecordRound.uniqueOutpoints (h : RecordRound answers prior txid vout before after)
    (hunique : UniqueOutpoints before) : UniqueOutpoints after := by
  have hmodified : ∀ update : VirtualTxOutPointRecord → VirtualTxOutPointRecord,
      (∀ row, (update row).outpointKey = row.outpointKey) →
      ((modifyFirst (·.isAt txid vout) update before.virtualTxOutpoints).map
        VirtualTxOutPointRecord.outpointKey).Nodup := by
    intro update hkey
    rw [map_modifyFirst fun row _ => hkey row]
    exact hunique
  have hreinjected : ∀ amountSats, UniqueOutpoints
      (reinjectExitingRecord before (reinjectedRow prior txid vout amountSats)) := by
    intro amountSats
    unfold UniqueOutpoints
    rw [reinjectExitingRecord_rows]
    split_ifs with hpresent
    · exact hmodified _ fun _ => rfl
    · obtain ⟨htxid, hvout⟩ :=
        VirtualTxOutPointRecord.isAt_iff.mp (isAt_reinjectedRow prior txid vout amountSats)
      apply uniqueOutpoints_append hunique
      rw [htxid, hvout]
      simpa using hpresent
  cases h with
  | live | missing => exact hunique
  | spentOnChain | spent => exact hmodified _ fun _ => rfl
  | unrolled amountSats | reinjected amountSats => exact hreinjected amountSats

end OwnOutpoint

theorem reconcileExitingVtxoRecord_at {entry : String × VtxoExitRecord}
    (h : reconcileExitingVtxoRecord codec answers prior result entry = .ok next)
    (txid : String) (vout : UInt32) :
    (confirmedUnrollOutpoint entry.1 entry.2 = some (txid, vout) ∧
        RecordRound answers prior txid vout result.snapshot next.snapshot) ∨
      (confirmedUnrollOutpoint entry.1 entry.2 ≠ some (txid, vout) ∧
        rowsAt next.snapshot txid vout = rowsAt result.snapshot txid vout) := by
  rcases reconcileExitingVtxoRecord_cases h with ⟨hskipped, rfl⟩ | ⟨txid', vout', hhere, hround⟩
  · refine Or.inr ⟨?_, rfl⟩
    rw [hskipped]
    exact (Option.some_ne_none _).symm
  · by_cases hown : (txid', vout') = (txid, vout)
    · cases hown
      exact Or.inl ⟨hhere, hround⟩
    · refine Or.inr ⟨?_, hround.rowsAt_of_ne hown⟩
      rw [hhere]
      exact fun heq => hown (Option.some.inj heq)

end RecordRound

section Pipeline

variable {codec : Codec} {answers : SyncAnswers} {observations : HostTxObservations}
  {pending : List PendingExitDeductionRecord} {records : VtxoExitRecords}
  {reread : List OutPoint → VtxoExitRecords} {incoming : OffchainVtxoSnapshot}
  {prior : Option OffchainVtxoSnapshot} {result : FinalizedSync}

/-- A finalized sync is the record loop over the rows that the flag passes left. -/
theorem finalizePasses_eq_ok :
    finalizePasses codec answers observations pending records reread incoming prior = .ok result ↔
      ∃ esplora reconciled,
        reconcileExitingVtxosSpentOnEsplora codec answers
          (flaggedSnapshot observations pending records incoming prior) records = .ok esplora ∧
        reconcileExitingVtxoRecords codec answers
          (clearIndexerUnrolledWithoutLocalFinality esplora.snapshot
            (confirmedUnrollStickyHostTxids observations records ++
              esplora.chainVisibleUnrolledHosts)) prior (reread esplora.spentOutpoints) =
          .ok reconciled ∧
        result = {
          snapshot := reconciled.snapshot
          warnings := reconciled.warnings
          spentOutpoints := esplora.spentOutpoints } := by
  unfold finalizePasses
  simp only [bind_eq_ok]
  constructor
  · rintro ⟨esplora, hesplora, reconciled, hreconciled, hresult⟩
    cases hresult
    exact ⟨esplora, reconciled, hesplora, hreconciled, rfl⟩
  · rintro ⟨esplora, reconciled, hesplora, hreconciled, rfl⟩
    exact ⟨esplora, hesplora, reconciled, hreconciled, rfl⟩

theorem cleared_eq_mapRows {esplora : EsploraPass} {hosts : List String}
    (h : reconcileExitingVtxosSpentOnEsplora codec answers
      (flaggedSnapshot observations pending records incoming prior) records = .ok esplora) :
    ∃ update, KeepsOutpoint update ∧
      clearIndexerUnrolledWithoutLocalFinality esplora.snapshot hosts =
        (restoredSnapshot incoming prior pending).mapRows update ∧
      ∀ row, (prior.any fun prior => snapshotRecordAlreadySpent prior row.txid row.vout) = true →
        (update row).isSpent = true := by
  obtain ⟨flag, hflag, hflagged, hsticky⟩ :=
    flaggedSnapshot_eq_mapRows observations pending records incoming prior
  obtain ⟨mark, hmark, hmarked, -⟩ := (esploraSaw h).rows
  have hclear := keepsOutpoint_clearIndexerUnrolled hosts
  refine ⟨_, hclear.comp (hmark.comp hflag), ?_, ?_⟩
  · rw [clearIndexerUnrolledWithoutLocalFinality, hmarked, hflagged,
      mapRows_mapRows, mapRows_mapRows]
    rfl
  · intro row hspent
    exact hclear.spent _ (hmark.spent _ (hsticky row hspent))

end Pipeline

end Bitboard.Arkade
