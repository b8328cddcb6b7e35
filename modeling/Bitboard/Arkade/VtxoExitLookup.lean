/-
# Exit-record operations, one key at a time

For every operation of `VtxoExit` the record it leaves at an arbitrary key, in terms
of the record that was there. Proofs about runs cite these equations and never
unfold an operation's loop.
-/

import Bitboard.Arkade.VtxoExit

namespace Bitboard.Arkade

open Bitboard.Lib

@[simp]
theorem taggedRecord_hostTxid (existing : Option VtxoExitRecord) (hostTxid : String)
    (amountSats : Nat) (now : Int) :
    (taggedRecord existing hostTxid amountSats now).hostTxid = hostTxid := by
  cases existing <;> rfl

@[simp]
theorem taggedRecord_some_phase (existing : VtxoExitRecord) (hostTxid : String)
    (amountSats : Nat) (now : Int) :
    (taggedRecord (some existing) hostTxid amountSats now).phase = existing.phase := rfl

theorem PlanTarget.key_inj {left right : PlanTarget} :
    left.key = right.key ↔ (left.txid, left.vout) = (right.txid, right.vout) := by
  simp [PlanTarget.key]

theorem getElem?_foldl_tagUnseenTarget (now : Int) (targets : List PlanTarget)
    (seen : Finset (String × UInt32)) (records : VtxoExitRecords) (key : String) :
    (targets.foldl (tagUnseenTarget now) (seen, records)).2[key]? =
      match targets.find? fun target =>
        decide (target.key = key ∧ (target.txid, target.vout) ∉ seen) with
      | some target => some (taggedRecord records[key]? target.txid target.amountSats now)
      | none => records[key]? := by
  induction targets generalizing seen records with
  | nil => rfl
  | cons target targets ih =>
    rw [List.foldl_cons]
    by_cases hseen : (target.txid, target.vout) ∈ seen
    · simp only [tagUnseenTarget, hseen, if_true, ih, List.find?_cons, not_true, and_false,
        decide_false]
    · simp only [tagUnseenTarget, hseen, if_false, ih, List.find?_cons, not_false_eq_true, and_true]
      by_cases hkey : target.key = key
      · -- The target writes this key, and no later target may: it is seen by now.
        have hrest : (targets.find? fun other => decide (other.key = key ∧
            (other.txid, other.vout) ∉ insert (target.txid, target.vout) seen)) = none := by
          rw [List.find?_eq_none]
          intro other _ hother
          rw [decide_eq_true_eq] at hother
          refine hother.2 (Finset.mem_insert.mpr (Or.inl ?_))
          exact PlanTarget.key_inj.mp (hother.1.trans hkey.symm)
        have hkey' : vtxoExitRecordKey target.txid target.vout = key := hkey
        rw [hrest]
        simp [hkey, upsertTaggedRecord, hkey']
      · have hrest : (targets.find? fun other => decide (other.key = key ∧
            (other.txid, other.vout) ∉ insert (target.txid, target.vout) seen)) =
            targets.find? fun other =>
              decide (other.key = key ∧ (other.txid, other.vout) ∉ seen) := by
          congr 1
          funext other
          refine decide_eq_decide.mpr (and_congr_right fun hother => ?_)
          have hne : (other.txid, other.vout) ≠ (target.txid, target.vout) := fun heq =>
            hkey ((PlanTarget.key_inj.mpr heq.symm).trans hother)
          simp [Finset.mem_insert, hne]
        have hkey' : vtxoExitRecordKey target.txid target.vout ≠ key := hkey
        rw [hrest]
        simp [hkey, upsertTaggedRecord, hkey']

variable (records : VtxoExitRecords)

section Plans

variable {codec : Codec} {snapshot : OffchainVtxoSnapshot}
  {selectedLeaves : List VirtualOutPoint}

theorem getElem?_tagUnilateralExitPlanInRecords {targets : List PlanTarget}
    (htargets : taggedTargets codec snapshot selectedLeaves = .ok targets)
    (records : VtxoExitRecords) (now : Int) (key : String) :
    (tagUnilateralExitPlanInRecords codec snapshot selectedLeaves records now).2[key]? =
      match targets.find? fun target => decide (target.key = key) with
      | some target => some (taggedRecord records[key]? target.txid target.amountSats now)
      | none => records[key]? := by
  simp [tagUnilateralExitPlanInRecords, htargets, getElem?_foldl_tagUnseenTarget]

theorem tagUnilateralExitPlanInRecords_of_error {error : ArkWasmError}
    (htargets : taggedTargets codec snapshot selectedLeaves = .error error)
    (records : VtxoExitRecords) (now : Int) :
    tagUnilateralExitPlanInRecords codec snapshot selectedLeaves records now =
      (.error error, records) := by
  simp [tagUnilateralExitPlanInRecords, htargets]

theorem tagUnilateralExitPlanInRecords_fst (now : Int) :
    (tagUnilateralExitPlanInRecords codec snapshot selectedLeaves records now).1 =
      (taggedTargets codec snapshot selectedLeaves).map fun _ => () := by
  unfold tagUnilateralExitPlanInRecords
  cases taggedTargets codec snapshot selectedLeaves <;> rfl

theorem planRelevantOutpointKeys_of_ok {targets : List PlanTarget}
    (htargets : taggedTargets codec snapshot selectedLeaves = .ok targets) :
    ∃ relevant, planRelevantOutpointKeys codec snapshot selectedLeaves = .ok relevant ∧
      ∀ key, key ∈ relevant ↔ ∃ target ∈ targets, target.key = key := by
  refine ⟨_, by simp [planRelevantOutpointKeys, tagUnilateralExitPlanInRecords, htargets]; rfl,
    fun key => ?_⟩
  have hlookup := getElem?_tagUnilateralExitPlanInRecords htargets ∅ 0 key
  simp only [tagUnilateralExitPlanInRecords, htargets] at hlookup
  rw [List.mem_toFinset, Std.ExtTreeMap.mem_keys, Std.ExtTreeMap.mem_iff_isSome_getElem?, hlookup]
  cases hfind : targets.find? fun target => decide (target.key = key) with
  | none =>
    rw [List.find?_eq_none] at hfind
    simpa using hfind
  | some target =>
    have hkey := List.find?_some hfind
    simp only [Option.isSome_some, true_iff]
    exact ⟨target, List.mem_of_find?_eq_some hfind, by simpa using hkey⟩

/-- The record survives an untag of a plan with the given keys. -/
def survivesUntag (relevant : Finset String) (observations : HostTxObservations)
    (key : String) (record : VtxoExitRecord) : Bool :=
  if key ∉ relevant then true
  else if record.phase ≠ .tagged then true
  else observations.contains record.hostTxid

theorem survivesUntag_eq_false {relevant : Finset String} {observations : HostTxObservations}
    {key : String} {record : VtxoExitRecord} :
    survivesUntag relevant observations key record = false ↔
      key ∈ relevant ∧ record.phase = .tagged ∧ observations[record.hostTxid]? = none := by
  rw [← BTreeMap.contains_eq_false_iff]
  by_cases hkey : key ∈ relevant <;> by_cases hphase : record.phase = .tagged <;>
    simp [survivesUntag, hkey, hphase]

theorem getElem?_untagUnilateralExitPlanIfSafeInRecords {relevant : Finset String}
    (hleaves : selectedLeaves ≠ [])
    (hrelevant : planRelevantOutpointKeys codec snapshot selectedLeaves = .ok relevant)
    (records : VtxoExitRecords) (observations : HostTxObservations) (key : String) :
    (untagUnilateralExitPlanIfSafeInRecords codec snapshot selectedLeaves records
      observations).2[key]? = records[key]?.filter (survivesUntag relevant observations key) := by
  have hempty : selectedLeaves.isEmpty = false := by simpa using hleaves
  simp only [untagUnilateralExitPlanIfSafeInRecords, hempty, hrelevant, Bool.false_eq_true,
    if_false, BTreeMap.getElem?_filter_eq]
  rfl

theorem taggedTargets_singleton {leaf : VirtualOutPoint}
    {materials : UnilateralExitMaterialsRecord} {chains : VtxoChains}
    (hmaterials : materialsForUnrollHostTx codec snapshot leaf.txid.text = some materials)
    (hchains : vtxoChainsFromJson codec materials.chainJson = .ok chains) :
    taggedTargets codec snapshot [leaf] = .ok (planTargets snapshot [leaf] [chains]) := by
  have hrequired : requireUnilateralExitMaterialsForHostTx codec snapshot leaf.txid.text =
      .ok materials := by
    simp only [requireUnilateralExitMaterialsForHostTx, hmaterials]
  have hread : vtxoChainsFromSnapshotMaterials codec snapshot leaf.txid.text = .ok chains := by
    simp only [vtxoChainsFromSnapshotMaterials, hrequired, bind, Except.bind, hchains]
  simp only [taggedTargets, planChainSets, List.isEmpty_cons, Bool.false_eq_true, if_false,
    List.mapM_cons, List.mapM_nil, hrequired, hread]
  rfl

theorem exists_target_of_mem_selectedLeaves {chainSets : List VtxoChains}
    {leaf : VirtualOutPoint} (h : leaf ∈ selectedLeaves) :
    ∃ target ∈ planTargets snapshot selectedLeaves chainSets,
      target.key = vtxoExitRecordKey leaf.txid.text leaf.vout :=
  ⟨_, List.mem_append_left _ (List.mem_map.mpr ⟨leaf, h, rfl⟩), rfl⟩

end Plans

/-- An untag keeps the record of a key or drops it for being in the plan, still `tagged` and
on a host without observation. -/
theorem untagUnilateralExitPlanIfSafeInRecords_cases (codec : Codec)
    (snapshot : OffchainVtxoSnapshot) (selectedLeaves : List VirtualOutPoint)
    (records : VtxoExitRecords) (observations : HostTxObservations)
    (key : String) :
    (untagUnilateralExitPlanIfSafeInRecords codec snapshot selectedLeaves records
        observations).2[key]? = records[key]? ∨
      ∃ record, records[key]? = some record ∧
        (untagUnilateralExitPlanIfSafeInRecords codec snapshot selectedLeaves records
          observations).2[key]? = none ∧
        record.phase = .tagged ∧ observations[record.hostTxid]? = none := by
  by_cases hleaves : selectedLeaves = []
  · subst hleaves
    exact Or.inl (by simp [untagUnilateralExitPlanIfSafeInRecords])
  cases hrelevant : planRelevantOutpointKeys codec snapshot selectedLeaves with
  | error error =>
    refine Or.inl ?_
    simp [untagUnilateralExitPlanIfSafeInRecords, hleaves, hrelevant]
  | ok relevant =>
    rw [getElem?_untagUnilateralExitPlanIfSafeInRecords hleaves hrelevant]
    cases hrecord : records[key]? with
    | none => exact Or.inl rfl
    | some record =>
      cases hsurvives : survivesUntag relevant observations key record with
      | true => exact Or.inl (by simp [hsurvives])
      | false =>
        obtain ⟨-, htagged, hobs⟩ := survivesUntag_eq_false.mp hsurvives
        exact Or.inr ⟨record, rfl, by simp [hsurvives], htagged, hobs⟩

@[simp]
theorem getElem?_advanceRecordsForHostRegistered (hostTxid key : String) :
    (advanceRecordsForHostRegistered records hostTxid)[key]? =
      records[key]?.map (advanceRecordForHostRegistered hostTxid) :=
  Std.ExtTreeMap.getElem?_map

@[simp]
theorem getElem?_rewindRecordsOnHost (hostTxid : String) (phase : VtxoExitPhase) (key : String) :
    (rewindRecordsOnHost records hostTxid phase)[key]? =
      records[key]?.map (rewindRecordOnHost hostTxid phase) :=
  Std.ExtTreeMap.getElem?_map

@[simp]
theorem getElem?_applyHostObservationToVtxoExitRecords (hostTxid : String) (relayed : Bool)
    (confirmations : Nat) (unrolled : Bool) (key : String) :
    (applyHostObservationToVtxoExitRecords records hostTxid relayed confirmations
      unrolled)[key]? =
      records[key]?.map (applyHostObservation hostTxid relayed confirmations unrolled) :=
  Std.ExtTreeMap.getElem?_map

@[simp]
theorem getElem?_noteSpentPipelineRecordsExited (snapshotRecords : List VirtualTxOutPointRecord)
    (key : String) :
    (noteSpentPipelineRecordsExited records snapshotRecords)[key]? =
      records[key]?.map (noteSpentRecord snapshotRecords key) :=
  Std.ExtTreeMap.getElem?_map

@[simp]
theorem getElem?_stampPreUnrollRecordsFundingLost (keys : Finset String) (key : String) :
    (stampPreUnrollRecordsFundingLost records keys)[key]? =
      records[key]?.map (fundingLostRecord keys key) :=
  Std.ExtTreeMap.getElem?_map

theorem stampPreUnrollRecordsFundingLostForAspSwept_eq (codec : Codec)
    (snapshot : OffchainVtxoSnapshot) (records : VtxoExitRecords) (autonomousMode : Bool)
    (virtualTxIsMarkedUnrolled : String → Bool) :
    ∃ keys : Finset String,
      (stampPreUnrollRecordsFundingLostForAspSwept codec snapshot records autonomousMode
        virtualTxIsMarkedUnrolled).2 = records ∨
      (stampPreUnrollRecordsFundingLostForAspSwept codec snapshot records autonomousMode
        virtualTxIsMarkedUnrolled).2 = stampPreUnrollRecordsFundingLost records keys := by
  unfold stampPreUnrollRecordsFundingLostForAspSwept
  split
  · exact ⟨∅, Or.inl rfl⟩
  · dsimp only
    split
    · exact ⟨∅, Or.inl rfl⟩
    · split
      · exact ⟨∅, Or.inl rfl⟩
      · exact ⟨_, Or.inr rfl⟩

theorem mem_unilateralExitSpendLockedOutpoints {records : VtxoExitRecords}
    {record : VtxoExitRecord} {outpoint : OutPoint}
    (hrecord : records[vtxoExitRecordKey outpoint.txid.text outpoint.vout]? = some record)
    (hlocks : record.phase.locksCollaborativeSpend = true) :
    outpoint ∈ unilateralExitSpendLockedOutpoints records := by
  unfold unilateralExitSpendLockedOutpoints recordOutpointKeysWhere
  rw [List.mem_toFinset, List.mem_filterMap]
  refine ⟨(vtxoExitRecordKey outpoint.txid.text outpoint.vout, record), ?_, ?_⟩
  · exact List.mem_filter.mpr ⟨BTreeMap.mem_toList_iff.mpr hrecord, hlocks⟩
  · simp [exitOutpointKeyFromStr]

theorem getElem?_markRecordsExitedForOutpoints (outpoints : List OutPoint) (key : String) :
    (markRecordsExitedForOutpoints records outpoints)[key]? =
      if ∃ outpoint ∈ outpoints, vtxoExitRecordKey outpoint.txid.text outpoint.vout = key then
        records[key]?.map fun record => { record with phase := .exited }
      else records[key]? := by
  unfold markRecordsExitedForOutpoints
  induction outpoints generalizing records with
  | nil => simp
  | cons outpoint outpoints ih =>
    rw [List.foldl_cons, ih]
    simp only [BTreeMap.getElem?_modify_eq_ite, List.mem_cons, exists_eq_or_imp]
    by_cases hhere : vtxoExitRecordKey outpoint.txid.text outpoint.vout = key <;>
      by_cases hrest : ∃ outpoint ∈ outpoints,
        vtxoExitRecordKey outpoint.txid.text outpoint.vout = key <;>
      simp [hhere, hrest, Function.comp_def]

@[simp]
theorem getElem?_stampCompleteReady (stamped key : String) :
    (stampCompleteReady records stamped)[key]? =
      if stamped = key then records[key]?.map markRecordCompleteReady else records[key]? :=
  BTreeMap.getElem?_modify_eq_ite records stamped key markRecordCompleteReady

/-- The key is the printed outpoint of a record on its own host. -/
def OwnsKey (key : String) (record : VtxoExitRecord) : Prop :=
  ∃ vout, key = vtxoExitRecordKey record.hostTxid vout

/-- `after` extends `before` by records that own their keys and are `tagged` or `unrolled`. -/
def InsertsOnly (before after : VtxoExitRecords) : Prop :=
  ∀ key, after[key]? = before[key]? ∨
    (before[key]? = none ∧ ∃ record, after[key]? = some record ∧ OwnsKey key record ∧
      (record.phase = .tagged ∨ record.phase = .unrolled))

theorem InsertsOnly.refl : InsertsOnly records records :=
  fun _ => Or.inl rfl

theorem InsertsOnly.trans {first second third : VtxoExitRecords}
    (hfirst : InsertsOnly first second) (hsecond : InsertsOnly second third) :
    InsertsOnly first third := by
  intro key
  rcases hsecond key with hsame | ⟨hnone, hinserted⟩
  · rw [hsame]
    exact hfirst key
  · rcases hfirst key with hsame | ⟨-, record, hrecord, -⟩
    · exact Or.inr ⟨hsame ▸ hnone, hinserted⟩
    · rw [hrecord] at hnone
      cases hnone

theorem insertsOnly_insertIfAbsent (txid : String) (vout : UInt32) (amountSats : Nat)
    {phase : VtxoExitPhase} (now : Int) (hphase : phase = .tagged ∨ phase = .unrolled) :
    InsertsOnly records (insertIfAbsent records txid vout amountSats phase now) := by
  intro key
  unfold insertIfAbsent
  rw [Std.ExtTreeMap.getElem?_insertIfNew]
  by_cases h : compare (vtxoExitRecordKey txid vout) key = .eq ∧
      vtxoExitRecordKey txid vout ∉ records
  · rw [if_pos h]
    have hkey : vtxoExitRecordKey txid vout = key := Std.LawfulEqOrd.eq_of_compare h.1
    subst hkey
    exact Or.inr ⟨Std.ExtTreeMap.getElem?_eq_none h.2, _, rfl, ⟨vout, rfl⟩, hphase⟩
  · rw [if_neg h]
    exact Or.inl rfl

theorem insertsOnly_foldl {α : Type} {step : VtxoExitRecords → α → VtxoExitRecords}
    (hstep : ∀ records input, InsertsOnly records (step records input)) (inputs : List α)
    (records : VtxoExitRecords) : InsertsOnly records (inputs.foldl step records) := by
  induction inputs generalizing records with
  | nil => exact InsertsOnly.refl records
  | cons input inputs ih => exact (hstep records input).trans (ih (step records input))

/-- Healing only inserts. -/
theorem insertsOnly_healVtxoExitRecordsFromLegacy (snapshot : Option OffchainVtxoSnapshot)
    (pending : List PendingExitDeductionRecord) (records : VtxoExitRecords) (now : Int) :
    InsertsOnly records (healVtxoExitRecordsFromLegacy snapshot pending records now) := by
  have hrow : ∀ records row, InsertsOnly records (healRow now records row) := by
    intro records row
    unfold healRow
    split
    · exact insertsOnly_insertIfAbsent _ _ _ _ _ (Or.inr rfl)
    · exact InsertsOnly.refl records
  have hpending : ∀ records pending,
      InsertsOnly records (healPending snapshot now records pending) := by
    intro records pending
    unfold healPending
    split
    · exact InsertsOnly.refl records
    · split
      · exact InsertsOnly.refl records
      · dsimp only
        split
        · exact InsertsOnly.refl records
        · exact insertsOnly_insertIfAbsent _ _ _ _ _ (Or.inl rfl)
  have hrows : InsertsOnly records (healRows snapshot records now) := by
    cases snapshot with
    | none => exact InsertsOnly.refl records
    | some snapshot => exact insertsOnly_foldl hrow _ records
  exact hrows.trans (insertsOnly_foldl hpending _ _)

end Bitboard.Arkade
