/-
# Tagging, aborting and registering a plan

Plans share tree transactions, so the records of one plan can sit on hosts that
another plan registered. This module shows that an abort never unlocks such a record:
as long as a host is observed, the records on it stay in the map, and stay in the
spend lock until they are finished. It also shows that tagging is idempotent and all
or nothing, and that an abort right after a tag undoes it.
-/

import Bitboard.Arkade.ExitRecordRuns

namespace Bitboard.Arkade

open Bitboard.Lib

section Map

variable {codec : Codec} {snapshot : OffchainVtxoSnapshot}
  {selectedLeaves : List VirtualOutPoint}

theorem tagUnilateralExitPlanInRecords_keeps_phase (codec : Codec)
    (snapshot : OffchainVtxoSnapshot) (selectedLeaves : List VirtualOutPoint)
    (records : VtxoExitRecords) (now : Int) {key : String} {record : VtxoExitRecord}
    (hrecord : records[key]? = some record) :
    ∃ after,
      (tagUnilateralExitPlanInRecords codec snapshot selectedLeaves records now).2[key]? =
        some after ∧ after.phase = record.phase := by
  cases htargets : taggedTargets codec snapshot selectedLeaves with
  | error error =>
    exact ⟨record, by rw [tagUnilateralExitPlanInRecords_of_error htargets]; exact hrecord, rfl⟩
  | ok targets =>
    rw [getElem?_tagUnilateralExitPlanInRecords htargets, hrecord]
    cases targets.find? fun target => decide (target.key = key) with
    | none => exact ⟨record, rfl, rfl⟩
    | some target => exact ⟨_, rfl, rfl⟩

theorem tagUnilateralExitPlanInRecords_error_unchanged {records : VtxoExitRecords} {now : Int}
    {error : ArkWasmError}
    (h : (tagUnilateralExitPlanInRecords codec snapshot selectedLeaves records now).1 =
      .error error) :
    (tagUnilateralExitPlanInRecords codec snapshot selectedLeaves records now).2 = records := by
  cases htargets : taggedTargets codec snapshot selectedLeaves with
  | error error => rw [tagUnilateralExitPlanInRecords_of_error htargets]
  | ok targets =>
    rw [tagUnilateralExitPlanInRecords_fst, htargets] at h
    cases h

theorem tagUnilateralExitPlanInRecords_idem (records : VtxoExitRecords) (now later : Int) :
    tagUnilateralExitPlanInRecords codec snapshot selectedLeaves
        (tagUnilateralExitPlanInRecords codec snapshot selectedLeaves records now).2 later =
      tagUnilateralExitPlanInRecords codec snapshot selectedLeaves records now := by
  refine Prod.ext (by rw [tagUnilateralExitPlanInRecords_fst,
    tagUnilateralExitPlanInRecords_fst]) ?_
  cases htargets : taggedTargets codec snapshot selectedLeaves with
  | error error => simp only [tagUnilateralExitPlanInRecords_of_error htargets]
  | ok targets =>
    apply Std.ExtTreeMap.ext_getElem?
    intro key
    simp only [getElem?_tagUnilateralExitPlanInRecords htargets]
    cases targets.find? fun target => decide (target.key = key) with
    | none => rfl
    | some target => cases records[key]? <;> rfl

/-- With no record of the plan before and no host of it observed, an abort undoes a tag. -/
theorem untag_tag_restores {targets : List PlanTarget}
    (htargets : taggedTargets codec snapshot selectedLeaves = .ok targets)
    {records : VtxoExitRecords} {observations : HostTxObservations}
    (hfresh : ∀ target ∈ targets, records[target.key]? = none)
    (hunobserved : ∀ target ∈ targets, observations[target.txid]? = none) (now : Int) :
    (untagUnilateralExitPlanIfSafeInRecords codec snapshot selectedLeaves
      (tagUnilateralExitPlanInRecords codec snapshot selectedLeaves records now).2
      observations).2 = records := by
  have hleaves : selectedLeaves ≠ [] := by
    rintro rfl
    simp [taggedTargets] at htargets
  obtain ⟨relevant, hrelevant, hmem⟩ := planRelevantOutpointKeys_of_ok htargets
  apply Std.ExtTreeMap.ext_getElem?
  intro key
  rw [getElem?_untagUnilateralExitPlanIfSafeInRecords hleaves hrelevant,
    getElem?_tagUnilateralExitPlanInRecords htargets]
  cases hfind : targets.find? fun target => decide (target.key = key) with
  | none =>
    -- Not a key of the plan: neither operation looks at it.
    have hnot : key ∉ relevant := by
      rw [hmem]
      rintro ⟨target, htarget, hkey⟩
      exact absurd hkey (by simpa using List.find?_eq_none.mp hfind target htarget)
    cases records[key]? with
    | none => rfl
    | some record => simp [survivesUntag, hnot]
  | some target =>
    have hkey : target.key = key := by simpa using List.find?_some hfind
    have htarget := List.mem_of_find?_eq_some hfind
    have hbefore : records[key]? = none := hkey ▸ hfresh target htarget
    have hdropped : survivesUntag relevant observations key
        (taggedRecord none target.txid target.amountSats now) = false :=
      survivesUntag_eq_false.mpr ⟨(hmem key).mpr ⟨target, htarget, hkey⟩, rfl,
        hunobserved target htarget⟩
    rw [hbefore]
    simp [hdropped]

end Map

def ExitOp.isPlanOp : ExitOp → Bool
  | .tag .. | .untag .. | .registerHost .. | .advance .. => true
  | _ => false

/-- The record at `key` is on `hostTxid` and its phase satisfies `holds`. -/
def OnHost (db : WalletDb) (key hostTxid : String) (holds : VtxoExitPhase → Prop) : Prop :=
  ∃ record, db.vtxoExitRecords[key]? = some record ∧ record.hostTxid = hostTxid ∧
    holds record.phase

variable {db : WalletDb}

theorem exitStep_onHost (codec : Codec) (hown : OwnsKeys db.vtxoExitRecords)
    (op : ExitOp) {key : String} {record : VtxoExitRecord}
    (hrecord : db.vtxoExitRecords[key]? = some record)
    (hobs : db.hostTxObservations[record.hostTxid]? ≠ none) :
    OnHost (exitStep codec db op) key record.hostTxid fun _ => True := by
  have howned := exitStep_ownsKeys codec db op hown
  have hchange := exitStep_recordChange codec db op key
  rw [hrecord] at hchange
  generalize hafter : (exitStep codec db op).vtxoExitRecords[key]? = after at hchange
  cases hchange with
  | same => exact ⟨record, hafter, rfl, trivial⟩
  | removed htagged hnone => exact absurd hnone hobs
  | @updated _ after hphase hhost =>
    -- Both records own the key, so they name the same host.
    obtain ⟨vout, hkey⟩ := hown key record hrecord
    obtain ⟨vout', hkey'⟩ := howned key after hafter
    exact ⟨after, hafter, (vtxoExitRecordKey_inj.mp (hkey.symm.trans hkey')).1.symm, trivial⟩

theorem exitStep_isPlanOp_observed (codec : Codec) {op : ExitOp}
    (hplan : op.isPlanOp = true) {hostTxid : String}
    (hobs : db.hostTxObservations[hostTxid]? ≠ none) :
    (exitStep codec db op).hostTxObservations[hostTxid]? ≠ none := by
  cases op with
  | tag selectedLeaves now =>
    rw [exitStep_tag]
    split <;> exact hobs
  | untag selectedLeaves =>
    rw [exitStep_untag]
    split <;> exact hobs
  | registerHost registered now =>
    simp only [exitStep, registerHostTxObservation, insertHostTxObservation,
      BTreeMap.getElem?_insert_eq_ite]
    split
    · simp
    · exact hobs
  | advance advanced => exact hobs
  | _ => cases hplan

/-- The four plan operations never finish a record. -/
theorem exitStep_isPlanOp_locks (codec : Codec) {op : ExitOp}
    (hplan : op.isPlanOp = true) {key : String} {before after : VtxoExitRecord}
    (hbefore : db.vtxoExitRecords[key]? = some before)
    (hafter : (exitStep codec db op).vtxoExitRecords[key]? = some after)
    (hlocks : before.phase.locksCollaborativeSpend = true) :
    after.phase.locksCollaborativeSpend = true := by
  cases op with
  | tag selectedLeaves now =>
    rw [exitStep_tag] at hafter
    split at hafter
    · cases hbefore.symm.trans hafter
      exact hlocks
    · obtain ⟨tagged, htagged, hphase⟩ := tagUnilateralExitPlanInRecords_keeps_phase codec _
        selectedLeaves db.vtxoExitRecords now hbefore
      cases htagged.symm.trans hafter
      exact hphase ▸ hlocks
  | untag selectedLeaves =>
    rw [exitStep_untag] at hafter
    split at hafter
    · cases hbefore.symm.trans hafter
      exact hlocks
    · rcases untagUnilateralExitPlanIfSafeInRecords_cases codec _ selectedLeaves
        db.vtxoExitRecords db.hostTxObservations key with hsame | ⟨_, -, hnone, -⟩
      · cases (hbefore.symm.trans hsame.symm).trans hafter
        exact hlocks
      · cases hnone.symm.trans hafter
  | registerHost registered now =>
    cases hbefore.symm.trans hafter
    exact hlocks
  | advance advanced =>
    simp only [exitStep, advanceRegisteredHost, getElem?_advanceRecordsForHostRegistered,
      hbefore, Option.map_some, Option.some.injEq] at hafter
    subst hafter
    unfold advanceRecordForHostRegistered
    split
    · rfl
    · exact hlocks
  | _ => cases hplan

theorem locksCollaborativeSpend_or_exited (phase : VtxoExitPhase) :
    phase.locksCollaborativeSpend = true ∨ phase = .exited := by
  cases phase <;> first | exact Or.inl rfl | exact Or.inr rfl

variable {key hostTxid : String}

theorem exitRun_onHost (codec : Codec) (hown : OwnsKeys db.vtxoExitRecords)
    (h : OnHost db key hostTxid fun _ => True) {ops : List ExitOp}
    (hobserved : RunMeets (exitStep codec)
      (fun db _ => db.hostTxObservations[hostTxid]? ≠ none) db ops) :
    OnHost (exitRun codec db ops) key hostTxid fun _ => True := by
  refine (run_invariant_of_runMeets
    (fun db => OwnsKeys db.vtxoExitRecords ∧ OnHost db key hostTxid fun _ => True)
    ?_ ⟨hown, h⟩ hobserved).2
  rintro db op hobs ⟨hown, record, hrecord, rfl, -⟩
  exact ⟨exitStep_ownsKeys codec db op hown, exitStep_onHost codec hown op hrecord hobs⟩

theorem exitRun_isPlanOp_onHost (codec : Codec) (hown : OwnsKeys db.vtxoExitRecords)
    (hobs : db.hostTxObservations[hostTxid]? ≠ none)
    (h : OnHost db key hostTxid (·.locksCollaborativeSpend = true)) {ops : List ExitOp}
    (hplan : ∀ op ∈ ops, op.isPlanOp = true) :
    OnHost (exitRun codec db ops) key hostTxid (·.locksCollaborativeSpend = true) := by
  induction ops generalizing db with
  | nil => exact h
  | cons op ops ih =>
    obtain ⟨record, hrecord, rfl, hlocks⟩ := h
    have hop := hplan op List.mem_cons_self
    obtain ⟨after, hafter, hhost, -⟩ := exitStep_onHost codec hown op hrecord hobs
    exact ih (exitStep_ownsKeys codec db op hown)
      (exitStep_isPlanOp_observed codec hop hobs)
      ⟨after, hafter, hhost, exitStep_isPlanOp_locks codec hop hrecord hafter hlocks⟩
      fun later hlater => hplan later (List.mem_cons_of_mem op hlater)

/-- The record at `key` is on the host, and its outpoint is in the spend lock. -/
structure SpendLocked (db : WalletDb) (key hostTxid : String) : Prop where
  onHost : OnHost db key hostTxid (·.locksCollaborativeSpend = true)
  excluded : ∀ outpoint : OutPoint, key = vtxoExitRecordKey outpoint.txid.text outpoint.vout →
    outpoint ∈ unilateralExitSpendLockedOutpoints db.vtxoExitRecords

theorem OnHost.spendLocked (h : OnHost db key hostTxid (·.locksCollaborativeSpend = true)) :
    SpendLocked db key hostTxid := by
  refine ⟨h, ?_⟩
  rintro outpoint rfl
  obtain ⟨record, hrecord, -, hlocks⟩ := h
  exact mem_unilateralExitSpendLockedOutpoints hrecord hlocks

/-- The contract of tag and abort. An abort keeps every record that is past `tagged` or whose
host is observed. Hence, from any state a wallet can reach, a record on an observed host stays
spend-locked through every run of plan operations, and through every run of any operations
until it is finished, as long as the host stays observed. Tagging twice is tagging once, never
moves a phase and writes nothing when it fails; an abort right after the tag of a fresh plan
restores the map. -/
theorem plan_tag_abort_contract (codec : Codec) :
    (∀ (db : WalletDb) (selectedLeaves : List VirtualOutPoint) (key : String)
        (record : VtxoExitRecord), db.vtxoExitRecords[key]? = some record →
      record.phase ≠ .tagged ∨ db.hostTxObservations[record.hostTxid]? ≠ none →
      (exitStep codec db (.untag selectedLeaves)).vtxoExitRecords[key]? = some record) ∧
    (∀ (db : WalletDb) (before after : List ExitOp) (key : String) (record : VtxoExitRecord),
      (exitRun codec db.withoutRecords before).vtxoExitRecords[key]? = some record →
      (exitRun codec db.withoutRecords before).hostTxObservations[record.hostTxid]? ≠ none →
      record.phase.locksCollaborativeSpend = true →
      ((∀ op ∈ after, op.isPlanOp = true) →
        SpendLocked (exitRun codec db.withoutRecords (before ++ after)) key record.hostTxid) ∧
      (RunMeets (exitStep codec)
          (fun db _ => db.hostTxObservations[record.hostTxid]? ≠ none)
          (exitRun codec db.withoutRecords before) after →
        SpendLocked (exitRun codec db.withoutRecords (before ++ after)) key record.hostTxid ∨
        OnHost (exitRun codec db.withoutRecords (before ++ after)) key record.hostTxid
          (·.isTerminal = true))) ∧
    (∀ (snapshot : OffchainVtxoSnapshot) (selectedLeaves : List VirtualOutPoint)
        (records : VtxoExitRecords) (now : Int),
      (∀ later, tagUnilateralExitPlanInRecords codec snapshot selectedLeaves
          (tagUnilateralExitPlanInRecords codec snapshot selectedLeaves records now).2 later =
        tagUnilateralExitPlanInRecords codec snapshot selectedLeaves records now) ∧
      (∀ (key : String) (record : VtxoExitRecord), records[key]? = some record →
        ∃ after,
          (tagUnilateralExitPlanInRecords codec snapshot selectedLeaves records now).2[key]? =
            some after ∧ after.phase = record.phase) ∧
      (∀ error,
        (tagUnilateralExitPlanInRecords codec snapshot selectedLeaves records now).1 =
          .error error →
        (tagUnilateralExitPlanInRecords codec snapshot selectedLeaves records now).2 = records) ∧
      (∀ (targets : List PlanTarget) (observations : HostTxObservations),
        taggedTargets codec snapshot selectedLeaves = .ok targets →
        (∀ target ∈ targets, records[target.key]? = none) →
        (∀ target ∈ targets, observations[target.txid]? = none) →
        (untagUnilateralExitPlanIfSafeInRecords codec snapshot selectedLeaves
          (tagUnilateralExitPlanInRecords codec snapshot selectedLeaves records now).2
          observations).2 = records)) := by
  refine ⟨?_, ?_, ?_⟩
  · intro db selectedLeaves key record hrecord hsafe
    rw [exitStep_untag]
    split
    · exact hrecord
    · rcases untagUnilateralExitPlanIfSafeInRecords_cases codec _ selectedLeaves
        db.vtxoExitRecords db.hostTxObservations key with
        hsame | ⟨dropped, hdropped, -, htagged, hobs⟩
      · exact hsame.trans hrecord
      · cases hrecord.symm.trans hdropped
        rcases hsafe with hphase | hobserved
        · exact absurd htagged hphase
        · exact absurd hobs hobserved
  · intro db before after key record hrecord hobs hlocks
    have hown := exitRun_ownsKeys codec db before
    rw [exitRun_append]
    constructor
    · intro hplan
      exact (exitRun_isPlanOp_onHost codec hown hobs ⟨record, hrecord, rfl, hlocks⟩
        hplan).spendLocked
    · intro hobserved
      obtain ⟨final, hfinal, hhost, -⟩ :=
        exitRun_onHost codec hown ⟨record, hrecord, rfl, trivial⟩ hobserved
      rcases locksCollaborativeSpend_or_exited final.phase with hlocked | hexited
      · exact Or.inl (OnHost.spendLocked ⟨final, hfinal, hhost, hlocked⟩)
      · exact Or.inr ⟨final, hfinal, hhost, by rw [hexited]; rfl⟩
  · intro snapshot selectedLeaves records now
    exact ⟨tagUnilateralExitPlanInRecords_idem records now,
      fun key record => tagUnilateralExitPlanInRecords_keeps_phase codec snapshot selectedLeaves
        records now,
      fun error => tagUnilateralExitPlanInRecords_error_unchanged,
      fun targets observations htargets hfresh hunobserved =>
        untag_tag_restores htargets hfresh hunobserved now⟩

end Bitboard.Arkade
