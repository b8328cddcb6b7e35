/-
# Exit records over whole runs

What any sequence of operations can do to the record of one outpoint. `RecordChange`
says it for a single operation, and every operation is shown to obey it; the rest of
the module follows by induction on the run. Finished records stay finished, a record
is dropped only while it is `tagged` and its host unobserved, and a record always sits
under the key of an output of its own host.
-/

import Bitboard.Arkade.ExitMachine
import Bitboard.Arkade.HostTxFinalityLookup

namespace Bitboard.Arkade

open Bitboard.Lib

theorem exitStep_tag (codec : Codec) (db : WalletDb) (selectedLeaves : List VirtualOutPoint)
    (now : Int) :
    exitStep codec db (.tag selectedLeaves now) =
      match db.offchainVtxoSnapshot with
      | none => db
      | some snapshot => { db with
          vtxoExitRecords := (tagUnilateralExitPlanInRecords codec snapshot selectedLeaves
            db.vtxoExitRecords now).2 } := by
  obtain ⟨snapshot, pending, observations, records⟩ := db
  cases snapshot with
  | none => rfl
  | some snapshot =>
    cases htargets : taggedTargets codec snapshot selectedLeaves with
    | error error =>
      simp [exitStep, tagUnilateralExitPlan, tagUnilateralExitPlanInRecords_of_error htargets]
    | ok targets =>
      simp [exitStep, tagUnilateralExitPlan, tagUnilateralExitPlanInRecords, htargets]

theorem exitStep_untag (codec : Codec) (db : WalletDb) (selectedLeaves : List VirtualOutPoint) :
    exitStep codec db (.untag selectedLeaves) =
      match db.offchainVtxoSnapshot with
      | none => db
      | some snapshot => { db with
          vtxoExitRecords := (untagUnilateralExitPlanIfSafeInRecords codec snapshot
            selectedLeaves db.vtxoExitRecords db.hostTxObservations).2 } := by
  obtain ⟨snapshot, pending, observations, records⟩ := db
  cases snapshot with
  | none => rfl
  | some snapshot =>
    by_cases hleaves : selectedLeaves.isEmpty = true
    · simp [exitStep, untagUnilateralExitPlanIfSafe, untagUnilateralExitPlanIfSafeInRecords,
        hleaves]
    · cases hrelevant : planRelevantOutpointKeys codec snapshot selectedLeaves <;>
        simp [exitStep, untagUnilateralExitPlanIfSafe, untagUnilateralExitPlanIfSafeInRecords,
          hleaves, hrelevant]

/-- The phases an operation may move a record to: a terminal phase is left only for
`exited`. -/
def PhaseChange (before after : VtxoExitPhase) : Prop :=
  after = before ∨ after = .exited ∨ before.isPipeline = true

/-- What an operation may do to the record at `key`, given the observations it starts from. -/
inductive RecordChange (observations : HostTxObservations) (key : String) :
    Option VtxoExitRecord → Option VtxoExitRecord → Prop
  | same (record : Option VtxoExitRecord) : RecordChange observations key record record
  | inserted {record : VtxoExitRecord} (howns : OwnsKey key record) :
      RecordChange observations key none (some record)
  | removed {record : VtxoExitRecord} (htagged : record.phase = .tagged)
      (hobs : observations[record.hostTxid]? = none) :
      RecordChange observations key (some record) none
  | updated {before after : VtxoExitRecord} (hphase : PhaseChange before.phase after.phase)
      (hhost : after.hostTxid = before.hostTxid ∨ OwnsKey key after) :
      RecordChange observations key (some before) (some after)

variable {key : String}

theorem recordChange_map {observations : HostTxObservations}
    {update : VtxoExitRecord → VtxoExitRecord}
    (hphase : ∀ record, PhaseChange record.phase (update record).phase)
    (hhost : ∀ record, (update record).hostTxid = record.hostTxid)
    (record : Option VtxoExitRecord) :
    RecordChange observations key record (record.map update) := by
  cases record with
  | none => exact .same none
  | some record => exact .updated (hphase record) (Or.inl (hhost record))

theorem InsertsOnly.recordChange {before after : VtxoExitRecords} (h : InsertsOnly before after)
    (observations : HostTxObservations) (key : String) :
    RecordChange observations key before[key]? after[key]? := by
  rcases h key with hsame | ⟨hnone, record, hrecord, howns, -⟩
  · rw [hsame]
    exact .same _
  · rw [hnone, hrecord]
    exact .inserted howns

variable {phase : VtxoExitPhase}

theorem isPipeline_of_isPreUnroll (h : phase.isPreUnroll = true) : phase.isPipeline = true := by
  cases phase <;> first | rfl | exact h

theorem rewoundPhase_of_isTerminal (h : phase.isTerminal = true)
    (target : VtxoExitPhase) : rewoundPhase target phase = phase := by
  cases phase <;> first | rfl | exact absurd h (by decide)

theorem observedPhase_of_isTerminal (h : phase.isTerminal = true)
    (confirmations : Nat) (unrolled : Bool) :
    observedPhase confirmations unrolled phase = phase := by
  cases phase with
  | exited | fundingLost =>
    cases unrolled <;> simp [observedPhase, rewoundPhase, VtxoExitPhase.isPreUnroll]
  | tagged | hostBroadcastAttempted | hostRelayed | hostConfirmed | unrolled | completeReady =>
    exact absurd h (by decide)

theorem reconciledPhase_of_isTerminal (h : phase.isTerminal = true)
    (now : Int) (stampable : Bool) (answer : Option HostTxProbe)
    (observation : Option HostTxObservationRecord) :
    reconciledPhase now stampable answer observation phase = phase := by
  have hprobed : probedPhase stampable answer observation phase = phase := by
    cases answer with
    | none => rfl
    | some answer =>
      cases observation with
      | none => simp [probedPhase, observedPhase_of_isTerminal h]
      | some record =>
        simp [probedPhase, observedPhase_of_isTerminal h, rewoundPhase_of_isTerminal h]
  unfold reconciledPhase
  rw [hprobed, rewoundPhase_of_isTerminal h, ite_self]

theorem phaseChange_of_terminal {before after : VtxoExitPhase}
    (h : before.isTerminal = true → after = before) : PhaseChange before after := by
  cases hbefore : before.isTerminal with
  | true => exact Or.inl (h hbefore)
  | false =>
    refine Or.inr (Or.inr ?_)
    cases before <;> first | rfl | exact absurd hbefore (by decide)

theorem recordChange_fundingLost (observations : HostTxObservations) (key : String)
    (keys : Finset String) (record : Option VtxoExitRecord) :
    RecordChange observations key record (record.map (fundingLostRecord keys key)) := by
  refine recordChange_map (fun record => ?_) (fun record => ?_) _
  · unfold fundingLostRecord
    split
    · rename_i hpre
      exact Or.inr (Or.inr (isPipeline_of_isPreUnroll hpre.2))
    · exact Or.inl rfl
  · unfold fundingLostRecord
    split <;> rfl

theorem recordChange_tag (codec : Codec) (snapshot : OffchainVtxoSnapshot)
    (selectedLeaves : List VirtualOutPoint) (records : VtxoExitRecords) (now : Int)
    (observations : HostTxObservations) (key : String) :
    RecordChange observations key records[key]?
      (tagUnilateralExitPlanInRecords codec snapshot selectedLeaves records now).2[key]? := by
  cases htargets : taggedTargets codec snapshot selectedLeaves with
  | error error =>
    rw [tagUnilateralExitPlanInRecords_of_error htargets]
    exact .same _
  | ok targets =>
    rw [getElem?_tagUnilateralExitPlanInRecords htargets]
    cases hfind : targets.find? fun target => decide (target.key = key) with
    | none => exact .same _
    | some target =>
      have hkey : target.key = key := by simpa using List.find?_some hfind
      have howns : ∀ existing, OwnsKey key
          (taggedRecord existing target.txid target.amountSats now) := fun existing =>
        ⟨target.vout, by rw [taggedRecord_hostTxid]; exact hkey.symm⟩
      cases records[key]? with
      | none => exact .inserted (howns none)
      | some existing =>
        exact .updated (Or.inl (taggedRecord_some_phase existing _ _ _))
          (Or.inr (howns (some existing)))

/-- Every operation obeys `RecordChange` at every key. -/
theorem exitStep_recordChange (codec : Codec) (db : WalletDb) (op : ExitOp) (key : String) :
    RecordChange db.hostTxObservations key db.vtxoExitRecords[key]?
      (exitStep codec db op).vtxoExitRecords[key]? := by
  cases op with
  | tag selectedLeaves now =>
    rw [exitStep_tag]
    split
    · exact .same _
    · exact recordChange_tag codec _ selectedLeaves db.vtxoExitRecords now _ key
  | untag selectedLeaves =>
    rw [exitStep_untag]
    split
    · exact .same _
    · rename_i snapshot _
      rcases untagUnilateralExitPlanIfSafeInRecords_cases codec snapshot selectedLeaves
        db.vtxoExitRecords db.hostTxObservations key with
        hsame | ⟨record, hrecord, hnone, htagged, hobs⟩
      · simp only [hsame]
        exact .same _
      · simp only [hrecord, hnone]
        exact .removed htagged hobs
  | registerHost | updateMaterials | setSnapshot | setPending => exact .same _
  | advance hostTxid =>
    simp only [exitStep, advanceRegisteredHost, getElem?_advanceRecordsForHostRegistered]
    refine recordChange_map (fun record => ?_) (fun record => ?_) _
    · refine phaseChange_of_terminal fun hterminal => ?_
      have hne : record.phase ≠ .tagged := by
        intro htagged
        rw [htagged] at hterminal
        exact absurd hterminal (by decide)
      simp [advanceRecordForHostRegistered, hne]
    · unfold advanceRecordForHostRegistered
      split <;> rfl
  | reconcile now probe =>
    simp only [exitStep, reconcileStoredFinality]
    split
    · exact .same _
    · simp only [getElem?_reconcileHostTxFinalityState_records]
      refine recordChange_map (fun record => ?_) (fun record => ?_) _
      · exact phaseChange_of_terminal fun hterminal =>
          reconciledPhase_of_isTerminal hterminal _ _ _ _
      · rfl
  | completeReady stamped =>
    simp only [exitStep, getElem?_stampCompleteReady]
    split
    · refine recordChange_map (fun record => ?_) (fun record => ?_) _
      · refine phaseChange_of_terminal fun hterminal => ?_
        have hne : record.phase ≠ .unrolled := by
          intro hunrolled
          rw [hunrolled] at hterminal
          exact absurd hterminal (by decide)
        simp [markRecordCompleteReady, hne]
      · unfold markRecordCompleteReady
        split <;> rfl
    · exact .same _
  | markExited outpoints =>
    simp only [exitStep, getElem?_markRecordsExitedForOutpoints]
    split
    · refine recordChange_map (fun record => ?_) (fun record => ?_) _
      · exact Or.inr (Or.inl rfl)
      · rfl
    · exact .same _
  | noteSpent =>
    simp only [exitStep, getElem?_noteSpentPipelineRecordsExited]
    refine recordChange_map (fun record => ?_) (fun record => ?_) _
    · unfold noteSpentRecord
      split
      · exact Or.inl rfl
      · split
        · exact Or.inl rfl
        · split
          · exact Or.inr (Or.inl rfl)
          · exact Or.inl rfl
    · unfold noteSpentRecord
      split
      · rfl
      · split
        · rfl
        · split <;> rfl
  | stampFundingLost keys =>
    simp only [exitStep, getElem?_stampPreUnrollRecordsFundingLost]
    exact recordChange_fundingLost _ _ _ _
  | stampAspSwept autonomousMode marked =>
    simp only [exitStep, stampStoredAspSwept]
    split
    · exact .same _
    · rename_i snapshot _
      obtain ⟨keys, hsame | hstamp⟩ := stampPreUnrollRecordsFundingLostForAspSwept_eq codec
        snapshot db.vtxoExitRecords autonomousMode marked
      · simp only [hsame]
        exact .same _
      · simp only [hstamp, getElem?_stampPreUnrollRecordsFundingLost]
        exact recordChange_fundingLost _ _ _ _
  | heal now =>
    exact (insertsOnly_healVtxoExitRecordsFromLegacy _ _ _ _).recordChange _ key
  | rewind hostTxid phase =>
    simp only [exitStep, getElem?_rewindRecordsOnHost]
    refine recordChange_map (fun record => ?_) (fun record => ?_) _
    · unfold rewindRecordOnHost
      split
      · exact Or.inl rfl
      · split
        · exact Or.inl rfl
        · rename_i hpre
          exact Or.inr (Or.inr (isPipeline_of_isPreUnroll (by simpa using hpre)))
    · unfold rewindRecordOnHost
      split
      · rfl
      · split <;> rfl

section Runs

variable (codec : Codec)

/-- Every record sits under the key of an output of its own host. -/
def OwnsKeys (records : VtxoExitRecords) : Prop :=
  ∀ (key : String) (record : VtxoExitRecord), records[key]? = some record → OwnsKey key record

theorem exitStep_ownsKeys (db : WalletDb) (op : ExitOp) (h : OwnsKeys db.vtxoExitRecords) :
    OwnsKeys (exitStep codec db op).vtxoExitRecords := by
  intro key record hafter
  have hchange := exitStep_recordChange codec db op key
  rw [hafter] at hchange
  generalize hbefore : db.vtxoExitRecords[key]? = before at hchange
  cases hchange with
  | same => exact h key record hbefore
  | inserted howns => exact howns
  | updated hphase hhost =>
    rcases hhost with hhost | howns
    · obtain ⟨vout, hkey⟩ := h key _ hbefore
      exact ⟨vout, hhost.symm ▸ hkey⟩
    · exact howns

theorem exitRun_ownsKeys (db : WalletDb) (ops : List ExitOp) :
    OwnsKeys (exitRun codec db.withoutRecords ops).vtxoExitRecords := by
  refine run_invariant _ (exitStep_ownsKeys codec) ?_ ops
  intro key record hrecord
  simp [WalletDb.withoutRecords] at hrecord

/-- The record at `key` is there and its phase satisfies `holds`. -/
def HasPhase (db : WalletDb) (key : String) (holds : VtxoExitPhase → Prop) : Prop :=
  ∃ record, db.vtxoExitRecords[key]? = some record ∧ holds record.phase

theorem exitRun_hasPhase {holds : VtxoExitPhase → Prop}
    (hclosed : ∀ before after, holds before → PhaseChange before after → holds after)
    (hkept : ¬ holds .tagged) {db : WalletDb} (h : HasPhase db key holds) (ops : List ExitOp) :
    HasPhase (exitRun codec db ops) key holds := by
  have hstep : ∀ db op, HasPhase db key holds → HasPhase (exitStep codec db op) key holds := by
    rintro db op ⟨record, hrecord, hholds⟩
    have hchange := exitStep_recordChange codec db op key
    rw [hrecord] at hchange
    generalize hafter : (exitStep codec db op).vtxoExitRecords[key]? = after at hchange
    cases hchange with
    | same => exact ⟨record, hafter, hholds⟩
    | removed htagged hobs => exact absurd (htagged ▸ hholds) hkept
    | updated hphase hhost => exact ⟨_, hafter, hclosed _ _ hholds hphase⟩
  exact run_invariant _ hstep h ops

theorem exitRun_exited {db : WalletDb} (h : HasPhase db key (· = .exited)) (ops : List ExitOp) :
    HasPhase (exitRun codec db ops) key (· = .exited) := by
  refine exitRun_hasPhase codec ?_ (by decide) h ops
  rintro before after rfl (rfl | rfl | hpipeline)
  · rfl
  · rfl
  · exact absurd hpipeline (by decide)

theorem exitRun_isTerminal {db : WalletDb} (h : HasPhase db key (·.isTerminal = true))
    (ops : List ExitOp) : HasPhase (exitRun codec db ops) key (·.isTerminal = true) := by
  refine exitRun_hasPhase codec ?_ (by decide) h ops
  rintro before after hterminal (rfl | rfl | hpipeline)
  · exact hterminal
  · rfl
  · cases before <;> first | exact absurd hterminal (by decide) | exact absurd hpipeline (by decide)

/-- The life of an exit record, over every run that starts without records. `exited` is final,
`funding_lost` can only become `exited`, neither is ever dropped, a record is dropped only
while `tagged` on an unobserved host, and its host is the transaction of its key. -/
theorem exitRecord_lifecycle (codec : Codec) (db : WalletDb) (before after : List ExitOp)
    (op : ExitOp) (key : String) :
    (HasPhase (exitRun codec db.withoutRecords before) key (· = .exited) →
      HasPhase (exitRun codec db.withoutRecords (before ++ after)) key (· = .exited)) ∧
    (HasPhase (exitRun codec db.withoutRecords before) key (· = .fundingLost) →
      HasPhase (exitRun codec db.withoutRecords (before ++ after)) key
        (fun phase => phase = .fundingLost ∨ phase = .exited)) ∧
    (∀ record,
      (exitRun codec db.withoutRecords before).vtxoExitRecords[key]? = some record →
      (exitRun codec db.withoutRecords (before ++ [op])).vtxoExitRecords[key]? = none →
      record.phase = .tagged ∧
        (exitRun codec db.withoutRecords before).hostTxObservations[record.hostTxid]? = none) ∧
    (∀ record,
      (exitRun codec db.withoutRecords before).vtxoExitRecords[key]? = some record →
      ∃ vout, key = vtxoExitRecordKey record.hostTxid vout ∧
        parseVtxoExitRecordKey key = some (record.hostTxid, vout)) := by
  refine ⟨fun hexited => ?_, fun hlost => ?_, fun record hrecord hdropped => ?_,
    fun record hrecord => ?_⟩
  · rw [exitRun_append]
    exact exitRun_exited codec hexited after
  · rw [exitRun_append]
    obtain ⟨record, hrecord, hphase⟩ := hlost
    have hterminal : HasPhase (exitRun codec db.withoutRecords before) key
        (·.isTerminal = true) := ⟨record, hrecord, by rw [hphase]; rfl⟩
    obtain ⟨final, hfinal, hphase⟩ := exitRun_isTerminal codec hterminal after
    refine ⟨final, hfinal, ?_⟩
    cases hcase : final.phase <;> rw [hcase] at hphase <;>
      first | exact Or.inl rfl | exact Or.inr rfl | exact absurd hphase (by decide)
  · rw [exitRun_append] at hdropped
    have hchange := exitStep_recordChange codec (exitRun codec db.withoutRecords before) op key
    rw [hrecord] at hchange
    change (exitStep codec _ op).vtxoExitRecords[key]? = none at hdropped
    rw [hdropped] at hchange
    cases hchange with
    | removed htagged hobs => exact ⟨htagged, hobs⟩
  · obtain ⟨vout, hkey⟩ := exitRun_ownsKeys codec db before key record hrecord
    exact ⟨vout, hkey, by rw [hkey, parseVtxoExitRecordKey_vtxoExitRecordKey]⟩

end Runs

end Bitboard.Arkade
