/-
# Finality stamps

A host transaction of the stored exit materials that reached its confirmations is
stamped once: its rows become unrolled and its records move to `unrolled`. The pass
that sees the last confirmation does this, and from then on the host is not probed
again. So what is added to a final host later is not stamped: a leaf tagged after the
fact, or materials that make the host stampable after the fact. In the other direction
a probe that does not find the transaction leaves an `unrolled` record as it is.

Along runs without these three, every pass leaves final hosts stamped and the others
unstamped.
-/

import Bitboard.Arkade.NeverSeenBudget
import Bitboard.Arkade.PlanRuns

namespace Bitboard.Arkade

open Bitboard.Lib

variable (codec : Codec)

/-- The host has an observation that reached finality. -/
def ObservedFinal (db : WalletDb) (host : String) : Prop :=
  ∃ record, db.hostTxObservations[host]? = some record ∧
    hostTxReachedFinality record.confirmations = true

/-- Everything on the host is past the unroll: no record waits for it, every row is stamped. -/
structure HostUnrolled (db : WalletDb) (host : String) : Prop where
  records : ∀ (key : String) (record : VtxoExitRecord), db.vtxoExitRecords[key]? = some record →
    record.hostTxid = host → record.phase.isPreUnroll = false
  rows : ∀ row ∈ db.snapshotRecords, row.txid = host → row.isUnrolled = true

/-- Nothing on the host is unrolled: no row is stamped, no record is `unrolled`. -/
structure HostNotUnrolled (db : WalletDb) (host : String) : Prop where
  records : ∀ (key : String) (record : VtxoExitRecord), db.vtxoExitRecords[key]? = some record →
    record.hostTxid = host → record.phase ≠ .unrolled
  rows : ∀ row ∈ db.snapshotRecords, row.txid = host → row.isUnrolled = false

def FinalStamped (db : WalletDb) : Prop :=
  ∀ host ∈ storedStampable codec db, ObservedFinal db host → HostUnrolled db host

/-- The stored materials know the host as a commitment or checkpoint transaction at most. -/
def OnlyCommitmentOrCheckpoint (db : WalletDb) (host : String) : Prop :=
  ∀ (snapshot : OffchainVtxoSnapshot) (key : String) (materials : UnilateralExitMaterialsRecord)
    (chains : VtxoChains), db.offchainVtxoSnapshot = some snapshot →
    snapshot.unilateralExitMaterialsByHostTx[key]? = some materials →
    vtxoChainsFromJson codec materials.chainJson = .ok chains →
    ∀ link ∈ chains.inner, link.txid.text = host →
      link.txType = .commitment ∨ link.txType = .checkpoint

variable {db : WalletDb}

/-- Such a host cannot be stamped. -/
theorem OnlyCommitmentOrCheckpoint.not_mem_storedStampable {codec : Codec}
    {host : String} (h : OnlyCommitmentOrCheckpoint codec db host) :
    host ∉ storedStampable codec db := by
  intro hmem
  unfold storedStampable at hmem
  cases hsnapshot : db.offchainVtxoSnapshot with
  | none => simp [hsnapshot] at hmem
  | some snapshot =>
    simp only [hsnapshot, stampableHosts, vtxoHostTxidsFromMaterials, hostTxidsForMaterialKeys,
      List.mem_toFinset, List.mem_eraseDups, List.mem_flatMap] at hmem
    obtain ⟨key, -, hhost⟩ := hmem
    unfold exitHostsForMaterialKey snapshotMaterialsForHostTx at hhost
    split at hhost
    · cases hhost
    · rename_i materials hmaterials
      split at hhost
      · cases hhost
      · rename_i chains hchains
        obtain ⟨link, hlink, htext⟩ := List.mem_map.mp hhost
        obtain ⟨hinner, hhosts⟩ := List.mem_filter.mp hlink
        rcases h snapshot key materials chains hsnapshot hmaterials hchains link hinner htext
          with htype | htype <;>
          simp [htype, chainedTxTypeLabel, virtualTxTypeHostsExitOutpoints] at hhosts

theorem isPreUnroll_observedPhase_unrolled (confirmations : Nat) (phase : VtxoExitPhase) :
    (observedPhase confirmations true phase).isPreUnroll = false := by
  cases phase <;> rfl

theorem observedPhase_ne_unrolled (confirmations : Nat) (phase : VtxoExitPhase) :
    observedPhase confirmations false phase ≠ .unrolled := by
  have hnext : nextPhase true confirmations false ≠ .unrolled := by
    rcases nextPhase_found confirmations with h | h <;> rw [h] <;> decide
  unfold observedPhase
  rw [if_neg Bool.false_ne_true]
  split
  · exact hnext
  · rename_i hother
    exact fun h => hother (Or.inl h)

theorem rewoundPhase_ne_unrolled {target phase : VtxoExitPhase} (htarget : target ≠ .unrolled)
    (hphase : phase ≠ .unrolled) : rewoundPhase target phase ≠ .unrolled := by
  unfold rewoundPhase
  split
  · exact htarget
  · exact hphase

variable {answer : HostTxProbe}

theorem HostTxProbe.found_of_final (h : hostTxReachedFinality answer.confirmations = true) :
    answer.found = true := by
  have hconfirmations : 6 ≤ answer.confirmations := of_decide_eq_true h
  simp only [HostTxProbe.found, Bool.or_eq_true, decide_eq_true_eq]
  omega

/-- A probe short of finality never makes a record `unrolled`, and leaves one so only when it
misses the transaction. -/
theorem reconciledPhase_ne_unrolled {now : Int} {stampable : Bool}
    {observation : Option HostTxObservationRecord} {phase : VtxoExitPhase}
    (hbelow : stampable = true → hostTxReachedFinality answer.confirmations = false)
    (h : phase ≠ .unrolled ∨ (stampable = true ∧ answer.found = true)) :
    reconciledPhase now stampable (some answer) observation phase ≠ .unrolled := by
  have hstamp : (stampable && hostTxReachedFinality answer.confirmations) = false := by
    cases stampable with
    | false => rfl
    | true => exact hbelow rfl
  have hprobed : probedPhase stampable (some answer) observation phase ≠ .unrolled := by
    cases observation with
    | none =>
      simp only [probedPhase]
      split
      · rename_i hfound
        rw [hbelow (Bool.and_eq_true_iff.mp hfound).1]
        exact observedPhase_ne_unrolled _ _
      · rename_i hmissed
        rcases h with hphase | ⟨hstampable, hfound⟩
        · exact hphase
        · exact absurd (by rw [hstampable, hfound]; rfl) hmissed
    | some record =>
      simp only [probedPhase, hstamp]
      split
      · exact observedPhase_ne_unrolled _ _
      · rename_i hmissed
        have hphase : phase ≠ .unrolled := h.resolve_right fun hfound => hmissed hfound.2
        split
        · exact rewoundPhase_ne_unrolled (by decide) hphase
        · exact hphase
  unfold reconciledPhase
  split
  · exact rewoundPhase_ne_unrolled (by decide) hprobed
  · exact hprobed

variable {key : String}

section Pass

variable {codec} {db : WalletDb} {now : Int} {probe : String → Option HostTxProbe}

theorem reconcile_snapshotRecords :
    (exitStep codec db (.reconcile now probe)).snapshotRecords =
      db.snapshotRecords.map fun row => stampedRow (storedStampable codec db)
        (storedAnswer codec row.txid db probe) row := by
  unfold exitStep reconcileStoredFinality WalletDb.snapshotRecords storedAnswer storedStampable
  cases hsnapshot : db.offchainVtxoSnapshot with
  | none => simp [hsnapshot]
  | some snapshot =>
    dsimp only
    rw [reconcileHostTxFinalityState_snapshot]
    rfl

theorem exists_of_reconcile_records {after : VtxoExitRecord}
    (h : (exitStep codec db (.reconcile now probe)).vtxoExitRecords[key]? = some after) :
    ∃ record, db.vtxoExitRecords[key]? = some record ∧ record.hostTxid = after.hostTxid ∧
      after.phase = reconciledPhase now (decide (after.hostTxid ∈ storedStampable codec db))
        (storedAnswer codec after.hostTxid db probe) db.hostTxObservations[after.hostTxid]?
        record.phase := by
  rw [getElem?_reconcile_records, Option.map_eq_some_iff] at h
  obtain ⟨record, hrecord, rfl⟩ := h
  exact ⟨record, hrecord, rfl, rfl⟩

theorem exists_of_mem_reconcile_snapshotRecords {after : VirtualTxOutPointRecord}
    (h : after ∈ (exitStep codec db (.reconcile now probe)).snapshotRecords) :
    ∃ row ∈ db.snapshotRecords, row.txid = after.txid ∧
      after = stampedRow (storedStampable codec db) (storedAnswer codec after.txid db probe)
        row := by
  rw [reconcile_snapshotRecords, List.mem_map] at h
  obtain ⟨row, hrow, rfl⟩ := h
  exact ⟨row, hrow, (stampedRow_txid _ _ row).symm, by rw [stampedRow_txid]⟩

variable {host : String}

theorem storedAnswer_of_observedFinal (h : ObservedFinal db host) :
    storedAnswer codec host db probe = none := by
  obtain ⟨record, hrecord, hfinal⟩ := h
  unfold storedAnswer
  cases db.offchainVtxoSnapshot with
  | none => rfl
  | some snapshot =>
    exact hostAnswer_eq_none_of_final codec snapshot _ _ _ probe hrecord (by
      simpa [hostTxReachedFinality] using hfinal)

theorem reconciledPhase_none (stampable : Bool) (observation : Option HostTxObservationRecord)
    (phase : VtxoExitPhase) : reconciledPhase now stampable none observation phase = phase := by
  cases observation <;> rfl

theorem HostUnrolled.reconcile_of_final (h : HostUnrolled db host)
    (hfinal : ObservedFinal db host) :
    HostUnrolled (exitStep codec db (.reconcile now probe)) host where
  records := by
    rintro key after hafter rfl
    obtain ⟨record, hrecord, hhost, hphase⟩ := exists_of_reconcile_records hafter
    rw [hphase, storedAnswer_of_observedFinal hfinal, reconciledPhase_none]
    exact h.records key record hrecord hhost
  rows := by
    rintro after hafter rfl
    obtain ⟨row, hrow, htxid, hstamped⟩ := exists_of_mem_reconcile_snapshotRecords hafter
    rw [hstamped, storedAnswer_of_observedFinal hfinal, stampedRow_none]
    exact h.rows row hrow htxid

theorem hostUnrolled_reconcile {observation : HostTxObservationRecord}
    (hstampable : host ∈ storedStampable codec db)
    (hanswer : storedAnswer codec host db probe = some answer)
    (hobservation : db.hostTxObservations[host]? = some observation)
    (hfinal : hostTxReachedFinality answer.confirmations = true) :
    HostUnrolled (exitStep codec db (.reconcile now probe)) host := by
  have hfound := HostTxProbe.found_of_final hfinal
  have hkept : (some observation).any (neverSeenExpires now (some answer)) = false := by
    simp [neverSeenExpires, hfound]
  constructor
  · rintro key after hafter rfl
    obtain ⟨record, hrecord, hhost, hphase⟩ := exists_of_reconcile_records hafter
    rw [hphase, hanswer, hobservation, reconciledPhase_of_kept hkept]
    simp only [probedPhase, hfound, hstampable, hfinal, decide_true, Bool.and_self, if_true]
    exact isPreUnroll_observedPhase_unrolled _ _
  · rintro after hafter rfl
    obtain ⟨row, hrow, htxid, hstamped⟩ := exists_of_mem_reconcile_snapshotRecords hafter
    rw [hstamped, hanswer]
    simp [stampedRow, htxid, hstampable, hfinal]

theorem hostNotUnrolled_reconcile (hstampable : host ∈ storedStampable codec db)
    (hanswer : storedAnswer codec host db probe = some answer)
    (hbelow : hostTxReachedFinality answer.confirmations = false)
    (hmissed : answer.found = false → ∀ (key : String) (record : VtxoExitRecord),
      db.vtxoExitRecords[key]? = some record → record.hostTxid = host →
      record.phase ≠ .unrolled) :
    HostNotUnrolled (exitStep codec db (.reconcile now probe)) host := by
  constructor
  · rintro key after hafter rfl
    obtain ⟨record, hrecord, hhost, hphase⟩ := exists_of_reconcile_records hafter
    rw [hphase, hanswer]
    refine reconciledPhase_ne_unrolled (fun _ => hbelow) ?_
    by_cases hfound : answer.found = true
    · exact Or.inr ⟨decide_eq_true hstampable, hfound⟩
    · exact Or.inl (hmissed (Bool.not_eq_true _ ▸ hfound) key record hrecord hhost)
  · rintro after hafter rfl
    obtain ⟨row, hrow, htxid, hstamped⟩ := exists_of_mem_reconcile_snapshotRecords hafter
    rw [hstamped, hanswer]
    simp [stampedRow, htxid, hstampable, hbelow]

/-- A host is final after a pass for having been final, or for the pass seeing it so. -/
theorem observedFinal_of_reconcile
    (h : ObservedFinal (exitStep codec db (.reconcile now probe)) host) :
    ObservedFinal db host ∨ ∃ answer observation,
      storedAnswer codec host db probe = some answer ∧
      db.hostTxObservations[host]? = some observation ∧
      hostTxReachedFinality answer.confirmations = true := by
  obtain ⟨after, hafter, hfinal⟩ := h
  rcases reconcile_observation_cases codec host db now probe with
    hnone | ⟨record, hrecord, -, hprobed⟩
  · cases hnone.symm.trans hafter
  · cases hprobed.symm.trans hafter
    cases hanswer : storedAnswer codec host db probe with
    | none =>
      rw [hanswer] at hfinal
      exact Or.inl ⟨record, hrecord, hfinal⟩
    | some answer =>
      rw [hanswer] at hfinal
      simp only [probedObservation] at hfinal
      split at hfinal
      · exact Or.inr ⟨answer, record, rfl, hrecord, hfinal⟩
      · -- A miss leaves no confirmations.
        split at hfinal
        · cases hfinal
        · refine Or.inl ⟨record, hrecord, ?_⟩
          unfold countAbsentProbe at hfinal
          split at hfinal <;> exact hfinal

end Pass

/-! ## Runs -/

/-- Tagging, registering, advancing, new materials and finality passes. -/
def ExitOp.isFinalityOp : ExitOp → Bool
  | .tag .. | .registerHost .. | .advance .. | .updateMaterials .. | .reconcile .. => true
  | _ => false

/-- The operation adds nothing to a final host that no pass would stamp: a plan writes no new
record on a stampable final host, new materials make no final host stampable that has something
left to unroll, and a pass does not miss a stampable host that has an `unrolled` record. -/
def StampSafe (db : WalletDb) : ExitOp → Prop
  | .tag selectedLeaves _ => ∀ (snapshot : OffchainVtxoSnapshot) (targets : List PlanTarget),
      db.offchainVtxoSnapshot = some snapshot →
      taggedTargets codec snapshot selectedLeaves = .ok targets →
      ∀ target ∈ targets, db.vtxoExitRecords[target.key]? = none →
        target.txid ∈ storedStampable codec db → ¬ ObservedFinal db target.txid
  | .updateMaterials materials =>
    ∀ host ∈ storedStampable codec (updateStoredMaterials db materials),
      host ∉ storedStampable codec db → ObservedFinal db host → HostUnrolled db host
  | .reconcile _ probe => ∀ host ∈ storedStampable codec db, ∀ answer,
      storedAnswer codec host db probe = some answer → answer.found = false →
      ∀ (key : String) (record : VtxoExitRecord), db.vtxoExitRecords[key]? = some record →
        record.hostTxid = host → record.phase ≠ .unrolled
  | _ => True

variable {codec}

/-- A plan keeps the records and hosts that are there, and writes new ones at its targets. -/
theorem exists_of_tag_records (hown : OwnsKeys db.vtxoExitRecords)
    {selectedLeaves : List VirtualOutPoint} {now : Int} {after : VtxoExitRecord}
    (h : (exitStep codec db (.tag selectedLeaves now)).vtxoExitRecords[key]? = some after) :
    (∃ record, db.vtxoExitRecords[key]? = some record ∧ record.hostTxid = after.hostTxid ∧
      record.phase = after.phase) ∨
    (db.vtxoExitRecords[key]? = none ∧ ∃ snapshot targets, ∃ target ∈ targets,
      db.offchainVtxoSnapshot = some snapshot ∧
      taggedTargets codec snapshot selectedLeaves = .ok targets ∧ target.key = key ∧
      target.txid = after.hostTxid) := by
  rw [exitStep_tag] at h
  cases hsnapshot : db.offchainVtxoSnapshot with
  | none =>
    rw [hsnapshot] at h
    exact Or.inl ⟨after, h, rfl, rfl⟩
  | some snapshot =>
    simp only [hsnapshot] at h
    cases htargets : taggedTargets codec snapshot selectedLeaves with
    | error error =>
      rw [tagUnilateralExitPlanInRecords_of_error htargets] at h
      exact Or.inl ⟨after, h, rfl, rfl⟩
    | ok targets =>
      rw [getElem?_tagUnilateralExitPlanInRecords htargets] at h
      cases hfind : targets.find? fun target => decide (target.key = key) with
      | none =>
        rw [hfind] at h
        exact Or.inl ⟨after, h, rfl, rfl⟩
      | some target =>
        have hmem := List.mem_of_find?_eq_some hfind
        have hkey : target.key = key := by simpa using List.find?_some hfind
        simp only [hfind, Option.some.injEq] at h
        subst h
        cases hrecord : db.vtxoExitRecords[key]? with
        | none =>
          exact Or.inr ⟨rfl, snapshot, targets, target, hmem, rfl, htargets, hkey,
            (taggedRecord_hostTxid _ _ _ _).symm⟩
        | some record =>
          obtain ⟨vout, howns⟩ := hown key record hrecord
          refine Or.inl ⟨record, rfl, ?_, rfl⟩
          rw [taggedRecord_hostTxid]
          exact (vtxoExitRecordKey_inj.mp (howns.symm.trans hkey.symm)).1

theorem storedStampable_exitStep {op : ExitOp}
    (hupdate : ∀ materials, op ≠ .updateMaterials materials)
    (hset : ∀ snapshot, op ≠ .setSnapshot snapshot) :
    storedStampable codec (exitStep codec db op) = storedStampable codec db := by
  have hmaterials : (exitStep codec db op).offchainVtxoSnapshot.map
        OffchainVtxoSnapshot.unilateralExitMaterialsByHostTx =
      db.offchainVtxoSnapshot.map OffchainVtxoSnapshot.unilateralExitMaterialsByHostTx :=
    exitStep_materials codec hupdate hset
  unfold storedStampable
  cases hafter : (exitStep codec db op).offchainVtxoSnapshot with
  | none =>
    cases hbefore : db.offchainVtxoSnapshot with
    | none => rfl
    | some snapshot => simp [hafter, hbefore] at hmaterials
  | some after =>
    cases hbefore : db.offchainVtxoSnapshot with
    | none => simp [hafter, hbefore] at hmaterials
    | some snapshot =>
      rw [hafter, hbefore, Option.map_some, Option.map_some, Option.some.injEq] at hmaterials
      exact stampableHosts_congr codec hmaterials

theorem HostUnrolled.mono {db db' : WalletDb} {host : String} (h : HostUnrolled db host)
    (hrows : db'.snapshotRecords = db.snapshotRecords)
    (hrecords : ∀ (key : String) (after : VtxoExitRecord),
      db'.vtxoExitRecords[key]? = some after → after.hostTxid = host →
      after.phase.isPreUnroll = true →
      ∃ record, db.vtxoExitRecords[key]? = some record ∧ record.hostTxid = host ∧
        record.phase.isPreUnroll = true) :
    HostUnrolled db' host where
  records := by
    intro key after hafter hhost
    rw [← Bool.not_eq_true]
    intro hpre
    obtain ⟨record, hrecord, hbefore, hrecordPre⟩ := hrecords key after hafter hhost hpre
    rw [h.records key record hrecord hbefore] at hrecordPre
    cases hrecordPre
  rows := by
    rw [hrows]
    exact h.rows

/-- A guarded operation keeps every final host stamped. -/
theorem exitStep_finalStamped {op : ExitOp} (hop : op.isFinalityOp = true)
    (hsafe : StampSafe codec db op) (hown : OwnsKeys db.vtxoExitRecords)
    (h : FinalStamped codec db) : FinalStamped codec (exitStep codec db op) := by
  intro host hstampable hfinal
  cases op with
  | tag selectedLeaves now =>
    rw [storedStampable_exitStep (by simp) (by simp)] at hstampable
    have hbefore : ObservedFinal db host := by
      unfold ObservedFinal at hfinal
      rwa [exitStep_observations codec (by simp) (by simp)] at hfinal
    refine (h host hstampable hbefore).mono ?_ ?_
    · rw [exitStep_tag]
      split <;> rfl
    · rintro key after hafter rfl hpre
      rcases exists_of_tag_records hown hafter with
        ⟨record, hrecord, hhost, hphase⟩ |
        ⟨hnone, snapshot, targets, target, hmem, hsnapshot, htargets, hkey, htxid⟩
      · exact ⟨record, hrecord, hhost, hphase ▸ hpre⟩
      · refine absurd hbefore ?_
        rw [← htxid]
        exact hsafe snapshot targets hsnapshot htargets target hmem (hkey ▸ hnone)
          (htxid ▸ hstampable)
  | registerHost hostTxid now =>
    obtain ⟨record, hrecord, hconfirmed⟩ := hfinal
    have hother : hostTxid ≠ host := by
      rintro rfl
      simp only [exitStep, registerHostTxObservation, insertHostTxObservation,
        BTreeMap.getElem?_insert_eq_ite, if_true, Option.some.injEq] at hrecord
      rw [← hrecord] at hconfirmed
      cases hconfirmed
    have hbefore : ObservedFinal db host := by
      refine ⟨record, ?_, hconfirmed⟩
      simpa [exitStep, registerHostTxObservation, insertHostTxObservation, hother] using hrecord
    exact (h host hstampable hbefore).mono rfl fun key after hafter hhost hpre =>
      ⟨after, hafter, hhost, hpre⟩
  | advance hostTxid =>
    refine (h host hstampable hfinal).mono rfl ?_
    intro key after hafter hhost hpre
    simp only [exitStep, advanceRegisteredHost, getElem?_advanceRecordsForHostRegistered,
      Option.map_eq_some_iff] at hafter
    obtain ⟨record, hrecord, rfl⟩ := hafter
    refine ⟨record, hrecord, ?_⟩
    unfold advanceRecordForHostRegistered at hhost hpre
    split at hhost <;> rename_i hadvanced
    · exact ⟨hhost, by rw [hadvanced.2]; rfl⟩
    · rw [if_neg hadvanced] at hpre
      exact ⟨hhost, hpre⟩
  | updateMaterials materials =>
    have hbefore : HostUnrolled db host := by
      by_cases hold : host ∈ storedStampable codec db
      · exact h host hold hfinal
      · exact hsafe host hstampable hold hfinal
    refine hbefore.mono ?_ fun key after hafter hhost hpre => ⟨after, hafter, hhost, hpre⟩
    unfold exitStep updateStoredMaterials WalletDb.snapshotRecords
    cases db.offchainVtxoSnapshot <;> rfl
  | reconcile now probe =>
    rw [storedStampable_exitStep (by simp) (by simp)] at hstampable
    rcases observedFinal_of_reconcile hfinal with
      hbefore | ⟨answer, observation, hanswer, hobservation, hconfirmed⟩
    · exact (h host hstampable hbefore).reconcile_of_final hbefore
    · exact hostUnrolled_reconcile hstampable hanswer hobservation hconfirmed
  | untag | completeReady | markExited | noteSpent | stampFundingLost | stampAspSwept | heal
  | rewind | setSnapshot | setPending => cases hop

structure StampedPass (codec : Codec) (before after : WalletDb)
    (probe : String → Option HostTxProbe) : Prop where
  /-- A stampable host that is final, before the pass or after it, is stamped. -/
  final : ∀ host ∈ storedStampable codec before,
    ObservedFinal before host ∨ ObservedFinal after host → HostUnrolled after host
  /-- A stampable host that was probed short of finality has nothing unrolled. -/
  below : ∀ host ∈ storedStampable codec before, ∀ answer,
    storedAnswer codec host before probe = some answer →
    answer.confirmations < unilateralExitHostTxConfirmations → HostNotUnrolled after host
  /-- A commitment or checkpoint transaction is not stamped: its rows stay as they were and no
  record on it becomes `unrolled`. -/
  unstamped : ∀ host, OnlyCommitmentOrCheckpoint codec before host →
    after.snapshotRecords.filter (·.txid == host) = before.snapshotRecords.filter (·.txid == host) ∧
    ∀ (key : String) (record : VtxoExitRecord), after.vtxoExitRecords[key]? = some record →
      record.hostTxid = host → record.phase = .unrolled →
      ∃ previous, before.vtxoExitRecords[key]? = some previous ∧ previous.phase = .unrolled

theorem FinalStamped.reconcile {now : Int} {probe : String → Option HostTxProbe}
    (h : FinalStamped codec db) (hsafe : StampSafe codec db (.reconcile now probe)) :
    StampedPass codec db (exitStep codec db (.reconcile now probe)) probe where
  final := by
    intro host hstampable hfinal
    rcases hfinal with hbefore | hafter
    · exact (h host hstampable hbefore).reconcile_of_final hbefore
    · rcases observedFinal_of_reconcile hafter with
        hbefore | ⟨answer, observation, hanswer, hobservation, hconfirmed⟩
      · exact (h host hstampable hbefore).reconcile_of_final hbefore
      · exact hostUnrolled_reconcile hstampable hanswer hobservation hconfirmed
  below := by
    intro host hstampable answer hanswer hbelow
    refine hostNotUnrolled_reconcile hstampable hanswer ?_ ?_
    · exact decide_eq_false (Nat.not_le.mpr hbelow)
    · exact hsafe host hstampable answer hanswer
  unstamped := by
    intro host honly
    have hnot := honly.not_mem_storedStampable
    constructor
    · rw [reconcile_snapshotRecords, List.filter_map]
      have hfilter : ((·.txid == host) ∘ fun row => stampedRow (storedStampable codec db)
          (storedAnswer codec row.txid db probe) row) =
          fun row : VirtualTxOutPointRecord => row.txid == host := by
        funext row
        simp [stampedRow_txid]
      rw [hfilter]
      refine (List.map_congr_left ?_).trans (List.map_id _)
      intro row hrow
      have htxid : row.txid = host := by simpa using (List.mem_filter.mp hrow).2
      unfold stampedRow
      split
      · rfl
      · rw [htxid, if_neg hnot]
        rfl
    · rintro key after hafter rfl hunrolled
      obtain ⟨record, hrecord, hhost, hphase⟩ := exists_of_reconcile_records hafter
      refine ⟨record, hrecord, ?_⟩
      by_contra hne
      rw [hphase, decide_eq_false hnot] at hunrolled
      cases hanswer : storedAnswer codec after.hostTxid db probe with
      | none =>
        rw [hanswer, reconciledPhase_none] at hunrolled
        exact hne hunrolled
      | some answer =>
        rw [hanswer] at hunrolled
        exact reconciledPhase_ne_unrolled (by intro h; cases h) (Or.inl hne) hunrolled

/-- A wallet before any exit: no records and no observations, anything else as it may be. -/
def WalletDb.beforeExits (db : WalletDb) : WalletDb :=
  { db with vtxoExitRecords := ∅, hostTxObservations := ∅ }

theorem exitRun_finalStamped {ops : List ExitOp} (hmeets : RunMeets (exitStep codec)
      (fun db op => op.isFinalityOp = true ∧ StampSafe codec db op) db.beforeExits ops) :
    OwnsKeys (exitRun codec db.beforeExits ops).vtxoExitRecords ∧
      FinalStamped codec (exitRun codec db.beforeExits ops) := by
  refine run_invariant_of_runMeets
    (fun db => OwnsKeys db.vtxoExitRecords ∧ FinalStamped codec db) ?_ ?_ hmeets
  · rintro state op ⟨hop, hsafe⟩ ⟨hown, hstamped⟩
    exact ⟨exitStep_ownsKeys codec state op hown, exitStep_finalStamped hop hsafe hown hstamped⟩
  · constructor
    · intro key record hrecord
      simp [WalletDb.beforeExits] at hrecord
    · rintro host - ⟨record, hrecord, -⟩
      simp [WalletDb.beforeExits] at hrecord

/-- Over every run before which nothing was tagged or registered, and whose steps are
`StampSafe`: its next finality pass leaves every final stampable host stamped, every probed
stampable host short of finality unstamped, and commitment and checkpoint transactions alone. -/
theorem finality_stamps_hosts (codec : Codec) (db : WalletDb) (ops : List ExitOp) (now : Int)
    (probe : String → Option HostTxProbe)
    (hmeets : RunMeets (exitStep codec)
      (fun db op => op.isFinalityOp = true ∧ StampSafe codec db op) db.beforeExits
      (ops ++ [.reconcile now probe])) :
    StampedPass codec (exitRun codec db.beforeExits ops)
      (exitRun codec db.beforeExits (ops ++ [.reconcile now probe])) probe := by
  obtain ⟨hbefore, ⟨-, hsafe⟩, -⟩ := runMeets_append.mp hmeets
  rw [exitRun_append]
  exact (exitRun_finalStamped hbefore).2.reconcile hsafe

def finalProbe (_txid : String) : Option HostTxProbe := some { seen := true, confirmations := 6 }

def sampleDb : WalletDb where
  offchainVtxoSnapshot := some sampleSnapshot
  pendingExitDeductions := []
  hostTxObservations := ∅
  vtxoExitRecords := ∅

theorem storedStampable_sampleDb : storedStampable sampleCodec sampleDb = {sampleHost.text} :=
  stampableHosts_of_sampleMaterials rfl

theorem exitStep_isPlanOp_snapshot {op : ExitOp} (hplan : op.isPlanOp = true) :
    (exitStep codec db op).offchainVtxoSnapshot = db.offchainVtxoSnapshot := by
  cases op with
  | tag selectedLeaves now =>
    rw [exitStep_tag]
    split <;> rfl
  | untag selectedLeaves =>
    rw [exitStep_untag]
    split <;> rfl
  | registerHost | advance => rfl
  | reconcile | completeReady | markExited | noteSpent | stampFundingLost | stampAspSwept | heal
  | rewind | updateMaterials | setSnapshot | setPending => cases hplan

theorem getElem?_registerHost (db : WalletDb) (host : String) (now : Int) :
    (exitStep codec db (.registerHost host now)).hostTxObservations[host]? =
      some (.freshlyRegistered now) := by
  simp [exitStep, registerHostTxObservation, insertHostTxObservation]

/-- The sample leaf is tagged, its host registered, and found in the mempool: nothing is
unrolled. -/
theorem finality_stamps_hosts_sample :
    StampedPass sampleCodec
      (exitRun sampleCodec sampleDb.beforeExits
        [.tag [sampleLeaf] 0, .registerHost sampleHost.text 5])
      (exitRun sampleCodec sampleDb.beforeExits
        ([.tag [sampleLeaf] 0, .registerHost sampleHost.text 5] ++ [.reconcile 10 mempoolProbe]))
      mempoolProbe ∧
    HostNotUnrolled
      (exitRun sampleCodec sampleDb.beforeExits
        ([.tag [sampleLeaf] 0, .registerHost sampleHost.text 5] ++ [.reconcile 10 mempoolProbe]))
      sampleHost.text := by
  have htag : StampSafe sampleCodec sampleDb.beforeExits (.tag [sampleLeaf] 0) := by
    rintro snapshot targets - - target - - - ⟨record, hrecord, -⟩
    simp [WalletDb.beforeExits] at hrecord
  have hpass := finality_stamps_hosts sampleCodec sampleDb
    [.tag [sampleLeaf] 0, .registerHost sampleHost.text 5] 10 mempoolProbe
    ⟨⟨rfl, htag⟩, ⟨rfl, trivial⟩, ⟨rfl, by
      intro host _ answer hanswer hmissed
      cases storedAnswer_eq_some sampleCodec host hanswer
      cases hmissed⟩, trivial⟩
  refine ⟨hpass, hpass.below sampleHost.text ?_ { seen := true, confirmations := 0 } ?_ (by decide)⟩
  · rw [exitRun_cons, exitRun_cons, exitRun_nil, storedStampable_exitStep (by simp) (by simp),
      storedStampable_exitStep (by simp) (by simp)]
    rw [show storedStampable sampleCodec sampleDb.beforeExits = {sampleHost.text} from
      storedStampable_sampleDb]
    exact Finset.mem_singleton_self _
  · rw [exitRun_cons, exitRun_cons, exitRun_nil]
    have hsnapshot : (exitStep sampleCodec (exitStep sampleCodec sampleDb.beforeExits
        (.tag [sampleLeaf] 0)) (.registerHost sampleHost.text 5)).offchainVtxoSnapshot =
        some sampleSnapshot := by
      rw [exitStep_isPlanOp_snapshot rfl, exitStep_isPlanOp_snapshot rfl]
      rfl
    have hobserved : (exitStep sampleCodec (exitStep sampleCodec sampleDb.beforeExits
        (.tag [sampleLeaf] 0)) (.registerHost sampleHost.text 5)).hostTxObservations[
          sampleHost.text]? = some (.freshlyRegistered 5) :=
      getElem?_registerHost _ _ _
    exact storedAnswer_of_observed sampleCodec mempoolProbe hsnapshot hobserved (by decide)

variable {materials : UnilateralExitMaterialsRecord}

theorem tag_inserts_leaf {snapshot : OffchainVtxoSnapshot} {leaf : VirtualOutPoint}
    {chains : VtxoChains} (now : Int) (hsnapshot : db.offchainVtxoSnapshot = some snapshot)
    (hmaterials : materialsForUnrollHostTx codec snapshot leaf.txid.text = some materials)
    (hchains : vtxoChainsFromJson codec materials.chainJson = .ok chains)
    (hkey : vtxoExitRecordKey leaf.txid.text leaf.vout = key)
    (hnone : db.vtxoExitRecords[key]? = none) :
    ∃ record, (exitStep codec db (.tag [leaf] now)).vtxoExitRecords[key]? = some record ∧
      record.hostTxid = leaf.txid.text ∧ record.phase = .tagged := by
  have htargets := taggedTargets_singleton hmaterials hchains
  obtain ⟨wanted, hwanted, hwantedKey⟩ : ∃ target ∈ planTargets snapshot [leaf] [chains],
      target.key = vtxoExitRecordKey leaf.txid.text leaf.vout :=
    exists_target_of_mem_selectedLeaves (List.mem_singleton_self leaf)
  rw [exitStep_tag, hsnapshot]
  dsimp only
  rw [getElem?_tagUnilateralExitPlanInRecords htargets, hnone]
  cases hfind : (planTargets snapshot [leaf] [chains]).find? fun target =>
      decide (target.key = key) with
  | none =>
    rw [List.find?_eq_none] at hfind
    exact absurd (decide_eq_true (hwantedKey.trans hkey)) (hfind wanted hwanted)
  | some target =>
    have htarget : target.key = key := by simpa using List.find?_some hfind
    refine ⟨_, rfl, ?_, rfl⟩
    rw [taggedRecord_hostTxid]
    exact (vtxoExitRecordKey_inj.mp (htarget.trans hkey.symm)).1

def lateTagOps : List ExitOp :=
  [.registerHost sampleHost.text 0, .reconcile 10 finalProbe, .tag [sampleLeaf] 20]

theorem observedFinal_sample :
    ObservedFinal (exitRun sampleCodec sampleDb.beforeExits
      [.registerHost sampleHost.text 0, .reconcile 10 finalProbe]) sampleHost.text := by
  rw [exitRun_cons, exitRun_cons, exitRun_nil]
  have hregistered : (exitStep sampleCodec sampleDb.beforeExits
      (.registerHost sampleHost.text 0)).hostTxObservations[sampleHost.text]? =
      some (.freshlyRegistered 0) := getElem?_registerHost _ _ _
  have hsnapshot : (exitStep sampleCodec sampleDb.beforeExits
      (.registerHost sampleHost.text 0)).offchainVtxoSnapshot = some sampleSnapshot := rfl
  have hanswer : storedAnswer sampleCodec sampleHost.text
      (exitStep sampleCodec sampleDb.beforeExits (.registerHost sampleHost.text 0)) finalProbe =
      some { seen := true, confirmations := 6 } :=
    storedAnswer_of_observed sampleCodec finalProbe hsnapshot hregistered (by decide)
  have hunspent : observationAllSnapshotVoutsSpent sampleSnapshot sampleHost.text = false := by
    simp [observationAllSnapshotVoutsSpent, sampleSnapshot, sampleRow]
  have hlive : observationAllRecordsTerminal (exitStep sampleCodec sampleDb.beforeExits
      (.registerHost sampleHost.text 0)).vtxoExitRecords sampleHost.text = false := by
    rw [← Bool.not_eq_true, observationAllRecordsTerminal_iff]
    rintro ⟨⟨key, record, hrecord, -⟩, -⟩
    simp [exitStep, registerHostTxObservation, WalletDb.beforeExits] at hrecord
  refine ⟨_, reconcile_observation_of_kept sampleCodec hsnapshot hregistered ?_ hunspent hlive, ?_⟩
  · rw [hanswer]
    rfl
  · rw [hanswer]
    rfl

theorem late_tag_stays_tagged {snapshot : OffchainVtxoSnapshot} {leaf : VirtualOutPoint}
    {chains : VtxoChains} (now later : Int) (probe : String → Option HostTxProbe)
    (hsnapshot : db.offchainVtxoSnapshot = some snapshot)
    (hmaterials : materialsForUnrollHostTx codec snapshot leaf.txid.text = some materials)
    (hchains : vtxoChainsFromJson codec materials.chainJson = .ok chains)
    (hkey : vtxoExitRecordKey leaf.txid.text leaf.vout = key)
    (hnone : db.vtxoExitRecords[key]? = none) (hfinal : ObservedFinal db leaf.txid.text) :
    ObservedFinal (exitStep codec db (.tag [leaf] now)) leaf.txid.text ∧
    ∃ record,
      (exitStep codec (exitStep codec db (.tag [leaf] now))
        (.reconcile later probe)).vtxoExitRecords[key]? = some record ∧
      record.hostTxid = leaf.txid.text ∧ record.phase = .tagged := by
  have hstillFinal : ObservedFinal (exitStep codec db (.tag [leaf] now)) leaf.txid.text := by
    unfold ObservedFinal
    rw [exitStep_observations codec (by simp) (by simp)]
    exact hfinal
  obtain ⟨record, hrecord, hhost, hphase⟩ :=
    tag_inserts_leaf now hsnapshot hmaterials hchains hkey hnone
  refine ⟨hstillFinal, ?_⟩
  rw [getElem?_reconcile_records, hrecord]
  refine ⟨_, rfl, hhost, ?_⟩
  simp only [hhost, storedAnswer_of_observedFinal hstillFinal, reconciledPhase_none, hphase]

theorem late_sampleLeaf_not_stamped {ops : List ExitOp}
    (hdb : db.offchainVtxoSnapshot = some sampleSnapshot)
    (hops : ∀ op ∈ ops, (∀ materials, op ≠ .updateMaterials materials) ∧
      ∀ snapshot, op ≠ .setSnapshot snapshot)
    (hnone : (exitRun sampleCodec db ops).vtxoExitRecords[sampleKey]? = none)
    (hfinal : ObservedFinal (exitRun sampleCodec db ops) sampleHost.text) :
    sampleHost.text ∈ storedStampable sampleCodec
      (exitRun sampleCodec db (ops ++ [.tag [sampleLeaf] 20])) ∧
    ObservedFinal (exitRun sampleCodec db (ops ++ [.tag [sampleLeaf] 20])) sampleHost.text ∧
    ∃ record,
      (exitRun sampleCodec db (ops ++ [.tag [sampleLeaf] 20] ++
        [.reconcile 30 finalProbe])).vtxoExitRecords[sampleKey]? = some record ∧
      record.hostTxid = sampleHost.text ∧ record.phase = .tagged := by
  obtain ⟨snapshot, hsnapshot, hmaterials⟩ := exitRun_sampleMaterials db hdb ops hops
  rw [exitRun_append _ _ _ [.reconcile 30 finalProbe], exitRun_append, exitRun_cons, exitRun_nil,
    exitRun_cons, exitRun_nil]
  constructor
  · rw [storedStampable_exitStep (by simp) (by simp)]
    simp only [storedStampable, hsnapshot, stampableHosts_of_sampleMaterials hmaterials,
      Finset.mem_singleton]
  · exact late_tag_stays_tagged 20 30 finalProbe hsnapshot
      (materialsForUnrollHostTx_sample hmaterials) vtxoChainsFromJson_sampleMaterials rfl hnone
      hfinal

/-- The host is registered and reaches its confirmations, and only then its leaf is tagged:
the leaf stays `tagged` on a final host that can be stamped. -/
theorem late_tag_not_stamped :
    sampleHost.text ∈ storedStampable sampleCodec
      (exitRun sampleCodec sampleDb.beforeExits lateTagOps) ∧
    ObservedFinal (exitRun sampleCodec sampleDb.beforeExits lateTagOps) sampleHost.text ∧
    ∃ record,
      (exitRun sampleCodec sampleDb.beforeExits
        (lateTagOps ++ [.reconcile 30 finalProbe])).vtxoExitRecords[sampleKey]? = some record ∧
      record.hostTxid = sampleHost.text ∧ record.phase = .tagged := by
  have hops : lateTagOps = [.registerHost sampleHost.text 0, .reconcile 10 finalProbe] ++
      [.tag [sampleLeaf] 20] := rfl
  have hnone : (exitRun sampleCodec sampleDb.beforeExits
      [.registerHost sampleHost.text 0,
        .reconcile 10 finalProbe]).vtxoExitRecords[sampleKey]? = none := by
    rw [exitRun_cons, exitRun_cons, exitRun_nil, getElem?_reconcile_records]
    simp [exitStep, registerHostTxObservation, WalletDb.beforeExits]
  rw [hops]
  exact late_sampleLeaf_not_stamped rfl (by simp) hnone observedFinal_sample

end Bitboard.Arkade
