/-
# A finality pass and the operations that run while it probes

The session runs the finality pass without a lock: it reads the exit records and the host
observations, awaits Esplora, and writes both maps back whole, while the snapshot is only
overlaid. What tag, untag, proceed and completion write to the two maps in between is lost
unless the maps that the pass computed from its read happen to hold it as well. This module
says exactly when they do.
-/

import Bitboard.Arkade.FinalityStamp
import Bitboard.Arkade.SyncMachine

namespace Bitboard.Arkade

open Bitboard.Lib
open VtxoExitPhase

/-- When the pass heals and reconciles, and what Esplora answers it. -/
structure FinalityPass where
  healedAt : Int
  now : Int
  probe : String → Option HostTxProbe

/-- A host text that is no transaction id is not probed. -/
def FinalityPass.parsedProbe (pass : FinalityPass) (txid : String) : Option HostTxProbe :=
  (Txid.fromStr txid).bind fun _ => pass.probe txid

def FinalityPass.healed (pass : FinalityPass) (read : WalletDb)
    (snapshot : OffchainVtxoSnapshot) : VtxoExitRecords :=
  healVtxoExitRecordsFromLegacy (some snapshot) read.pendingExitDeductions read.vtxoExitRecords
    pass.healedAt

variable (codec : Codec)

def FinalityPass.reconciled (pass : FinalityPass) (read : WalletDb)
    (snapshot : OffchainVtxoSnapshot) : FinalityState :=
  reconcileHostTxFinalityState codec snapshot read.hostTxObservations
    read.pendingExitDeductions (pass.healed read snapshot) pass.now pass.parsedProbe

def FinalityPass.answer (pass : FinalityPass) (read : WalletDb) (snapshot : OffchainVtxoSnapshot)
    (host : String) : Option HostTxProbe :=
  hostAnswer codec snapshot read.hostTxObservations read.pendingExitDeductions
    (pass.healed read snapshot) pass.parsedProbe host

/-- `ArkadeSession::reconcile_host_tx_finality`: the pass reads `read` and writes back to
`latest`, the database by the time its probes are in. -/
def FinalityPass.writeBack (pass : FinalityPass) (read latest : WalletDb) : WalletDb :=
  match read.offchainVtxoSnapshot with
  | none => latest
  | some snapshot =>
    let state := pass.reconciled codec read snapshot
    { latest with
      offchainVtxoSnapshot := some (commitOperatorSnapshot latest.offchainVtxoSnapshot
        state.snapshot (.overlayOnto snapshot))
      hostTxObservations := state.observations
      vtxoExitRecords := state.vtxoExitRecords }

/-- Tag, untag, proceed's registration and advance, and completion's mark. -/
def ExitOp.isBetweenOp : ExitOp → Bool
  | .tag .. | .untag .. | .registerHost .. | .advance .. | .markExited .. => true
  | _ => false

def WalletDb.phaseAt (db : WalletDb) (key : String) : Option VtxoExitPhase :=
  db.vtxoExitRecords[key]?.map (·.phase)

/-- The written phase or a later one. `funding_lost` is a side branch before the unroll. -/
def SameOrLater (written present : VtxoExitPhase) : Prop :=
  written.rank ≤ present.rank ∧
    (present = .fundingLost → written.isPreUnroll = true ∨ written = .fundingLost)

/-- The observation that was written, or a later one: it is of the same registration, and at most
one more miss has been counted against the budget of that registration. -/
structure LaterObservation (written kept : HostTxObservationRecord) : Prop where
  registeredAt : kept.registeredAt = written.registeredAt
  neverSeenProbes : kept.neverSeenProbes ≤ written.neverSeenProbes + 1

/-- Every record that was written between the read and the write-back is there afterwards, with
the phase it was given or a later one, and for every host registered in between the observation
that was written is there or a later one. -/
structure NoLostUpdate (read latest after : WalletDb) (ops : List ExitOp) : Prop where
  records : ∀ (key : String) (record : VtxoExitRecord),
    latest.vtxoExitRecords[key]? = some record → read.vtxoExitRecords[key]? ≠ some record →
    ∃ kept, after.vtxoExitRecords[key]? = some kept ∧
      (read.phaseAt key ≠ some record.phase → SameOrLater record.phase kept.phase)
  observations : ∀ (host : String) (now : Int), .registerHost host now ∈ ops →
    ∃ written kept, latest.hostTxObservations[host]? = some written ∧
      after.hostTxObservations[host]? = some kept ∧ LaterObservation written kept

/-- The probe moves a `tagged` record on its host past `tagged`. -/
def liftsTagged (stampable : Bool) (answer : Option HostTxProbe)
    (observation : Option HostTxObservationRecord) : Bool :=
  match answer, observation with
  | none, _ => false
  | some answer, some record =>
    answer.found || record.relayed || stepReachedConfirmation record.confirmations
  | some answer, none => stampable && answer.found

/-- After the probe at most one miss is counted: the probe finds the host, or no miss was counted
before, or one was and the probe counts none. -/
def atMostOneMiss (now : Int) (answer : Option HostTxProbe)
    (observation : HostTxObservationRecord) : Bool :=
  answer.any HostTxProbe.found || decide (observation.neverSeenProbes = 0) ||
    (decide (observation.neverSeenProbes = 1) && !countsMiss now answer observation)

/-- What was written in between is also in what the pass computed from its read: nothing was
marked exited, every record given a new phase was there at the read, one that was advanced is
lifted by the pass itself, and every host registered in between had an observation of that very
registration at the read, which the pass does not drop. -/
structure AlsoInRead (pass : FinalityPass) (read latest : WalletDb) (ops : List ExitOp) :
    Prop where
  records : ∀ snapshot, read.offchainVtxoSnapshot = some snapshot →
    ∀ (key : String) (record : VtxoExitRecord), latest.vtxoExitRecords[key]? = some record →
    read.phaseAt key ≠ some record.phase →
    record.phase ≠ .exited ∧ ∃ healed, (pass.healed read snapshot)[key]? = some healed ∧
      (record.phase = .hostBroadcastAttempted → healed.phase = .tagged →
        liftsTagged (decide (healed.hostTxid ∈ stampableHosts codec snapshot))
          (pass.answer codec read snapshot healed.hostTxid)
          read.hostTxObservations[healed.hostTxid]? = true)
  observations : ∀ snapshot, read.offchainVtxoSnapshot = some snapshot →
    ∀ (host : String) (now : Int), .registerHost host now ∈ ops →
    ∀ written, latest.hostTxObservations[host]? = some written →
    ∃ observation, read.hostTxObservations[host]? = some observation ∧
      observation.registeredAt = written.registeredAt ∧
      atMostOneMiss pass.now (pass.answer codec read snapshot host) observation = true ∧
      neverSeenExpires pass.now (pass.answer codec read snapshot host) observation = false ∧
      observationAllSnapshotVoutsSpent snapshot host = false ∧
      observationAllRecordsTerminal (pass.healed read snapshot) host = false

theorem SameOrLater.refl (phase : VtxoExitPhase) : SameOrLater phase phase :=
  ⟨Nat.le_refl _, Or.inr⟩

theorem sameOrLater_tagged (phase : VtxoExitPhase) : SameOrLater .tagged phase :=
  ⟨Nat.zero_le _, fun _ => Or.inl rfl⟩

variable {phase : VtxoExitPhase}

theorem sameOrLater_broadcastAttempted :
    SameOrLater .hostBroadcastAttempted phase ↔ phase ≠ .tagged := by
  cases phase <;> simp [SameOrLater, rank, isPreUnroll]

theorem sameOrLater_exited : SameOrLater .exited phase ↔ phase = .exited := by
  cases phase <;> simp [SameOrLater, rank, isPreUnroll]

section Phases

variable {now : Int} {stampable : Bool} {answer : Option HostTxProbe}
  {observation : Option HostTxObservationRecord}

theorem eq_exited_of_reconciledPhase
    (h : reconciledPhase now stampable answer observation phase = .exited) : phase = .exited := by
  have hterminal : phase.isTerminal = true := by
    rw [← isTerminal_reconciledPhase now stampable answer observation phase, h]
    rfl
  rw [← h, reconciledPhase_of_isTerminal hterminal]

attribute [local simp] probedPhase liftsTagged in
theorem reconciledPhase_tagged_ne_iff :
    reconciledPhase now stampable answer observation .tagged ≠ .tagged ↔
      liftsTagged stampable answer observation = true := by
  cases answer with
  | none =>
    have hkept : observation.any (neverSeenExpires now none) = false := by
      cases observation <;> rfl
    rw [reconciledPhase_of_kept hkept]
    simp
  | some answer =>
    cases observation with
    | none =>
      rw [reconciledPhase_of_kept rfl]
      cases hlift : stampable && answer.found <;>
        simp [hlift, observedPhase_ne_tagged]
    | some record =>
      by_cases hexpires : neverSeenExpires now (some answer) record = true
      · rw [reconciledPhase_of_expires hexpires _ rfl]
        simp only [neverSeenExpires, Bool.and_eq_true, Bool.not_eq_true', Bool.or_eq_false_iff]
          at hexpires
        simp [hexpires]
      · rw [reconciledPhase_of_kept (by simpa using hexpires)]
        cases hfound : answer.found <;> cases hrelayed : record.relayed <;>
          cases hconfirmed : stepReachedConfirmation record.confirmations <;>
          simp [hfound, hrelayed, hconfirmed, observedPhase_ne_tagged, rewoundPhase, isPreUnroll]

theorem reconciledPhase_unrolled_ne_tagged :
    reconciledPhase now stampable answer observation .unrolled ≠ .tagged := by
  unfold reconciledPhase
  split
  · rename_i hexpires
    obtain ⟨record, rfl, hrecord⟩ := (Option.any_eq_true _ _).mp hexpires
    rw [probedPhase_of_expires hrecord]
    exact noConfusion
  · exact probedPhase_ne_tagged _ _ _ noConfusion

end Phases

section Between

variable {codec}

/-- An operation in between creates a `tagged` record, drops one, advances one, or marks one
exited. -/
def BetweenStep (before after : Option VtxoExitPhase) : Prop :=
  after = before ∨ (before = none ∧ after = some .tagged) ∨
    (before = some .tagged ∧ (after = none ∨ after = some .hostBroadcastAttempted)) ∨
    (before ≠ none ∧ after = some .exited)

/-- Several of them leave a phase alone, mark it exited, or move among the first phases. -/
def BetweenRun (before after : Option VtxoExitPhase) : Prop :=
  after = before ∨ after = some .exited ∨
    ((before = none ∨ before = some .tagged) ∧
      (after = none ∨ after = some .tagged ∨ after = some .hostBroadcastAttempted))

theorem BetweenRun.step {first before after : Option VtxoExitPhase} (hrun : BetweenRun first before)
    (hstep : BetweenStep before after) : BetweenRun first after := by
  unfold BetweenRun BetweenStep at *
  rcases hstep with rfl | ⟨rfl, rfl⟩ | ⟨rfl, rfl | rfl⟩ | ⟨-, rfl⟩
  · exact hrun
  · simp at hrun ⊢
    tauto
  · simp at hrun ⊢
    tauto
  · simp at hrun ⊢
    tauto
  · exact Or.inr (Or.inl rfl)

theorem exitStep_betweenStep (db : WalletDb) {op : ExitOp} (hop : op.isBetweenOp = true)
    (key : String) : BetweenStep (db.phaseAt key) ((exitStep codec db op).phaseAt key) := by
  unfold WalletDb.phaseAt
  cases op with
  | tag selectedLeaves now =>
    rw [exitStep_tag]
    split
    · exact Or.inl rfl
    · rename_i snapshot _
      cases htargets : taggedTargets codec snapshot selectedLeaves with
      | error error =>
        rw [tagUnilateralExitPlanInRecords_of_error htargets]
        exact Or.inl rfl
      | ok targets =>
        dsimp only
        rw [getElem?_tagUnilateralExitPlanInRecords htargets]
        split
        · cases db.vtxoExitRecords[key]? with
          | none => exact Or.inr (Or.inl ⟨rfl, rfl⟩)
          | some existing => exact Or.inl rfl
        · exact Or.inl rfl
  | untag selectedLeaves =>
    rw [exitStep_untag]
    split
    · exact Or.inl rfl
    · rename_i snapshot _
      rcases untagUnilateralExitPlanIfSafeInRecords_cases codec snapshot selectedLeaves
        db.vtxoExitRecords db.hostTxObservations key with
        hsame | ⟨record, hrecord, hnone, htagged, -⟩
      · rw [hsame]
        exact Or.inl rfl
      · rw [hrecord, hnone]
        exact Or.inr (Or.inr (Or.inl ⟨congrArg some htagged, Or.inl rfl⟩))
  | registerHost hostTxid now => exact Or.inl rfl
  | advance hostTxid =>
    simp only [exitStep, advanceRegisteredHost, getElem?_advanceRecordsForHostRegistered]
    cases db.vtxoExitRecords[key]? with
    | none => exact Or.inl rfl
    | some record =>
      simp only [Option.map_some, advanceRecordForHostRegistered]
      split
      · rename_i hadvanced
        exact Or.inr (Or.inr (Or.inl ⟨congrArg some hadvanced.2, Or.inr rfl⟩))
      · exact Or.inl rfl
  | markExited outpoints =>
    simp only [exitStep, getElem?_markRecordsExitedForOutpoints]
    split
    · cases db.vtxoExitRecords[key]? with
      | none => exact Or.inl rfl
      | some record => exact Or.inr (Or.inr (Or.inr ⟨Option.some_ne_none _, rfl⟩))
    · exact Or.inl rfl
  | _ => cases hop

theorem exitRun_betweenRun (codec : Codec) (db : WalletDb) {ops : List ExitOp}
    (hops : ∀ op ∈ ops, op.isBetweenOp = true) (key : String) :
    BetweenRun (db.phaseAt key) ((exitRun codec db ops).phaseAt key) := by
  suffices hrun : ∀ first : Option VtxoExitPhase, BetweenRun first (db.phaseAt key) →
      BetweenRun first ((exitRun codec db ops).phaseAt key) from hrun _ (Or.inl rfl)
  induction ops generalizing db with
  | nil => exact fun _ hrun => hrun
  | cons op ops ih =>
    intro first hrun
    rw [exitRun_cons]
    exact ih _ (fun other hother => hops other (List.mem_cons_of_mem op hother)) first
      (hrun.step (exitStep_betweenStep db (hops op List.mem_cons_self) key))

theorem exitStep_isBetweenOp_observed {db : WalletDb} {op : ExitOp}
    (hop : op.isBetweenOp = true) {host : String} {registeredAt : Int}
    (hobs : db.hostTxObservations[host]? = some (.freshlyRegistered registeredAt)) :
    ∃ registeredAt, (exitStep codec db op).hostTxObservations[host]? =
      some (.freshlyRegistered registeredAt) := by
  cases op with
  | tag selectedLeaves now =>
    rw [exitStep_tag]
    split <;> exact ⟨registeredAt, hobs⟩
  | untag selectedLeaves =>
    rw [exitStep_untag]
    split <;> exact ⟨registeredAt, hobs⟩
  | registerHost registered now =>
    simp only [exitStep, registerHostTxObservation, insertHostTxObservation,
      BTreeMap.getElem?_insert_eq_ite]
    split
    · exact ⟨now, rfl⟩
    · exact ⟨registeredAt, hobs⟩
  | advance _ | markExited _ => exact ⟨registeredAt, hobs⟩
  | _ => cases hop

/-- What is stored for a host that was registered in between is a fresh registration. -/
theorem exitRun_registered {db : WalletDb} {ops : List ExitOp}
    (hops : ∀ op ∈ ops, op.isBetweenOp = true) {host : String}
    (h : (∃ registeredAt, db.hostTxObservations[host]? = some (.freshlyRegistered registeredAt)) ∨
      ∃ now, .registerHost host now ∈ ops) :
    ∃ registeredAt, (exitRun codec db ops).hostTxObservations[host]? =
      some (.freshlyRegistered registeredAt) := by
  induction ops generalizing db with
  | nil =>
    rcases h with hobs | ⟨now, hmem⟩
    · exact hobs
    · cases hmem
  | cons op ops ih =>
    rw [exitRun_cons]
    apply ih (fun other hother => hops other (List.mem_cons_of_mem op hother))
    rcases h with ⟨registeredAt, hobs⟩ | ⟨now, hmem⟩
    · exact Or.inl (exitStep_isBetweenOp_observed (hops op List.mem_cons_self) hobs)
    · rcases List.mem_cons.mp hmem with rfl | hmem
      · left
        exact ⟨now, by simp [exitStep, registerHostTxObservation, insertHostTxObservation]⟩
      · exact Or.inr ⟨now, hmem⟩

end Between

/-! ## The exact condition -/

section WriteBack

variable {codec} {pass : FinalityPass} {read latest : WalletDb} {snapshot : OffchainVtxoSnapshot}

theorem writeBack_of_none (h : read.offchainVtxoSnapshot = none) :
    pass.writeBack codec read latest = latest := by
  simp only [FinalityPass.writeBack, h]

theorem getElem?_writeBack_records (h : read.offchainVtxoSnapshot = some snapshot) (key : String) :
    (pass.writeBack codec read latest).vtxoExitRecords[key]? =
      (pass.healed read snapshot)[key]?.map fun record => { record with
        phase := reconciledPhase pass.now
          (decide (record.hostTxid ∈ stampableHosts codec snapshot))
          (pass.answer codec read snapshot record.hostTxid)
          read.hostTxObservations[record.hostTxid]? record.phase } := by
  simp only [FinalityPass.writeBack, h]
  exact getElem?_reconcileHostTxFinalityState_records ..

theorem getElem?_writeBack_observations (h : read.offchainVtxoSnapshot = some snapshot)
    (host : String) :
    (pass.writeBack codec read latest).hostTxObservations[host]? =
      read.hostTxObservations[host]?.bind fun record =>
        if neverSeenExpires pass.now (pass.answer codec read snapshot host) record ∨
            observationAllSnapshotVoutsSpent snapshot host = true ∨
            observationAllRecordsTerminal (pass.healed read snapshot) host = true then none
        else some (probedObservation pass.now (pass.answer codec read snapshot host) record) := by
  simp only [FinalityPass.writeBack, h]
  exact getElem?_reconcileHostTxFinalityState_observations ..

variable {key : String}

theorem healed_phase {healed : VtxoExitRecord}
    (h : (pass.healed read snapshot)[key]? = some healed) :
    read.phaseAt key = some healed.phase ∨
      (read.phaseAt key = none ∧ (healed.phase = .tagged ∨ healed.phase = .unrolled)) := by
  unfold WalletDb.phaseAt
  rcases insertsOnly_healVtxoExitRecordsFromLegacy (some snapshot) read.pendingExitDeductions
    read.vtxoExitRecords pass.healedAt key with hsame | ⟨hnone, record, hrecord, -, hphase⟩
  · left
    rw [← hsame]
    exact congrArg (Option.map (·.phase)) h
  · cases h.symm.trans hrecord
    exact Or.inr ⟨by rw [hnone]; rfl, hphase⟩

variable {record : VtxoExitRecord}

/-- A record that got a new phase in between survives the write-back exactly when the records
the pass had read lead to that phase or a later one. -/
theorem written_kept_iff (hsnapshot : read.offchainVtxoSnapshot = some snapshot)
    (hchanged : read.phaseAt key ≠ some record.phase)
    (hrun : BetweenRun (read.phaseAt key) (some record.phase)) :
    (∃ kept, (pass.writeBack codec read latest).vtxoExitRecords[key]? = some kept ∧
        SameOrLater record.phase kept.phase) ↔
      record.phase ≠ .exited ∧ ∃ healed, (pass.healed read snapshot)[key]? = some healed ∧
        (record.phase = .hostBroadcastAttempted → healed.phase = .tagged →
          liftsTagged (decide (healed.hostTxid ∈ stampableHosts codec snapshot))
            (pass.answer codec read snapshot healed.hostTxid)
            read.hostTxObservations[healed.hostTxid]? = true) := by
  rw [getElem?_writeBack_records hsnapshot]
  simp only [Option.map_eq_some_iff]
  constructor
  · rintro ⟨_, ⟨healed, hhealed, rfl⟩, hlater⟩
    refine ⟨fun hexited => ?_, healed, hhealed, fun hbroadcast htagged => ?_⟩
    · rw [hexited, sameOrLater_exited] at hlater
      have hwas := eq_exited_of_reconciledPhase hlater
      rcases healed_phase hhealed with hread | ⟨-, hnew | hnew⟩
      · rw [hread, hwas, hexited] at hchanged
        exact hchanged rfl
      · cases hnew.symm.trans hwas
      · cases hnew.symm.trans hwas
    · rw [hbroadcast, sameOrLater_broadcastAttempted] at hlater
      dsimp only at hlater
      rw [htagged] at hlater
      exact reconciledPhase_tagged_ne_iff.mp hlater
  · rintro ⟨hexited, healed, hhealed, hlift⟩
    refine ⟨_, ⟨healed, hhealed, rfl⟩, ?_⟩
    rcases hrun with hsame | hmarked | ⟨hbefore, hnone | htagged | hbroadcast⟩
    · exact absurd hsame.symm hchanged
    · exact absurd (Option.some.inj hmarked) hexited
    · cases hnone
    · rw [Option.some.inj htagged]
      exact sameOrLater_tagged _
    · have hphase := Option.some.inj hbroadcast
      rw [hphase, sameOrLater_broadcastAttempted]
      dsimp only
      have hstart : healed.phase = .tagged ∨ healed.phase = .unrolled := by
        rcases healed_phase hhealed with hread | ⟨-, hnew⟩
        · rw [hread] at hbefore
          exact Or.inl (Option.some.inj (hbefore.resolve_left (Option.some_ne_none _)))
        · exact hnew
      rcases hstart with htagged | hunrolled
      · rw [htagged]
        exact reconciledPhase_tagged_ne_iff.mpr (hlift hphase htagged)
      · rw [hunrolled]
        exact reconciledPhase_unrolled_ne_tagged

theorem probedObservation_registeredAt (now : Int) (answer : Option HostTxProbe)
    (observation : HostTxObservationRecord) :
    (probedObservation now answer observation).registeredAt = observation.registeredAt := by
  unfold probedObservation countAbsentProbe
  repeat' split
  all_goals rfl

theorem saturatingSucc_le_one_iff (misses : Nat) : saturatingSucc misses ≤ 1 ↔ misses = 0 := by
  simp only [saturatingSucc, UInt32.size]
  omega

attribute [local simp] atMostOneMiss countsMiss probedObservation countAbsentProbe in
theorem atMostOneMiss_iff (now : Int) (answer : Option HostTxProbe)
    (observation : HostTxObservationRecord) :
    atMostOneMiss now answer observation = true ↔
      (probedObservation now answer observation).neverSeenProbes ≤ 1 := by
  have hle : observation.neverSeenProbes = 0 ∨ observation.neverSeenProbes = 1 ↔
      observation.neverSeenProbes ≤ 1 := by omega
  cases answer with
  | none => simpa using hle
  | some answer =>
    cases hfound : answer.found with
    | true => simp [hfound]
    | false =>
      by_cases hrelayed :
          (observation.relayed || stepReachedConfirmation observation.confirmations) = true
      · simpa [hfound, hrelayed] using hle
      · cases heligible : neverSeenMissIsEligible observation now with
        | true => simp [hfound, hrelayed, heligible, saturatingSucc_le_one_iff]
        | false => simpa [hfound, hrelayed, heligible] using hle

/-- The observation of a host that was registered in between survives the write-back exactly when
the pass keeps an observation of that registration that it had read. -/
theorem observation_kept_iff (hsnapshot : read.offchainVtxoSnapshot = some snapshot)
    (host : String) (registeredAt : Int) :
    (∃ kept, (pass.writeBack codec read latest).hostTxObservations[host]? = some kept ∧
        LaterObservation (.freshlyRegistered registeredAt) kept) ↔
      ∃ observation, read.hostTxObservations[host]? = some observation ∧
        observation.registeredAt = registeredAt ∧
        atMostOneMiss pass.now (pass.answer codec read snapshot host) observation = true ∧
        neverSeenExpires pass.now (pass.answer codec read snapshot host) observation = false ∧
        observationAllSnapshotVoutsSpent snapshot host = false ∧
        observationAllRecordsTerminal (pass.healed read snapshot) host = false := by
  rw [getElem?_writeBack_observations hsnapshot]
  cases read.hostTxObservations[host]? with
  | none => simp
  | some observation =>
    simp only [Option.bind_some, Option.some.injEq, exists_eq_left', atMostOneMiss_iff]
    split
    · rename_i hdropped
      constructor
      · rintro ⟨kept, hkept, -⟩
        cases hkept
      · rintro ⟨-, -, hexpires, hspent, hterminal⟩
        simp [hexpires, hspent, hterminal] at hdropped
    · rename_i hdropped
      simp only [not_or, Bool.not_eq_true] at hdropped
      obtain ⟨hexpires, hspent, hterminal⟩ := hdropped
      simp only [Option.some.injEq, exists_eq_left', hexpires, hspent, hterminal, and_true]
      constructor
      · intro hlater
        exact ⟨(probedObservation_registeredAt ..).symm.trans hlater.registeredAt,
          hlater.neverSeenProbes⟩
      · rintro ⟨hregistered, hmisses⟩
        exact ⟨(probedObservation_registeredAt ..).trans hregistered, hmisses⟩

theorem healed_of_read (hrecord : read.vtxoExitRecords[key]? = some record) :
    (pass.healed read snapshot)[key]? = some record := by
  rcases insertsOnly_healVtxoExitRecordsFromLegacy (some snapshot) read.pendingExitDeductions
    read.vtxoExitRecords pass.healedAt key with hsame | ⟨hnone, -⟩
  · exact hsame.trans hrecord
  · cases hrecord.symm.trans hnone

theorem exists_writeBack_record (hsnapshot : read.offchainVtxoSnapshot = some snapshot)
    (hrecord : read.vtxoExitRecords[key]? = some record) :
    ∃ kept, (pass.writeBack codec read latest).vtxoExitRecords[key]? = some kept := by
  rw [getElem?_writeBack_records hsnapshot, healed_of_read hrecord]
  exact ⟨_, rfl⟩

end WriteBack

def absentPass : FinalityPass where
  healedAt := 0
  now := 10
  probe := absentProbe

def mempoolPass : FinalityPass where
  healedAt := 0
  now := 10
  probe := mempoolProbe

def registeredDb (host : Txid) : WalletDb where
  offchainVtxoSnapshot := some (snapshotWithRows [sampleRow host.text 0])
  pendingExitDeductions := []
  hostTxObservations := BTreeMap.singleton host.text (.freshlyRegistered 0)
  vtxoExitRecords := BTreeMap.singleton (vtxoExitRecordKey host.text 0)
    { phase := .tagged, taggedAt := 0, hostTxid := host.text, amountSats := 1000 }

def proceedOps (host : Txid) : List ExitOp := [.registerHost host.text 0, .advance host.text]

theorem getElem?_registeredDb_records (host : Txid) :
    (registeredDb host).vtxoExitRecords[vtxoExitRecordKey host.text 0]? =
      some { phase := .tagged, taggedAt := 0, hostTxid := host.text, amountSats := 1000 } := by
  simp [registeredDb]

theorem mempoolPass_answer (host : Txid) :
    mempoolPass.answer sampleCodec (registeredDb host)
      (snapshotWithRows [sampleRow host.text 0]) host.text =
      some { seen := true, confirmations := 0 } := by
  have hobserved : (registeredDb host).hostTxObservations[host.text]? =
      some (.freshlyRegistered 0) := by simp [registeredDb]
  unfold FinalityPass.answer
  rw [hostAnswer_of_observed _ _ _ _ _ _ hobserved (by decide)]
  simp [FinalityPass.parsedProbe, mempoolPass, mempoolProbe]

end Bitboard.Arkade
