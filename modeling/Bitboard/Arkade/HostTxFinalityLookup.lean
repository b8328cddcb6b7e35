/-
# The finality pass, one host at a time

A pass of the finality loop over host `t` touches only the rows, the observation and
the records of `t`, and the hosts of a run are distinct. The whole function is
therefore given by its effect on each row (`reconcileHostTxFinalityState_snapshot`),
on each observation (`getElem?_reconcileHostTxFinalityState_observations`) and on each
record (`getElem?_reconcileHostTxFinalityState_records`). Everything later modules say
about the pass is read off these three equations.
-/

import Bitboard.Arkade.HostTxFinality
import Bitboard.Arkade.VtxoExitLookup
import Bitboard.Lib.LocalFold

namespace Bitboard.Arkade

open Bitboard.Lib
open VtxoExitPhase OffchainVtxoSnapshot

/-- `rewind_records_on_host` on the phase of a record of the host. -/
def rewoundPhase (target phase : VtxoExitPhase) : VtxoExitPhase :=
  if phase.isPreUnroll then target else phase

variable (confirmations : Nat)

/-- `apply_host_observation_to_vtxo_exit_records` on the phase of a record of the host, for a
transaction found on the network. -/
def observedPhase (unrolled : Bool) (phase : VtxoExitPhase) : VtxoExitPhase :=
  if unrolled then rewoundPhase .unrolled phase
  else if phase = .unrolled ∨ (phase.isPreUnroll ∧ phase < nextPhase true confirmations false)
  then nextPhase true confirmations false
  else phase

theorem nextPhase_found :
    nextPhase true confirmations false = .hostConfirmed ∨
      nextPhase true confirmations false = .hostRelayed := by
  unfold nextPhase
  by_cases h : stepReachedConfirmation confirmations = true <;> simp [h]

theorem rewindRecordOnHost_self (record : VtxoExitRecord) (target : VtxoExitPhase) :
    rewindRecordOnHost record.hostTxid target record =
      { record with phase := rewoundPhase target record.phase } := by
  unfold rewindRecordOnHost rewoundPhase
  by_cases h : record.phase.isPreUnroll = true <;> simp [h]

variable {hostTxid : String}

theorem rewindRecordOnHost_of_ne {record : VtxoExitRecord}
    (h : record.hostTxid ≠ hostTxid) (target : VtxoExitPhase) :
    rewindRecordOnHost hostTxid target record = record := by
  simp [rewindRecordOnHost, h]

theorem applyHostObservation_self (record : VtxoExitRecord) (confirmations : Nat)
    (unrolled : Bool) :
    applyHostObservation record.hostTxid true confirmations unrolled record =
      { record with phase := observedPhase confirmations unrolled record.phase } := by
  obtain ⟨phase, taggedAt, hostTxid, amountSats⟩ := record
  unfold applyHostObservation observedPhase rewoundPhase
  cases unrolled with
  | true =>
    cases phase <;> simp [isTerminal, isPreUnroll, nextPhase]
  | false =>
    rcases nextPhase_found confirmations with hnext | hnext <;> rw [hnext] <;>
      cases phase <;> simp [isTerminal, isPreUnroll, lt_iff, rank]

theorem applyHostObservation_of_ne {record : VtxoExitRecord}
    (h : record.hostTxid ≠ hostTxid) (relayed : Bool) (confirmations : Nat) (unrolled : Bool) :
    applyHostObservation hostTxid relayed confirmations unrolled record = record := by
  simp [applyHostObservation, h]

/-- The row after its host was probed with the given answer. -/
def stampedRow (stampable : Finset String) (answer : Option HostTxProbe)
    (row : VirtualTxOutPointRecord) : VirtualTxOutPointRecord :=
  match answer with
  | none => row
  | some answer =>
    if row.txid ∈ stampable then
      { row with isUnrolled := hostTxReachedFinality answer.confirmations }
    else row

/-- The observation after its host was probed, before deletions. -/
def probedObservation (now : Int) (answer : Option HostTxProbe)
    (record : HostTxObservationRecord) : HostTxObservationRecord :=
  match answer with
  | none => record
  | some answer =>
    if answer.found then
      { record with
        relayed := true
        confirmations := answer.confirmations
        lastProbedAt := now
        neverSeenProbes := 0 }
    else if record.relayed || stepReachedConfirmation record.confirmations then
      { record with relayed := false, confirmations := 0, lastProbedAt := now }
    else countAbsentProbe record now

/-- The probe exhausts the never-seen budget of the observation. -/
def neverSeenExpires (now : Int) (answer : Option HostTxProbe)
    (record : HostTxObservationRecord) : Bool :=
  match answer with
  | none => false
  | some answer =>
    !answer.found && !(record.relayed || stepReachedConfirmation record.confirmations) &&
      decide (hostTxNeverSeenMaxEligibleMisses ≤ (countAbsentProbe record now).neverSeenProbes)

/-- The phase of a record after its host was probed, before deletions. -/
def probedPhase (stampable : Bool) (answer : Option HostTxProbe)
    (observation : Option HostTxObservationRecord) (phase : VtxoExitPhase) : VtxoExitPhase :=
  match answer, observation with
  | none, _ => phase
  | some answer, some record =>
    if answer.found then
      observedPhase answer.confirmations
        (stampable && hostTxReachedFinality answer.confirmations)
        (if stepReachedConfirmation record.confirmations && answer.confirmations == 0 then
          rewoundPhase .hostRelayed phase
        else phase)
    else if record.relayed || stepReachedConfirmation record.confirmations then
      rewoundPhase .hostBroadcastAttempted phase
    else phase
  | some answer, none =>
    if stampable && answer.found then
      observedPhase answer.confirmations (hostTxReachedFinality answer.confirmations) phase
    else phase

def reconciledPhase (now : Int) (stampable : Bool) (answer : Option HostTxProbe)
    (observation : Option HostTxObservationRecord) (phase : VtxoExitPhase) : VtxoExitPhase :=
  if observation.any (neverSeenExpires now answer) then
    rewoundPhase .tagged (probedPhase stampable answer observation phase)
  else probedPhase stampable answer observation phase

variable {answer : Option HostTxProbe}

theorem reconciledPhase_of_kept {now : Int} {observation : Option HostTxObservationRecord}
    (h : observation.any (neverSeenExpires now answer) = false) (stampable : Bool)
    (phase : VtxoExitPhase) :
    reconciledPhase now stampable answer observation phase =
      probedPhase stampable answer observation phase := by
  simp [reconciledPhase, h]

variable {record : HostTxObservationRecord}

theorem probedPhase_of_expires {now : Int} (h : neverSeenExpires now answer record = true)
    (stampable : Bool) (phase : VtxoExitPhase) :
    probedPhase stampable answer (some record) phase = phase := by
  cases answer with
  | none => rfl
  | some answer =>
    simp only [neverSeenExpires, Bool.and_eq_true, Bool.not_eq_true'] at h
    simp [probedPhase, h.1.1, h.1.2]

theorem reconciledPhase_of_expires {now : Int} (h : neverSeenExpires now answer record = true)
    (stampable : Bool) {phase : VtxoExitPhase} (hpre : phase.isPreUnroll = true) :
    reconciledPhase now stampable answer (some record) phase = .tagged := by
  simp [reconciledPhase, h, probedPhase_of_expires h, rewoundPhase, hpre]

theorem ne_tagged_of_nextPhase : nextPhase true confirmations false ≠ .tagged := by
  rcases nextPhase_found confirmations with h | h <;> rw [h] <;> decide

theorem observedPhase_ne_tagged (unrolled : Bool) (phase : VtxoExitPhase) :
    observedPhase confirmations unrolled phase ≠ .tagged := by
  unfold observedPhase
  split
  · cases phase <;> decide
  · split
    · exact ne_tagged_of_nextPhase confirmations
    · rename_i hkept
      rintro rfl
      refine hkept (Or.inr ⟨rfl, ?_⟩)
      rcases nextPhase_found confirmations with h | h <;> rw [h] <;> decide

theorem probedPhase_ne_tagged (stampable : Bool) (answer : Option HostTxProbe)
    (observation : Option HostTxObservationRecord) {phase : VtxoExitPhase}
    (h : phase ≠ .tagged) : probedPhase stampable answer observation phase ≠ .tagged := by
  unfold probedPhase
  split
  · exact h
  · split
    · exact observedPhase_ne_tagged _ _ _
    · split
      · unfold rewoundPhase
        split
        · decide
        · exact h
      · exact h
  · split
    · exact observedPhase_ne_tagged _ _ _
    · exact h

section LoopBody

variable (stampable : Finset String) (now : Int) (probe : String → Option HostTxProbe)
  (state : FinalityState)

theorem stampStampableHost_fst (snapshot : OffchainVtxoSnapshot) (txid : String)
    (confirmations : Nat) :
    (stampStampableHost stampable snapshot txid confirmations).1 =
      (decide (txid ∈ stampable) && hostTxReachedFinality confirmations) := by
  unfold stampStampableHost stampHostIfFinal
  by_cases htxid : txid ∈ stampable <;>
    cases hfinal : hostTxReachedFinality confirmations <;> simp [htxid]

theorem stampStampableHost_snd (snapshot : OffchainVtxoSnapshot) (txid : String)
    (answer : HostTxProbe) :
    (stampStampableHost stampable snapshot txid answer.confirmations).2 =
      snapshot.mapRows fun row =>
        if row.txid = txid then stampedRow stampable (some answer) row else row := by
  unfold stampStampableHost
  by_cases htxid : txid ∈ stampable
  · unfold stampHostIfFinal
    cases hfinal : hostTxReachedFinality answer.confirmations <;>
      simp +contextual [clearVirtualTxVtxosUnrolledInSnapshot,
        markVirtualTxVtxosUnrolledInSnapshot, setVirtualTxVtxosUnrolled,
        mapRows, stampedRow, hfinal, htxid]
  · simp +contextual [htxid, stampedRow, mapRows]

variable (txid : String)

attribute [local simp] reconcileHostTx probedObservation in
/-- Everything one pass of the loop can do. -/
theorem reconcileHostTx_cases :
    (probe txid = none ∧ reconcileHostTx stampable now probe state txid = state) ∨
    ∃ answer, probe txid = some answer ∧
      ((∃ record, state.observations[txid]? = some record ∧ answer.found = true ∧
          reconcileHostTx stampable now probe state txid =
            { state with
              snapshot := (stampStampableHost stampable state.snapshot txid
                answer.confirmations).2
              observations := state.observations.insert txid
                (probedObservation now (some answer) record)
              vtxoExitRecords := applyHostObservationToVtxoExitRecords
                (if stepReachedConfirmation record.confirmations && answer.confirmations == 0
                then rewindRecordsOnHost state.vtxoExitRecords txid .hostRelayed
                else state.vtxoExitRecords) txid true answer.confirmations
                (decide (txid ∈ stampable) && hostTxReachedFinality answer.confirmations) }) ∨
        (∃ record, state.observations[txid]? = some record ∧ answer.found = false ∧
          (record.relayed || stepReachedConfirmation record.confirmations) = true ∧
          reconcileHostTx stampable now probe state txid =
            { state with
              snapshot := (stampStampableHost stampable state.snapshot txid
                answer.confirmations).2
              observations := state.observations.insert txid
                (probedObservation now (some answer) record)
              vtxoExitRecords :=
                rewindRecordsOnHost state.vtxoExitRecords txid .hostBroadcastAttempted }) ∨
        (∃ record, state.observations[txid]? = some record ∧ answer.found = false ∧
          (record.relayed || stepReachedConfirmation record.confirmations) = false ∧
          reconcileHostTx stampable now probe state txid =
            { state with
              snapshot := (stampStampableHost stampable state.snapshot txid
                answer.confirmations).2
              observations := state.observations.insert txid
                (probedObservation now (some answer) record)
              deleteTxids := if neverSeenExpires now (some answer) record then
                state.deleteTxids ++ [txid] else state.deleteTxids }) ∨
        (state.observations[txid]? = none ∧
          reconcileHostTx stampable now probe state txid =
            { state with
              snapshot := (stampStampableHost stampable state.snapshot txid
                answer.confirmations).2
              vtxoExitRecords := if decide (txid ∈ stampable) && answer.found then
                applyHostObservationToVtxoExitRecords state.vtxoExitRecords txid true
                  answer.confirmations (hostTxReachedFinality answer.confirmations)
                else state.vtxoExitRecords })) := by
  cases hprobe : probe txid with
  | none => exact Or.inl ⟨rfl, by simp [hprobe]⟩
  | some answer =>
    refine Or.inr ⟨answer, rfl, ?_⟩
    cases hobs : state.observations[txid]? with
    | none =>
      refine Or.inr (Or.inr (Or.inr ⟨rfl, ?_⟩))
      by_cases h : (decide (txid ∈ stampable) && answer.found) = true
      · have hparts := h
        rw [Bool.and_eq_true, decide_eq_true_eq] at hparts
        simp [hprobe, hobs, stampStampableHost_fst, hparts.1, hparts.2]
      · simp only [reconcileHostTx, hprobe, hobs, h, if_false, Bool.false_eq_true]
    | some record =>
      by_cases hfound : answer.found = true
      · refine Or.inl ⟨record, rfl, hfound, ?_⟩
        -- With no confirmation the transaction was found because it was seen.
        have hseen : answer.confirmations = 0 → answer.seen = true := by
          intro hzero
          simpa [HostTxProbe.found, hzero] using hfound
        by_cases hrewind : stepReachedConfirmation record.confirmations = true ∧
            answer.confirmations = 0
        · simp [hprobe, hobs, hfound, stampStampableHost_fst, hrewind, hseen hrewind.2]
        · simp [hprobe, hobs, hfound, stampStampableHost_fst, hrewind]
      · refine Or.inr ?_
        by_cases hlost : (record.relayed || stepReachedConfirmation record.confirmations) = true
        · refine Or.inl ⟨record, rfl, by simpa using hfound, hlost, ?_⟩
          simp [hprobe, hobs, hfound, hlost]
        · refine Or.inr (Or.inl ⟨record, rfl, by simpa using hfound, by simpa using hlost, ?_⟩)
          simp [hprobe, hobs, hfound, hlost, applyAbsentProbe, neverSeenExpires]

theorem reconcileHostTx_snapshot :
    (reconcileHostTx stampable now probe state txid).snapshot =
      state.snapshot.mapRows fun row =>
        if row.txid = txid then stampedRow stampable (probe txid) row else row := by
  rcases reconcileHostTx_cases stampable now probe state txid with ⟨hprobe, hstep⟩ |
    ⟨answer, hprobe, ⟨_, -, -, hstep⟩ | ⟨_, -, -, -, hstep⟩ | ⟨_, -, -, -, hstep⟩ | ⟨-, hstep⟩⟩
  · simp [hstep, hprobe, stampedRow, mapRows]
  all_goals rw [hstep, hprobe, ← stampStampableHost_snd]

theorem getElem?_reconcileHostTx_observations (other : String) :
    (reconcileHostTx stampable now probe state txid).observations[other]? =
      if txid = other then state.observations[other]?.map (probedObservation now (probe txid))
      else state.observations[other]? := by
  rcases reconcileHostTx_cases stampable now probe state txid with ⟨hprobe, hstep⟩ |
    ⟨answer, hprobe, ⟨record, hobs, -, hstep⟩ | ⟨record, hobs, -, -, hstep⟩ |
      ⟨record, hobs, -, -, hstep⟩ | ⟨hobs, hstep⟩⟩
  · have hid : probedObservation now none = id := rfl
    simp [hstep, hprobe, hid]
  all_goals
    rw [hstep, hprobe]
    by_cases htxid : txid = other
    · subst htxid
      simp [hobs]
    · simp [htxid]

theorem mem_reconcileHostTx_deleteTxids (other : String) :
    other ∈ (reconcileHostTx stampable now probe state txid).deleteTxids ↔
      other ∈ state.deleteTxids ∨ (txid = other ∧
        state.observations[other]?.any (neverSeenExpires now (probe txid)) = true) := by
  by_cases htxid : txid = other
  · subst htxid
    rcases reconcileHostTx_cases stampable now probe state txid with ⟨hprobe, hstep⟩ |
      ⟨answer, hprobe, ⟨record, hobs, hfound, hstep⟩ | ⟨record, hobs, -, hlost, hstep⟩ |
        ⟨record, hobs, -, -, hstep⟩ | ⟨hobs, hstep⟩⟩ <;> rw [hstep, hprobe]
    · have hnone : neverSeenExpires now none = fun _ => false := rfl
      simp [hnone]
    · simp [hobs, neverSeenExpires, hfound]
    · simp [hobs, neverSeenExpires, hlost]
    · rw [hobs]
      by_cases hexpires : neverSeenExpires now (some answer) record = true <;> simp [hexpires]
    · simp [hobs]
  · rcases reconcileHostTx_cases stampable now probe state txid with ⟨-, hstep⟩ |
      ⟨answer, -, ⟨_, -, -, hstep⟩ | ⟨_, -, -, -, hstep⟩ | ⟨record, -, -, -, hstep⟩ |
        ⟨-, hstep⟩⟩ <;> rw [hstep]
    · simp [htxid]
    · simp [htxid]
    · simp [htxid]
    · by_cases hexpires : neverSeenExpires now (some answer) record = true <;>
        simp [hexpires, htxid, Ne.symm htxid]
    · simp [htxid]

/-- What one probe does to a record: a new phase on its own host, nothing elsewhere. -/
theorem getElem?_reconcileHostTx_records (key : String) :
    (reconcileHostTx stampable now probe state txid).vtxoExitRecords[key]? =
      state.vtxoExitRecords[key]?.map fun record =>
        if record.hostTxid = txid then
          { record with
            phase := probedPhase (decide (txid ∈ stampable)) (probe txid)
              state.observations[txid]? record.phase }
        else record := by
  have happly : ∀ record : VtxoExitRecord, record.hostTxid = txid → ∀ confirmations unrolled,
      applyHostObservation txid true confirmations unrolled record =
        { record with phase := observedPhase confirmations unrolled record.phase } := by
    rintro record rfl confirmations unrolled
    exact applyHostObservation_self record confirmations unrolled
  have hrewind : ∀ record : VtxoExitRecord, record.hostTxid = txid → ∀ target,
      rewindRecordOnHost txid target record =
        { record with phase := rewoundPhase target record.phase } := by
    rintro record rfl target
    exact rewindRecordOnHost_self record target
  rcases reconcileHostTx_cases stampable now probe state txid with ⟨hprobe, hstep⟩ |
    ⟨answer, hprobe, ⟨record, hobs, hfound, hstep⟩ | ⟨record, hobs, hfound, hlost, hstep⟩ |
      ⟨record, hobs, hfound, hlost, hstep⟩ | ⟨hobs, hstep⟩⟩
  · simp [hstep, hprobe, probedPhase]
  · rw [hstep, hprobe, hobs, getElem?_applyHostObservationToVtxoExitRecords]
    by_cases hcond :
        (stepReachedConfirmation record.confirmations && answer.confirmations == 0) = true
    · rw [if_pos hcond, getElem?_rewindRecordsOnHost, Option.map_map]
      congr 1
      funext exitRecord
      by_cases hhost : exitRecord.hostTxid = txid
      · simp only [Function.comp_apply, hrewind exitRecord hhost, if_pos hhost]
        rw [happly { exitRecord with phase := rewoundPhase .hostRelayed exitRecord.phase } hhost]
        simp only [probedPhase, hfound, hcond, if_true]
      · simp only [Function.comp_apply, rewindRecordOnHost_of_ne hhost,
          applyHostObservation_of_ne hhost, if_neg hhost]
    · rw [if_neg hcond]
      congr 1
      funext exitRecord
      by_cases hhost : exitRecord.hostTxid = txid
      · simp only [happly exitRecord hhost, if_pos hhost, probedPhase, hfound, hcond, if_true,
          if_false, Bool.false_eq_true]
      · simp only [applyHostObservation_of_ne hhost, if_neg hhost]
  · rw [hstep, hprobe, hobs, getElem?_rewindRecordsOnHost]
    congr 1
    funext exitRecord
    by_cases hhost : exitRecord.hostTxid = txid
    · simp only [hrewind exitRecord hhost, if_pos hhost, probedPhase, hfound, hlost, if_true,
        if_false, Bool.false_eq_true]
    · simp only [rewindRecordOnHost_of_ne hhost, if_neg hhost]
  · rw [hstep, hprobe, hobs]
    simp [probedPhase, hfound, hlost]
  · rw [hstep, hprobe, hobs]
    by_cases hcond : (decide (txid ∈ stampable) && answer.found) = true
    · simp only [hcond, if_true, getElem?_applyHostObservationToVtxoExitRecords]
      congr 1
      funext exitRecord
      by_cases hhost : exitRecord.hostTxid = txid
      · simp only [happly exitRecord hhost, if_pos hhost, probedPhase, hcond, if_true]
      · simp only [applyHostObservation_of_ne hhost, if_neg hhost]
    · simp [hcond, probedPhase]

end LoopBody

/-! ## The loop -/

section Loop

variable (stampable : Finset String) (now : Int) (probe : String → Option HostTxProbe)

/-- The answer for a host in a pass over `txids`: hosts outside the pass are not probed. -/
def answerIn (txids : List String) (probe : String → Option HostTxProbe) (txid : String) :
    Option HostTxProbe :=
  if txid ∈ txids then probe txid else none

@[simp]
theorem stampedRow_none (row : VirtualTxOutPointRecord) : stampedRow stampable none row = row :=
  rfl

@[simp]
theorem stampedRow_txid (answer : Option HostTxProbe) (row : VirtualTxOutPointRecord) :
    (stampedRow stampable answer row).txid = row.txid := by
  cases answer with
  | none => rfl
  | some answer =>
    unfold stampedRow
    dsimp only
    split <;> rfl

variable {txids : List String}

theorem foldl_reconcileHostTx_snapshot (hnodup : txids.Nodup) (state : FinalityState) :
    (txids.foldl (reconcileHostTx stampable now probe) state).snapshot =
      state.snapshot.mapRows fun row =>
        stampedRow stampable (answerIn txids probe row.txid) row := by
  induction txids generalizing state with
  | nil => simp [answerIn, mapRows]
  | cons txid txids ih =>
    rw [List.nodup_cons] at hnodup
    rw [List.foldl_cons, ih hnodup.2, reconcileHostTx_snapshot, mapRows_mapRows]
    congr 1
    funext row
    by_cases htxid : row.txid = txid
    · subst htxid
      simp [answerIn, hnodup.1]
    · simp [answerIn, htxid]

/-- What the loop keeps for one host and one key: the host's observation, the record at the
key if it is on the host, and whether the host is to be deleted. -/
def hostView (txid key : String) (state : FinalityState) :
    Option HostTxObservationRecord × Option VtxoExitRecord × Prop :=
  (state.observations[txid]?,
    state.vtxoExitRecords[key]?.filter fun record => record.hostTxid == txid,
    txid ∈ state.deleteTxids)

/-- The effect of the pass over its own host on what the loop keeps for it. -/
def hostViewStep (txid : String)
    (view : Option HostTxObservationRecord × Option VtxoExitRecord × Prop) :
    Option HostTxObservationRecord × Option VtxoExitRecord × Prop :=
  (view.1.map (probedObservation now (probe txid)),
    view.2.1.map fun record => { record with
      phase := probedPhase (decide (txid ∈ stampable)) (probe txid) view.1 record.phase },
    view.2.2 ∨ view.1.any (neverSeenExpires now (probe txid)) = true)

theorem hostView_reconcileHostTx_self (txid key : String) (state : FinalityState) :
    hostView txid key (reconcileHostTx stampable now probe state txid) =
      hostViewStep stampable now probe txid (hostView txid key state) := by
  unfold hostView hostViewStep
  refine Prod.ext ?_ (Prod.ext ?_ ?_)
  · simp [getElem?_reconcileHostTx_observations]
  · rw [getElem?_reconcileHostTx_records]
    cases state.vtxoExitRecords[key]? with
    | none => rfl
    | some record =>
      by_cases hhost : record.hostTxid = txid <;> simp [hhost, Option.filter_some]
  · simp [mem_reconcileHostTx_deleteTxids]

theorem hostView_reconcileHostTx_of_ne {txid other : String} (hne : other ≠ txid) (key : String)
    (state : FinalityState) :
    hostView txid key (reconcileHostTx stampable now probe state other) =
      hostView txid key state := by
  unfold hostView
  refine Prod.ext ?_ (Prod.ext ?_ ?_)
  · simp [getElem?_reconcileHostTx_observations, hne]
  · rw [getElem?_reconcileHostTx_records]
    cases state.vtxoExitRecords[key]? with
    | none => rfl
    | some record =>
      by_cases hhost : record.hostTxid = other
      · simp [hhost, hne, Option.filter_some]
      · simp [hhost]
  · simp [mem_reconcileHostTx_deleteTxids, hne]

theorem hostView_foldl_reconcileHostTx (hnodup : txids.Nodup)
    (txid key : String) (state : FinalityState) :
    hostView txid key (txids.foldl (reconcileHostTx stampable now probe) state) =
      hostViewStep stampable now (answerIn txids probe) txid (hostView txid key state) := by
  rw [foldl_project (fun _ => True) (hostViewStep stampable now probe txid)
    (fun _ _ _ => trivial)
    (fun state _ => hostView_reconcileHostTx_self stampable now probe txid key state)
    (fun state other _ hne => hostView_reconcileHostTx_of_ne stampable now probe hne key state)
    hnodup trivial]
  by_cases hmem : txid ∈ txids
  · simp [hmem, hostViewStep, answerIn]
  · have hobs : probedObservation now none = id := rfl
    have hexpires : neverSeenExpires now none = fun _ => false := rfl
    simp [hmem, hostViewStep, answerIn, hobs, hexpires, probedPhase]

theorem getElem?_foldl_reconcileHostTx_observations
    (hnodup : txids.Nodup) (txid : String) (state : FinalityState) :
    (txids.foldl (reconcileHostTx stampable now probe) state).observations[txid]? =
      state.observations[txid]?.map (probedObservation now (answerIn txids probe txid)) :=
  congrArg Prod.fst (hostView_foldl_reconcileHostTx stampable now probe hnodup txid "" state)

theorem mem_foldl_reconcileHostTx_deleteTxids (hnodup : txids.Nodup)
    (txid : String) (state : FinalityState) :
    txid ∈ (txids.foldl (reconcileHostTx stampable now probe) state).deleteTxids ↔
      txid ∈ state.deleteTxids ∨
        state.observations[txid]?.any (neverSeenExpires now (answerIn txids probe txid)) = true :=
  iff_of_eq (congrArg (fun view => view.2.2)
    (hostView_foldl_reconcileHostTx stampable now probe hnodup txid "" state))

theorem getElem?_foldl_reconcileHostTx_records (hnodup : txids.Nodup)
    (key : String) (state : FinalityState) :
    (txids.foldl (reconcileHostTx stampable now probe) state).vtxoExitRecords[key]? =
      state.vtxoExitRecords[key]?.map fun record => { record with
        phase := probedPhase (decide (record.hostTxid ∈ stampable))
          (answerIn txids probe record.hostTxid) state.observations[record.hostTxid]?
          record.phase } := by
  have hview := fun txid => congrArg (fun view => view.2.1)
    (hostView_foldl_reconcileHostTx stampable now probe hnodup txid key state)
  simp only [hostView, hostViewStep] at hview
  cases hrecord : state.vtxoExitRecords[key]? with
  | none =>
    -- A record at this key would show up in the view of its own host.
    rw [hrecord] at hview
    cases hafter :
      (txids.foldl (reconcileHostTx stampable now probe) state).vtxoExitRecords[key]? with
    | none => rfl
    | some record =>
      have := hview record.hostTxid
      simp [hafter] at this
  | some record =>
    have hself := hview record.hostTxid
    rw [hrecord] at hself
    simp only [Option.filter_some, beq_self_eq_true, if_true, Option.map_some] at hself
    rw [Option.filter_eq_some_iff] at hself
    exact hself.1

end Loop

theorem foldl_deleteNeverSeenHost_snapshot (txids : List String) (state : FinalityState) :
    (txids.foldl deleteNeverSeenHost state).snapshot = state.snapshot := by
  induction txids generalizing state with
  | nil => rfl
  | cons txid txids ih => exact ih (deleteNeverSeenHost state txid)

theorem foldl_deleteNeverSeenHost_deleteTxids (txids : List String) (state : FinalityState) :
    (txids.foldl deleteNeverSeenHost state).deleteTxids = state.deleteTxids := by
  induction txids generalizing state with
  | nil => rfl
  | cons txid txids ih => exact ih (deleteNeverSeenHost state txid)

theorem getElem?_foldl_deleteNeverSeenHost_observations (txids : List String)
    (state : FinalityState) (txid : String) :
    (txids.foldl deleteNeverSeenHost state).observations[txid]? =
      if txid ∈ txids then none else state.observations[txid]? := by
  induction txids generalizing state with
  | nil => simp
  | cons deleted txids ih =>
    rw [List.foldl_cons, ih]
    by_cases hmem : txid ∈ txids
    · simp [hmem]
    · by_cases hhere : deleted = txid
      · simp [hmem, hhere, deleteNeverSeenHost]
      · simp [hmem, hhere, Ne.symm hhere, deleteNeverSeenHost]

theorem rewoundPhase_tagged_idem (phase : VtxoExitPhase) :
    rewoundPhase .tagged (rewoundPhase .tagged phase) = rewoundPhase .tagged phase := by
  cases phase <;> rfl

theorem getElem?_foldl_deleteNeverSeenHost_records (txids : List String)
    (state : FinalityState) (key : String) :
    (txids.foldl deleteNeverSeenHost state).vtxoExitRecords[key]? =
      state.vtxoExitRecords[key]?.map fun record =>
        if record.hostTxid ∈ txids then
          { record with phase := rewoundPhase .tagged record.phase }
        else record := by
  induction txids generalizing state with
  | nil => simp
  | cons deleted txids ih =>
    rw [List.foldl_cons, ih]
    simp only [deleteNeverSeenHost, getElem?_rewindRecordsOnHost, Option.map_map]
    congr 1
    funext record
    by_cases hhere : record.hostTxid = deleted
    · subst hhere
      by_cases hmem : record.hostTxid ∈ txids <;>
        simp [rewindRecordOnHost_self, hmem, rewoundPhase_tagged_idem]
    · simp [rewindRecordOnHost_of_ne hhere, hhere]

/-- The pass neither finishes a record nor reopens one. -/
theorem isTerminal_reconciledPhase (now : Int) (stampable : Bool) (answer : Option HostTxProbe)
    (observation : Option HostTxObservationRecord) (phase : VtxoExitPhase) :
    (reconciledPhase now stampable answer observation phase).isTerminal = phase.isTerminal := by
  have hrewound : ∀ target phase : VtxoExitPhase, target.isTerminal = false →
      (rewoundPhase target phase).isTerminal = phase.isTerminal := by
    intro target phase htarget
    cases phase with
    | tagged | hostBroadcastAttempted | hostRelayed | hostConfirmed => exact htarget
    | unrolled | completeReady | exited | fundingLost => rfl
  have hobserved : ∀ confirmations unrolled phase,
      (observedPhase confirmations unrolled phase).isTerminal = phase.isTerminal := by
    intro confirmations unrolled phase
    unfold observedPhase
    split
    · exact hrewound _ _ rfl
    · split
      · rename_i hcond
        rcases nextPhase_found confirmations with hnext | hnext <;> rw [hnext] <;>
          rcases hcond with hcond | hcond <;> cases phase <;>
          simp [isTerminal, isPreUnroll] at hcond ⊢
      · rfl
  have hprobed : (probedPhase stampable answer observation phase).isTerminal =
      phase.isTerminal := by
    unfold probedPhase
    split
    · rfl
    · split
      · rw [hobserved]
        split
        · exact hrewound _ _ rfl
        · rfl
      · split
        · exact hrewound _ _ rfl
        · rfl
    · split
      · exact hobserved _ _ _
      · rfl
  unfold reconciledPhase
  split
  · rw [hrewound _ _ rfl, hprobed]
  · exact hprobed

theorem observationAllRecordsTerminal_iff {records : VtxoExitRecords} :
    observationAllRecordsTerminal records hostTxid = true ↔
      (∃ (key : String) (record : VtxoExitRecord),
          records[key]? = some record ∧ record.hostTxid = hostTxid) ∧
        ∀ (key : String) (record : VtxoExitRecord), records[key]? = some record →
          record.hostTxid = hostTxid → record.phase.isTerminal = true := by
  unfold observationAllRecordsTerminal
  simp only [Bool.and_eq_true, Bool.not_eq_true', List.isEmpty_eq_false_iff_exists_mem,
    List.mem_filter, BTreeMap.mem_vals_iff, beq_iff_eq, List.all_eq_true]
  constructor
  · rintro ⟨⟨record, ⟨key, hrecord⟩, hhost⟩, hall⟩
    exact ⟨⟨key, record, hrecord, hhost⟩, fun key record hrecord hhost =>
      hall record ⟨⟨key, hrecord⟩, hhost⟩⟩
  · rintro ⟨⟨key, record, hrecord, hhost⟩, hall⟩
    refine ⟨⟨record, ⟨key, hrecord⟩, hhost⟩, ?_⟩
    rintro record ⟨⟨key, hrecord⟩, hhost⟩
    exact hall key record hrecord hhost

section Pass

variable (codec : Codec) (snapshot : OffchainVtxoSnapshot) (observations : HostTxObservations)
  (pending : List PendingExitDeductionRecord) (records : VtxoExitRecords) (now : Int)
  (probe : String → Option HostTxProbe)

/-- The answer the pass uses for a host: hosts outside `host_txids_to_probe` have none. -/
def hostAnswer (txid : String) : Option HostTxProbe :=
  answerIn (hostTxidsToProbe codec snapshot observations pending records).toList probe txid

theorem reconcileHostTxFinalityState_snapshot :
    (reconcileHostTxFinalityState codec snapshot observations pending records now
      probe).snapshot =
      snapshot.mapRows fun row => stampedRow (stampableHosts codec snapshot)
        (hostAnswer codec snapshot observations pending records probe row.txid) row := by
  simp only [reconcileHostTxFinalityState, foldl_deleteNeverSeenHost_snapshot]
  exact foldl_reconcileHostTx_snapshot _ now probe (BTreeSet.nodup_toList _) _

theorem mem_reconcileHostTxFinalityState_deleteTxids (txid : String) :
    txid ∈ (reconcileHostTxFinalityState codec snapshot observations pending records now
      probe).deleteTxids ↔
      observations[txid]?.any (neverSeenExpires now
        (hostAnswer codec snapshot observations pending records probe txid)) = true := by
  simp only [reconcileHostTxFinalityState, foldl_deleteNeverSeenHost_deleteTxids]
  rw [mem_foldl_reconcileHostTx_deleteTxids _ now probe (BTreeSet.nodup_toList _)]
  simp [hostAnswer]

theorem getElem?_reconcileHostTxFinalityState_records (key : String) :
    (reconcileHostTxFinalityState codec snapshot observations pending records now
      probe).vtxoExitRecords[key]? =
      records[key]?.map fun record => { record with
        phase := reconciledPhase now (decide (record.hostTxid ∈ stampableHosts codec snapshot))
          (hostAnswer codec snapshot observations pending records probe record.hostTxid)
          observations[record.hostTxid]? record.phase } := by
  have hnodup := BTreeSet.nodup_toList
    (hostTxidsToProbe codec snapshot observations pending records)
  simp only [reconcileHostTxFinalityState, getElem?_foldl_deleteNeverSeenHost_records,
    getElem?_foldl_reconcileHostTx_records _ now probe hnodup, Option.map_map,
    mem_foldl_reconcileHostTx_deleteTxids _ now probe hnodup, List.not_mem_nil, false_or]
  congr 1
  funext record
  simp only [Function.comp_apply, reconciledPhase, hostAnswer]
  split <;> rename_i hexpires <;> simp [hexpires]

theorem observationAllSnapshotVoutsSpent_mapRows
    {update : VirtualTxOutPointRecord → VirtualTxOutPointRecord}
    (htxid : ∀ row, (update row).txid = row.txid)
    (hspent : ∀ row, (update row).isSpent = row.isSpent) (txid : String) :
    observationAllSnapshotVoutsSpent (snapshot.mapRows update) txid =
      observationAllSnapshotVoutsSpent snapshot txid := by
  simp only [observationAllSnapshotVoutsSpent, mapRows, List.filter_map,
    Function.comp_def, htxid, List.isEmpty_map, List.all_map, hspent]

theorem stampedRow_isSpent (stampable : Finset String) (answer : Option HostTxProbe)
    (row : VirtualTxOutPointRecord) :
    (stampedRow stampable answer row).isSpent = row.isSpent := by
  unfold stampedRow
  split
  · rfl
  · split <;> rfl

theorem observationAllRecordsTerminal_reconcile (txid : String) :
    observationAllRecordsTerminal (reconcileHostTxFinalityState codec snapshot observations
      pending records now probe).vtxoExitRecords txid =
      observationAllRecordsTerminal records txid := by
  rw [Bool.eq_iff_iff, observationAllRecordsTerminal_iff, observationAllRecordsTerminal_iff]
  simp only [getElem?_reconcileHostTxFinalityState_records, Option.map_eq_some_iff]
  constructor
  · rintro ⟨⟨key, _, ⟨record, hrecord, rfl⟩, hhost⟩, hall⟩
    refine ⟨⟨key, record, hrecord, hhost⟩, fun key record hrecord hhost => ?_⟩
    rw [← isTerminal_reconciledPhase now]
    exact hall key _ ⟨record, hrecord, rfl⟩ hhost
  · rintro ⟨⟨key, record, hrecord, hhost⟩, hall⟩
    refine ⟨⟨key, _, ⟨record, hrecord, rfl⟩, hhost⟩, ?_⟩
    rintro key _ ⟨record, hrecord, rfl⟩ hhost
    rw [isTerminal_reconciledPhase]
    exact hall key record hrecord hhost

/-- An observation is updated by the probe, unless the never-seen budget, spent rows or
finished records drop it. -/
theorem getElem?_reconcileHostTxFinalityState_observations (txid : String) :
    (reconcileHostTxFinalityState codec snapshot observations pending records now
      probe).observations[txid]? =
      observations[txid]?.bind fun record =>
        if neverSeenExpires now (hostAnswer codec snapshot observations pending records probe txid)
            record ∨ observationAllSnapshotVoutsSpent snapshot txid = true ∨
            observationAllRecordsTerminal records txid = true then none
        else some (probedObservation now
          (hostAnswer codec snapshot observations pending records probe txid) record) := by
  have hnodup := BTreeSet.nodup_toList
    (hostTxidsToProbe codec snapshot observations pending records)
  have hterminal := observationAllRecordsTerminal_reconcile codec snapshot observations pending
    records now probe txid
  have hspent : observationAllSnapshotVoutsSpent (reconcileHostTxFinalityState codec snapshot
      observations pending records now probe).snapshot txid =
      observationAllSnapshotVoutsSpent snapshot txid := by
    rw [reconcileHostTxFinalityState_snapshot]
    exact observationAllSnapshotVoutsSpent_mapRows snapshot
      (fun row => stampedRow_txid _ _ row) (fun row => stampedRow_isSpent _ _ row) txid
  simp only [reconcileHostTxFinalityState] at hterminal hspent
  simp only [reconcileHostTxFinalityState, BTreeMap.getElem?_filter_eq, hterminal, hspent,
    getElem?_foldl_deleteNeverSeenHost_observations,
    mem_foldl_reconcileHostTx_deleteTxids _ now probe hnodup, List.not_mem_nil, false_or,
    getElem?_foldl_reconcileHostTx_observations _ now probe hnodup, hostAnswer]
  cases hrecord : observations[txid]? with
  | none => simp
  | some record =>
    cases observationAllSnapshotVoutsSpent snapshot txid <;>
      cases observationAllRecordsTerminal records txid <;>
      by_cases hexpires : neverSeenExpires now (answerIn
        (hostTxidsToProbe codec snapshot observations pending records).toList probe txid)
        record = true <;>
      simp [hexpires, Option.filter_some]

theorem hostAnswer_of_observed {txid : String} (hrecord : observations[txid]? = some record)
    (hconfirmations : record.confirmations < unilateralExitHostTxConfirmations) :
    hostAnswer codec snapshot observations pending records probe txid = probe txid := by
  have hmem : txid ∈ (hostTxidsToProbe codec snapshot observations pending records).toList := by
    rw [Std.ExtTreeSet.mem_toList, hostTxidsToProbe, Std.ExtTreeSet.mem_ofList,
      List.contains_iff_mem, List.mem_append, List.mem_append]
    refine Or.inl (Or.inl (List.mem_map.mpr ⟨(txid, record), ?_, rfl⟩))
    exact List.mem_filter.mpr ⟨BTreeMap.mem_toList_iff.mpr hrecord, decide_eq_true hconfirmations⟩
  simp [hostAnswer, answerIn, hmem]

theorem hostAnswer_eq_none_of_final {txid : String} (hrecord : observations[txid]? = some record)
    (hfinal : unilateralExitHostTxConfirmations ≤ record.confirmations) :
    hostAnswer codec snapshot observations pending records probe txid = none := by
  have hnot : txid ∉
      (hostTxidsToProbe codec snapshot observations pending records).toList := by
    rw [Std.ExtTreeSet.mem_toList, hostTxidsToProbe, Std.ExtTreeSet.mem_ofList,
      List.contains_iff_mem, List.mem_append, List.mem_append]
    rintro ((hobserved | hrecorded) | hpending)
    · obtain ⟨⟨host, other⟩, hmem, rfl⟩ := List.mem_map.mp hobserved
      rw [List.mem_filter, BTreeMap.mem_toList_iff, hrecord, decide_eq_true_eq] at hmem
      cases hmem.1
      exact absurd hmem.2 (Nat.not_lt.mpr hfinal)
    · have hhost := (List.mem_filter.mp hrecorded).2
      simp only [hostNotFinal, hrecord, decide_eq_true_eq] at hhost
      exact absurd hhost (Nat.not_lt.mpr hfinal)
    · have hhost := (List.mem_filter.mp hpending).2
      rw [Bool.not_eq_true', BTreeMap.contains_eq_false_iff, hrecord] at hhost
      cases hhost
  simp [hostAnswer, answerIn, hnot]

end Pass

end Bitboard.Arkade
