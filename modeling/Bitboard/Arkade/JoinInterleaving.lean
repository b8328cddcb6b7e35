/-
# Joins side by side

The session keeps what it knows of the running join in single places: the context
that the registration hook reads, the flag that says a join is in flight, and the
flag that asks it to stop. Joins, cancels and reconciles all wait for the network,
so their parts interleave.

The module is the session as a machine whose steps are the atomic parts of these
operations, after `join.rs`, `batch_join_hooks.rs` and `reconcile.rs`. A retry is a
cancel and then a join, so its parts are among them. A join is in the client from
the moment the guard raises the flag until the guard is dropped, and may enter the
client more than once, as the two legs of a migration do.

If a join begins only while no other one runs, and the operator registers an intent
only while no reconcile is about to write an older list back, then the places are
as good as one for each join: an intent is stored as its own join has it, and the
end of a join and a cancel leave the intents of other joins alone.
-/

import Bitboard.Arkade.IntentActionEffects

namespace Bitboard.Arkade

open Bitboard.Lib

/-- A join between the begin and the end of `with_batch_join`. -/
structure RunningJoin where
  context : BatchJoinContext
  /-- The guard of `join_next_batch` is held. -/
  inClient : Bool
  /-- The intent that the operator has registered for this stay in the client. -/
  registered : Option RegisteredBatchIntent

/-- A cancel waits for joins in flight, or has left its wait with a record. The joins of that
moment are kept to speak about them. -/
inductive RunningCancel where
  | waiting
  | chosen (record : PendingBatchIntentRecord) (joinsThen : Nat → Option RunningJoin)

structure JoinSession where
  intents : IntentSession
  deductions : List PendingExitDeduction
  /-- `BATCH_JOIN_CONTEXT`. -/
  context : Option BatchJoinContext
  /-- `BATCH_JOIN_IN_FLIGHT`. -/
  inFlight : Bool
  /-- `BATCH_JOIN_ABORT`. -/
  abort : Bool
  joins : Nat → Option RunningJoin
  cancels : Nat → Option RunningCancel

inductive JoinOp where
  /-- `with_batch_join` starts under a free name. -/
  | beginJoin (name : Nat) (context : BatchJoinContext)
  | enterClient (name : Nat)
  /-- The operator registers the intent and the hook runs. -/
  | register (name : Nat) (intent : RegisteredBatchIntent) (registeredAt : Int)
  | leaveClient (name : Nat)
  | endJoin (name : Nat)
  /-- A write by which an operation records the outcome of its join. -/
  | write (op : IntentOp)
  | beginReconcile (name : Nat)
  | endReconcile (name : Nat) (answers : Nat → IntentAnswers)
  | beginCancel (name : Nat)
  /-- The cancel polls the flag and, if it is down, looks its record up. -/
  | leaveWait (name : Nat) (params : PendingBatchIntentActionParams)
  | endCancel (name : Nat) (answers : CancelAnswers)

def JoinSession.stored (session : JoinSession) : List PendingBatchIntentRecord :=
  session.intents.stored

def JoinSession.withStored (session : JoinSession) (stored : List PendingBatchIntentRecord) :
    JoinSession :=
  { session with intents := { session.intents with stored } }

/-- One atomic part of an operation. A part of an operation that does not run or is not that
far changes nothing. -/
def joinStep (session : JoinSession) : JoinOp → JoinSession
  | .beginJoin name context =>
    match session.joins name with
    | some _ => session
    | none =>
      { session with
        abort := false
        context := some context
        joins := Function.update session.joins name
          (some { context, inClient := false, registered := none }) }
  | .enterClient name =>
    match session.joins name with
    | none => session
    | some join =>
      if join.inClient then session
      else
        { session with
          inFlight := true
          joins := Function.update session.joins name
            (some { join with inClient := true, registered := none }) }
  | .register name intent registeredAt =>
    match session.joins name with
    | none => session
    | some join =>
      if join.inClient then
        { session.withStored (persistIntentFromJoinContext session.context session.stored
            intent registeredAt) with
          joins := Function.update session.joins name
            (some { join with registered := some intent }) }
      else session
  | .leaveClient name =>
    match session.joins name with
    | none => session
    | some join =>
      if join.inClient then
        { session with
          inFlight := false
          joins := Function.update session.joins name (some { join with inClient := false }) }
      else session
  | .endJoin name =>
    match session.joins name with
    | none => session
    | some join =>
      if join.inClient then session
      else
        { session.withStored (readPending (!session.inFlight) session.stored) with
          context := none
          joins := Function.update session.joins name none }
  | .write op => session.withStored (intentStep session.stored op)
  | .beginReconcile name =>
    { session with
      intents := intentSessionStep session.intents (.beginReconcile name !session.inFlight) }
  | .endReconcile name answers =>
    { session with intents := intentSessionStep session.intents (.endReconcile name answers) }
  | .beginCancel name =>
    match session.cancels name with
    | some _ => session
    | none =>
      { session with
        abort := true
        cancels := Function.update session.cancels name (some .waiting) }
  | .leaveWait name params =>
    match session.cancels name with
    | some .waiting =>
      if session.inFlight then session
      else
        { session with
          cancels := Function.update session.cancels name
            ((findExactPendingIntent session.stored params).map fun record =>
              .chosen record session.joins) }
    | _ => session
  | .endCancel name answers =>
    match session.cancels name with
    | some (.chosen record _) =>
      let after := (cancelRecord answers record
        { pendingBatchIntents := session.stored
          pendingExitDeductions := session.deductions }).2
      { session.withStored after.pendingBatchIntents with
        deductions := after.pendingExitDeductions
        cancels := Function.update session.cancels name none }
    | _ => session

def joinSessionRun (session : JoinSession) (ops : List JoinOp) : JoinSession :=
  run joinStep session ops

def idleSession (stored : List PendingBatchIntentRecord)
    (deductions : List PendingExitDeduction) : JoinSession where
  intents := { stored, reconciles := fun _ => none }
  deductions := deductions
  context := none
  inFlight := false
  abort := false
  joins := fun _ => none
  cancels := fun _ => none

/-- The step does not take the record out of the store: it neither writes nor cancels by an
input of it, and no lookup of a reconcile resolves it. -/
def SparesRecord (record : PendingBatchIntentRecord) (session : JoinSession) : JoinOp → Prop
  | .register _ intent _ =>
    ¬ SharesInput record (recordFromRegisteredIntent record.kind intent 0 0)
  | .write op => op.Spares record
  | .endReconcile _ answers => ∀ position, ¬ Resolved (answers position) record
  | .endCancel name _ => ∀ chosen joinsThen,
      session.cancels name = some (.chosen chosen joinsThen) → ¬ SharesOutpoint record chosen
  | _ => True

def CancelDeletes (answers : CancelAnswers) (record : PendingBatchIntentRecord) : Prop :=
  pendingBatchIntentResolution answers.resolution record = .ok .stillPending ∧
    isBoardingOnlyPendingRecord record = false ∧
    answers.deleteRegisteredIntent (parsedVtxoOutpoints record)
      (parsedOnchainOutpoints record) = .ok ()

/-- A registered intent is stored with the kind, amount and destination of the join that
registered it, and stays so until a step takes it out. -/
def StoresOwn (start : JoinSession) (ops : List JoinOp) : Prop :=
  ∀ first name intent registeredAt later rest,
    ops = first ++ .register name intent registeredAt :: (later ++ rest) →
    ∀ join, (joinSessionRun start first).joins name = some join → join.inClient = true →
    let record := joinRecord join.context intent registeredAt
    let registered := joinSessionRun start (first ++ [.register name intent registeredAt])
    record ∈ registered.stored ∧
      (RunMeets joinStep (SparesRecord record) registered later →
        Kept (joinSessionRun registered later).stored record)

/-- The end of a join leaves every processing intent as it is that another join, which is
still in the client, has registered. -/
def EndsApart (start : JoinSession) (ops : List JoinOp) : Prop :=
  ∀ first name rest, ops = first ++ .endJoin name :: rest →
    ∀ other join intent, other ≠ name →
    (joinSessionRun start first).joins other = some join → join.inClient = true →
    join.registered = some intent →
    ∀ record ∈ (joinSessionRun start first).stored, record.lifecyclePhase = .processing →
    SharesInput record (recordFromRegisteredIntent join.context.kind intent 0 0) →
    record ∈ (joinSessionRun start (first ++ [.endJoin name])).stored

/-- A cancel does not delete the operator's intent of a join that was in the client when the
cancel left its wait. -/
def CancelsApart (start : JoinSession) (ops : List JoinOp) : Prop :=
  ∀ first name answers rest, ops = first ++ .endCancel name answers :: rest →
    ∀ record joinsThen,
    (joinSessionRun start first).cancels name = some (.chosen record joinsThen) →
    CancelDeletes answers record →
    ∀ other join intent, joinsThen other = some join → join.inClient = true →
    join.registered = some intent →
    ¬ SharesInput record (recordFromRegisteredIntent join.context.kind intent 0 0)

/-- The joins of the run keep out of each other's way. -/
structure JoinsApart (start : JoinSession) (ops : List JoinOp) : Prop where
  storesOwn : StoresOwn start ops
  endsApart : EndsApart start ops
  cancelsApart : CancelsApart start ops

/-- A join begins only while no join runs, and an intent is registered only while no reconcile
is between its read and its write-back. -/
def OneAtATime (session : JoinSession) : JoinOp → Prop
  | .beginJoin _ _ => ∀ name, session.joins name = none
  | .register _ _ _ => ∀ name, session.intents.reconciles name = none
  | _ => True

structure SingleJoin (session : JoinSession) : Prop where
  alone : ∀ name other join otherJoin, session.joins name = some join →
    session.joins other = some otherJoin → name = other
  ownContext : ∀ name join, session.joins name = some join → session.context = some join.context
  ownFlag : ∀ name join, session.joins name = some join → join.inClient = session.inFlight
  lowered : (∀ name, session.joins name = none) → session.inFlight = false
  idleCancels : ∀ name record joinsThen,
    session.cancels name = some (.chosen record joinsThen) →
    ∀ other join, joinsThen other = some join → join.inClient = false

variable (stored : List PendingBatchIntentRecord)
variable (deductions : List PendingExitDeduction)

section SingleJoin

variable {session next : JoinSession} {op : JoinOp}

theorem singleJoin_idleSession : SingleJoin (idleSession stored deductions) where
  alone _ _ _ _ h := by cases h
  ownContext _ _ h := by cases h
  ownFlag _ _ h := by cases h
  lowered _ := rfl
  idleCancels _ _ _ h := by cases h

theorem SingleJoin.frame (hsingle : SingleJoin session) (hjoins : next.joins = session.joins)
    (hcontext : next.context = session.context) (hflag : next.inFlight = session.inFlight)
    (hcancels : next.cancels = session.cancels) : SingleJoin next where
  alone := by
    rw [hjoins]
    exact hsingle.alone
  ownContext := by
    rw [hjoins, hcontext]
    exact hsingle.ownContext
  ownFlag := by
    rw [hjoins, hflag]
    exact hsingle.ownFlag
  lowered := by
    rw [hjoins, hflag]
    exact hsingle.lowered
  idleCancels := by
    rw [hcancels]
    exact hsingle.idleCancels

variable {name : Nat}

section

variable (hsingle : SingleJoin session)
include hsingle

/-- A step after which one join runs. -/
theorem SingleJoin.only {running : RunningJoin} (hname : next.joins name = some running)
    (hothers : ∀ other, other ≠ name → next.joins other = none)
    (hcontext : next.context = some running.context) (hflag : running.inClient = next.inFlight)
    (hcancels : next.cancels = session.cancels) : SingleJoin next := by
  have honly : ∀ other join, next.joins other = some join → other = name ∧ join = running := by
    intro other join hother
    by_cases heq : other = name
    · rw [heq, hname] at hother
      exact ⟨heq, (Option.some.inj hother).symm⟩
    · rw [hothers other heq] at hother
      cases hother
  refine ⟨?_, ?_, ?_, ?_, ?_⟩
  · intro first second firstJoin secondJoin hfirst hsecond
    exact (honly first firstJoin hfirst).1.trans (honly second secondJoin hsecond).1.symm
  · intro other join hother
    rw [(honly other join hother).2, hcontext]
  · intro other join hother
    rw [(honly other join hother).2, hflag]
  · intro hnone
    rw [hnone name] at hname
    cases hname
  · rw [hcancels]
    exact hsingle.idleCancels

theorem SingleJoin.free {join : RunningJoin} (hjoin : session.joins name = some join) {other : Nat}
    (hne : other ≠ name) : session.joins other = none := by
  cases hother : session.joins other with
  | none => rfl
  | some otherJoin => exact absurd (hsingle.alone other name otherJoin join hother hjoin) hne

theorem SingleJoin.move {join moved : RunningJoin} (hjoin : session.joins name = some join)
    (hjoins : next.joins = Function.update session.joins name (some moved))
    (hcontext : next.context = session.context) (hsame : moved.context = join.context)
    (hflag : moved.inClient = next.inFlight) (hcancels : next.cancels = session.cancels) :
    SingleJoin next := by
  have hname : next.joins name = some moved := by rw [hjoins, Function.update_self]
  have hothers : ∀ other, other ≠ name → next.joins other = none := by
    intro other hne
    rw [hjoins, Function.update_of_ne hne]
    exact hsingle.free hjoin hne
  have howned : next.context = some moved.context := by
    rw [hcontext, hsame]
    exact hsingle.ownContext name join hjoin
  exact hsingle.only hname hothers howned hflag hcancels

theorem SingleJoin.none (hjoins : ∀ name, next.joins name = none) (hflag : next.inFlight = false)
    (hcancels : next.cancels = session.cancels) :
    SingleJoin next where
  alone name _ _ _ h := by
    rw [hjoins name] at h
    cases h
  ownContext name _ h := by
    rw [hjoins name] at h
    cases h
  ownFlag name _ h := by
    rw [hjoins name] at h
    cases h
  lowered _ := hflag
  idleCancels := by
    rw [hcancels]
    exact hsingle.idleCancels

/-- A step that chooses records only among idle joins. -/
theorem SingleJoin.choose (hjoins : next.joins = session.joins)
    (hcontext : next.context = session.context) (hflag : next.inFlight = session.inFlight)
    {moved : Option RunningCancel}
    (hcancels : next.cancels = Function.update session.cancels name moved)
    (hmoved : ∀ record joinsThen, moved = some (.chosen record joinsThen) →
      ∀ other join, joinsThen other = some join → join.inClient = false) : SingleJoin next where
  alone := by
    rw [hjoins]
    exact hsingle.alone
  ownContext := by
    rw [hjoins, hcontext]
    exact hsingle.ownContext
  ownFlag := by
    rw [hjoins, hflag]
    exact hsingle.ownFlag
  lowered := by
    rw [hjoins, hflag]
    exact hsingle.lowered
  idleCancels other record joinsThen hchosen := by
    rw [hcancels] at hchosen
    by_cases heq : other = name
    · rw [heq, Function.update_self] at hchosen
      exact hmoved record joinsThen hchosen
    · rw [Function.update_of_ne heq] at hchosen
      exact hsingle.idleCancels other record joinsThen hchosen

end

theorem singleJoin_joinStep (hguard : OneAtATime session op) (hsingle : SingleJoin session) :
    SingleJoin (joinStep session op) := by
  cases op with
  | beginJoin name context =>
    have hnone : ∀ name, session.joins name = none := hguard
    have hflag : session.inFlight = false := hsingle.lowered hnone
    simp only [joinStep, hnone name]
    refine SingleJoin.only hsingle (Function.update_self name _ _) ?_ rfl hflag.symm rfl
    intro other hne
    exact (Function.update_of_ne hne _ _).trans (hnone other)
  | enterClient name =>
    simp only [joinStep]
    cases hjoin : session.joins name with
    | none => exact hsingle
    | some join =>
      simp only
      split
      · exact hsingle
      · exact hsingle.move hjoin rfl rfl rfl rfl rfl
  | register name intent registeredAt =>
    simp only [joinStep]
    cases hjoin : session.joins name with
    | none => exact hsingle
    | some join =>
      simp only
      split
      · exact hsingle.move hjoin rfl rfl rfl (hsingle.ownFlag name join hjoin) rfl
      · exact hsingle
  | leaveClient name =>
    simp only [joinStep]
    cases hjoin : session.joins name with
    | none => exact hsingle
    | some join =>
      simp only
      split
      · exact hsingle.move hjoin rfl rfl rfl rfl rfl
      · exact hsingle
  | endJoin name =>
    simp only [joinStep]
    cases hjoin : session.joins name with
    | none => exact hsingle
    | some join =>
      simp only
      split
      · exact hsingle
      · rename_i hout
        have hflag : session.inFlight = false := by
          rw [← hsingle.ownFlag name join hjoin]
          exact Bool.eq_false_iff.mpr hout
        refine SingleJoin.none hsingle ?_ hflag rfl
        intro other
        by_cases heq : other = name
        · rw [heq]
          exact Function.update_self name _ _
        · exact (Function.update_of_ne heq _ _).trans (hsingle.free hjoin heq)
  | write | beginReconcile | endReconcile => exact hsingle.frame rfl rfl rfl rfl
  | beginCancel name =>
    simp only [joinStep]
    cases session.cancels name with
    | some running => exact hsingle
    | none =>
      refine SingleJoin.choose hsingle rfl rfl rfl rfl ?_
      intro record joinsThen hchosen
      cases hchosen
  | leaveWait name params =>
    simp only [joinStep]
    split
    · split
      · exact hsingle
      · rename_i hlowered
        refine SingleJoin.choose hsingle rfl rfl rfl rfl ?_
        intro record joinsThen hchosen other join hjoin
        obtain ⟨found, -, hthen⟩ := Option.map_eq_some_iff.mp hchosen
        cases hthen
        rw [hsingle.ownFlag other join hjoin]
        exact Bool.eq_false_iff.mpr hlowered
    · exact hsingle
  | endCancel name answers =>
    simp only [joinStep]
    split
    · refine SingleJoin.choose hsingle rfl rfl rfl rfl ?_
      intro record joinsThen hchosen
      cases hchosen
    · exact hsingle

end SingleJoin

/-! ## An intent that stays -/

/-- The intent is stored, and in every list that a reconcile has read. -/
structure KeptEverywhere (record : PendingBatchIntentRecord) (session : JoinSession) : Prop where
  stored : Kept session.stored record
  read : ∀ name pending, session.intents.reconciles name = some pending → Kept pending record

section Stays

variable {session next : JoinSession} {record : PendingBatchIntentRecord} {op : JoinOp}

theorem KeptEverywhere.read_update (hkept : KeptEverywhere record session) (name : Nat)
    {moved : Option (List PendingBatchIntentRecord)}
    (hmoved : ∀ pending, moved = some pending → Kept pending record) (other : Nat)
    (pending : List PendingBatchIntentRecord)
    (hother : Function.update session.intents.reconciles name moved other = some pending) :
    Kept pending record := by
  by_cases heq : other = name
  · rw [heq, Function.update_self] at hother
    exact hmoved pending hother
  · rw [Function.update_of_ne heq] at hother
    exact hkept.read other pending hother

theorem Kept.readPending {stored : List PendingBatchIntentRecord} (hkept : Kept stored record)
    (idle : Bool) : Kept (readPending idle stored) record := by
  cases idle with
  | false => exact hkept
  | true => exact hkept.map fun _ => .inr rfl

theorem SharesOutpoint.of_timeOut {chosen : PendingBatchIntentRecord}
    (hshares : SharesOutpoint (timeOut record) chosen) : SharesOutpoint record chosen := by
  simpa [SharesOutpoint] using hshares

section

variable (hkept : KeptEverywhere record session)
include hkept

theorem KeptEverywhere.beginReconcile (name : Nat) :
    KeptEverywhere record (joinStep session (.beginReconcile name)) := by
  have hread := hkept.stored.readPending (!session.inFlight)
  simp only [joinStep, intentSessionStep]
  cases hname : session.intents.reconciles name with
  | some pending => exact hkept
  | none =>
    simp only
    split
    · exact ⟨hread, hkept.read⟩
    · refine ⟨hread, hkept.read_update name ?_⟩
      intro pending hpending
      cases hpending
      exact hread

theorem KeptEverywhere.endReconcile (name : Nat) {answers : Nat → IntentAnswers}
    (hpending : ∀ position, ¬ Resolved (answers position) record) :
    KeptEverywhere record (joinStep session (.endReconcile name answers)) := by
  have hothers : ∀ other pending, Function.update session.intents.reconciles name none other =
      some pending → Kept pending record := by
    apply hkept.read_update name
    intro pending hnone
    cases hnone
  simp only [joinStep, intentSessionStep]
  cases hname : session.intents.reconciles name with
  | none => exact hkept
  | some pending =>
    simp only
    cases hloop : reconcileLoop answers 0 [] none pending with
    | error error => exact ⟨hkept.stored, hothers⟩
    | ok result =>
      have hremaining := (hkept.read name pending hname).reconcileLoop hpending hloop
      exact ⟨hremaining, hothers⟩

theorem KeptEverywhere.joinStep (hspares : SparesRecord record session op) :
    KeptEverywhere record (joinStep session op) := by
  cases op with
  | beginJoin | beginCancel =>
    simp only [Arkade.joinStep]
    split
    · exact hkept
    · exact ⟨hkept.stored, hkept.read⟩
  | enterClient name =>
    simp only [Arkade.joinStep]
    split
    · exact hkept
    · split
      · exact hkept
      · exact ⟨hkept.stored, hkept.read⟩
  | register name intent registeredAt =>
    have hpersisted : Kept (persistIntentFromJoinContext session.context session.stored intent
        registeredAt) record := by
      cases session.context with
      | none => exact hkept.stored
      | some context => exact hkept.stored.upsert hspares
    simp only [Arkade.joinStep]
    split
    · exact hkept
    · split
      · exact ⟨hpersisted, hkept.read⟩
      · exact hkept
  | leaveClient name =>
    simp only [Arkade.joinStep]
    split
    · exact hkept
    · split
      · exact ⟨hkept.stored, hkept.read⟩
      · exact hkept
  | endJoin name =>
    simp only [Arkade.joinStep]
    split
    · exact hkept
    · split
      · exact hkept
      · exact ⟨hkept.stored.readPending _, hkept.read⟩
  | write op => exact ⟨kept_intentStep hkept.stored hspares, hkept.read⟩
  | beginReconcile name => exact hkept.beginReconcile name
  | endReconcile name answers => exact hkept.endReconcile name hspares
  | leaveWait name params =>
    simp only [Arkade.joinStep]
    split
    · split
      · exact hkept
      · exact ⟨hkept.stored, hkept.read⟩
    · exact hkept
  | endCancel name answers =>
    simp only [Arkade.joinStep]
    split
    · rename_i chosen joinsThen hcancel
      have hapart : ¬ SharesOutpoint record chosen := hspares chosen joinsThen hcancel
      have hends := @cancelEnds_cancelRecord chosen
        { pendingBatchIntents := session.stored, pendingExitDeductions := session.deductions }
        answers
      have hafter : Kept (cancelRecord answers chosen
          { pendingBatchIntents := session.stored
            pendingExitDeductions := session.deductions }).2.pendingBatchIntents record := by
        cases hkept.stored with
        | inl hmem => exact .inl (hends.others hmem hapart)
        | inr hmem => exact .inr (hends.others hmem fun hshares => hapart hshares.of_timeOut)
      exact ⟨hafter, hkept.read⟩
    · exact hkept

end

end Stays

section Runs

variable {start : JoinSession} {ops : List JoinOp}

theorem singleJoin_at (hstart : SingleJoin start) (hmeets : RunMeets joinStep OneAtATime start ops)
    {first rest : List JoinOp} {op : JoinOp} (hops : ops = first ++ op :: rest) :
    SingleJoin (joinSessionRun start first) ∧ OneAtATime (joinSessionRun start first) op := by
  rw [hops] at hmeets
  obtain ⟨hfirst, hrest⟩ := runMeets_append.mp hmeets
  have hsingle := run_invariant_of_runMeets SingleJoin
    (fun _ _ hguard hstate => singleJoin_joinStep hguard hstate) hstart hfirst
  exact ⟨hsingle, hrest.1⟩

theorem joinSessionRun_concat (start : JoinSession) (first : List JoinOp) (op : JoinOp) :
    joinSessionRun start (first ++ [op]) = joinStep (joinSessionRun start first) op :=
  run_append joinStep start first [op]

theorem storesOwn_of_oneAtATime (hstart : SingleJoin start)
    (hmeets : RunMeets joinStep OneAtATime start ops) : StoresOwn start ops := by
  intro first name intent registeredAt later rest hops join hjoin hclient record registered
  obtain ⟨hsingle, hnoReconcile⟩ := singleJoin_at hstart hmeets hops
  have hcontext := hsingle.ownContext name join hjoin
  have hregistered : registered.stored =
      upsertPendingBatchIntent (joinSessionRun start first).stored record := by
    simp only [registered, joinSessionRun_concat, joinStep, hjoin, hclient, if_true, hcontext]
    rfl
  have hreconciles : ∀ name, registered.intents.reconciles name = none := by
    intro other
    have hsame : registered.intents.reconciles =
        (joinSessionRun start first).intents.reconciles := by
      simp only [registered, joinSessionRun_concat, joinStep, hjoin, hclient, if_true]
      rfl
    rw [hsame]
    exact hnoReconcile other
  have hmem : record ∈ registered.stored := by
    rw [hregistered]
    exact List.mem_append_right _ (List.mem_singleton_self record)
  refine ⟨hmem, ?_⟩
  intro hspares
  have hkept : KeptEverywhere record registered := by
    refine ⟨.inl hmem, ?_⟩
    intro other pending hother
    rw [hreconciles other] at hother
    cases hother
  have hstays := run_invariant_of_runMeets (KeptEverywhere record)
    (fun _ _ hstep hstate => hstate.joinStep hstep) hkept hspares
  exact hstays.stored

theorem endsApart_of_oneAtATime (hstart : SingleJoin start)
    (hmeets : RunMeets joinStep OneAtATime start ops) : EndsApart start ops := by
  intro first name rest hops other join intent hne hother _ _ record hrecord _ _
  obtain ⟨hsingle, -⟩ := singleJoin_at hstart hmeets hops
  have hfree : (joinSessionRun start first).joins name = none := hsingle.free hother hne.symm
  rw [joinSessionRun_concat]
  simp only [joinStep, hfree]
  exact hrecord

theorem cancelsApart_of_oneAtATime (hstart : SingleJoin start)
    (hmeets : RunMeets joinStep OneAtATime start ops) : CancelsApart start ops := by
  intro first name answers rest hops record joinsThen hchosen _ other join intent hjoin hclient
  obtain ⟨hsingle, -⟩ := singleJoin_at hstart hmeets hops
  have hidle := hsingle.idleCancels name record joinsThen hchosen other join hjoin
  rw [hclient] at hidle
  cases hidle

/-- In every run from an idle session in which joins run one at a time and no intent is
registered while a reconcile is under way, the joins keep out of each other's way. -/
theorem joinsApart_of_oneAtATime (ops : List JoinOp)
    (hmeets : RunMeets joinStep OneAtATime (idleSession stored deductions) ops) :
    JoinsApart (idleSession stored deductions) ops where
  storesOwn := storesOwn_of_oneAtATime (singleJoin_idleSession stored deductions) hmeets
  endsApart := endsApart_of_oneAtATime (singleJoin_idleSession stored deductions) hmeets
  cancelsApart := cancelsApart_of_oneAtATime (singleJoin_idleSession stored deductions) hmeets

end Runs

def exitContext : BatchJoinContext where
  kind := .collaborativeExit
  amountSats := 1000
  destinationAddress := some "address"

def renewContext : BatchJoinContext where
  kind := .renew
  amountSats := 2000
  destinationAddress := none

def exitIntent : RegisteredBatchIntent where
  intentId := "exit"
  onchainOutpoints := []
  vtxoOutpoints := [sampleInput]

def renewIntent : RegisteredBatchIntent where
  intentId := "renew"
  onchainOutpoints := []
  vtxoOutpoints := [otherInput]

def renewParams : PendingBatchIntentActionParams where
  onchainOutpoints := []
  vtxoOutpoints := [outpointRecord otherInput]

def joinsInTurn : List JoinOp :=
  [.beginJoin 0 exitContext, .enterClient 0, .register 0 exitIntent 1, .leaveClient 0,
    .endJoin 0, .beginJoin 1 renewContext, .enterClient 1, .register 1 renewIntent 2,
    .beginCancel 0, .leaveWait 0 renewParams, .leaveClient 1, .endJoin 1,
    .leaveWait 0 renewParams, .endCancel 0 deletedAnswers]

def joinsOverlapping : List JoinOp :=
  [.beginJoin 0 exitContext, .enterClient 0, .beginJoin 1 renewContext,
    .register 0 exitIntent 1, .enterClient 1, .register 1 renewIntent 2, .leaveClient 0,
    .endJoin 0, .beginCancel 0, .leaveWait 0 renewParams, .endCancel 0 deletedAnswers]

theorem joinsApart_joinsInTurn :
    RunMeets joinStep OneAtATime (idleSession [] []) joinsInTurn ∧
      JoinsApart (idleSession [] []) joinsInTurn := by
  have hmeets : RunMeets joinStep OneAtATime (idleSession [] []) joinsInTurn := by
    refine ⟨fun _ => rfl, trivial, fun _ => rfl, trivial, trivial, ?_, trivial, fun _ => rfl,
      trivial, trivial, trivial, trivial, trivial, trivial, trivial⟩
    intro name
    simp [joinStep, idleSession, JoinSession.withStored]
  exact ⟨hmeets, joinsApart_of_oneAtATime [] [] joinsInTurn hmeets⟩

/-- The overlapping run fails in all three ways: the exit is stored as a renewal, the end of
the exit times the renewal out that is still in the client, and the cancel deletes the
operator's intent of it. -/
theorem not_joinsApart_joinsOverlapping :
    ¬ StoresOwn (idleSession [] []) joinsOverlapping ∧
      ¬ EndsApart (idleSession [] []) joinsOverlapping ∧
      ¬ CancelsApart (idleSession [] []) joinsOverlapping := by
  refine ⟨?_, ?_, ?_⟩
  · intro hstores
    have hmem := (hstores [.beginJoin 0 exitContext, .enterClient 0, .beginJoin 1 renewContext]
      0 exitIntent 1 [] _ rfl _ rfl rfl).1
    revert hmem
    decide +kernel
  · intro hends
    have hmem := hends [.beginJoin 0 exitContext, .enterClient 0, .beginJoin 1 renewContext,
      .register 0 exitIntent 1, .enterClient 1, .register 1 renewIntent 2, .leaveClient 0]
      0 _ rfl 1 _ renewIntent (by decide) rfl rfl rfl (joinRecord renewContext renewIntent 2)
      (by decide +kernel) rfl (.inr ⟨outpointRecord otherInput, by decide, by decide⟩)
    revert hmem
    decide +kernel
  · intro hcancels
    apply hcancels [.beginJoin 0 exitContext, .enterClient 0, .beginJoin 1 renewContext,
      .register 0 exitIntent 1, .enterClient 1, .register 1 renewIntent 2, .leaveClient 0,
      .endJoin 0, .beginCancel 0, .leaveWait 0 renewParams] 0 deletedAnswers [] rfl
      (timeOut (joinRecord renewContext renewIntent 2)) _ rfl
      ⟨by decide +kernel, by decide +kernel, rfl⟩ 1 _ renewIntent rfl rfl rfl
    exact .inr ⟨outpointRecord otherInput, by decide, by decide⟩

end Bitboard.Arkade
