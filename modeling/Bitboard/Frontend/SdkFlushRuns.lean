/-
# Whose JSON a flush writes

The slot and the scope of the worker agree as long as opens and closes do not overlap:
a close empties the slot before the scope goes, and an open sets the scope before the
slot is filled. A flush may still export the JSON of one session under the stamp of
another, if it was slow to start. It is then caught by its second check, since the
close that would bring its own scope back waits for the flush in flight.
-/

import Bitboard.Frontend.SdkFlush

namespace Bitboard.Frontend

open Bitboard.Lib

/-- The session was opened for the wallet and the account of the scope. -/
def OpenedFor (worker : ArkadeWorker) (session : Nat) (scope : ArkadePersistScope) : Prop :=
  ∃ found, worker.sessions session = some found ∧ found.openedFor = scope

/-- Every JSON written for a wallet and an account was exported from a session that was
opened for them. -/
def WritesInScope (worker : ArkadeWorker) : Prop :=
  ∀ write ∈ worker.writes, OpenedFor worker write.session write.scope

/-- An open or a close begins only while no other one is under way. -/
def NoOverlap (worker : ArkadeWorker) : WorkerOp → Prop
  | .closeSession _ _ => ∀ name, worker.lifecycles name = none
  | .openSession _ _ _ => ∀ name, worker.lifecycles name = none
  | _ => True

/-- The flush holds `inFlightPersist`. -/
def FlushStage.InFlight : FlushStage → Prop
  | .exporting => True
  | .exported _ _ => True
  | .persisting _ _ => True
  | .persisted => True
  | _ => False

def LifecycleStage.AwaitsFlush (flush : Nat) : LifecycleStage → Prop
  | .flushing awaited => awaited = flush
  | .persisting awaited => awaited = flush
  | _ => False

/-- The stages of an open in which the old session is gone and the new one is not there. -/
def LifecycleStage.BetweenSessions : LifecycleStage → Prop
  | .cleared => True
  | .loading => True
  | .opening => True
  | _ => False

def InFlightUnder (worker : ArkadeWorker) (flush : Nat) (scope : ArkadePersistScope) : Prop :=
  worker.inFlightPersist = some flush ∧
    ∃ call, worker.flushes flush = some call ∧ call.stampedScope = some scope

def WaitsFor (worker : ArkadeWorker) (name flush : Nat) : Prop :=
  ∃ call, worker.flushes name = some call ∧ call.stage = .waiting flush

/-- Scope and slot agree, up to a flush that its second check will stop. -/
structure ScopeInv (worker : ArkadeWorker) : Prop where
  inFlight_iff : ∀ name call, worker.flushes name = some call →
    (call.stage.InFlight ↔ worker.inFlightPersist = some name)
  inFlight_called : ∀ name, worker.inFlightPersist = some name → worker.flushes name ≠ none
  sole : ∀ first second, worker.lifecycles first ≠ none → worker.lifecycles second ≠ none →
    first = second
  slot_scope : ∀ session params, worker.activeSession = some session →
    worker.activeSessionParams = some params → OpenedFor worker session params.persistScope
  /-- After a failed open the slot is filled and the scope is not. -/
  slot_noScope : ∀ session flush scope, worker.activeSession = some session →
    worker.activeSessionParams = none → InFlightUnder worker flush scope →
      OpenedFor worker session scope
  slot_empty : ∀ name call, worker.lifecycles name = some call →
    call.stage.BetweenSessions → worker.activeSession = none
  opening_scope : ∀ name params, worker.lifecycles name = some ⟨some params, .opening⟩ →
    worker.activeSessionParams = some params.session
  /-- A lifecycle call that awaits its flush is behind every flush with a foreign stamp. -/
  awaits : ∀ name call own, worker.lifecycles name = some call → call.stage.AwaitsFlush own →
    ∀ params flush scope, worker.activeSessionParams = some params →
      InFlightUnder worker flush scope → scope = params.persistScope ∨ WaitsFor worker own flush
  exported_scope : ∀ name call session json scope, worker.flushes name = some call →
    call.stage = .exported session json → call.stampedScope = some scope →
      OpenedFor worker session scope ∨
        (worker.activeSession ≠ none ∧
          ∃ params, worker.activeSessionParams = some params ∧ params.persistScope ≠ scope)
  persisting_scope : ∀ name call session json scope, worker.flushes name = some call →
    call.stage = .persisting session json → call.stampedScope = some scope →
      OpenedFor worker session scope
  writes : WritesInScope worker

attribute [local simp] idleWorker in
theorem scopeInv_idleWorker (payloads : Nat → List StoredArkadeAccount) :
    ScopeInv (idleWorker payloads) where
  inFlight_iff := by simp
  inFlight_called := by simp
  sole := by simp
  slot_scope := by simp
  slot_noScope := by simp
  slot_empty := by simp
  opening_scope := by simp
  awaits := by simp
  exported_scope := by simp
  persisting_scope := by simp
  writes := by simp [WritesInScope]

variable {session own : Nat}

section FlushMoves

variable {before after : ArkadeWorker} {name : Nat} {call : FlushCall}

theorem flushes_of_update
    (hflushes : after.flushes = Function.update before.flushes name (some call))
    {other : Nat} {found : FlushCall} (hfound : after.flushes other = some found) :
    (other = name ∧ found = call) ∨ (other ≠ name ∧ before.flushes other = some found) := by
  rw [hflushes, Function.update_apply] at hfound
  split at hfound
  · next heq =>
      exact Or.inl ⟨heq, (Option.some.inj hfound).symm⟩
  · next hne =>
      exact Or.inr ⟨hne, hfound⟩

theorem OpenedFor.of_sessions_eq (hsessions : after.sessions = before.sessions)
    {scope : ArkadePersistScope} (h : OpenedFor before session scope) :
    OpenedFor after session scope := by
  unfold OpenedFor
  rw [hsessions]
  exact h

theorem WaitsFor.of_update
    (hflushes : after.flushes = Function.update before.flushes name (some call)) {flush : Nat}
    (hne : own ≠ name) (h : WaitsFor before own flush) : WaitsFor after own flush := by
  unfold WaitsFor
  rw [hflushes, Function.update_of_ne hne]
  exact h

section

variable (h : ScopeInv before)
include h

theorem ScopeInv.not_waitsFor_self (hinFlight : before.inFlightPersist = some name) (flush : Nat) :
    ¬ WaitsFor before name flush := by
  intro ⟨found, hfound, hstage⟩
  have hstages := (h.inFlight_iff name found hfound).mpr hinFlight
  rw [hstage] at hstages
  exact hstages

/-- A single flush moves. It may take the promise if that is free, keep it or give it up. -/
theorem ScopeInv.flushMove
    (hflushes : after.flushes = Function.update before.flushes name (some call))
    (hparams : after.activeSessionParams = before.activeSessionParams)
    (hslot : after.activeSession = before.activeSession)
    (hsessions : after.sessions = before.sessions)
    (hlifecycles : after.lifecycles = before.lifecycles)
    (hholds : call.stage.InFlight ↔ after.inFlightPersist = some name)
    (hothers : ∀ other, other ≠ name →
      (after.inFlightPersist = some other ↔ before.inFlightPersist = some other))
    (hstamp : call.stage.InFlight → ∀ scope, call.stampedScope = some scope →
      InFlightUnder before name scope ∨
      ∃ params, before.activeSessionParams = some params ∧ scope = params.persistScope)
    (hwaits : ∀ flush, flush ≠ name → before.inFlightPersist = some flush →
      call.stage = .waiting flush ∨ ¬ WaitsFor before name flush)
    (hexported : ∀ session json scope, call.stage = .exported session json →
      call.stampedScope = some scope → OpenedFor before session scope ∨
      (before.activeSession ≠ none ∧
      ∃ params, before.activeSessionParams = some params ∧ params.persistScope ≠ scope))
    (hpersisting : ∀ session json scope, call.stage = .persisting session json →
      call.stampedScope = some scope → OpenedFor before session scope)
    (hwrites : WritesInScope after) : ScopeInv after := by
  have hunder : ∀ flush scope, InFlightUnder after flush scope →
      InFlightUnder before flush scope ∨
        (flush = name ∧
          ∃ params, before.activeSessionParams = some params ∧ scope = params.persistScope) := by
    intro flush scope ⟨hinFlight, found, hfound, hscope⟩
    rcases flushes_of_update hflushes hfound with ⟨rfl, rfl⟩ | ⟨hne, hfound⟩
    · rcases hstamp (hholds.mpr hinFlight) scope hscope with hold | hnew
      · exact Or.inl hold
      · exact Or.inr ⟨rfl, hnew⟩
    · exact Or.inl ⟨(hothers flush hne).mp hinFlight, found, hfound, hscope⟩
  constructor
  case inFlight_iff =>
    intro other found hfound
    rcases flushes_of_update hflushes hfound with ⟨rfl, rfl⟩ | ⟨hne, hfound⟩
    · exact hholds
    · exact (h.inFlight_iff other found hfound).trans (hothers other hne).symm
  case inFlight_called =>
    intro other hinFlight
    rw [hflushes]
    by_cases hne : other = name
    · subst hne
      simp
    · rw [Function.update_of_ne hne]
      exact h.inFlight_called other ((hothers other hne).mp hinFlight)
  case sole =>
    rw [hlifecycles]
    exact h.sole
  case slot_scope =>
    intro session params hsession hactive
    rw [hslot] at hsession
    rw [hparams] at hactive
    exact (h.slot_scope session params hsession hactive).of_sessions_eq hsessions
  case slot_noScope =>
    intro session flush scope hsession hactive hinFlight
    rw [hslot] at hsession
    rw [hparams] at hactive
    rcases hunder flush scope hinFlight with hold | ⟨-, params, hsome, -⟩
    · exact (h.slot_noScope session flush scope hsession hactive hold).of_sessions_eq hsessions
    · rw [hactive] at hsome
      cases hsome
  case slot_empty =>
    rw [hlifecycles, hslot]
    exact h.slot_empty
  case opening_scope =>
    rw [hlifecycles, hparams]
    exact h.opening_scope
  case awaits =>
    intro lifecycle running own hrunning hawaits params flush scope hactive hinFlight
    rw [hlifecycles] at hrunning
    rw [hparams] at hactive
    rcases hunder flush scope hinFlight with hold | ⟨-, active, hsome, hscope⟩
    · rcases h.awaits lifecycle running own hrunning hawaits params flush scope hactive hold
        with hscope | hwaiting
      · exact Or.inl hscope
      · by_cases hown : own = name
        · subst hown
          by_cases hflush : flush = own
          · subst hflush
            exact absurd hwaiting (h.not_waitsFor_self hold.1 flush)
          · rcases hwaits flush hflush hold.1 with hstage | hnot
            · exact Or.inr ⟨call, by rw [hflushes, Function.update_self], hstage⟩
            · exact absurd hwaiting hnot
        · exact Or.inr (hwaiting.of_update hflushes hown)
    · rw [hactive, Option.some.injEq] at hsome
      rw [hsome]
      exact Or.inl hscope
  case exported_scope =>
    intro other found session json scope hfound hstage hscope
    have hbefore : OpenedFor before session scope ∨
        (before.activeSession ≠ none ∧
          ∃ params, before.activeSessionParams = some params ∧ params.persistScope ≠ scope) := by
      rcases flushes_of_update hflushes hfound with ⟨rfl, rfl⟩ | ⟨-, hfound⟩
      · exact hexported session json scope hstage hscope
      · exact h.exported_scope other found session json scope hfound hstage hscope
    rw [hslot, hparams]
    exact hbefore.imp_left fun hopened => hopened.of_sessions_eq hsessions
  case persisting_scope =>
    intro other found session json scope hfound hstage hscope
    rcases flushes_of_update hflushes hfound with ⟨rfl, rfl⟩ | ⟨-, hfound⟩
    · exact (hpersisting session json scope hstage hscope).of_sessions_eq hsessions
    · exact (h.persisting_scope other found session json scope hfound hstage
        hscope).of_sessions_eq hsessions
  case writes => exact hwrites

theorem ScopeInv.setFlush (hidle : before.inFlightPersist ≠ some name)
    (hstage : ¬ call.stage.InFlight) (hwaits : ∀ flush, before.inFlightPersist = some flush →
      call.stage = .waiting flush ∨ ¬ WaitsFor before name flush) :
    ScopeInv (before.setFlush name call) := by
  refine h.flushMove rfl rfl rfl rfl rfl ?_ ?_ ?_ ?_ ?_ ?_ ?_
  · exact ⟨fun hin => absurd hin hstage, fun hheld => absurd hheld hidle⟩
  · intro other _
    exact Iff.rfl
  · intro hin
    exact absurd hin hstage
  · intro flush _ hheld
    exact hwaits flush hheld
  · intro session json scope hexported
    rw [hexported] at hstage
    exact absurd trivial hstage
  · intro session json scope hpersisting
    rw [hpersisting] at hstage
    exact absurd trivial hstage
  · exact h.writes

/-- The entry of a flush that is new or has done with waiting. -/
theorem ScopeInv.enterFlush (hidle : before.inFlightPersist ≠ some name)
    (hwaits : ∀ flush, before.inFlightPersist = some flush → ¬ WaitsFor before name flush) :
    ScopeInv (before.enterFlush name call) := by
  unfold ArkadeWorker.enterFlush
  split
  · next hmatches =>
      obtain ⟨params, hactive, hstamped⟩ :=
        stampedPersistScopeStillMatchesOpenSession_iff.mp hmatches
      split
      · next awaited hheld =>
          refine h.setFlush hidle (fun hin => hin) ?_
          intro flush hflush
          rw [hheld] at hflush
          cases hflush
          exact Or.inl rfl
      · next hfree =>
          refine h.flushMove rfl rfl rfl rfl rfl ?_ ?_ ?_ ?_ ?_ ?_ ?_
          · exact iff_of_true trivial rfl
          · intro other hne
            simp [hfree, hne.symm]
          · intro _ scope hscope
            rw [hstamped, Option.some.injEq] at hscope
            exact Or.inr ⟨params, hactive, hscope.symm⟩
          · intro flush _ hheld
            exact Or.inr (hwaits flush hheld)
          · intro session json scope hexported
            cases hexported
          · intro session json scope hpersisting
            cases hpersisting
          · exact h.writes
  · refine h.setFlush hidle (fun hin => hin) ?_
    intro flush hheld
    exact Or.inr (hwaits flush hheld)

/-- The flush in flight keeps the promise. -/
theorem ScopeInv.progress {stage : FlushStage} {payloads : Nat → List StoredArkadeAccount}
    {writes : List SdkWrite} (hcall : before.flushes name = some call)
    (hheld : before.inFlightPersist = some name) (hstage : stage.InFlight)
    (hexported : ∀ session json scope, stage = .exported session json →
      call.stampedScope = some scope → OpenedFor before session scope ∨
      (before.activeSession ≠ none ∧
      ∃ params, before.activeSessionParams = some params ∧ params.persistScope ≠ scope))
    (hpersisting : ∀ session json scope, stage = .persisting session json →
      call.stampedScope = some scope → OpenedFor before session scope)
    (hwrites : ∀ write ∈ writes, OpenedFor before write.session write.scope) :
    ScopeInv { before.setFlush name { call with stage } with payloads, writes } := by
  refine h.flushMove rfl rfl rfl rfl rfl ?_ ?_ ?_ ?_ ?_ ?_ ?_
  · exact iff_of_true hstage hheld
  · intro other _
    exact Iff.rfl
  · intro _ scope hscope
    exact Or.inl ⟨hheld, call, hcall, hscope⟩
  · intro flush hne hflush
    rw [hheld, Option.some.injEq] at hflush
    exact absurd hflush.symm hne
  · exact hexported
  · exact hpersisting
  · exact hwrites

theorem ScopeInv.endFlush {stage : FlushStage} (hheld : before.inFlightPersist = some name)
    (hstage : ¬ stage.InFlight) : ScopeInv (before.endFlush name call stage) := by
  refine h.flushMove rfl rfl rfl rfl rfl ?_ ?_ ?_ ?_ ?_ ?_ ?_
  · exact iff_of_false hstage (by simp [ArkadeWorker.endFlush])
  · intro other hne
    simp [ArkadeWorker.endFlush, hheld, hne.symm]
  · intro hin
    exact absurd hin hstage
  · intro flush hne hflush
    rw [hheld, Option.some.injEq] at hflush
    exact absurd hflush.symm hne
  · intro session json scope hexported
    rw [show stage = .exported session json from hexported] at hstage
    exact absurd trivial hstage
  · intro session json scope hpersisting
    rw [show stage = .persisting session json from hpersisting] at hstage
    exact absurd trivial hstage
  · exact h.writes

end

end FlushMoves

variable {json : SdkPersistenceJson} {ok : Bool}

section FlushSteps

variable {worker : ArkadeWorker} {name : Nat}

theorem ScopeInv.callFlush (h : ScopeInv worker) (hnew : worker.flushes name = none)
    (stamped : Option ArkadePersistScope) : ScopeInv (worker.callFlush name stamped) := by
  apply h.enterFlush
  · intro hheld
    exact h.inFlight_called name hheld hnew
  · intro flush _ ⟨found, hfound, _⟩
    rw [hnew] at hfound
    cases hfound

theorem ScopeInv.waited (h : ScopeInv worker) {call : FlushCall} {awaited : Nat}
    (hcall : worker.flushes name = some call) (hstage : call.stage = .waiting awaited)
    (hended : ((worker.flushes awaited).bind fun other => other.stage.result) = some ok) :
    worker.inFlightPersist ≠ some name ∧
      ∀ flush, worker.inFlightPersist = some flush → ¬ WaitsFor worker name flush := by
  constructor
  · intro hheld
    have hin := (h.inFlight_iff name call hcall).mpr hheld
    rw [hstage] at hin
    exact hin
  · intro flush hheld ⟨found, hfound, hwaiting⟩
    rw [hcall, Option.some.injEq] at hfound
    rw [← hfound, hstage, FlushStage.waiting.injEq] at hwaiting
    subst hwaiting
    rw [Option.bind_eq_some_iff] at hended
    obtain ⟨other, hother, hresult⟩ := hended
    have hin := (h.inFlight_iff awaited other hother).mpr hheld
    cases hcase : other.stage <;> rw [hcase] at hin hresult <;> simp_all [FlushStage.InFlight,
      FlushStage.result]

theorem ScopeInv.resumeFlush (h : ScopeInv worker) :
    ScopeInv (worker.step (.resumeFlush name)) := by
  simp only [ArkadeWorker.step]
  split
  · next stamped awaited openAtCall hcall =>
      split
      · exact h
      · next hended =>
          have hwaited := h.waited hcall rfl hended
          exact h.enterFlush hwaited.1 hwaited.2
      · next hended =>
          have hwaited := h.waited hcall rfl hended
          refine h.setFlush hwaited.1 (fun hin => hin) ?_
          intro flush hheld
          exact Or.inr (hwaited.2 flush hheld)
  · exact h

theorem openNow_eq_some_iff :
    worker.openNow = some (session, json) ↔
      worker.activeSession = some session ∧
        ∃ found, worker.sessions session = some found ∧ found.db = json := by
  unfold ArkadeWorker.openNow
  cases hslot : worker.activeSession with
  | none => simp
  | some active =>
    simp only [Option.map_eq_some_iff, Prod.mk.injEq, Option.some.injEq]
    constructor
    · intro ⟨found, hfound, hactive, hdb⟩
      subst hactive
      exact ⟨rfl, found, hfound, hdb⟩
    · intro ⟨hactive, found, hfound, hdb⟩
      subst hactive
      exact ⟨found, hfound, rfl, hdb⟩

/-- The exported JSON is that of the stamped scope, or a foreign scope is open. -/
theorem ScopeInv.exportSdk (h : ScopeInv worker) : ScopeInv (worker.step (.exportSdk name)) := by
  simp only [ArkadeWorker.step]
  split
  · next stamped openAtCall hcall =>
      have hheld := (h.inFlight_iff name _ hcall).mp trivial
      split
      · exact h.endFlush hheld (fun hin => hin)
      · next session json hopen =>
          obtain ⟨hslot, found, hfound, -⟩ := openNow_eq_some_iff.mp hopen
          refine h.progress hcall hheld trivial ?_ ?_ ?_
          · intro exported content scope hstage hscope
            cases hstage
            cases hactive : worker.activeSessionParams with
            | none =>
              have hunder : InFlightUnder worker name scope := ⟨hheld, _, hcall, hscope⟩
              exact Or.inl (h.slot_noScope session name scope hslot hactive hunder)
            | some params =>
              by_cases hsame : params.persistScope = scope
              · rw [← hsame]
                exact Or.inl (h.slot_scope session params hslot hactive)
              · right
                rw [hslot]
                exact ⟨Option.some_ne_none session, params, rfl, hsame⟩
          · intro exported content scope hstage
            cases hstage
          · exact h.writes
  · exact h

/-- The second check stops a JSON of a foreign session. -/
theorem ScopeInv.checkScope (h : ScopeInv worker) (configured : Bool) :
    ScopeInv (worker.step (.checkScope name configured)) := by
  simp only [ArkadeWorker.step]
  split
  · next stamped session json openAtCall hcall =>
      have hheld := (h.inFlight_iff name _ hcall).mp trivial
      split
      · next hpassed =>
          rw [Bool.and_eq_true, stampedPersistScopeStillMatchesOpenSession_iff] at hpassed
          obtain ⟨⟨params, hactive, hstamped⟩, -⟩ := hpassed
          refine h.progress hcall hheld trivial ?_ ?_ ?_
          · intro exported content scope hstage
            cases hstage
          · intro exported content scope hstage hscope
            cases hstage
            have hopened := h.exported_scope name _ session json scope hcall rfl hscope
            rcases hopened with hopened | ⟨-, foreign, hforeign, hne⟩
            · exact hopened
            · have hscope : stamped = some scope := hscope
              rw [hactive, Option.some.injEq] at hforeign
              rw [hstamped, Option.some.injEq, hforeign] at hscope
              exact absurd hscope hne
          · exact h.writes
      · exact h.endFlush hheld (fun hin => hin)
  · exact h

theorem ScopeInv.writeSdk (h : ScopeInv worker) (ok : Bool) :
    ScopeInv (worker.step (.writeSdk name ok)) := by
  simp only [ArkadeWorker.step]
  split
  · next scope session json openAtCall hcall =>
      have hheld := (h.inFlight_iff name _ hcall).mp trivial
      split
      · refine h.progress hcall hheld trivial ?_ ?_ ?_
        · intro exported content target hstage
          cases hstage
        · intro exported content target hstage
          cases hstage
        · intro write hwrite
          rcases List.mem_cons.mp hwrite with rfl | hwrite
          · exact h.persisting_scope name _ session json scope hcall rfl rfl
          · exact h.writes write hwrite
      · exact h.endFlush hheld (fun hin => hin)
  · exact h

theorem ScopeInv.settleFlush (h : ScopeInv worker) :
    ScopeInv (worker.step (.settleFlush name)) := by
  simp only [ArkadeWorker.step]
  split
  · next stamped openAtCall hcall =>
      exact h.endFlush ((h.inFlight_iff name _ hcall).mp trivial) (fun hin => hin)
  · exact h

end FlushSteps

/-! ## Moves of an open or a close -/

section LifecycleMoves

variable {before after : ArkadeWorker} {name : Nat} {next : Option LifecycleCall}

/-- The call under this name is the only one that may be under way. -/
def OnlyLifecycle (worker : ArkadeWorker) (name : Nat) : Prop :=
  ∀ other, other ≠ name → worker.lifecycles other = none

theorem ScopeInv.onlyLifecycle (h : ScopeInv before) {call : LifecycleCall}
    (hcall : before.lifecycles name = some call) : OnlyLifecycle before name := by
  intro other hne
  by_contra hother
  apply hne
  apply h.sole other name hother
  rw [hcall]
  exact Option.some_ne_none call

theorem lifecycles_of_update (honly : OnlyLifecycle before name)
    (hlifecycles : after.lifecycles = Function.update before.lifecycles name next)
    {other : Nat} {found : LifecycleCall} (hfound : after.lifecycles other = some found) :
    other = name ∧ next = some found := by
  rw [hlifecycles, Function.update_apply] at hfound
  split at hfound
  · next heq => exact ⟨heq, hfound⟩
  · next hne =>
      rw [honly other hne] at hfound
      cases hfound

theorem sole_of_update (honly : OnlyLifecycle before name)
    (hlifecycles : after.lifecycles = Function.update before.lifecycles name next)
    (first second : Nat) (hfirst : after.lifecycles first ≠ none)
    (hsecond : after.lifecycles second ≠ none) : first = second := by
  obtain ⟨call, hcall⟩ := Option.ne_none_iff_exists'.mp hfirst
  obtain ⟨other, hother⟩ := Option.ne_none_iff_exists'.mp hsecond
  rw [(lifecycles_of_update honly hlifecycles hcall).1,
    (lifecycles_of_update honly hlifecycles hother).1]

/-- Only the stage of the call changes, and a session may be in the slot. -/
theorem ScopeInv.setLifecycle (h : ScopeInv before) (honly : OnlyLifecycle before name)
    (hbetween : ∀ call, next = some call → ¬ call.stage.BetweenSessions)
    (hawaits : ∀ call own, next = some call → call.stage.AwaitsFlush own →
      ∀ params flush scope, before.activeSessionParams = some params →
        InFlightUnder before flush scope →
          scope = params.persistScope ∨ WaitsFor before own flush) :
    ScopeInv (before.setLifecycle name next) := { h with
  sole := sole_of_update honly rfl
  slot_empty := by
    intro other call hcall hstage
    exact absurd hstage (hbetween call (lifecycles_of_update honly rfl hcall).2)
  opening_scope := by
    intro other params hcall
    exact absurd trivial (hbetween _ (lifecycles_of_update honly rfl hcall).2)
  awaits := by
    intro other call own hcall hown
    exact hawaits call own (lifecycles_of_update honly rfl hcall).2 hown }

/-- After the move no session is in the slot, and before it no flush had exported the JSON
of a foreign one. -/
theorem ScopeInv.emptyMove (h : ScopeInv before) (honly : OnlyLifecycle before name)
    (hlifecycles : after.lifecycles = Function.update before.lifecycles name next)
    (hslot : after.activeSession = none)
    (hflushes : after.flushes = before.flushes)
    (hinFlight : after.inFlightPersist = before.inFlightPersist)
    (hsessions : after.sessions = before.sessions) (hwrites : after.writes = before.writes)
    (hopening : ∀ params, next = some ⟨some params, .opening⟩ →
      after.activeSessionParams = some params.session)
    (hawaits : ∀ call own, next = some call → ¬ call.stage.AwaitsFlush own)
    (hexported : ∀ flush call session json scope, before.flushes flush = some call →
      call.stage = .exported session json → call.stampedScope = some scope →
        OpenedFor before session scope) : ScopeInv after where
  inFlight_iff := by
    rw [hflushes, hinFlight]
    exact h.inFlight_iff
  inFlight_called := by
    rw [hflushes, hinFlight]
    exact h.inFlight_called
  sole := sole_of_update honly hlifecycles
  slot_scope := by simp [hslot]
  slot_noScope := by simp [hslot]
  slot_empty := by
    intro other call _ _
    exact hslot
  opening_scope := by
    intro other params hcall
    exact hopening params (lifecycles_of_update honly hlifecycles hcall).2
  awaits := by
    intro other call own hcall hown
    exact absurd hown (hawaits call own (lifecycles_of_update honly hlifecycles hcall).2)
  exported_scope := by
    intro flush call session json scope hcall hstage hscope
    rw [hflushes] at hcall
    exact Or.inl
      ((hexported flush call session json scope hcall hstage hscope).of_sessions_eq hsessions)
  persisting_scope := by
    intro flush call session json scope hcall hstage hscope
    rw [hflushes] at hcall
    exact (h.persisting_scope flush call session json scope hcall hstage hscope).of_sessions_eq
      hsessions
  writes := by
    intro write hwrite
    rw [hwrites] at hwrite
    exact (h.writes write hwrite).of_sessions_eq hsessions

variable {scope : ArkadePersistScope}

theorem ScopeInv.exported_of_empty (h : ScopeInv before) (hslot : before.activeSession = none)
    {flush : Nat} {call : FlushCall} (hcall : before.flushes flush = some call)
    (hstage : call.stage = .exported session json) (hscope : call.stampedScope = some scope) :
    OpenedFor before session scope := by
  rcases h.exported_scope flush call session json scope hcall hstage hscope with
    hopened | ⟨hfilled, -⟩
  · exact hopened
  · exact absurd hslot hfilled

theorem ScopeInv.inFlight_scope (h : ScopeInv before) {call : LifecycleCall}
    (hcall : before.lifecycles name = some call) (hown : call.stage.AwaitsFlush own)
    (hended : ((before.flushes own).bind fun flush => flush.stage.result) = some ok)
    {params : ActiveSessionParams} (hactive : before.activeSessionParams = some params)
    {flush : Nat} (hunder : InFlightUnder before flush scope) : scope = params.persistScope := by
  rcases h.awaits name call own hcall hown params flush scope hactive hunder with
    hscope | ⟨found, hfound, hwaiting⟩
  · exact hscope
  · simp [hfound, hwaiting, FlushStage.result] at hended

theorem ScopeInv.exported_of_awaited (h : ScopeInv before) {running : LifecycleCall}
    (hrunning : before.lifecycles name = some running) (hown : running.stage.AwaitsFlush own)
    (hended : ((before.flushes own).bind fun flush => flush.stage.result) = some ok) {flush : Nat}
    {call : FlushCall} (hcall : before.flushes flush = some call)
    (hstage : call.stage = .exported session json) (hscope : call.stampedScope = some scope) :
    OpenedFor before session scope := by
  rcases h.exported_scope flush call session json scope hcall hstage hscope with
    hopened | ⟨-, params, hactive, hforeign⟩
  · exact hopened
  · have hheld : before.inFlightPersist = some flush := by
      apply (h.inFlight_iff flush call hcall).mp
      rw [hstage]
      trivial
    have hsame := h.inFlight_scope hrunning hown hended hactive ⟨hheld, call, hcall, hscope⟩
    exact absurd hsame.symm hforeign

end LifecycleMoves

section LifecycleSteps

variable {worker : ArkadeWorker} {name flush : Nat}

theorem enterFlush_frame (call : FlushCall) :
    (worker.enterFlush name call).lifecycles = worker.lifecycles ∧
      (worker.enterFlush name call).activeSessionParams = worker.activeSessionParams ∧
      (worker.enterFlush name call).activeSession = worker.activeSession ∧
      (worker.enterFlush name call).sessions = worker.sessions ∧
      (worker.enterFlush name call).payloads = worker.payloads := by
  unfold ArkadeWorker.enterFlush
  split
  · split
    · exact ⟨rfl, rfl, rfl, rfl, rfl⟩
    · exact ⟨rfl, rfl, rfl, rfl, rfl⟩
  · exact ⟨rfl, rfl, rfl, rfl, rfl⟩

/-- A flush with the stamp of the open scope takes the promise or waits for the one in flight. -/
theorem callFlush_awaits {params : ActiveSessionParams} {other : Nat} {scope : ArkadePersistScope}
    (hactive : worker.activeSessionParams = some params)
    (hunder : InFlightUnder (worker.callFlush flush worker.captureOpenPersistScope) other scope) :
    scope = params.persistScope ∨
      WaitsFor (worker.callFlush flush worker.captureOpenPersistScope) flush other := by
  have hstamp : worker.captureOpenPersistScope = some params.persistScope := by
    rw [ArkadeWorker.captureOpenPersistScope, hactive, Option.map_some]
  have hmatches : stampedPersistScopeStillMatchesOpenSession worker.captureOpenPersistScope
      worker.activeSessionParams = true :=
    stampedPersistScopeStillMatchesOpenSession_iff.mpr ⟨params, hactive, hstamp⟩
  unfold ArkadeWorker.callFlush ArkadeWorker.enterFlush at hunder ⊢
  simp only [hmatches, if_true] at hunder ⊢
  cases hheld : worker.inFlightPersist with
  | some awaited =>
    simp only [hheld] at hunder ⊢
    have hother : awaited = other := by
      simpa [ArkadeWorker.setFlush, hheld] using hunder.1
    subst hother
    exact Or.inr ⟨_, Function.update_self .., rfl⟩
  | none =>
    simp only [hheld] at hunder
    obtain ⟨hname, call, hcall, hscope⟩ := hunder
    rw [Option.some.injEq] at hname
    subst hname
    simp only [ArkadeWorker.setFlush, Function.update_self, Option.some.injEq] at hcall
    rw [← hcall, hstamp, Option.some.injEq] at hscope
    exact Or.inl hscope.symm

section

variable (h : ScopeInv worker)
include h

/-- A lifecycle call begins to await a flush of its own. -/
theorem ScopeInv.awaitFlush (honly : OnlyLifecycle worker name) (hnew : worker.flushes flush = none)
    {call : LifecycleCall} (hbetween : ¬ call.stage.BetweenSessions)
    (hawaits : ∀ own, call.stage.AwaitsFlush own → own = flush) :
    ScopeInv ((worker.callFlush flush worker.captureOpenPersistScope).setLifecycle name
      (some call)) := by
  have hframe : (worker.callFlush flush worker.captureOpenPersistScope).lifecycles =
        worker.lifecycles ∧
      (worker.callFlush flush worker.captureOpenPersistScope).activeSessionParams =
        worker.activeSessionParams :=
    ⟨(enterFlush_frame _).1, (enterFlush_frame _).2.1⟩
  refine (h.callFlush hnew _).setLifecycle ?_ ?_ ?_
  · unfold OnlyLifecycle
    rw [hframe.1]
    exact honly
  · intro next hnext
    cases hnext
    exact hbetween
  · intro next own hnext hown params other scope hactive hunder
    cases hnext
    rw [hawaits own hown]
    rw [hframe.2] at hactive
    exact callFlush_awaits hactive hunder

theorem ScopeInv.beginClose (honly : OnlyLifecycle worker name) (hnew : worker.flushes flush = none)
    (params : Option OpenArkadeSessionParams) : ScopeInv (worker.beginClose name flush params) := by
  apply h.awaitFlush honly hnew
  · exact fun hbetween => hbetween
  · intro own hown
    exact hown.symm

theorem ScopeInv.setQuiet (honly : OnlyLifecycle worker name) {next : Option LifecycleCall}
    (hquiet : ∀ call, next = some call →
      call.stage = .probing ∨ call.stage = .quiescing) :
    ScopeInv (worker.setLifecycle name next) := by
  apply h.setLifecycle honly
  · intro call hcall hbetween
    rcases hquiet call hcall with hstage | hstage
    · rw [hstage] at hbetween
      exact hbetween
    · rw [hstage] at hbetween
      exact hbetween
  · intro call own hcall hown
    rcases hquiet call hcall with hstage | hstage
    · rw [hstage] at hown
      exact hown.elim
    · rw [hstage] at hown
      exact hown.elim

theorem ScopeInv.closeSession (halone : ∀ other, worker.lifecycles other = none) :
    ScopeInv (worker.step (.closeSession name flush)) := by
  simp only [ArkadeWorker.step]
  split
  · next hnew => exact h.beginClose (fun other _ => halone other) hnew none
  · exact h

theorem ScopeInv.openSession (params : OpenArkadeSessionParams)
    (halone : ∀ other, worker.lifecycles other = none) :
    ScopeInv (worker.step (.openSession name flush params)) := by
  simp only [ArkadeWorker.step]
  split
  · next hnew =>
      split
      · apply h.setQuiet (fun other _ => halone other)
        intro call hcall
        cases hcall
        exact Or.inl rfl
      · exact h.beginClose (fun other _ => halone other) hnew (some params)
  · exact h

theorem ScopeInv.probe (answers : Bool) : ScopeInv (worker.step (.probe name flush answers)) := by
  simp only [ArkadeWorker.step]
  split
  · next params hcall hnew =>
      have honly := h.onlyLifecycle hcall
      split
      · apply h.setQuiet honly
        intro call hnone
        cases hnone
      · exact h.beginClose honly hnew params
  · exact h

theorem ScopeInv.clearSession : ScopeInv (worker.step (.clearSession name)) := by
  simp only [ArkadeWorker.step]
  split
  · next params own hcall =>
      split
      · exact h
      · next ok hended =>
          refine h.emptyMove (h.onlyLifecycle hcall) rfl rfl rfl rfl rfl rfl ?_ ?_ ?_
          · intro handed hnext
            cases hnext
          · intro call other hnext hown
            cases hnext
            exact hown
          · intro other call session json scope hfound hstage hscope
            exact h.exported_of_awaited hcall (show own = own from rfl) hended hfound hstage hscope
  · exact h

theorem ScopeInv.resetScope : ScopeInv (worker.step (.resetScope name)) := by
  simp only [ArkadeWorker.step]
  split
  · next params hcall =>
      have hslot := h.slot_empty name _ hcall trivial
      refine h.emptyMove (h.onlyLifecycle hcall) rfl hslot rfl rfl rfl rfl ?_ ?_ ?_
      · intro handed hnext
        cases params with
        | none | some => cases hnext
      · intro call own hnext hown
        cases params with
        | none => cases hnext
        | some _ =>
          cases hnext
          exact hown
      · intro other call session json scope hfound hstage hscope
        exact h.exported_of_empty hslot hfound hstage hscope
  · exact h

theorem ScopeInv.load (ok : Bool) : ScopeInv (worker.step (.load name ok)) := by
  simp only [ArkadeWorker.step]
  split
  · next params hcall =>
      have hslot := h.slot_empty name _ hcall trivial
      split
      · refine h.emptyMove (h.onlyLifecycle hcall) rfl hslot rfl rfl rfl rfl ?_ ?_ ?_
        · intro handed hnext
          cases hnext
          rfl
        · intro call own hnext hown
          cases hnext
          exact hown
        · intro other call session json scope hfound hstage hscope
          exact h.exported_of_empty hslot hfound hstage hscope
      · apply h.setQuiet (h.onlyLifecycle hcall)
        intro call hnone
        cases hnone
  · exact h

end

theorem OpenedFor.of_new {fresh : Nat} {scope : ArkadePersistScope} {opened : WasmSession}
    {after : ArkadeWorker} (hnew : worker.sessions fresh = none)
    (hsessions : after.sessions = Function.update worker.sessions fresh (some opened))
    (h : OpenedFor worker session scope) : OpenedFor after session scope := by
  obtain ⟨found, hfound, hscope⟩ := h
  have hne : session ≠ fresh := by
    intro heq
    rw [heq, hnew] at hfound
    cases hfound
  refine ⟨found, ?_, hscope⟩
  rw [hsessions, Function.update_of_ne hne]
  exact hfound

section

variable (h : ScopeInv worker)
include h

/-- The slot is filled with a session of the scope that is set. -/
theorem ScopeInv.fillSlot {fresh : Nat} {params : OpenArkadeSessionParams}
    (hcall : worker.lifecycles name = some ⟨some params, .opening⟩)
    (hnew : worker.sessions fresh = none) (db : SdkPersistenceJson) :
    ScopeInv
      { worker.setLifecycle name (some { params := some params, stage := .opened }) with
        activeSession := some fresh
        sessions := Function.update worker.sessions fresh
          (some { openedFor := params.session.persistScope, db }) } := by
  have hactive := h.opening_scope name params hcall
  have hslot := h.slot_empty name _ hcall trivial
  have hnext : ∀ other call,
      Function.update worker.lifecycles name
        (some { params := some params, stage := .opened }) other = some call →
      call.stage = .opened := by
    intro other call hupdated
    have hown := (lifecycles_of_update (h.onlyLifecycle hcall)
      (rfl : (worker.setLifecycle name (some ⟨some params, .opened⟩)).lifecycles = _)
      hupdated).2
    cases hown
    rfl
  constructor
  case inFlight_iff => exact h.inFlight_iff
  case inFlight_called => exact h.inFlight_called
  case sole => exact sole_of_update (h.onlyLifecycle hcall) rfl
  case slot_scope =>
    intro session active hsession hparams
    rw [Option.some.injEq] at hsession
    have hsame : params.session = active := by
      rw [show worker.activeSessionParams = some active from hparams, Option.some.injEq] at hactive
      exact hactive.symm
    rw [← hsession, ← hsame]
    exact ⟨_, Function.update_self .., rfl⟩
  case slot_noScope =>
    intro session other scope _ hnone
    rw [show worker.activeSessionParams = none from hnone] at hactive
    cases hactive
  case slot_empty =>
    intro other call hupdated hbetween
    rw [hnext other call hupdated] at hbetween
    exact hbetween.elim
  case opening_scope =>
    intro other handed hupdated
    cases hnext other _ hupdated
  case awaits =>
    intro other call own hupdated hown
    rw [hnext other call hupdated] at hown
    exact hown.elim
  case exported_scope =>
    intro other call session json scope hfound hstage hscope
    exact Or.inl ((h.exported_of_empty hslot hfound hstage hscope).of_new hnew rfl)
  case persisting_scope =>
    intro other call session json scope hfound hstage hscope
    exact (h.persisting_scope other call session json scope hfound hstage hscope).of_new hnew rfl
  case writes =>
    intro write hwrite
    exact (h.writes write hwrite).of_new hnew rfl

theorem ScopeInv.openWasm (session : Nat) (changes : Option (List SdkChange)) :
    ScopeInv (worker.step (.openWasm name session changes)) := by
  simp only [ArkadeWorker.step]
  split
  · next params hcall hnew =>
      have hslot := h.slot_empty name _ hcall trivial
      cases changes with
      | none =>
        refine h.emptyMove (h.onlyLifecycle hcall) rfl hslot rfl rfl rfl rfl ?_ ?_ ?_
        · intro handed hnext
          cases hnext
        · intro call own hnext
          cases hnext
        · intro other call found json scope hfound hstage hscope
          exact h.exported_of_empty hslot hfound hstage hscope
      | some made => exact h.fillSlot hcall hnew _
  · exact h

theorem ScopeInv.setSessionKey (key : Option ActiveSessionParams) :
    ScopeInv { worker with activeSessionKey := key } :=
  ⟨h.inFlight_iff, h.inFlight_called, h.sole, h.slot_scope, h.slot_noScope, h.slot_empty,
    h.opening_scope, h.awaits, h.exported_scope, h.persisting_scope, h.writes⟩

theorem ScopeInv.setKey : ScopeInv (worker.step (.setKey name)) := by
  simp only [ArkadeWorker.step]
  split
  · next params hcall =>
      refine ScopeInv.setSessionKey (h.setQuiet (h.onlyLifecycle hcall) ?_) _
      intro call hnext
      split at hnext
      · cases hnext
        exact Or.inr rfl
      · cases hnext
  · exact h

theorem ScopeInv.persistOpened : ScopeInv (worker.step (.persistOpened name flush)) := by
  simp only [ArkadeWorker.step]
  split
  · next params hcall hnew =>
      apply h.awaitFlush (h.onlyLifecycle hcall) hnew
      · exact fun hbetween => hbetween
      · intro own hown
        exact hown.symm
  · exact h

/-- An open whose flush has thrown resets the scope and leaves its session in the slot. The
flush in flight, if there is one, has the stamp of that session. -/
theorem ScopeInv.dropScope {call : LifecycleCall} (hcall : worker.lifecycles name = some call)
    (hown : call.stage.AwaitsFlush own)
    (hended : ((worker.flushes own).bind fun flush => flush.stage.result) = some ok) :
    ScopeInv
      { worker.setLifecycle name none with
        activeSessionKey := none
        activeSessionParams := none } := by
  have hnone : ∀ other found, Function.update worker.lifecycles name none other ≠ some found := by
    intro other found hupdated
    have hfound := (lifecycles_of_update (h.onlyLifecycle hcall)
      (rfl : (worker.setLifecycle name none).lifecycles = _) hupdated).2
    cases hfound
  constructor
  case inFlight_iff => exact h.inFlight_iff
  case inFlight_called => exact h.inFlight_called
  case sole => exact sole_of_update (h.onlyLifecycle hcall) rfl
  case slot_scope =>
    intro session params _ hactive
    cases hactive
  case slot_noScope =>
    intro session other scope hslot _ hunder
    cases hactive : worker.activeSessionParams with
    | none => exact h.slot_noScope session other scope hslot hactive hunder
    | some params =>
      rw [h.inFlight_scope hcall hown hended hactive hunder]
      exact h.slot_scope session params hslot hactive
  case slot_empty =>
    intro other found hupdated
    exact absurd hupdated (hnone other found)
  case opening_scope =>
    intro other params hupdated
    exact absurd hupdated (hnone other _)
  case awaits =>
    intro other found own hupdated
    exact absurd hupdated (hnone other found)
  case exported_scope =>
    intro other found session json scope hfound hstage hscope
    exact Or.inl (h.exported_of_awaited hcall hown hended hfound hstage hscope)
  case persisting_scope => exact h.persisting_scope
  case writes => exact h.writes

theorem ScopeInv.finishOpen : ScopeInv (worker.step (.finishOpen name)) := by
  simp only [ArkadeWorker.step]
  split
  · next params own hcall =>
      split
      · exact h
      · apply h.setQuiet (h.onlyLifecycle hcall)
        intro call hnone
        cases hnone
      · next hended => exact h.dropScope hcall (show own = own from rfl) hended
  · exact h

/-- A change leaves every session opened for what it was opened for. -/
theorem ScopeInv.change (session : Nat) (change : SdkChange) :
    ScopeInv (worker.step (.change session change)) := by
  simp only [ArkadeWorker.step]
  split
  · exact h
  · next found hfound =>
      have hkeep : ∀ other scope, OpenedFor worker other scope →
          OpenedFor { worker with
            sessions := Function.update worker.sessions session
              (some { found with db := found.db ++ [change] }) } other scope := by
        intro other scope ⟨opened, hopened, hscope⟩
        by_cases heq : other = session
        · subst heq
          rw [hfound, Option.some.injEq] at hopened
          rw [← hopened] at hscope
          exact ⟨_, Function.update_self .., hscope⟩
        · exact ⟨opened, (Function.update_of_ne heq ..).trans hopened, hscope⟩
      constructor
      case inFlight_iff => exact h.inFlight_iff
      case inFlight_called => exact h.inFlight_called
      case sole => exact h.sole
      case slot_scope =>
        intro other params hslot hactive
        exact hkeep other _ (h.slot_scope other params hslot hactive)
      case slot_noScope =>
        intro other flush scope hslot hactive hunder
        exact hkeep other scope (h.slot_noScope other flush scope hslot hactive hunder)
      case slot_empty => exact h.slot_empty
      case opening_scope => exact h.opening_scope
      case awaits => exact h.awaits
      case exported_scope =>
        intro name call other json scope hcall hstage hscope
        exact (h.exported_scope name call other json scope hcall hstage hscope).imp_left
          (hkeep other scope)
      case persisting_scope =>
        intro name call other json scope hcall hstage hscope
        exact hkeep other scope (h.persisting_scope name call other json scope hcall hstage hscope)
      case writes =>
        intro write hwrite
        exact hkeep _ _ (h.writes write hwrite)

end

end LifecycleSteps

/-- Every step that begins no second open or close keeps scope and slot together. -/
theorem ScopeInv.step {worker : ArkadeWorker} {op : WorkerOp} (h : ScopeInv worker)
    (hguard : NoOverlap worker op) : ScopeInv (worker.step op) := by
  cases op with
  | change session change => exact h.change session change
  | flush name scopeAtStart =>
    simp only [ArkadeWorker.step]
    split
    · exact h
    · next hnew => exact h.callFlush hnew _
  | resumeFlush name => exact h.resumeFlush
  | exportSdk name => exact h.exportSdk
  | checkScope name configured => exact h.checkScope configured
  | writeSdk name ok => exact h.writeSdk ok
  | settleFlush name => exact h.settleFlush
  | closeSession name flush => exact h.closeSession hguard
  | openSession name flush params => exact h.openSession params hguard
  | probe name flush answers => exact h.probe answers
  | clearSession name => exact h.clearSession
  | resetScope name => exact h.resetScope
  | load name ok => exact h.load ok
  | openWasm name session changes => exact h.openWasm session changes
  | setKey name => exact h.setKey
  | persistOpened name flush => exact h.persistOpened
  | finishOpen name => exact h.finishOpen

end Bitboard.Frontend
