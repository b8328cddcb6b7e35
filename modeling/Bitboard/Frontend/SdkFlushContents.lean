/-
# What a flush has stored when it returns

A flush that returns without an error promises that the stored JSON holds every change
made to the session before the call. Two things can break the promise though the scopes
agree. A flush that waits may find another session of its scope in the slot. And the
merge keeps the stored JSON if its receive cursor is ahead, which it can only be if the
session was opened with an older JSON than the stored one.
-/

import Bitboard.Frontend.SdkFlushRuns

namespace Bitboard.Frontend

open Bitboard.Lib

/-- Whenever a flush returned, the stored JSON held every change that had been made to the
open session before the call. -/
def FlushesComplete (worker : ArkadeWorker) : Prop :=
  ∀ name call stored session db, worker.flushes name = some call →
    call.stage = .returned stored → call.openAtCall = some (session, db) →
      ∃ json, stored = some json ∧ db <+: json

/-- A session is taken from the slot only when no flush is unfinished. -/
def QuietClear (worker : ArkadeWorker) : WorkerOp → Prop
  | .clearSession _ => ∀ name call, worker.flushes name = some call → call.stage.result ≠ none
  | _ => True

/-- The JSON that an open was handed is not behind the stored one. -/
def FreshLoad (worker : ArkadeWorker) : WorkerOp → Prop
  | .load name _ => ∀ params, worker.lifecycles name = some ⟨some params, .loading⟩ →
      readOffchainNextDerivationIndex (worker.storedJson params.session.persistScope) ≤
        readOffchainNextDerivationIndex params.sdkPersistenceJson
  | _ => True

theorem readOffchainNextDerivationIndex_le_of_prefix {first second : SdkPersistenceJson}
    (h : first <+: second) :
    readOffchainNextDerivationIndex (some first) ≤ readOffchainNextDerivationIndex (some second) :=
  h.sublist.count_le _

theorem mergeSdkPersistenceJsonMonotonic_of_le {existing : Option SdkPersistenceJson}
    {incoming : SdkPersistenceJson}
    (h : readOffchainNextDerivationIndex existing ≤
      readOffchainNextDerivationIndex (some incoming)) :
    mergeSdkPersistenceJsonMonotonic existing incoming = incoming := by
  cases existing with
  | none => rfl
  | some json => exact if_pos h

theorem findArkadeAccount_upsert (accounts : List StoredArkadeAccount)
    (account : StoredArkadeAccount) :
    findArkadeAccount (upsertArkadeAccountInPayload accounts account) account.id =
      some account := by
  have hothers : (accounts.filter fun row => row.id != account.id).find?
      (fun row => row.id == account.id) = none := by
    apply List.find?_eq_none.mpr
    intro row hrow
    have hne := (List.mem_filter.mp hrow).2
    simpa using hne
  simp [findArkadeAccount, upsertArkadeAccountInPayload, List.find?_append, hothers]

variable {json : SdkPersistenceJson}
variable {accounts : List StoredArkadeAccount}

theorem stored_of_merge {merged : List StoredArkadeAccount} {arkadeAccountId : String}
    (h : mergeSdkPersistenceIntoPayload accounts arkadeAccountId json = some merged) :
    (findArkadeAccount merged arkadeAccountId).bind StoredArkadeAccount.sdkPersistenceJson =
      some (mergeSdkPersistenceJsonMonotonic
        ((findArkadeAccount accounts arkadeAccountId).bind
          StoredArkadeAccount.sdkPersistenceJson) json) := by
  unfold mergeSdkPersistenceIntoPayload at h
  split at h
  · cases h
  · next existing hexisting =>
      have hid : existing.id = arkadeAccountId := by
        simpa using List.find?_some hexisting
      rw [Option.some.injEq] at h
      rw [← h, hexisting, ← hid]
      exact congrArg (Option.bind · StoredArkadeAccount.sdkPersistenceJson)
        (findArkadeAccount_upsert accounts _)

def FlushStage.Carries (session : Nat) (json : SdkPersistenceJson) : FlushStage → Prop
  | .exported found content => found = session ∧ content = json
  | .persisting found content => found = session ∧ content = json
  | _ => False

/-- What a flush that was called while `session` had the state `db` may rely on. -/
def StillOpen (worker : ArkadeWorker) (session : Nat) (db : SdkPersistenceJson) : Prop :=
  worker.activeSession = some session ∧
    ∃ found, worker.sessions session = some found ∧ db <+: found.db

/-- The cursor stored for the scope is at most that of the JSON. -/
def NotAhead (worker : ArkadeWorker) (scope : ArkadePersistScope)
    (json : Option SdkPersistenceJson) : Prop :=
  readOffchainNextDerivationIndex (worker.storedJson scope) ≤ readOffchainNextDerivationIndex json

structure ContentInv (worker : ArkadeWorker) : Prop where
  called : ∀ name call session db, worker.flushes name = some call →
    call.stage.result = none → call.openAtCall = some (session, db) →
      StillOpen worker session db
  carried : ∀ name call session json, worker.flushes name = some call →
    call.stage.Carries session json → StillOpen worker session json ∧
      (∀ atCall db, call.openAtCall = some (atCall, db) → db <+: json) ∧
      ∀ scope, OpenedFor worker session scope → NotAhead worker scope (some json)
  slot : ∀ session found, worker.activeSession = some session →
    worker.sessions session = some found → NotAhead worker found.openedFor (some found.db)
  opening : ∀ name params, worker.lifecycles name = some ⟨some params, .opening⟩ →
    NotAhead worker params.session.persistScope params.sdkPersistenceJson
  persisted : ∀ name call session db, worker.flushes name = some call →
    call.stage = .persisted → call.openAtCall = some (session, db) →
      ∃ json, call.stampedScope.bind worker.storedJson = some json ∧ db <+: json
  returned : FlushesComplete worker

attribute [local simp] idleWorker in
theorem contentInv_idleWorker (payloads : Nat → List StoredArkadeAccount) :
    ContentInv (idleWorker payloads) where
  called := by simp
  carried := by simp
  slot := by simp
  opening := by simp
  persisted := by simp
  returned := by simp [FlushesComplete]

theorem FlushStage.Carries.inFlight {stage : FlushStage} {session : Nat}
    (h : stage.Carries session json) : stage.InFlight := by
  cases stage with
  | exported | persisting => trivial
  | _ => exact h.elim

theorem FlushStage.InFlight.result {stage : FlushStage} (h : stage.InFlight) :
    stage.result = none := by
  cases stage with
  | returned | threw => exact h.elim
  | _ => rfl

variable {worker : ArkadeWorker}

theorem stillOpen_of_openNow {session : Nat}
    (h : worker.openNow = some (session, json)) : StillOpen worker session json := by
  obtain ⟨hslot, found, hfound, hdb⟩ := openNow_eq_some_iff.mp h
  rw [← hdb]
  exact ⟨hslot, found, hfound, List.prefix_rfl⟩

section FlushMoves

variable {before after : ArkadeWorker} {name : Nat} {call : FlushCall}

section

variable (h : ContentInv before)
include h

section

variable (hflushes : after.flushes = Function.update before.flushes name (some call))
include hflushes

/-- A single flush moves and writes nothing. -/
theorem ContentInv.flushMove (hslot : after.activeSession = before.activeSession)
    (hsessions : after.sessions = before.sessions)
    (hlifecycles : after.lifecycles = before.lifecycles)
    (hpayloads : after.payloads = before.payloads)
    (hcalled : ∀ session db, call.stage.result = none →
      call.openAtCall = some (session, db) → StillOpen before session db)
    (hcarried : ∀ session json, call.stage.Carries session json →
      StillOpen before session json ∧
      (∀ atCall db, call.openAtCall = some (atCall, db) → db <+: json) ∧
      ∀ scope, OpenedFor before session scope → NotAhead before scope (some json))
    (hpersisted : call.stage ≠ .persisted)
    (hreturned : ∀ stored session db, call.stage = .returned stored →
      call.openAtCall = some (session, db) → ∃ json, stored = some json ∧ db <+: json) :
    ContentInv after := by
  have hopen : ∀ session db, StillOpen before session db → StillOpen after session db := by
    intro session db hstill
    unfold StillOpen
    rw [hslot, hsessions]
    exact hstill
  have hopened : ∀ session scope, OpenedFor after session scope →
      OpenedFor before session scope := by
    intro session scope hfor
    exact hfor.of_sessions_eq hsessions.symm
  have hstored : after.storedJson = before.storedJson := by
    funext scope
    simp only [ArkadeWorker.storedJson, hpayloads]
  have hahead : ∀ scope json, NotAhead before scope json → NotAhead after scope json := by
    intro scope json hnot
    unfold NotAhead
    rw [hstored]
    exact hnot
  constructor
  case called =>
    intro other found session db hfound hresult hatCall
    apply hopen
    rcases flushes_of_update hflushes hfound with ⟨-, rfl⟩ | ⟨-, hfound⟩
    · exact hcalled session db hresult hatCall
    · exact h.called other found session db hfound hresult hatCall
  case carried =>
    intro other found session json hfound hcarries
    have hbefore : StillOpen before session json ∧
        (∀ atCall db, found.openAtCall = some (atCall, db) → db <+: json) ∧
        ∀ scope, OpenedFor before session scope → NotAhead before scope (some json) := by
      rcases flushes_of_update hflushes hfound with ⟨-, rfl⟩ | ⟨-, hfound⟩
      · exact hcarried session json hcarries
      · exact h.carried other found session json hfound hcarries
    refine ⟨hopen session json hbefore.1, hbefore.2.1, ?_⟩
    intro scope hfor
    exact hahead scope _ (hbefore.2.2 scope (hopened session scope hfor))
  case slot =>
    intro session found hactive hfound
    rw [hslot] at hactive
    rw [hsessions] at hfound
    exact hahead _ _ (h.slot session found hactive hfound)
  case opening =>
    intro other params hrunning
    rw [hlifecycles] at hrunning
    exact hahead _ _ (h.opening other params hrunning)
  case persisted =>
    intro other found session db hfound hstage hatCall
    rw [hstored]
    rcases flushes_of_update hflushes hfound with ⟨-, rfl⟩ | ⟨-, hfound⟩
    · exact absurd hstage hpersisted
    · exact h.persisted other found session db hfound hstage hatCall
  case returned =>
    intro other found stored session db hfound hstage hatCall
    rcases flushes_of_update hflushes hfound with ⟨-, rfl⟩ | ⟨-, hfound⟩
    · exact hreturned stored session db hstage hatCall
    · exact h.returned other found stored session db hfound hstage hatCall

/-- A flush that carries no JSON waits, exports or throws. -/
theorem ContentInv.idleMove (hslot : after.activeSession = before.activeSession)
    (hsessions : after.sessions = before.sessions)
    (hlifecycles : after.lifecycles = before.lifecycles)
    (hpayloads : after.payloads = before.payloads)
    (hstage : (∃ awaited, call.stage = .waiting awaited) ∨ call.stage = .exporting ∨
      call.stage = .threw) (hcalled : ∀ session db, call.openAtCall = some (session, db) →
      call.stage = .threw ∨ StillOpen before session db) : ContentInv after := by
  have hcases : call.stage ≠ .persisted ∧ (∀ stored, call.stage ≠ .returned stored) ∧
      ∀ session json, ¬ call.stage.Carries session json := by
    rcases hstage with ⟨awaited, hstage⟩ | hstage | hstage <;> rw [hstage] <;>
      simp [FlushStage.Carries]
  apply h.flushMove hflushes hslot hsessions hlifecycles hpayloads
  · intro session db hresult hatCall
    rcases hcalled session db hatCall with hthrew | hopen
    · rw [hthrew] at hresult
      cases hresult
    · exact hopen
  · intro session json hcarries
    exact absurd hcarries (hcases.2.2 session json)
  · exact hcases.1
  · intro stored session db hreturned
    exact absurd hreturned (hcases.2.1 stored)

end

theorem ContentInv.enterFlush (hcalled : ∀ session db, call.openAtCall = some (session, db) →
      StillOpen before session db) : ContentInv (before.enterFlush name call) := by
  unfold ArkadeWorker.enterFlush
  split
  · split
    · next awaited _ =>
        refine h.idleMove rfl rfl rfl rfl rfl (Or.inl ⟨awaited, rfl⟩) ?_
        intro session db hatCall
        exact Or.inr (hcalled session db hatCall)
    · refine h.idleMove rfl rfl rfl rfl rfl (Or.inr (Or.inl rfl)) ?_
      intro session db hatCall
      exact Or.inr (hcalled session db hatCall)
  · refine h.idleMove rfl rfl rfl rfl rfl (Or.inr (Or.inr rfl)) ?_
    intro session db _
    exact Or.inl rfl

theorem ContentInv.callFlush (stamped : Option ArkadePersistScope) :
    ContentInv (before.callFlush name stamped) := by
  apply h.enterFlush
  intro session db hnow
  exact stillOpen_of_openNow hnow

theorem ContentInv.throwFlush : ContentInv (before.endFlush name call .threw) := by
  refine h.idleMove rfl rfl rfl rfl rfl (Or.inr (Or.inr rfl)) ?_
  intro session db _
  exact Or.inl rfl

end

end FlushMoves

variable {scope : ArkadePersistScope}

section FlushSteps

variable {worker : ArkadeWorker} {name : Nat}

theorem ContentInv.resumeFlush (h : ContentInv worker) :
    ContentInv (worker.step (.resumeFlush name)) := by
  simp only [ArkadeWorker.step]
  split
  · next stamped awaited openAtCall hcall =>
      split
      · exact h
      · apply h.enterFlush
        intro session db hatCall
        exact h.called name _ session db hcall rfl hatCall
      · refine h.idleMove rfl rfl rfl rfl rfl (Or.inr (Or.inr rfl)) ?_
        intro session db _
        exact Or.inl rfl
  · exact h

/-- The session in the slot is the one of the call, and its state has only grown. -/
theorem ContentInv.exportSdk (h : ContentInv worker) :
    ContentInv (worker.step (.exportSdk name)) := by
  simp only [ArkadeWorker.step]
  split
  · next stamped openAtCall hcall =>
      split
      · exact h.throwFlush
      · next session json hnow =>
          obtain ⟨hslot, found, hfound, hdb⟩ := openNow_eq_some_iff.mp hnow
          refine h.flushMove rfl rfl rfl rfl rfl ?_ ?_ (by simp) (by simp)
          · intro atCall db _ hatCall
            exact h.called name _ atCall db hcall rfl hatCall
          · intro exported content hcarries
            obtain ⟨rfl, rfl⟩ := hcarries
            refine ⟨stillOpen_of_openNow hnow, ?_, ?_⟩
            · intro atCall db hatCall
              obtain ⟨hsame, opened, hopened, hprefix⟩ :=
                h.called name _ atCall db hcall rfl hatCall
              rw [hslot, Option.some.injEq] at hsame
              subst hsame
              rw [hfound, Option.some.injEq] at hopened
              rw [← hdb, hopened]
              exact hprefix
            · intro scope hopenedFor
              obtain ⟨opened, hopened, hscope⟩ := hopenedFor
              rw [hfound, Option.some.injEq] at hopened
              rw [← hscope, ← hdb, ← hopened]
              exact h.slot session found hslot hfound
  · exact h

theorem ContentInv.checkScope (h : ContentInv worker) (configured : Bool) :
    ContentInv (worker.step (.checkScope name configured)) := by
  simp only [ArkadeWorker.step]
  split
  · next stamped session json openAtCall hcall =>
      split
      · refine h.flushMove rfl rfl rfl rfl rfl ?_ ?_ (by simp) (by simp)
        · intro atCall db _ hatCall
          exact h.called name _ atCall db hcall rfl hatCall
        · intro exported content hcarries
          have hexported : (FlushStage.exported session json).Carries exported content := hcarries
          have hcarried := h.carried name _ exported content hcall hexported
          exact hcarried
      · exact h.throwFlush
  · exact h

theorem ContentInv.settleFlush (h : ContentInv worker) :
    ContentInv (worker.step (.settleFlush name)) := by
  simp only [ArkadeWorker.step]
  split
  · next stamped openAtCall hcall =>
      refine h.flushMove rfl rfl rfl rfl rfl ?_ ?_ (by simp) ?_
      · intro session db hresult
        cases hresult
      · intro session json hcarries
        exact hcarries.elim
      · intro stored session db hstage hatCall
        rw [FlushStage.returned.injEq] at hstage
        rw [← hstage]
        exact h.persisted name _ session db hcall rfl hatCall
  · exact h

theorem storedJson_write {json : SdkPersistenceJson} {after : ArkadeWorker}
    (hpayloads : after.payloads = Function.update worker.payloads scope.walletId accounts)
    (hmerge : mergeSdkPersistenceIntoPayload (worker.payloads scope.walletId)
      scope.arkadeAccountId json = some accounts) (hahead : NotAhead worker scope (some json)) :
    after.storedJson scope = some json := by
  rw [ArkadeWorker.storedJson, hpayloads, Function.update_self, stored_of_merge hmerge]
  exact congrArg some (mergeSdkPersistenceJsonMonotonic_of_le hahead)

theorem ContentInv.writeSdk (h : ContentInv worker) (hscope : ScopeInv worker) (ok : Bool) :
    ContentInv (worker.step (.writeSdk name ok)) := by
  simp only [ArkadeWorker.step]
  split
  · next scope session json openAtCall hcall =>
      split
      · next accounts hmerge =>
          have hheld := (hscope.inFlight_iff name _ hcall).mp trivial
          have hfor := hscope.persisting_scope name _ session json scope hcall rfl rfl
          obtain ⟨hopen, hatCall, hahead⟩ := h.carried name _ session json hcall ⟨rfl, rfl⟩
          -- no other flush holds the promise, so no other one carries a JSON or has written
          have hidle : ∀ other found, other ≠ name → worker.flushes other = some found →
              ¬ found.stage.InFlight := by
            intro other found hne hfound hin
            have hother := (hscope.inFlight_iff other found hfound).mp hin
            rw [hheld, Option.some.injEq] at hother
            exact hne hother.symm
          constructor
          case called =>
            intro other found atCall db hfound hresult hcalled
            rcases flushes_of_update rfl hfound with ⟨-, rfl⟩ | ⟨-, hfound⟩
            · exact h.called name _ atCall db hcall rfl hcalled
            · exact h.called other found atCall db hfound hresult hcalled
          case carried =>
            intro other found carried content hfound hcarries
            rcases flushes_of_update rfl hfound with ⟨-, rfl⟩ | ⟨hne, hfound⟩
            · exact hcarries.elim
            · exact absurd hcarries.inFlight (hidle other found hne hfound)
          case slot =>
            intro active found hactive hfound
            obtain ⟨hslot, opened, hopened, hprefix⟩ := hopen
            have hsame : session = active := by
              rw [show worker.activeSession = some active from hactive, Option.some.injEq] at hslot
              exact hslot.symm
            subst hsame
            obtain ⟨owner, howner, hownerScope⟩ := hfor
            have hfound : worker.sessions session = some found := hfound
            rw [hfound, Option.some.injEq] at howner hopened
            rw [howner, hownerScope]
            unfold NotAhead
            rw [storedJson_write rfl hmerge (hahead scope ⟨owner, howner ▸ hfound, hownerScope⟩)]
            rw [← howner, hopened]
            exact readOffchainNextDerivationIndex_le_of_prefix hprefix
          case opening =>
            intro other params hrunning
            have hslot := hscope.slot_empty other _ hrunning trivial
            rw [hopen.1] at hslot
            cases hslot
          case persisted =>
            intro other found atCall db hfound hstage hcalled
            rcases flushes_of_update rfl hfound with ⟨-, rfl⟩ | ⟨hne, hfound⟩
            · refine ⟨json, ?_, hatCall atCall db hcalled⟩
              exact storedJson_write rfl hmerge (hahead scope hfor)
            · refine absurd ?_ (hidle other found hne hfound)
              rw [hstage]
              trivial
          case returned =>
            intro other found stored atCall db hfound hstage hcalled
            rcases flushes_of_update rfl hfound with ⟨-, rfl⟩ | ⟨-, hfound⟩
            · cases hstage
            · exact h.returned other found stored atCall db hfound hstage hcalled
      · exact h.throwFlush
  · exact h

end FlushSteps

/-! ## Moves of an open or a close -/

section LifecycleSteps

variable {worker after : ArkadeWorker} {name flush : Nat} {next : Option LifecycleCall}

section

variable (h : ContentInv worker)
include h

section

variable (hlifecycles : after.lifecycles = Function.update worker.lifecycles name next)
include hlifecycles

/-- A lifecycle call moves and leaves the slot, the sessions, the flushes and the store. -/
theorem ContentInv.lifecycleMove (hslot : after.activeSession = worker.activeSession)
    (hsessions : after.sessions = worker.sessions) (hflushes : after.flushes = worker.flushes)
    (hpayloads : after.payloads = worker.payloads)
    (hopening : ∀ params, next = some ⟨some params, .opening⟩ →
      NotAhead worker params.session.persistScope params.sdkPersistenceJson) :
    ContentInv after := by
  have hstored : after.storedJson = worker.storedJson := by
    funext scope
    simp only [ArkadeWorker.storedJson, hpayloads]
  constructor
  case called =>
    simp only [StillOpen, hslot, hsessions, hflushes]
    exact h.called
  case carried =>
    simp only [StillOpen, OpenedFor, NotAhead, hslot, hsessions, hflushes, hstored]
    exact h.carried
  case slot =>
    simp only [NotAhead, hslot, hsessions, hstored]
    exact h.slot
  case opening =>
    intro other params hrunning
    simp only [NotAhead, hstored]
    rw [hlifecycles, Function.update_apply] at hrunning
    split at hrunning
    · exact hopening params hrunning
    · exact h.opening other params hrunning
  case persisted =>
    simp only [hflushes, hstored]
    exact h.persisted
  case returned =>
    simp only [FlushesComplete, hflushes]
    exact h.returned

theorem ContentInv.quietMove (hslot : after.activeSession = worker.activeSession)
    (hsessions : after.sessions = worker.sessions) (hflushes : after.flushes = worker.flushes)
    (hpayloads : after.payloads = worker.payloads)
    (hstage : ∀ call, next = some call → call.stage ≠ .opening) : ContentInv after := by
  apply h.lifecycleMove hlifecycles hslot hsessions hflushes hpayloads
  intro params hnext
  exact absurd rfl (hstage _ hnext)

end

theorem ContentInv.awaitFlush {call : LifecycleCall} (hstage : call.stage ≠ .opening) :
    ContentInv ((worker.callFlush flush worker.captureOpenPersistScope).setLifecycle name
      (some call)) := by
  refine (h.callFlush _).quietMove rfl rfl rfl rfl rfl ?_
  intro running hrunning
  cases hrunning
  exact hstage

theorem ContentInv.openSession (params : OpenArkadeSessionParams) :
    ContentInv (worker.step (.openSession name flush params)) := by
  simp only [ArkadeWorker.step]
  split
  · split
    · exact h.quietMove rfl rfl rfl rfl rfl (by simp)
    · exact h.awaitFlush (by simp)
  · exact h

theorem ContentInv.probe (answers : Bool) :
    ContentInv (worker.step (.probe name flush answers)) := by
  simp only [ArkadeWorker.step]
  split
  · split
    · exact h.quietMove rfl rfl rfl rfl rfl (by simp)
    · exact h.awaitFlush (by simp)
  · exact h

/-- The slot may be emptied once no flush is left that could miss the session. -/
theorem ContentInv.clearSession (hquiet : QuietClear worker (.clearSession name)) :
    ContentInv (worker.step (.clearSession name)) := by
  simp only [ArkadeWorker.step]
  split
  · split
    · exact h
    · constructor
      case called =>
        intro other call session db hcall hresult
        exact absurd hresult (hquiet other call hcall)
      case carried =>
        intro other call session json hcall hcarries
        exact absurd hcarries.inFlight.result (hquiet other call hcall)
      case slot =>
        intro session found hslot
        cases hslot
      case opening =>
        intro other handed hrunning
        simp only [ArkadeWorker.setLifecycle, Function.update_apply] at hrunning
        split at hrunning
        · cases hrunning
        · exact h.opening other handed hrunning
      case persisted =>
        intro other call session db hcall hstage
        have hresult := hquiet other call hcall
        rw [hstage] at hresult
        exact absurd rfl hresult
      case returned => exact h.returned
  · exact h

theorem ContentInv.resetScope : ContentInv (worker.step (.resetScope name)) := by
  simp only [ArkadeWorker.step]
  split
  · next params _ =>
      refine h.quietMove rfl rfl rfl rfl rfl ?_
      intro call hnext
      cases params with
      | none => cases hnext
      | some _ =>
        cases hnext
        simp
  · exact h

theorem ContentInv.load (ok : Bool) (hfresh : FreshLoad worker (.load name ok)) :
    ContentInv (worker.step (.load name ok)) := by
  simp only [ArkadeWorker.step]
  split
  · next params hcall =>
      split
      · refine h.lifecycleMove rfl rfl rfl rfl rfl ?_
        intro handed hnext
        cases hnext
        exact hfresh params hcall
      · exact h.quietMove rfl rfl rfl rfl rfl (by simp)
  · exact h

end

theorem notAhead_append {json : Option SdkPersistenceJson} (made : List SdkChange)
    (h : NotAhead worker scope json) : NotAhead worker scope (some (json.getD [] ++ made)) := by
  apply Nat.le_trans h
  cases json with
  | none => exact Nat.zero_le _
  | some content => exact readOffchainNextDerivationIndex_le_of_prefix (List.prefix_append _ _)

section

variable (h : ContentInv worker)
include h

/-- While the slot is empty no flush relies on a session, so the slot may be filled. -/
theorem ContentInv.fillSlot (hscope : ScopeInv worker) {fresh : Nat}
    {params : OpenArkadeSessionParams}
    (hcall : worker.lifecycles name = some ⟨some params, .opening⟩) (made : List SdkChange) :
    ContentInv
      { worker.setLifecycle name (some { params := some params, stage := .opened }) with
        activeSession := some fresh
        sessions := Function.update worker.sessions fresh
          (some
            { openedFor := params.session.persistScope
              db := params.sdkPersistenceJson.getD [] ++ made }) } := by
  have hempty := hscope.slot_empty name _ hcall trivial
  have hnone : ∀ session db, ¬ StillOpen worker session db := by
    intro session db ⟨hslot, _⟩
    rw [hempty] at hslot
    cases hslot
  constructor
  case called =>
    intro other call session db hfound hresult hatCall
    exact absurd (h.called other call session db hfound hresult hatCall) (hnone session db)
  case carried =>
    intro other call session json hfound hcarries
    exact absurd (h.carried other call session json hfound hcarries).1 (hnone session json)
  case slot =>
    intro session found hslot hfound
    cases hslot
    simp only [Function.update_self, Option.some.injEq] at hfound
    rw [← hfound]
    exact notAhead_append made (h.opening name params hcall)
  case opening =>
    intro other handed hrunning
    simp only [ArkadeWorker.setLifecycle, Function.update_apply] at hrunning
    split at hrunning
    · cases hrunning
    · exact h.opening other handed hrunning
  case persisted => exact h.persisted
  case returned => exact h.returned

theorem ContentInv.openWasm (hscope : ScopeInv worker) (session : Nat)
    (changes : Option (List SdkChange)) :
    ContentInv (worker.step (.openWasm name session changes)) := by
  simp only [ArkadeWorker.step]
  split
  · next params hcall _ =>
      cases changes with
      | none => exact h.quietMove rfl rfl rfl rfl rfl (by simp)
      | some made => exact h.fillSlot hscope hcall made
  · exact h

theorem ContentInv.setKey : ContentInv (worker.step (.setKey name)) := by
  simp only [ArkadeWorker.step]
  split
  · refine h.quietMove rfl rfl rfl rfl rfl ?_
    intro call hnext
    split at hnext
    · cases hnext
      simp
    · cases hnext
  · exact h

theorem ContentInv.persistOpened : ContentInv (worker.step (.persistOpened name flush)) := by
  simp only [ArkadeWorker.step]
  split
  · exact h.awaitFlush (by simp)
  · exact h

theorem ContentInv.finishOpen : ContentInv (worker.step (.finishOpen name)) := by
  simp only [ArkadeWorker.step]
  split
  · split
    · exact h
    · exact h.quietMove rfl rfl rfl rfl rfl (by simp)
    · exact h.quietMove rfl rfl rfl rfl rfl (by simp)
  · exact h

/-- A session only grows under the changes that are made to it. -/
theorem ContentInv.change (session : Nat) (change : SdkChange) :
    ContentInv (worker.step (.change session change)) := by
  simp only [ArkadeWorker.step]
  split
  · exact h
  · next found hfound =>
      have hopen : ∀ other db, StillOpen worker other db →
          StillOpen { worker with
            sessions := Function.update worker.sessions session
              (some { found with db := found.db ++ [change] }) } other db := by
        intro other db hstillOpen
        obtain ⟨hslot, opened, hopened, hprefix⟩ := hstillOpen
        refine ⟨hslot, ?_⟩
        by_cases heq : other = session
        · subst heq
          rw [hfound, Option.some.injEq] at hopened
          rw [← hopened] at hprefix
          exact ⟨_, Function.update_self .., hprefix.trans (List.prefix_append _ _)⟩
        · exact ⟨opened, (Function.update_of_ne heq ..).trans hopened, hprefix⟩
      have hfor : ∀ other scope, OpenedFor { worker with
            sessions := Function.update worker.sessions session
              (some { found with db := found.db ++ [change] }) } other scope →
          OpenedFor worker other scope := by
        intro other scope hopenedFor
        obtain ⟨opened, hopened, hscope⟩ := hopenedFor
        simp only [Function.update_apply] at hopened
        split at hopened
        · next heq =>
            rw [Option.some.injEq] at hopened
            rw [← hopened] at hscope
            rw [heq]
            exact ⟨found, hfound, hscope⟩
        · exact ⟨opened, hopened, hscope⟩
      constructor
      case called =>
        intro name call other db hcall hresult hatCall
        exact hopen other db (h.called name call other db hcall hresult hatCall)
      case carried =>
        intro name call other json hcall hcarries
        obtain ⟨hstill, hatCall, hahead⟩ := h.carried name call other json hcall hcarries
        refine ⟨hopen other json hstill, hatCall, ?_⟩
        intro scope hscope
        exact hahead scope (hfor other scope hscope)
      case slot =>
        intro other opened hslot hopened
        simp only [Function.update_apply] at hopened
        split at hopened
        · next heq =>
            rw [Option.some.injEq] at hopened
            rw [← hopened]
            subst heq
            exact notAhead_append [change] (h.slot other found hslot hfound)
        · exact h.slot other opened hslot hopened
      case opening => exact h.opening
      case persisted => exact h.persisted
      case returned => exact h.returned

end

end LifecycleSteps

theorem ContentInv.step {op : WorkerOp} (h : ContentInv worker)
    (hscope : ScopeInv worker) (hquiet : QuietClear worker op) (hfresh : FreshLoad worker op) :
    ContentInv (worker.step op) := by
  cases op with
  | change session change => exact h.change session change
  | flush name scopeAtStart =>
    simp only [ArkadeWorker.step]
    split
    · exact h
    · exact h.callFlush _
  | resumeFlush name => exact h.resumeFlush
  | exportSdk name => exact h.exportSdk
  | checkScope name configured => exact h.checkScope configured
  | writeSdk name ok => exact h.writeSdk hscope ok
  | settleFlush name => exact h.settleFlush
  | closeSession name flush =>
    simp only [ArkadeWorker.step]
    split
    · exact h.awaitFlush (by simp)
    · exact h
  | openSession name flush params => exact h.openSession params
  | probe name flush answers => exact h.probe answers
  | clearSession name => exact h.clearSession hquiet
  | resetScope name => exact h.resetScope
  | load name ok => exact h.load ok hfresh
  | openWasm name session changes => exact h.openWasm hscope session changes
  | setKey name => exact h.setKey
  | persistOpened name flush => exact h.persistOpened
  | finishOpen name => exact h.finishOpen

/-! ## Runs -/

variable {payloads : Nat → List StoredArkadeAccount}

theorem scopeInv_run {ops : List WorkerOp}
    (halone : RunMeets ArkadeWorker.step NoOverlap (idleWorker payloads) ops) :
    ScopeInv ((idleWorker payloads).run ops) :=
  run_invariant_of_runMeets ScopeInv (fun _ _ hguard h => h.step hguard)
    (scopeInv_idleWorker payloads) halone

/-- What the steps of a run have to meet for its flushes to be complete. -/
def QuietAndFresh (worker : ArkadeWorker) (op : WorkerOp) : Prop :=
  NoOverlap worker op ∧ QuietClear worker op ∧ FreshLoad worker op

theorem contentInv_run {ops : List WorkerOp}
    (hmeets : RunMeets ArkadeWorker.step QuietAndFresh (idleWorker payloads) ops) :
    ScopeInv ((idleWorker payloads).run ops) ∧ ContentInv ((idleWorker payloads).run ops) := by
  refine run_invariant_of_runMeets (fun worker => ScopeInv worker ∧ ContentInv worker) ?_ ?_ hmeets
  · intro worker op ⟨halone, hquiet, hfresh⟩ ⟨hscope, hcontent⟩
    exact ⟨hscope.step halone, hcontent.step hscope hquiet hfresh⟩
  · exact ⟨scopeInv_idleWorker payloads, contentInv_idleWorker payloads⟩

/-- If opens and closes do not overlap, every JSON is written for the wallet and account
that its session was opened for. If moreover a session leaves the slot only when no flush
is unfinished, and no open is handed a JSON behind the stored one, then every flush that
returned has stored what had been changed before it was called. -/
theorem flushes_keep_scope_and_changes (payloads : Nat → List StoredArkadeAccount)
    (ops : List WorkerOp) :
    (RunMeets ArkadeWorker.step NoOverlap (idleWorker payloads) ops →
      WritesInScope ((idleWorker payloads).run ops)) ∧
    (RunMeets ArkadeWorker.step QuietAndFresh (idleWorker payloads) ops →
      FlushesComplete ((idleWorker payloads).run ops)) := by
  constructor
  · intro halone
    exact (scopeInv_run halone).writes
  · intro hmeets
    exact (contentInv_run hmeets).2.returned

def sampleParams (arkadeAccountId : String) : ActiveSessionParams where
  walletId := 1
  networkMode := .signet
  arkadeAccountId := arkadeAccountId

def sampleAccounts : List StoredArkadeAccount :=
  [{ id := "first", sdkPersistenceJson := none }, { id := "second", sdkPersistenceJson := none }]

def sampleWorker : ArkadeWorker := idleWorker fun _ => sampleAccounts

def sampleOpen (arkadeAccountId : String) : OpenArkadeSessionParams where
  session := sampleParams arkadeAccountId
  encryptedPayload := sampleAccounts

def flushThrough (name : Nat) : List WorkerOp :=
  [.exportSdk name, .checkScope name true, .writeSdk name true, .settleFlush name]

def openThrough (name session flush : Nat) : List WorkerOp :=
  ([.clearSession name, .resetScope name, .load name true, .openWasm name session (some []),
    .setKey name, .persistOpened name flush] : List WorkerOp) ++ flushThrough flush ++
    ([.finishOpen name] : List WorkerOp)

def openRevealFlush : List WorkerOp :=
  ([.openSession 1 10 (sampleOpen "first")] : List WorkerOp) ++ openThrough 1 100 11 ++
    ([.change 100 .revealReceiveAddress, .flush 12 none] : List WorkerOp) ++ flushThrough 12

theorem runMeets_openRevealFlush :
    RunMeets ArkadeWorker.step QuietAndFresh sampleWorker openRevealFlush := by
  have hquiet : ∀ (name : Nat) (call : FlushCall),
      (sampleWorker.run [.openSession 1 10 (sampleOpen "first")]).flushes name = some call →
        call.stage.result ≠ none := by
    intro name call hcall
    have hflushes :
        (sampleWorker.run [.openSession 1 10 (sampleOpen "first")]).flushes =
          Function.update (fun _ => none) 10
            (some { stampedScope := none, stage := .threw, openAtCall := none }) := rfl
    rw [hflushes, Function.update_apply] at hcall
    split at hcall
    · cases hcall
      decide
    · cases hcall
  have hfresh : ∀ params : OpenArkadeSessionParams,
      (sampleWorker.run [.openSession 1 10 (sampleOpen "first"), .clearSession 1,
        .resetScope 1]).lifecycles 1 = some ⟨some params, .loading⟩ →
        readOffchainNextDerivationIndex
          ((sampleWorker.run [.openSession 1 10 (sampleOpen "first"), .clearSession 1,
            .resetScope 1]).storedJson params.session.persistScope) ≤
          readOffchainNextDerivationIndex params.sdkPersistenceJson := by
    intro params hcall
    cases hcall
    decide
  exact ⟨⟨fun _ => rfl, trivial, trivial⟩, ⟨trivial, hquiet, trivial⟩, ⟨trivial, trivial, trivial⟩,
    ⟨trivial, trivial, hfresh⟩, by simp [RunMeets, QuietAndFresh, NoOverlap, QuietClear, FreshLoad,
      flushThrough]⟩

/-- The flush of the revealed address returned, and the address is stored. -/
theorem flushes_keep_scope_and_changes_openRevealFlush :
    WritesInScope (sampleWorker.run openRevealFlush) ∧
      FlushesComplete (sampleWorker.run openRevealFlush) ∧
      ((sampleWorker.run openRevealFlush).flushes 12).map FlushCall.stage =
        some (.returned (some [.revealReceiveAddress])) := by
  have hrun := flushes_keep_scope_and_changes (fun _ => sampleAccounts) openRevealFlush
  have halone : RunMeets ArkadeWorker.step NoOverlap sampleWorker openRevealFlush :=
    ⟨fun _ => rfl, by simp [RunMeets, NoOverlap, openThrough, flushThrough]⟩
  refine ⟨hrun.1 halone, hrun.2 runMeets_openRevealFlush, ?_⟩
  decide +kernel

def overlappingOpens : List WorkerOp :=
  ([.openSession 1 10 (sampleOpen "first"), .clearSession 1, .resetScope 1, .load 1 true,
    .openSession 2 20 (sampleOpen "second"), .exportSdk 20, .clearSession 2, .resetScope 2,
    .load 2 true, .openWasm 1 100 (some []), .setKey 1, .persistOpened 1 11] : List WorkerOp) ++
    flushThrough 11

def staleReopen : List WorkerOp :=
  openRevealFlush ++ ([.closeSession 2 20] : List WorkerOp) ++ flushThrough 20 ++
    ([.clearSession 2, .resetScope 2, .openSession 3 30 (sampleOpen "first")] : List WorkerOp) ++
    openThrough 3 101 31 ++ ([.change 101 (.other "exit tag"), .flush 32 none] : List WorkerOp) ++
    flushThrough 32

def lateFlush : List WorkerOp :=
  ([.openSession 1 10 (sampleOpen "first")] : List WorkerOp) ++ openThrough 1 100 11 ++
    ([.closeSession 2 20, .exportSdk 20, .change 100 (.other "exit tag"), .flush 21 none,
      .checkScope 20 true, .writeSdk 20 true, .settleFlush 20, .clearSession 2, .resetScope 2,
      .openSession 3 30 (sampleOpen "first"), .clearSession 3, .resetScope 3, .load 3 true,
      .openWasm 3 101 (some []), .resumeFlush 21] : List WorkerOp) ++ flushThrough 21

def lastWrite (worker : ArkadeWorker) : Option (ArkadePersistScope × Option ArkadePersistScope) :=
  worker.writes.head?.map fun write =>
    (write.scope, (worker.sessions write.session).map WasmSession.openedFor)

theorem not_writesInScope_of_lastWrite {openedFor : ArkadePersistScope}
    (h : lastWrite worker = some (scope, some openedFor)) (hne : scope ≠ openedFor) :
    ¬ WritesInScope worker := by
  intro hwrites
  obtain ⟨write, hhead, hpair⟩ := Option.map_eq_some_iff.mp h
  obtain ⟨found, hfound, hscope⟩ := hwrites write (List.mem_of_mem_head? hhead)
  rw [hfound, Option.map_some, Prod.mk.injEq, Option.some.injEq] at hpair
  apply hne
  rw [← hpair.1, ← hpair.2, hscope]

theorem not_flushesComplete_of_returned {name session : Nat}
    {stamped : Option ArkadePersistScope} {stored : Option SdkPersistenceJson}
    {db : SdkPersistenceJson}
    (h : worker.flushes name = some
      { stampedScope := stamped, stage := .returned stored, openAtCall := some (session, db) })
    (hlost : ∀ json, stored = some json → ¬ db <+: json) : ¬ FlushesComplete worker := by
  intro hcomplete
  obtain ⟨json, hstored, hprefix⟩ := hcomplete name _ stored session db h rfl rfl
  exact hlost json hstored hprefix

/-- Overlapping opens store the session of one account for another. Without an overlap a
flush still loses changes, when the reopened session is behind the stored JSON and when
it waits until another session is in the slot. -/
theorem flushes_lose_scope_and_changes :
    ¬ WritesInScope (sampleWorker.run overlappingOpens) ∧
      ¬ FlushesComplete (sampleWorker.run staleReopen) ∧
      ¬ FlushesComplete (sampleWorker.run lateFlush) := by
  refine ⟨?_, ?_, ?_⟩
  · have hwrite : lastWrite (sampleWorker.run overlappingOpens) =
        some ((sampleParams "second").persistScope, some (sampleParams "first").persistScope) := by
      decide +kernel
    exact not_writesInScope_of_lastWrite hwrite (by decide)
  · have hreturned : (sampleWorker.run staleReopen).flushes 32 = some
        { stampedScope := some (sampleParams "first").persistScope
          stage := .returned (some [.revealReceiveAddress])
          openAtCall := some (101, [.other "exit tag"]) } := by
      decide +kernel
    apply not_flushesComplete_of_returned hreturned
    intro json hstored
    cases hstored
    decide
  · have hreturned : (sampleWorker.run lateFlush).flushes 21 = some
        { stampedScope := some (sampleParams "first").persistScope
          stage := .returned (some [])
          openAtCall := some (100, [.other "exit tag"]) } := by
      decide +kernel
    apply not_flushesComplete_of_returned hreturned
    intro json hstored
    cases hstored
    decide

end Bitboard.Frontend
