/-
# Runs of the trust gate

Every snapshot is committed right after the refresh whose digest its gate has
compared, so no commit is made under a digest that waits for review. The accepted
record is written later, from whatever the client holds by then. It keeps the
accepted digest as long as no refresh between the two brings another one, and this
module shows that such a refresh is all that can change it without the user.
-/

import Bitboard.Arkade.OperatorTrust
import Mathlib.Data.List.Induction

namespace Bitboard.Arkade

open Bitboard.Lib

variable {session : TrustSession} {op : TrustOp} {name : Nat}
variable {info pending : CachedOperatorInfoRecord}

/-- The call accepts `pending`: it was made while this record waited for review. -/
def TrustCall.Accepts (pending : CachedOperatorInfoRecord) : TrustCall → Prop
  | .leaving (.trustAccept captured) => captured = pending
  | .accepting captured => captured = pending
  | _ => False

/-- The call is neither about to write the accepted record nor an accept call. -/
def QuietCall : Option TrustCall → Prop
  | some (.settling _) | some (.accepting _) | some (.leaving (.trustAccept _)) => False
  | _ => True

theorem QuietCall.not_accepts {call : Option TrustCall} (hquiet : QuietCall call)
    (made : TrustCall) (hmade : call = some made) : ¬ made.Accepts pending := by
  subst hmade
  cases made with
  | leaving cause =>
    cases cause with
    | exitAutonomousMode => exact id
    | trustAccept captured => exact hquiet.elim
  | accepting captured => exact hquiet.elim
  | starting | fetching | settling | stamping => exact id

namespace TrustSession

/-- Every call that settles did so before, and every accept call was one before. -/
structure CallsFollow (before after : TrustSession) : Prop where
  settling : ∀ name write, after.calls name = some (.settling write) →
    before.calls name = some (.settling write)
  accepts : ∀ name call pending, after.calls name = some call → call.Accepts pending →
    ∃ earlier, before.calls name = some earlier ∧ earlier.Accepts pending

/-- The accepted record, the client and the snapshot are the same. -/
structure SameRecords (before after : TrustSession) : Prop where
  cachedOperatorInfo : after.cachedOperatorInfo = before.cachedOperatorInfo
  serverInfo : after.serverInfo = before.serverInfo
  commits : after.commits = before.commits

theorem SameRecords.refl (session : TrustSession) : SameRecords session session :=
  ⟨rfl, rfl, rfl⟩

variable {before after : TrustSession}

theorem CallsFollow.of_calls_eq (h : after.calls = before.calls) : CallsFollow before after := by
  constructor
  · intro name write hafter
    rwa [h] at hafter
  · intro name call pending hafter haccepts
    rw [h] at hafter
    exact ⟨call, hafter, haccepts⟩

theorem calls_of_update {call : Option TrustCall} {other : Nat}
    {found : TrustCall} (h : after.calls = Function.update before.calls name call)
    (hnot : ∀ made, call = some made → ¬ made.Accepts pending)
    (hfound : after.calls other = some found) (haccepts : found.Accepts pending) :
    before.calls other = some found := by
  by_cases hother : other = name
  · subst hother
    rw [h, Function.update_self] at hfound
    exact absurd haccepts (hnot found hfound)
  · rwa [h, Function.update_of_ne hother] at hfound

theorem CallsFollow.of_update {call : Option TrustCall}
    (h : after.calls = Function.update before.calls name call) (hquiet : QuietCall call) :
    CallsFollow before after := by
  constructor
  · intro other write hafter
    by_cases hother : other = name
    · subst hother
      rw [h, Function.update_self] at hafter
      rw [hafter] at hquiet
      exact hquiet.elim
    · rwa [h, Function.update_of_ne hother] at hafter
  · intro other found pending hafter haccepts
    exact ⟨found, calls_of_update h hquiet.not_accepts hafter haccepts, haccepts⟩

theorem CallsFollow.of_left (hcall : before.calls name = some (.leaving (.trustAccept pending)))
    (h : after.calls = Function.update before.calls name (some (.accepting pending))) :
    CallsFollow before after := by
  constructor
  · intro other write hafter
    by_cases hother : other = name
    · subst hother
      rw [h, Function.update_self] at hafter
      cases hafter
    · rwa [h, Function.update_of_ne hother] at hafter
  · intro other found captured hafter haccepts
    by_cases hother : other = name
    · subst hother
      rw [h, Function.update_self] at hafter
      cases hafter
      exact ⟨_, hcall, haccepts⟩
    · rw [h, Function.update_of_ne hother] at hafter
      exact ⟨found, hafter, haccepts⟩

theorem syncWithOperator_eq (session : TrustSession) (name : Nat) :
    ∃ call, QuietCall call ∧ session.syncWithOperator name = session.setCall name call := by
  unfold syncWithOperator
  split
  · exact ⟨none, trivial, rfl⟩
  · exact ⟨some (.starting .userSync), trivial, rfl⟩

end TrustSession

open TrustSession

def Passes (session : TrustSession) (info : CachedOperatorInfoRecord) : Prop :=
  session.operatorTrustPending = false ∧
    ∀ cached, session.cachedOperatorInfo = some cached → info.digest = cached.digest

theorem passes_of_not_blocked
    (h : ¬ session.shouldBlockSyncPersist info.digest = true) : Passes session info := by
  simp only [shouldBlockSyncPersist, shouldBlockSyncPersistForOperatorTrust] at h
  cases hpending : session.operatorTrustPending with
  | true => simp [hpending] at h
  | false =>
    constructor
    · exact hpending
    · apply operatorDigestMismatch_eq_false_iff.mp
      simpa [hpending] using h

/-- The steps by what they do to the accepted record, the client, the snapshot, the calls
that settle and the accept calls. -/
inductive TrustMove (before : TrustSession) : TrustOp → TrustSession → Prop where
  /-- Only calls that are neither moved. -/
  | quiet {op : TrustOp} {after : TrustSession} (hrecords : SameRecords before after)
      (hcalls : CallsFollow before after) : TrustMove before op after
  | opened {info : CachedOperatorInfoRecord} {after : TrustSession}
      (hcalls : ∀ name, after.calls name = none)
      (hcommits : after.commits = before.commits)
      (haccepted : after.cachedOperatorInfo = before.cachedOperatorInfo ∨
        (∀ cached, before.cachedOperatorInfo = some cached → info.digest = cached.digest) ∧
          after.cachedOperatorInfo = some info) :
      TrustMove before (.openSession info) after
  | entered {cached : CachedOperatorInfoRecord}
      (haccepted : before.cachedOperatorInfo = some cached) :
      TrustMove before .enterAutonomousMode
        { before with serverInfo := cached, autonomousMode := true }
  | acceptCalled {name : Nat} {pending : CachedOperatorInfoRecord} {mode : Bool}
      {call : TrustCall} (hpending : before.pendingOperatorInfo = some pending)
      (hcall : call = .leaving (.trustAccept pending) ∨ call = .accepting pending) :
      TrustMove before (.acceptPendingOperatorConfig name)
        ({ before with autonomousMode := mode }.setCall name (some call))
  | hook {info : CachedOperatorInfoRecord} :
      TrustMove before (.infoRefreshHook info) (before.refreshServerInfo info)
  | refreshedOnly {name : Nat} {info : CachedOperatorInfoRecord} {after : TrustSession}
      (hunlike : ∀ pending, before.calls name = some (.accepting pending) →
        pending.digest ≠ info.digest)
      (hrecords : SameRecords (before.refreshServerInfo info) after)
      (hcalls : CallsFollow before after) :
      TrustMove before (.refreshed name (some info)) after
  | committed {name : Nat} {info : CachedOperatorInfoRecord} {call : Option TrustCall}
      (hpasses : Passes before info)
      (hcall : call = none ∨ ∃ write, call = some (.settling write)) :
      TrustMove before (.refreshed name (some info))
        ((before.refreshServerInfo info).commitOperatorSnapshot.setCall name call)
  | accepted {name : Nat} {info pending : CachedOperatorInfoRecord} {call : Option TrustCall}
      (hcall : before.calls name = some (.accepting pending))
      (hdigest : pending.digest = info.digest) (hquiet : QuietCall call) :
      TrustMove before (.refreshed name (some info))
        ((((before.refreshServerInfo info).setCachedOperatorInfo
          pending).clearOperatorTrustState).setCall name call)
  | settled {name : Nat} {write : SnapshotWrite} {call : Option TrustCall}
      (hcall : before.calls name = some (.settling write)) (hquiet : QuietCall call) :
      TrustMove before (.settled name)
        (before.persistCachedOperatorInfoFromClient.setCall name call)

namespace TrustMove

theorem refl (session : TrustSession) (op : TrustOp) : TrustMove session op session :=
  .quiet (SameRecords.refl session) (CallsFollow.of_calls_eq rfl)

theorem setCall (call : Option TrustCall) (hquiet : QuietCall call) (op : TrustOp) :
    TrustMove session op (session.setCall name call) :=
  .quiet ⟨rfl, rfl, rfl⟩ (CallsFollow.of_update rfl hquiet)

theorem syncWithOperator (session : TrustSession) (op : TrustOp) (name : Nat) :
    TrustMove session op (session.syncWithOperator name) := by
  obtain ⟨call, hquiet, heq⟩ := syncWithOperator_eq session name
  rw [heq]
  exact setCall call hquiet op

theorem startCall {started : TrustSession} (h : TrustMove session op started) :
    TrustMove session op (startCall session name started) := by
  unfold Arkade.startCall
  split
  · exact refl session op
  · exact h

theorem openSession (session : TrustSession) (info : CachedOperatorInfoRecord) :
    TrustMove session (.openSession info) (session.openSession info) := by
  simp only [TrustSession.openSession, applyLiveOperatorDigestOnOpen]
  split
  · exact .opened (fun _ => rfl) rfl (.inl rfl)
  · split
    · exact .opened (fun _ => rfl) rfl (.inl rfl)
    · split
      · exact .opened (fun _ => rfl) rfl (.inl rfl)
      · split
        · rename_i hmatch
          refine .opened (fun _ => rfl) rfl (.inr ⟨?_, rfl⟩)
          rw [Bool.not_eq_true'] at hmatch
          exact operatorDigestMismatch_eq_false_iff.mp hmatch
        · exact .opened (fun _ => rfl) rfl (.inl rfl)
  · exact .opened (fun _ => rfl) rfl (.inl rfl)

theorem acceptPendingOperatorConfig (session : TrustSession) (name : Nat) :
    TrustMove session (.acceptPendingOperatorConfig name)
      (session.acceptPendingOperatorConfig name) := by
  unfold TrustSession.acceptPendingOperatorConfig
  split
  · split
    · exact refl session _
    · rename_i pending hpending
      split
      · exact .acceptCalled hpending (.inl rfl)
      · exact @TrustMove.acceptCalled session name pending session.autonomousMode _ hpending
          (.inr rfl)
  · exact refl session _

theorem exitAutonomousMode (session : TrustSession) (name : Nat) :
    TrustMove session (.exitAutonomousMode name) (session.exitAutonomousMode name) := by
  unfold TrustSession.exitAutonomousMode
  split
  · split
    · exact refl session _
    · apply TrustMove.quiet
      · exact ⟨rfl, rfl, rfl⟩
      · exact CallsFollow.of_update rfl trivial
  · exact refl session _

theorem unlessBlocked {passed : TrustSession}
    (hcall : ∀ pending, session.calls name ≠ some (.accepting pending))
    (hpassed : Passes session info →
      TrustMove session (.refreshed name (some info)) passed) :
    TrustMove session (.refreshed name (some info))
      ((session.refreshServerInfo info).unlessBlocked name info passed) := by
  unfold TrustSession.unlessBlocked
  split
  · apply TrustMove.refreshedOnly
    · intro pending haccepting
      exact absurd haccepting (hcall pending)
    · exact ⟨rfl, rfl, rfl⟩
    · exact CallsFollow.of_update rfl trivial
  · rename_i hblocked
    exact hpassed (passes_of_not_blocked hblocked)

theorem resume_accepting (hcall : session.calls name = some (.accepting pending)) :
    TrustMove session (.refreshed name (some info))
      ((session.refreshServerInfo info).resume name info (.accepting pending)) := by
  simp only [TrustSession.resume]
  split
  · rename_i hdigest
    apply TrustMove.refreshedOnly
    · intro captured haccepting
      rw [hcall] at haccepting
      cases haccepting
      exact bne_iff_ne.mp hdigest
    · exact ⟨rfl, rfl, rfl⟩
    · exact CallsFollow.of_update rfl trivial
  · rename_i hdigest
    obtain ⟨call, hquiet, heq⟩ := syncWithOperator_eq
      (((session.refreshServerInfo info).setCachedOperatorInfo pending).clearOperatorTrustState)
      name
    rw [heq]
    exact .accepted hcall (by simpa using hdigest) hquiet

theorem resume {call : TrustCall} (hcall : session.calls name = some call) :
    TrustMove session (.refreshed name (some info))
      ((session.refreshServerInfo info).resume name info call) := by
  cases call with
  | starting write =>
    apply unlessBlocked (by simp [hcall])
    intro hpasses
    apply TrustMove.refreshedOnly (by simp [hcall])
    · exact ⟨rfl, rfl, rfl⟩
    · exact CallsFollow.of_update rfl trivial
  | fetching write =>
    apply unlessBlocked (by simp [hcall])
    intro hpasses
    exact .committed hpasses (.inr ⟨write, rfl⟩)
  | stamping =>
    apply unlessBlocked (by simp [hcall])
    intro hpasses
    exact .committed hpasses (.inl rfl)
  | settling write =>
    apply TrustMove.refreshedOnly (by simp [hcall])
    · exact SameRecords.refl _
    · exact CallsFollow.of_calls_eq rfl
  | leaving cause =>
    cases cause with
    | exitAutonomousMode =>
      obtain ⟨call, hquiet, heq⟩ :=
        syncWithOperator_eq (session.refreshServerInfo info) name
      rw [TrustSession.resume, heq]
      apply TrustMove.refreshedOnly (by simp [hcall])
      · exact ⟨rfl, rfl, rfl⟩
      · exact CallsFollow.of_update rfl hquiet
    | trustAccept pending =>
      apply TrustMove.refreshedOnly (by simp [hcall])
      · exact ⟨rfl, rfl, rfl⟩
      · exact CallsFollow.of_left hcall rfl
  | accepting pending => exact resume_accepting hcall

theorem refreshFailed {call : TrustCall} (hcall : session.calls name = some call) (op : TrustOp) :
    TrustMove session op (session.refreshFailed name call) := by
  cases call with
  | leaving cause =>
    cases cause with
    | exitAutonomousMode => exact syncWithOperator session op name
    | trustAccept pending => exact .quiet ⟨rfl, rfl, rfl⟩ (CallsFollow.of_left hcall rfl)
  | settling write => exact refl session op
  | starting | fetching | stamping | accepting => exact setCall none trivial op

end TrustMove

/-- Every step is one of the listed moves. -/
theorem trustMove_trustStep (session : TrustSession) (op : TrustOp) :
    TrustMove session op (trustStep session op) := by
  cases op with
  | openSession info => exact TrustMove.openSession session info
  | syncWithOperator name =>
    exact TrustMove.startCall (TrustMove.syncWithOperator session _ name)
  | reconcileFullOffchainVtxoList name =>
    apply TrustMove.startCall
    unfold TrustSession.reconcileFullOffchainVtxoList
    split
    · exact TrustMove.setCall none trivial _
    · exact TrustMove.setCall (some (.starting .fullList)) trivial _
  | acceptPendingOperatorConfig name =>
    exact TrustMove.startCall (TrustMove.acceptPendingOperatorConfig session name)
  | enterAutonomousMode =>
    simp only [trustStep, TrustSession.enterAutonomousMode]
    split
    · exact TrustMove.refl session _
    · rename_i cached hcached
      exact .entered hcached
  | exitAutonomousMode name =>
    exact TrustMove.startCall (TrustMove.exitAutonomousMode session name)
  | refreshed name answer =>
    simp only [trustStep]
    split
    · exact TrustMove.refl session _
    · exact TrustMove.refl session _
    · rename_i call info _ hcall
      exact TrustMove.resume hcall
    · rename_i call _ hcall
      exact TrustMove.refreshFailed hcall _
  | infoRefreshHook info => exact .hook
  | settled name =>
    simp only [trustStep]
    split
    · rename_i write hcall
      cases write with
      | userSync | fullList | catchUp => exact .settled hcall trivial
    · exact TrustMove.refl session _
  | failed name => exact TrustMove.setCall none trivial _

/-! ## Commits -/

/-- No commit was made while trust was pending or under a digest that is not accepted. -/
def CommitsTrusted (session : TrustSession) : Prop :=
  ∀ view ∈ session.commits, view.operatorTrustPending = false ∧
    ∀ digest, view.acceptedDigest = some digest → view.lastRefreshed = some digest

theorem CommitsTrusted.of_commits_eq {before after : TrustSession} (h : CommitsTrusted before)
    (heq : after.commits = before.commits) : CommitsTrusted after := by
  unfold CommitsTrusted
  rw [heq]
  exact h

theorem CommitsTrusted.trustStep (h : CommitsTrusted session) (op : TrustOp) :
    CommitsTrusted (trustStep session op) := by
  have hmove := trustMove_trustStep session op
  generalize Arkade.trustStep session op = after at hmove ⊢
  cases hmove with
  | quiet hrecords hcalls => exact h.of_commits_eq hrecords.commits
  | opened hcalls hcommits haccepted => exact h.of_commits_eq hcommits
  | entered | acceptCalled | hook | accepted | settled => exact h.of_commits_eq rfl
  | refreshedOnly hunlike hrecords hcalls => exact h.of_commits_eq hrecords.commits
  | committed hpasses hcall =>
    intro view hview
    cases List.mem_append.mp hview with
    | inl hearlier => exact h view hearlier
    | inr hnew =>
      rw [List.mem_singleton] at hnew
      subst hnew
      constructor
      · exact hpasses.1
      · intro digest hdigest
        obtain ⟨cached, hcached, rfl⟩ := Option.map_eq_some_iff.mp hdigest
        exact congrArg some (hpasses.2 cached hcached)

/-- Some call is between its commit and its write of the accepted record. -/
def Settling (session : TrustSession) : Prop :=
  ∃ name write, session.calls name = some (.settling write)

/-- While a call settles, the client holds the accepted digest, so its write keeps it. -/
def SettlesAccepted (session : TrustSession) : Prop :=
  Settling session → ∀ cached, session.cachedOperatorInfo = some cached →
    session.serverInfo.digest = cached.digest

/-- While a call settles, a refresh returns the accepted digest, or it is that of an accept
call and returns the digest that the call accepts. -/
def RefreshKeepsAccepted (session : TrustSession) (op : TrustOp) : Prop :=
  Settling session → ∀ cached, session.cachedOperatorInfo = some cached →
    match op with
    | .refreshed name (some info) => info.digest = cached.digest ∨
        ∃ pending, session.calls name = some (.accepting pending) ∧
          pending.digest = info.digest
    | .infoRefreshHook info => info.digest = cached.digest
    | _ => True

theorem Settling.of_follow {before after : TrustSession} (hsettling : Settling after)
    (h : CallsFollow before after) : Settling before := by
  obtain ⟨name, write, hcall⟩ := hsettling
  exact ⟨name, write, h.settling name write hcall⟩

variable {call : TrustCall}

theorem Settling.of_acceptCalled
    (hcall : call = .leaving (.trustAccept pending) ∨ call = .accepting pending)
    (hsettling : Settling (session.setCall name (some call))) : Settling session := by
  obtain ⟨other, write, hother⟩ := hsettling
  by_cases hname : other = name
  · subst hname
    simp only [TrustSession.setCall, Function.update_self, Option.some.injEq] at hother
    cases hcall with
    | inl heq =>
      rw [heq] at hother
      cases hother
    | inr heq =>
      rw [heq] at hother
      cases hother
  · exact ⟨other, write, by simpa [TrustSession.setCall, hname] using hother⟩

theorem SettlesAccepted.trustStep (hguard : RefreshKeepsAccepted session op)
    (h : SettlesAccepted session) : SettlesAccepted (trustStep session op) := by
  have hmove := trustMove_trustStep session op
  generalize Arkade.trustStep session op = after at hmove ⊢
  intro hsettling cached hcached
  cases hmove with
  | quiet hrecords hcalls =>
    rw [hrecords.cachedOperatorInfo] at hcached
    rw [hrecords.serverInfo]
    exact h (hsettling.of_follow hcalls) cached hcached
  | opened hcalls hcommits haccepted =>
    obtain ⟨name, write, hcall⟩ := hsettling
    rw [hcalls name] at hcall
    cases hcall
  | entered haccepted =>
    rw [haccepted] at hcached
    cases hcached
    rfl
  | acceptCalled hpending hcall => exact h (Settling.of_acceptCalled hcall hsettling) cached hcached
  | hook => exact hguard hsettling cached hcached
  | refreshedOnly hunlike hrecords hcalls =>
    rw [hrecords.cachedOperatorInfo] at hcached
    rw [hrecords.serverInfo]
    cases hguard (hsettling.of_follow hcalls) cached hcached with
    | inl hdigest => exact hdigest
    | inr haccepting =>
      obtain ⟨pending, hcall, hdigest⟩ := haccepting
      exact absurd hdigest (hunlike pending hcall)
  | committed hpasses hcall => exact hpasses.2 cached hcached
  | accepted hcall hdigest hquiet =>
    cases hcached
    exact hdigest.symm
  | settled hcall hquiet =>
    cases hcached
    rfl

/-- An accepted digest is kept by every step but the refresh of an accept call that returns
the digest to accept. -/
theorem acceptedDigest_trustStep (h : SettlesAccepted session)
    {cached : CachedOperatorInfoRecord} (hcached : session.cachedOperatorInfo = some cached) :
    (∃ kept, (trustStep session op).cachedOperatorInfo = some kept ∧
      kept.digest = cached.digest) ∨
    ∃ name info pending, op = .refreshed name (some info) ∧
      session.calls name = some (.accepting pending) ∧ pending.digest = info.digest ∧
        (trustStep session op).cachedOperatorInfo = some pending := by
  have hmove := trustMove_trustStep session op
  generalize Arkade.trustStep session op = after at hmove ⊢
  cases hmove with
  | quiet hrecords hcalls => exact .inl ⟨cached, hrecords.cachedOperatorInfo.trans hcached, rfl⟩
  | opened hcalls hcommits haccepted =>
    cases haccepted with
    | inl hsame => exact .inl ⟨cached, hsame.trans hcached, rfl⟩
    | inr hlive => exact .inl ⟨_, hlive.2, hlive.1 cached hcached⟩
  | entered | acceptCalled | hook | committed => exact .inl ⟨cached, hcached, rfl⟩
  | refreshedOnly hunlike hrecords hcalls =>
    exact .inl ⟨cached, hrecords.cachedOperatorInfo.trans hcached, rfl⟩
  | accepted hcall hdigest hquiet => exact .inr ⟨_, _, _, rfl, hcall, hdigest, rfl⟩
  | settled hcall hquiet =>
    exact .inl ⟨session.serverInfo, rfl, h ⟨_, _, hcall⟩ cached hcached⟩

/-- An accept call was one before the step, or the step has made it while the record waited
for review. -/
theorem accepts_trustStep
    (hcall : (trustStep session op).calls name = some call) (haccepts : call.Accepts pending) :
    (∃ earlier, session.calls name = some earlier ∧ earlier.Accepts pending) ∨
      op = .acceptPendingOperatorConfig name ∧ session.pendingOperatorInfo = some pending := by
  have hmove := trustMove_trustStep session op
  generalize Arkade.trustStep session op = after at hmove hcall
  cases hmove with
  | quiet hrecords hcalls => exact .inl (hcalls.accepts name call pending hcall haccepts)
  | opened hcalls hcommits haccepted =>
    rw [hcalls name] at hcall
    cases hcall
  | entered | hook => exact .inl ⟨call, hcall, haccepts⟩
  | acceptCalled hpending hmade =>
    rename_i other captured mode made
    by_cases hname : name = other
    · subst hname
      simp only [TrustSession.setCall, Function.update_self, Option.some.injEq] at hcall
      subst hcall
      have hcaptured : captured = pending := by
        cases hmade with
        | inl heq =>
          rw [heq] at haccepts
          exact haccepts
        | inr heq =>
          rw [heq] at haccepts
          exact haccepts
      exact .inr ⟨rfl, hcaptured ▸ hpending⟩
    · exact .inl ⟨call, by simpa [TrustSession.setCall, hname] using hcall, haccepts⟩
  | refreshedOnly hunlike hrecords hcalls =>
    exact .inl (hcalls.accepts name call pending hcall haccepts)
  | committed hpasses hmade =>
    left
    apply Exists.intro call
    constructor
    · apply calls_of_update rfl _ hcall haccepts
      intro made heq
      cases hmade with
      | inl hnone =>
        rw [hnone] at heq
        cases heq
      | inr hsettling =>
        obtain ⟨write, hwrite⟩ := hsettling
        rw [hwrite] at heq
        cases heq
        exact id
    · exact haccepts
  | accepted hmade hdigest hquiet =>
    exact .inl ((CallsFollow.of_update rfl hquiet).accepts name call pending hcall haccepts)
  | settled hmade hquiet =>
    exact .inl ((CallsFollow.of_update rfl hquiet).accepts name call pending hcall haccepts)

/-- In the history `first`, the call `name` is an accept call under way: it was made while
`pending` waited for review, and it has been that call ever since. -/
def AcceptCallUnderWay (start : TrustSession) (first : List TrustOp) (name : Nat)
    (pending : CachedOperatorInfoRecord) : Prop :=
  ∃ early between, first = early ++ .acceptPendingOperatorConfig name :: between ∧
    (trustRun start early).pendingOperatorInfo = some pending ∧
      ∀ since, since <+: between → ∃ call,
        (trustRun start (early ++ .acceptPendingOperatorConfig name :: since)).calls name =
          some call ∧ call.Accepts pending

/-- An accept call under way was made in the run. -/
theorem acceptCallUnderWay {start : TrustSession} (hidle : ∀ name, start.calls name = none)
    {first : List TrustOp}
    (hcall : (trustRun start first).calls name = some call) (haccepts : call.Accepts pending) :
    AcceptCallUnderWay start first name pending := by
  -- Backwards along the run, to the step that made the call.
  induction first using List.reverseRecOn generalizing call with
  | nil =>
    rw [trustRun, run_nil, hidle name] at hcall
    cases hcall
  | append_singleton first op ih =>
    have hstep : trustRun start (first ++ [op]) = trustStep (trustRun start first) op :=
      run_append trustStep start first [op]
    have hnow := hcall
    rw [hstep] at hnow
    cases accepts_trustStep hnow haccepts with
    | inl hearlier =>
      obtain ⟨earlier, hname, hbefore⟩ := hearlier
      obtain ⟨early, between, rfl, hpending, hsince⟩ := ih hname hbefore
      apply Exists.intro early
      refine ⟨between ++ [op], by simp, hpending, ?_⟩
      intro since hprefix
      cases List.prefix_concat_iff.mp hprefix with
      | inl hall =>
        subst hall
        exact ⟨call, by simpa using hcall, haccepts⟩
      | inr hshorter => exact hsince since hshorter
    | inr hmade =>
      obtain ⟨rfl, hpending⟩ := hmade
      refine ⟨first, [], rfl, hpending, ?_⟩
      intro since hprefix
      rw [List.prefix_nil] at hprefix
      subst hprefix
      exact ⟨call, hcall, haccepts⟩

/-- Along the run an accepted digest changes only within an accept call, to the digest that
waited for review when the call was made and that the operator has returned to it. -/
def AcceptedByUserOnly (start : TrustSession) (ops : List TrustOp) : Prop :=
  ∀ first op rest, ops = first ++ op :: rest →
    ∀ cached, (trustRun start first).cachedOperatorInfo = some cached →
      (∃ kept, (trustRun start (first ++ [op])).cachedOperatorInfo = some kept ∧
        kept.digest = cached.digest) ∨
      ∃ name info pending, op = .refreshed name (some info) ∧
        AcceptCallUnderWay start first name pending ∧ pending.digest = info.digest ∧
          (trustRun start (first ++ [op])).cachedOperatorInfo = some pending

/-- No call is under way and no commit has been made. -/
def AtRest (session : TrustSession) : Prop :=
  (∀ name, session.calls name = none) ∧ session.commits = []

/-- The gate keeps its promise on every run in which no refresh brings another digest while
a call is between its commit and its write. -/
theorem acceptedByUserOnly_and_commitsTrusted {start : TrustSession} (hrest : AtRest start)
    {ops : List TrustOp} (hmeets : RunMeets trustStep RefreshKeepsAccepted start ops) :
    AcceptedByUserOnly start ops ∧ CommitsTrusted (trustRun start ops) := by
  constructor
  · rintro first op rest rfl cached hcached
    have hfirst := (runMeets_append.mp hmeets).1
    have hsettles : SettlesAccepted (trustRun start first) := by
      apply run_invariant_of_runMeets SettlesAccepted _ _ hfirst
      · intro state input hguard hinv
        exact hinv.trustStep hguard
      · intro hsettling
        obtain ⟨name, write, hcall⟩ := hsettling
        rw [hrest.1 name] at hcall
        cases hcall
    have hstep : trustRun start (first ++ [op]) = trustStep (trustRun start first) op :=
      run_append trustStep start first [op]
    rw [hstep]
    cases acceptedDigest_trustStep hsettles hcached with
    | inl hkept => exact .inl hkept
    | inr haccept =>
        obtain ⟨name, info, pending, hop, hcall, hdigest, haccepted⟩ := haccept
        exact .inr ⟨name, info, pending, hop, acceptCallUnderWay hrest.1 hcall rfl, hdigest,
          haccepted⟩
  · apply run_invariant CommitsTrusted
    · intro state input hinv
      exact hinv.trustStep input
    · intro view hview
      rw [hrest.2] at hview
      cases hview

def sampleOperatorInfo (digest : String) : CachedOperatorInfoRecord where
  version := "0.7.0"
  signerPkHex := "02aa"
  forfeitPkHex := "02bb"
  forfeitAddress := "bcrt1q"
  checkpointTapscriptHex := "51"
  network := "regtest"
  sessionDuration := 10
  unilateralExitDelayConsensus := 144
  boardingExitDelayConsensus := 144
  utxoMinAmountSats := none
  utxoMaxAmountSats := none
  vtxoMinAmountSats := none
  vtxoMaxAmountSats := none
  dustSats := 330
  fees := none
  scheduledSession := none
  deprecatedSigners := []
  serviceStatus := []
  digest
  maxTxWeight := 0
  maxOpReturnOutputs := 0

def sampleTrustSession : TrustSession where
  cachedOperatorInfo := some (sampleOperatorInfo "a")
  pendingOperatorInfo := none
  operatorTrustPending := false
  autonomousMode := false
  serverInfo := sampleOperatorInfo "a"
  lastRefreshed := none
  calls := fun _ => none
  commits := []

def overtakenSync : List TrustOp :=
  [.syncWithOperator 0, .refreshed 0 (some (sampleOperatorInfo "a")),
    .refreshed 0 (some (sampleOperatorInfo "a")), .syncWithOperator 1,
    .refreshed 1 (some (sampleOperatorInfo "b")), .settled 0]

theorem not_acceptedByUserOnly_overtaken :
    AtRest sampleTrustSession ∧ ¬ AcceptedByUserOnly sampleTrustSession overtakenSync := by
  constructor
  · exact ⟨fun _ => rfl, rfl⟩
  · intro h
    cases h (overtakenSync.take 5) (.settled 0) [] rfl (sampleOperatorInfo "a") rfl with
    | inl hkept =>
        obtain ⟨kept, hkept, hdigest⟩ := hkept
        have hnew : some (sampleOperatorInfo "b") = some kept := hkept
        cases hnew
        exact absurd hdigest (by decide)
    | inr haccept =>
        obtain ⟨name, info, pending, hop, hrest⟩ := haccept
        cases hop

def reviewedSync : List TrustOp :=
  [.syncWithOperator 0, .refreshed 0 (some (sampleOperatorInfo "b")),
    .acceptPendingOperatorConfig 1, .refreshed 1 (some (sampleOperatorInfo "b")),
    .refreshed 1 (some (sampleOperatorInfo "b")), .refreshed 1 (some (sampleOperatorInfo "b")),
    .settled 1]

theorem acceptedByUserOnly_reviewedSync :
    (AcceptedByUserOnly sampleTrustSession reviewedSync ∧
      CommitsTrusted (trustRun sampleTrustSession reviewedSync)) ∧
    (trustRun sampleTrustSession reviewedSync).cachedOperatorInfo =
      some (sampleOperatorInfo "b") := by
  constructor
  · apply acceptedByUserOnly_and_commitsTrusted
    · exact ⟨fun _ => rfl, rfl⟩
    · refine ⟨fun _ _ _ => trivial, ?_, fun _ _ _ => trivial, ?_, ?_, ?_, fun _ _ _ => trivial,
        trivial⟩
      · intro hsettling
        obtain ⟨name, write, hcall⟩ := hsettling
        change Function.update (fun _ => none) 0 (some (TrustCall.starting .userSync)) name =
          some (.settling write) at hcall
        by_cases hname : name = 0
        · simp [hname] at hcall
        · simp [hname] at hcall
      · intro hsettling cached hcached
        exact .inr ⟨sampleOperatorInfo "b", rfl, rfl⟩
      · intro hsettling cached hcached
        cases hcached
        exact .inl rfl
      · intro hsettling cached hcached
        cases hcached
        exact .inl rfl
  · rfl

end Bitboard.Arkade
