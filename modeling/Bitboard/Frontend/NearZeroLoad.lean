/-
# When a near-zero load keeps its promises

A load promises three things. It returns true only with the near-zero secret in the session,
and that secret opens the wallets. It does not show near-zero mode over a session that has
another password. And it ends no session that decrypts the first wallet's payload. The
promises are kept from every state, and from every state that an interrupted upgrade leaves,
unless one of three things goes wrong: without a wallet nothing tells a user's session from
a near-zero one; a live session whose trial decryption fails by accident counts as a
mismatch; and where the first probe fails a live session is not checked at all.
-/

import Bitboard.Frontend.NearZero

namespace Bitboard.Frontend

open Bitboard.Lib Bitboard.Wallet Bitboard.Wallet.PayloadJson

variable {outcome : LoadOutcome}

section Load

variable {Ambient : Type} (vault : Vault Ambient) (engine : JsonEngine String)
variable (base64ToUint8 : String → Option (List UInt8))

/-- Authenticated encryption: a blob decrypts under one password only. -/
def Vault.OnePassword : Prop :=
  ∀ blob first second firstText secondText, vault.doDecrypt first blob = .ok firstText →
    vault.doDecrypt second blob = .ok secondText → first = second

def Vault.Decrypts (password : String) (blob : EncryptedWalletSecretsBlob) : Prop :=
  (vault.doDecrypt password blob).toBool = true

instance (password : String) (blob : EncryptedWalletSecretsBlob) :
    Decidable (vault.Decrypts password blob) := inferInstanceAs (Decidable (_ = true))

theorem Vault.OnePassword.eq_of_decrypts {vault : Vault Ambient} (hone : vault.OnePassword)
    {first second : String} {blob : EncryptedWalletSecretsBlob}
    (hfirst : vault.Decrypts first blob) (hsecond : vault.Decrypts second blob) :
    first = second := by
  unfold Vault.Decrypts at hfirst hsecond
  cases hread : vault.doDecrypt first blob with
  | error message =>
    rw [hread] at hfirst
    cases hfirst
  | ok firstText =>
    cases hreread : vault.doDecrypt second blob with
    | error message =>
      rw [hreread] at hsecond
      cases hsecond
    | ok secondText => exact hone blob first second firstText secondText hread hreread

/-- There is a first wallet and the password decrypts its payload. -/
def NearZeroState.DecryptsFirst (state : NearZeroState) (password : String) : Prop :=
  ∃ blob, state.firstPayloadBlob = some blob ∧ vault.Decrypts password blob

structure LoadKept (state : NearZeroState) (outcome : LoadOutcome) : Prop where
  /-- It returns true, and shows the mode, only with the near-zero secret in the session, and
  the secret decrypts the first payload whenever a wallet exists. -/
  loaded : outcome.returned = some true → outcome.shown = some true ∧
    ∃ secret, state.secret vault engine base64ToUint8 = some secret ∧
      outcome.session = some secret ∧
      ∀ blob, state.firstPayloadBlob = some blob → vault.Decrypts secret blob
  /-- Over a session with any other password it does not show the mode. -/
  reported : outcome.shown = some true → ∀ password, outcome.session = some password →
    state.secret vault engine base64ToUint8 = some password
  /-- It ends no session that decrypts the first payload. -/
  kept : ∀ password ∈ outcome.ended, ¬ state.DecryptsFirst vault password

def NearZeroConfigured (state : NearZeroState) (replies : LoadReplies) : Prop :=
  replies.readsActiveRow = true ∧ state.activeRow = some "1" ∧ replies.readsWrappedRow = true ∧
    ∃ wrapped, state.wrappedRow = some wrapped ∧ wrapped ≠ ""

def EndReplies.TakesEffect (replies : EndReplies) : Prop :=
  replies.probe = true ∧ ∃ index < endSecretsSessionMaxAttempts,
    (replies.attempt index = .ended ∨ replies.attempt index = .failed true) ∧
      ∀ earlier < index, replies.attempt earlier = .inFlight

/-- The restore unwraps the secret, reads a payload, and does not decrypt it, for whatever
reason. -/
def RestoreRejects (state : NearZeroState) (replies : CheckReplies) : Prop :=
  replies.unwraps = true ∧ replies.readsPayload = true ∧
    ∃ secret blob, state.secret vault engine base64ToUint8 = some secret ∧
      state.firstPayloadBlob = some blob ∧
      (replies.decrypts = false ∨ ¬ vault.Decrypts secret blob)

/-- The live session is not the near-zero one, but no wallet is there to tell. -/
def UncheckedWithoutWallet (state : NearZeroState) (replies : LoadReplies)
    (password : String) : Prop :=
  replies.probe = true ∧ replies.live.readsPayload = true ∧ state.firstPayloadBlob = none ∧
    replies.reuse.unwraps = true ∧ replies.reuse.readsPayload = true ∧
    ∃ secret, state.secret vault engine base64ToUint8 = some secret ∧ secret ≠ password

/-- The trial decryption of a live session that does decrypt the first payload fails, and the
session is ended for it, at once or after the restore has failed too. -/
def EndedByFailedTrial (state : NearZeroState) (replies : LoadReplies)
    (password : String) : Prop :=
  replies.probe = true ∧ replies.live.readsPayload = true ∧ replies.live.decrypts = false ∧
    state.DecryptsFirst vault password ∧
    (replies.mismatchEnd.TakesEffect ∨
      (RestoreRejects vault engine base64ToUint8 state replies.restore ∧
        replies.restoreEnd.TakesEffect))

/-- The first probe fails over a live session: it is shown as the near-zero one although it is
not, or ended by the restore although it decrypts the first payload. -/
def MissedByProbe (state : NearZeroState) (replies : LoadReplies) (password : String) : Prop :=
  replies.probe = false ∧
    ((¬ RestoreRejects vault engine base64ToUint8 state replies.restore ∧
        state.secret vault engine base64ToUint8 ≠ some password) ∨
      (RestoreRejects vault engine base64ToUint8 state replies.restore ∧
        replies.restoreEnd.TakesEffect ∧ state.DecryptsFirst vault password))

def LoadSafe (state : NearZeroState) (replies : LoadReplies) : Prop :=
  NearZeroConfigured state replies → ∀ password, state.session = some password →
    ¬ UncheckedWithoutWallet vault engine base64ToUint8 state replies password ∧
    ¬ EndedByFailedTrial vault engine base64ToUint8 state replies password ∧
    ¬ MissedByProbe vault engine base64ToUint8 state replies password

variable {state : NearZeroState}

theorem loadSafe_of_no_session (h : state.session = none)
    (replies : LoadReplies) : LoadSafe vault engine base64ToUint8 state replies := by
  intro _ password hsession
  rw [h] at hsession
  cases hsession

/-- The attempts from an index on leave no session exactly if one of them ends it after
attempts that were in flight. -/
theorem endWalletSecretsSessionReliably_eq_none_iff (attempt : Nat → EndReply)
    (password : String) (count index : Nat) :
    endWalletSecretsSessionReliably attempt count index (some password) = none ↔
      ∃ reached < count, (attempt (index + reached) = .ended ∨
          attempt (index + reached) = .failed true) ∧
        ∀ earlier < reached, attempt (index + earlier) = .inFlight := by
  induction count generalizing index with
  | zero =>
    constructor
    · intro h
      cases h
    · intro h
      obtain ⟨reached, hlt, _⟩ := h
      omega
  | succ count ih =>
    rw [endWalletSecretsSessionReliably]
    constructor
    · intro h
      cases hattempt : attempt index with
      | ended => exact ⟨0, Nat.succ_pos count, .inl hattempt, fun earlier hlt => by omega⟩
      | inFlight =>
        simp only [hattempt] at h
        obtain ⟨reached, hlt, hends, hearlier⟩ := (ih (index + 1)).mp h
        rw [Nat.add_right_comm] at hends
        apply Exists.intro (reached + 1)
        apply And.intro (Nat.succ_lt_succ hlt)
        apply And.intro hends
        intro earlier hless
        cases earlier with
        | zero => exact hattempt
        | succ earlier =>
          rw [Nat.add_comm earlier 1, ← Nat.add_assoc]
          exact hearlier earlier (by omega)
      | failed ended =>
        cases ended with
        | true => exact ⟨0, Nat.succ_pos count, .inr hattempt, fun earlier hlt => by omega⟩
        | false =>
          simp only [hattempt] at h
          cases h
    · intro h
      obtain ⟨reached, hlt, hends, hearlier⟩ := h
      cases reached with
      | zero =>
        cases hends with
        | inl hended =>
          rw [Nat.add_zero] at hended
          simp only [hended]
        | inr hfailed =>
          rw [Nat.add_zero] at hfailed
          simp only [hfailed, if_true]
      | succ reached =>
        have hfirst : attempt index = .inFlight := hearlier 0 (Nat.succ_pos reached)
        simp only [hfirst]
        apply (ih (index + 1)).mpr
        apply Exists.intro reached
        apply And.intro (by omega)
        rw [Nat.add_right_comm]
        apply And.intro hends
        intro earlier hless
        rw [Nat.add_right_comm]
        exact hearlier (earlier + 1) (by omega)

theorem endWalletSecretsSessionReliably_cases (attempt : Nat → EndReply) (password : String)
    (count index : Nat) :
    endWalletSecretsSessionReliably attempt count index (some password) = none ∨
      endWalletSecretsSessionReliably attempt count index (some password) = some password := by
  induction count generalizing index with
  | zero => exact .inr rfl
  | succ count ih =>
    rw [endWalletSecretsSessionReliably]
    cases hattempt : attempt index with
    | ended => exact .inl rfl
    | inFlight => exact ih (index + 1)
    | failed ended =>
      cases ended with
      | true => exact .inl rfl
      | false => exact .inr rfl

theorem endSecretsSessionAfterNearZeroMismatch_none (replies : EndReplies) :
    endSecretsSessionAfterNearZeroMismatch replies none = none := by
  unfold endSecretsSessionAfterNearZeroMismatch
  rw [Option.isSome_none, Bool.and_false]
  rfl

theorem endSecretsSessionAfterNearZeroMismatch_of_takesEffect {replies : EndReplies}
    (h : replies.TakesEffect) (session : Option String) :
    endSecretsSessionAfterNearZeroMismatch replies session = none := by
  cases session with
  | none => exact endSecretsSessionAfterNearZeroMismatch_none replies
  | some password =>
    unfold endSecretsSessionAfterNearZeroMismatch
    rw [h.1, Option.isSome_some, Bool.and_true, if_pos rfl,
      endWalletSecretsSessionReliably_eq_none_iff]
    simpa using h.2

theorem endSecretsSessionAfterNearZeroMismatch_of_not {replies : EndReplies}
    (h : ¬ replies.TakesEffect) (session : Option String) :
    endSecretsSessionAfterNearZeroMismatch replies session = session := by
  cases session with
  | none => exact endSecretsSessionAfterNearZeroMismatch_none replies
  | some password =>
    unfold endSecretsSessionAfterNearZeroMismatch
    cases hprobe : replies.probe with
    | false => rfl
    | true =>
      rw [Option.isSome_some, Bool.and_true, if_pos rfl]
      cases endWalletSecretsSessionReliably_cases replies.attempt password
          endSecretsSessionMaxAttempts 0 with
      | inl hnone =>
        have heffect := (endWalletSecretsSessionReliably_eq_none_iff _ _ _ _).mp hnone
        exact absurd ⟨hprobe, by simpa using heffect⟩ h
      | inr hsame => exact hsame

theorem endedSession_self (session : Option String) : endedSession session session = [] := by
  cases session with
  | none | some => rfl

variable {vault engine base64ToUint8}

theorem loadKept_of_quiet (hreturned : outcome.returned ≠ some true)
    (hshown : outcome.shown ≠ some true)
    (hkept : ∀ password ∈ outcome.ended, ¬ state.DecryptsFirst vault password) :
    LoadKept vault engine base64ToUint8 state outcome where
  loaded := by
    intro h
    exact absurd h hreturned
  reported := by
    intro h
    exact absurd h hshown
  kept := hkept

theorem loadKept_of_silent {state : NearZeroState} (hreturned : outcome.returned ≠ some true)
    (hshown : outcome.shown ≠ some true) (hended : outcome.ended = []) :
    LoadKept vault engine base64ToUint8 state outcome := by
  apply loadKept_of_quiet hreturned hshown
  rw [hended]
  exact List.forall_mem_nil _

/-- A session ended before the rest of a load adds its own condition. -/
theorem loadKept_append_iff {ended : List String} :
    LoadKept vault engine base64ToUint8 state { outcome with ended := ended ++ outcome.ended } ↔
      LoadKept vault engine base64ToUint8 state outcome ∧
        ∀ password ∈ ended, ¬ state.DecryptsFirst vault password := by
  constructor
  · intro h
    constructor
    · exact {
        loaded := h.loaded
        reported := h.reported
        kept := fun password hmem => h.kept password (List.mem_append_right _ hmem) }
    · intro password hmem
      exact h.kept password (List.mem_append_left _ hmem)
  · intro h
    exact {
      loaded := h.1.loaded
      reported := h.1.reported
      kept := by
        intro password hmem
        rw [List.mem_append] at hmem
        cases hmem with
        | inl hfirst => exact h.2 password hfirst
        | inr hrest => exact h.1.kept password hrest }

theorem passwordDecrypts_eq_some_false {replies : CheckReplies} {password : String} :
    passwordDecryptsFirstWalletSecretsPayload vault state replies password = some false ↔
      replies.readsPayload = true ∧ ∃ blob, state.firstPayloadBlob = some blob ∧
        (replies.decrypts = false ∨ ¬ vault.Decrypts password blob) := by
  unfold passwordDecryptsFirstWalletSecretsPayload firstWalletSecretsPayloadDecryptsWith
  cases hreads : replies.readsPayload with
  | false => simp
  | true =>
    cases hblob : state.firstPayloadBlob with
    | none => simp
    | some blob =>
      cases hdecrypts : replies.decrypts with
      | false => simp [decryptsWithPassword]
      | true => simp [decryptsWithPassword, Vault.Decrypts]

theorem passwordDecrypts_eq_some_true {replies : CheckReplies} {password : String} :
    passwordDecryptsFirstWalletSecretsPayload vault state replies password = some true ↔
      replies.readsPayload = true ∧ ∀ blob, state.firstPayloadBlob = some blob →
        replies.decrypts = true ∧ vault.Decrypts password blob := by
  unfold passwordDecryptsFirstWalletSecretsPayload firstWalletSecretsPayloadDecryptsWith
  cases hreads : replies.readsPayload with
  | false => simp
  | true =>
    cases hblob : state.firstPayloadBlob with
    | none => simp
    | some blob => simp [decryptsWithPassword, Vault.Decrypts]

theorem secret_eq_some_iff {wrapped : String}
    (hrow : state.wrappedRow = some wrapped) {secret : String} :
    state.secret vault engine base64ToUint8 = some secret ↔
      unwrapSessionSecret vault engine base64ToUint8 wrapped = .ok secret := by
  rw [NearZeroState.secret, hrow, Option.bind_some]
  cases hunwrap : unwrapSessionSecret vault engine base64ToUint8 wrapped with
  | error message =>
    constructor
    · intro h
      cases h
    · intro h
      cases h
  | ok unwrapped => simp [Except.toOption]

/-! ## The restore -/

section Restore

variable {state : NearZeroState} {replies : LoadReplies} {wrapped : String}
variable (hrow : state.wrappedRow = some wrapped) (endedBecauseOfMismatch : Bool)

include hrow

theorem restoreSession_of_rejects
    (h : RestoreRejects vault engine base64ToUint8 state replies.restore)
    (session : Option String) :
    restoreSession vault engine base64ToUint8 state replies wrapped endedBecauseOfMismatch
        session =
      { returned := some false
        session := endSecretsSessionAfterNearZeroMismatch replies.restoreEnd session
        shown := some false
        ended := endedSession session
          (endSecretsSessionAfterNearZeroMismatch replies.restoreEnd session) } := by
  obtain ⟨hunwraps, hreads, secret, blob, hsecret, hblob, hrejects⟩ := h
  have hcheck : passwordDecryptsFirstWalletSecretsPayload vault state replies.restore secret =
      some false := passwordDecrypts_eq_some_false.mpr ⟨hreads, blob, hblob, hrejects⟩
  unfold restoreSession
  rw [if_pos hunwraps, (secret_eq_some_iff hrow).mp hsecret]
  simp only [hcheck]

/-- A secret that is not rejected does not replace a live session. -/
theorem restoreSession_of_live
    (h : ¬ RestoreRejects vault engine base64ToUint8 state replies.restore)
    (password : String) :
    restoreSession vault engine base64ToUint8 state replies wrapped endedBecauseOfMismatch
      (some password) = restoreFailed endedBecauseOfMismatch (some password) := by
  unfold restoreSession
  cases hunwraps : replies.restore.unwraps with
  | false => rfl
  | true =>
    rw [if_pos rfl]
    cases hsecret : unwrapSessionSecret vault engine base64ToUint8 wrapped with
    | error message => rfl
    | ok secret =>
      simp only
      cases hcheck : passwordDecryptsFirstWalletSecretsPayload vault state replies.restore
          secret with
      | none => rfl
      | some opens =>
        cases opens with
        | true => rfl
        | false =>
          obtain ⟨hreads, blob, hblob, hrejects⟩ :=
            passwordDecrypts_eq_some_false.mp hcheck
          exact absurd ⟨hunwraps, hreads, secret, blob,
            (secret_eq_some_iff hrow).mpr hsecret, hblob, hrejects⟩ h

/-- Without a session the restore keeps every promise. -/
theorem loadKept_restoreSession_none :
    LoadKept vault engine base64ToUint8 state
      (restoreSession vault engine base64ToUint8 state replies wrapped endedBecauseOfMismatch
        none) := by
  have hfailed : LoadKept vault engine base64ToUint8 state
      (restoreFailed endedBecauseOfMismatch none) := {
    loaded := by
      intro h
      cases h
    reported := by
      intro _ password h
      cases h
    kept := by
      intro password h
      cases h }
  unfold restoreSession
  split
  · split
    · exact hfailed
    · rename_i secret hsecret
      have hheld := (secret_eq_some_iff hrow).mpr hsecret
      split
      · exact hfailed
      · simp only [endSecretsSessionAfterNearZeroMismatch_none, endedSession_self]
        exact loadKept_of_silent (by simp) (by simp) rfl
      · rename_i hcheck
        have hopens := (passwordDecrypts_eq_some_true.mp hcheck).2
        cases hbegins : replies.begins with
        | begun =>
          exact {
            loaded := by
              intro _
              exact ⟨rfl, secret, hheld, rfl, fun blob hblob => (hopens blob hblob).2⟩
            reported := by
              intro _ password hpassword
              cases hpassword
              exact hheld
            kept := by
              intro password hmem
              cases hmem }
        | failed begun =>
          -- The session may be the near-zero one although the call failed.
          exact {
            loaded := by
              intro h
              cases h
            reported := by
              intro _ password hpassword
              cases begun with
              | false => cases hpassword
              | true =>
                cases hpassword
                exact hheld
            kept := by
              intro password hmem
              cases hmem }
  · exact hfailed

/-- The reuse of a live session, on what the wrapped secret opens. -/
theorem wrappedSecretOpens_eq_some_true :
    wrappedSecretOpensExistingWalletSecrets vault engine base64ToUint8 state replies.reuse
        wrapped = some true ↔
      replies.reuse.unwraps = true ∧ replies.reuse.readsPayload = true ∧
        ∃ secret, state.secret vault engine base64ToUint8 = some secret ∧
          ∀ blob, state.firstPayloadBlob = some blob →
            replies.reuse.decrypts = true ∧ vault.Decrypts secret blob := by
  unfold wrappedSecretOpensExistingWalletSecrets
  cases hunwraps : replies.reuse.unwraps with
  | false => simp
  | true =>
    rw [if_pos rfl]
    cases hsecret : unwrapSessionSecret vault engine base64ToUint8 wrapped with
    | error message =>
      constructor
      · intro h
        cases h
      · intro h
        obtain ⟨_, _, secret, hheld, _⟩ := h
        rw [secret_eq_some_iff hrow, hsecret] at hheld
        cases hheld
    | ok secret =>
      simp only
      rw [passwordDecrypts_eq_some_true]
      constructor
      · intro h
        exact ⟨trivial, h.1, secret, (secret_eq_some_iff hrow).mpr hsecret, h.2⟩
      · intro h
        obtain ⟨_, hreads, other, hheld, hopens⟩ := h
        rw [secret_eq_some_iff hrow, hsecret] at hheld
        cases hheld
        exact ⟨hreads, hopens⟩

end Restore

/-! ## The whole load -/

/-- A load that is not configured does nothing. -/
theorem loadKept_of_not_configured {replies : LoadReplies}
    (h : ¬ NearZeroConfigured state replies) :
    LoadKept vault engine base64ToUint8 state
      (tryLoadNearZeroSessionIntoMemory vault engine base64ToUint8 state replies) := by
  unfold tryLoadNearZeroSessionIntoMemory
  split
  · rename_i hreadsActive
    split
    · rename_i hactive
      split
      · rename_i hreadsWrapped
        split
        · exact loadKept_of_silent (by simp) (by simp) rfl
        · rename_i wrapped hwrapped
          split
          · exact loadKept_of_silent (by simp) (by simp) rfl
          · rename_i hne
            exact absurd ⟨hreadsActive, hactive, hreadsWrapped, wrapped, hwrapped, hne⟩ h
      · exact loadKept_of_silent (by simp) (by simp) rfl
    · exact loadKept_of_silent (by simp) (by simp) rfl
  · exact loadKept_of_silent (by simp) (by simp) rfl

section Configured

variable {state : NearZeroState} {replies : LoadReplies} {wrapped : String}
variable (hactive : replies.readsActiveRow = true ∧ state.activeRow = some "1" ∧
  replies.readsWrappedRow = true) (hrow : state.wrappedRow = some wrapped) (hne : wrapped ≠ "")

include hactive hrow hne

theorem tryLoad_of_no_session (hsession : state.session = none) :
    tryLoadNearZeroSessionIntoMemory vault engine base64ToUint8 state replies =
      restoreSession vault engine base64ToUint8 state replies wrapped false none := by
  unfold tryLoadNearZeroSessionIntoMemory
  rw [if_pos hactive.1, if_pos hactive.2.1, if_pos hactive.2.2, hrow]
  simp only
  rw [if_neg hne, hsession]

variable {password : String} (hsession : state.session = some password)

include hsession

theorem tryLoad_of_failed_probe (hprobe : replies.probe = false) :
    tryLoadNearZeroSessionIntoMemory vault engine base64ToUint8 state replies =
      restoreSession vault engine base64ToUint8 state replies wrapped false (some password) := by
  unfold tryLoadNearZeroSessionIntoMemory
  rw [if_pos hactive.1, if_pos hactive.2.1, if_pos hactive.2.2, hrow]
  simp only
  rw [if_neg hne, hsession, hprobe]
  rfl

/-- With a session that the first probe misses. -/
theorem loadKept_iff_of_failed_probe (hprobe : replies.probe = false) :
    LoadKept vault engine base64ToUint8 state
        (tryLoadNearZeroSessionIntoMemory vault engine base64ToUint8 state replies) ↔
      ¬ MissedByProbe vault engine base64ToUint8 state replies password := by
  rw [tryLoad_of_failed_probe hactive hrow hne hsession hprobe]
  by_cases hrejects : RestoreRejects vault engine base64ToUint8 state replies.restore
  · rw [restoreSession_of_rejects hrow false hrejects]
    by_cases heffect : replies.restoreEnd.TakesEffect
    · rw [endSecretsSessionAfterNearZeroMismatch_of_takesEffect heffect]
      constructor
      · intro hkept hmissed
        cases hmissed.2 with
        | inl hshown => exact hshown.1 hrejects
        | inr hended => exact hkept.kept password List.mem_cons_self hended.2.2
      · intro hsafe
        apply loadKept_of_quiet
        · simp
        · simp
        · intro other hmem hdecrypts
          cases List.mem_singleton.mp hmem
          exact hsafe ⟨hprobe, .inr ⟨hrejects, heffect, hdecrypts⟩⟩
    · rw [endSecretsSessionAfterNearZeroMismatch_of_not heffect, endedSession_self]
      constructor
      · intro _ hmissed
        cases hmissed.2 with
        | inl hshown => exact hshown.1 hrejects
        | inr hended => exact heffect hended.2.1
      · intro _
        exact loadKept_of_silent (by simp) (by simp) rfl
  · rw [restoreSession_of_live hrow false hrejects]
    constructor
    · intro hkept hmissed
      cases hmissed.2 with
      | inl hshown => exact hshown.2 (hkept.reported rfl password rfl)
      | inr hended => exact hrejects hended.1
    · intro hsafe
      exact {
        loaded := by
          intro h
          cases h
        reported := by
          intro _ other hother
          cases hother
          by_contra hsecret
          exact hsafe ⟨hprobe, .inl ⟨hrejects, hsecret⟩⟩
        kept := by
          intro other hmem
          cases hmem }

theorem tryLoad_of_probe (hprobe : replies.probe = true) :
    tryLoadNearZeroSessionIntoMemory vault engine base64ToUint8 state replies =
      match passwordDecryptsFirstWalletSecretsPayload vault state replies.live password with
      | none => { returned := none, session := some password, shown := none, ended := [] }
      | some true =>
        match wrappedSecretOpensExistingWalletSecrets vault engine base64ToUint8 state
            replies.reuse wrapped with
        | none => { returned := none, session := some password, shown := none, ended := [] }
        | some opens =>
          { returned := some opens, session := some password, shown := some opens
            ended := [] }
      | some false =>
        let left := endSecretsSessionAfterNearZeroMismatch replies.mismatchEnd (some password)
        let restored := restoreSession vault engine base64ToUint8 state replies wrapped true left
        { restored with ended := endedSession (some password) left ++ restored.ended } := by
  unfold tryLoadNearZeroSessionIntoMemory
  rw [if_pos hactive.1, if_pos hactive.2.1, if_pos hactive.2.2, hrow]
  simp only
  rw [if_neg hne, hsession, hprobe]
  rfl

/-- A live session that passes its trial is kept; without a wallet it may be another one than
the near-zero session. -/
theorem loadKept_iff_of_live_opens (hone : vault.OnePassword) (hprobe : replies.probe = true)
    (hlive : passwordDecryptsFirstWalletSecretsPayload vault state replies.live password =
      some true) :
    LoadKept vault engine base64ToUint8 state
        (tryLoadNearZeroSessionIntoMemory vault engine base64ToUint8 state replies) ↔
      ¬ UncheckedWithoutWallet vault engine base64ToUint8 state replies password := by
  obtain ⟨hreads, htrial⟩ := passwordDecrypts_eq_some_true.mp hlive
  rw [tryLoad_of_probe hactive hrow hne hsession hprobe, hlive]
  simp only
  by_cases hreuse : wrappedSecretOpensExistingWalletSecrets vault engine base64ToUint8 state
      replies.reuse wrapped = some true
  · obtain ⟨hunwraps, hreadsAgain, secret, hsecret, hopens⟩ :=
      (wrappedSecretOpens_eq_some_true hrow).mp hreuse
    rw [hreuse]
    simp only
    constructor
    · intro hkept hunchecked
      obtain ⟨_, _, _, _, _, other, hother, hdiffers⟩ := hunchecked
      rw [hkept.reported rfl password rfl] at hother
      exact hdiffers (Option.some.inj hother).symm
    · intro hchecked
      have hsame : secret = password := by
        cases hblob : state.firstPayloadBlob with
        | none =>
          by_contra hdiffers
          exact hchecked ⟨hprobe, hreads, hblob, hunwraps, hreadsAgain, secret, hsecret, hdiffers⟩
        | some blob =>
          exact hone.eq_of_decrypts (hopens blob hblob).2 (htrial blob hblob).2
      rw [hsame] at hsecret hopens
      exact {
        loaded := by
          intro _
          exact ⟨rfl, password, hsecret, rfl, fun blob hblob => (hopens blob hblob).2⟩
        reported := by
          intro _ other hother
          cases hother
          exact hsecret
        kept := by
          intro other hmem
          cases hmem }
  · constructor
    · intro _ hunchecked
      obtain ⟨_, _, hblob, hunwraps, hreadsAgain, secret, hsecret, _⟩ := hunchecked
      apply hreuse
      apply (wrappedSecretOpens_eq_some_true hrow).mpr
      exact ⟨hunwraps, hreadsAgain, secret, hsecret, fun blob hsome => by
        rw [hblob] at hsome
        cases hsome⟩
    · intro _
      cases hanswer : wrappedSecretOpensExistingWalletSecrets vault engine base64ToUint8 state
          replies.reuse wrapped with
      | none =>
        exact loadKept_of_silent (by simp) (by simp) rfl
      | some opens =>
        have hfalse : opens = false := by
          cases opens with
          | false => rfl
          | true => exact absurd hanswer hreuse
        rw [hfalse]
        exact loadKept_of_silent (by simp) (by simp) rfl

/-- A live session that fails its trial is ended; nothing else can go wrong. -/
theorem loadKept_iff_of_live_fails (hprobe : replies.probe = true)
    (hlive : passwordDecryptsFirstWalletSecretsPayload vault state replies.live password =
      some false) :
    LoadKept vault engine base64ToUint8 state
        (tryLoadNearZeroSessionIntoMemory vault engine base64ToUint8 state replies) ↔
      ¬ EndedByFailedTrial vault engine base64ToUint8 state replies password := by
  obtain ⟨hreads, blob, hblob, hfails⟩ := passwordDecrypts_eq_some_false.mp hlive
  have htrial : state.DecryptsFirst vault password → replies.live.decrypts = false := by
    intro hdecrypts
    obtain ⟨other, hother, hopens⟩ := hdecrypts
    rw [hblob] at hother
    cases hother
    cases hfails with
    | inl hreply => exact hreply
    | inr hnot => exact absurd hopens hnot
  rw [tryLoad_of_probe hactive hrow hne hsession hprobe, hlive]
  simp only
  rw [loadKept_append_iff]
  by_cases heffect : replies.mismatchEnd.TakesEffect
  · rw [endSecretsSessionAfterNearZeroMismatch_of_takesEffect heffect]
    constructor
    · intro hkept hended
      exact hkept.2 password List.mem_cons_self hended.2.2.2.1
    · intro hsafe
      apply And.intro (loadKept_restoreSession_none hrow true)
      intro other hmem hdecrypts
      cases List.mem_singleton.mp hmem
      exact hsafe ⟨hprobe, hreads, htrial hdecrypts, hdecrypts, .inl heffect⟩
  · rw [endSecretsSessionAfterNearZeroMismatch_of_not heffect, endedSession_self]
    by_cases hrejects : RestoreRejects vault engine base64ToUint8 state replies.restore
    · rw [restoreSession_of_rejects hrow true hrejects]
      by_cases hagain : replies.restoreEnd.TakesEffect
      · rw [endSecretsSessionAfterNearZeroMismatch_of_takesEffect hagain]
        constructor
        · intro hkept hended
          exact hkept.1.kept password List.mem_cons_self hended.2.2.2.1
        · intro hsafe
          constructor
          · apply loadKept_of_quiet
            · simp
            · simp
            · intro other hmem hdecrypts
              cases List.mem_singleton.mp hmem
              exact hsafe ⟨hprobe, hreads, htrial hdecrypts, hdecrypts, .inr ⟨hrejects, hagain⟩⟩
          · intro other hmem
            cases hmem
      · rw [endSecretsSessionAfterNearZeroMismatch_of_not hagain, endedSession_self]
        constructor
        · intro _ hended
          cases hended.2.2.2.2 with
          | inl hfirst => exact heffect hfirst
          | inr hsecond => exact hagain hsecond.2
        · intro _
          constructor
          · exact loadKept_of_silent (by simp) (by simp) rfl
          · intro other hmem
            cases hmem
    · rw [restoreSession_of_live hrow true hrejects]
      constructor
      · intro _ hended
        cases hended.2.2.2.2 with
        | inl hfirst => exact heffect hfirst
        | inr hsecond => exact hrejects hsecond.1
      · intro _
        constructor
        · exact loadKept_of_silent (by simp [restoreFailed]) (by simp [restoreFailed]) rfl
        · intro other hmem
          cases hmem

/-- A configured load over a live session keeps its promises exactly if none of the three
goes wrong. -/
theorem loadKept_iff_of_session (hone : vault.OnePassword) :
    LoadKept vault engine base64ToUint8 state
        (tryLoadNearZeroSessionIntoMemory vault engine base64ToUint8 state replies) ↔
      ¬ UncheckedWithoutWallet vault engine base64ToUint8 state replies password ∧
      ¬ EndedByFailedTrial vault engine base64ToUint8 state replies password ∧
      ¬ MissedByProbe vault engine base64ToUint8 state replies password := by
  cases hprobe : replies.probe with
  | false =>
    have hfirst : ¬ UncheckedWithoutWallet vault engine base64ToUint8 state replies password := by
      intro h
      rw [UncheckedWithoutWallet, hprobe] at h
      cases h.1
    have hsecond : ¬ EndedByFailedTrial vault engine base64ToUint8 state replies password := by
      intro h
      rw [EndedByFailedTrial, hprobe] at h
      cases h.1
    rw [loadKept_iff_of_failed_probe hactive hrow hne hsession hprobe]
    exact ⟨fun h => ⟨hfirst, hsecond, h⟩, fun h => h.2.2⟩
  | true =>
    have hthird : ¬ MissedByProbe vault engine base64ToUint8 state replies password := by
      intro h
      rw [MissedByProbe, hprobe] at h
      cases h.1
    cases hlive : passwordDecryptsFirstWalletSecretsPayload vault state replies.live password with
    | none =>
      -- Reading the payload failed, and the load throws.
      have hreads : replies.live.readsPayload = false := by
        cases hreply : replies.live.readsPayload with
        | false => rfl
        | true =>
          unfold passwordDecryptsFirstWalletSecretsPayload
            firstWalletSecretsPayloadDecryptsWith at hlive
          rw [hreply, if_pos rfl] at hlive
          cases hblob : state.firstPayloadBlob with
          | none | some =>
            rw [hblob] at hlive
            cases hlive
      have hfirst : ¬ UncheckedWithoutWallet vault engine base64ToUint8 state replies
          password := by
        intro h
        rw [UncheckedWithoutWallet, hreads] at h
        cases h.2.1
      have hsecond : ¬ EndedByFailedTrial vault engine base64ToUint8 state replies
          password := by
        intro h
        rw [EndedByFailedTrial, hreads] at h
        cases h.2.1
      apply iff_of_true
      · rw [tryLoad_of_probe hactive hrow hne hsession hprobe, hlive]
        exact loadKept_of_silent (by simp) (by simp) rfl
      · exact ⟨hfirst, hsecond, hthird⟩
    | some opens =>
      cases opens with
      | true =>
        have hsecond : ¬ EndedByFailedTrial vault engine base64ToUint8 state replies
            password := by
          intro h
          obtain ⟨_, _, hreply, ⟨blob, hblob, _⟩, _⟩ := h
          have hpassed := (passwordDecrypts_eq_some_true.mp hlive).2 blob hblob
          rw [hreply] at hpassed
          cases hpassed.1
        rw [loadKept_iff_of_live_opens hactive hrow hne hsession hone hprobe hlive]
        exact ⟨fun h => ⟨h, hsecond, hthird⟩, fun h => h.1⟩
      | false =>
        have hfirst : ¬ UncheckedWithoutWallet vault engine base64ToUint8 state replies
            password := by
          intro h
          obtain ⟨_, blob, hblob, _⟩ := passwordDecrypts_eq_some_false.mp hlive
          rw [UncheckedWithoutWallet, hblob] at h
          cases h.2.2.1
        rw [loadKept_iff_of_live_fails hactive hrow hne hsession hprobe hlive]
        exact ⟨fun h => ⟨hfirst, h, hthird⟩, fun h => h.2.1⟩

end Configured

/-- The promises of a load are kept exactly where it is safe. -/
theorem loadKept_iff_loadSafe (hone : vault.OnePassword) (state : NearZeroState)
    (replies : LoadReplies) :
    LoadKept vault engine base64ToUint8 state
        (tryLoadNearZeroSessionIntoMemory vault engine base64ToUint8 state replies) ↔
      LoadSafe vault engine base64ToUint8 state replies := by
  by_cases hconfigured : NearZeroConfigured state replies
  · obtain ⟨hreadsActive, hactiveRow, hreadsWrapped, wrapped, hrow, hne⟩ := hconfigured
    have hactive := And.intro hreadsActive (And.intro hactiveRow hreadsWrapped)
    cases hsession : state.session with
    | none =>
      apply iff_of_true
      · rw [tryLoad_of_no_session hactive hrow hne hsession]
        exact loadKept_restoreSession_none hrow false
      · exact loadSafe_of_no_session vault engine base64ToUint8 hsession replies
    | some password =>
      rw [loadKept_iff_of_session hactive hrow hne hsession hone]
      constructor
      · intro hsafe _ other hother
        rw [hsession] at hother
        cases hother
        exact hsafe
      · intro hsafe
        exact hsafe ⟨hreadsActive, hactiveRow, hreadsWrapped, wrapped, hrow, hne⟩ password
          hsession
  · apply iff_of_true
    · exact loadKept_of_not_configured hconfigured
    · intro h
      exact absurd h hconfigured

end Load

/-- From every state, and from every state that an interrupted upgrade leaves, a load keeps its
promises exactly where it is safe. -/
theorem near_zero_load_kept_iff {Ambient : Type} (vault : Vault Ambient)
    (hone : vault.OnePassword) (env : Environment) (engine : JsonEngine String)
    (base64ToUint8 : String → Option (List UInt8)) (state : NearZeroState)
    (newPassword : String) (ambient : Nat → Ambient × Ambient) (crash : UpgradeCrash)
    (replies : LoadReplies) :
    (LoadKept vault engine base64ToUint8 state
        (tryLoadNearZeroSessionIntoMemory vault engine base64ToUint8 state replies) ↔
      LoadSafe vault engine base64ToUint8 state replies) ∧
    (LoadKept vault engine base64ToUint8
        (state.afterUpgrade vault env engine base64ToUint8 newPassword ambient crash)
        (tryLoadNearZeroSessionIntoMemory vault engine base64ToUint8
          (state.afterUpgrade vault env engine base64ToUint8 newPassword ambient crash)
          replies) ↔
      LoadSafe vault engine base64ToUint8
        (state.afterUpgrade vault env engine base64ToUint8 newPassword ambient crash)
        replies) :=
  ⟨loadKept_iff_loadSafe hone state replies, loadKept_iff_loadSafe hone _ replies⟩

def sampleWrappedRow : String :=
  "\x7b\"ciphertext\":\"AQ==\",\"iv\":\"Ag==\",\"salt\":\"Aw==\",\"kdfPhc\":\"$argon2id$\"\x7d"

def sampleSettingsEngine : JsonEngine String where
  parse := fun text =>
    if text = sampleWrappedRow then
      some (.object [("ciphertext", .string "AQ=="), ("iv", .string "Ag=="),
        ("salt", .string "Aw=="), ("kdfPhc", .string "$argon2id$")])
    else none
  stringify := fun _ => sampleWrappedRow
  isDouble := fun _ => True

def sampleBase64ToUint8 (text : String) : Option (List UInt8) :=
  if text = "AQ==" then some [1]
  else if text = "Ag==" then some [2]
  else if text = "Aw==" then some [3]
  else none

def sampleWrappedBlob : EncryptedWalletSecretsBlob where
  ciphertext := [1]
  iv := [2]
  salt := [3]
  kdfPhc := "$argon2id$"

def samplePayloadBlob : EncryptedWalletSecretsBlob := { sampleWrappedBlob with ciphertext := [4] }

def sampleNearZeroVault : Vault Unit where
  doEncrypt := fun _ _ _ => .error "Encryption failed"
  doDecrypt := fun password blob =>
    if password = nearZeroWrapperPassword ∧ blob = sampleWrappedBlob then .ok "near-zero secret"
    else if password = "near-zero secret" ∧ blob = samplePayloadBlob then .ok "\x7b\x7d"
    else .error "Decryption failed: incorrect password or corrupted data"

theorem sampleNearZeroVault_onePassword : sampleNearZeroVault.OnePassword := by
  have hpassword : ∀ password blob text,
      sampleNearZeroVault.doDecrypt password blob = .ok text →
      password = if blob = sampleWrappedBlob then nearZeroWrapperPassword
        else "near-zero secret" := by
    intro password blob text h
    simp only [sampleNearZeroVault] at h
    split at h
    · rename_i hboth
      rw [if_pos hboth.2, hboth.1]
    · split at h
      · rename_i hboth
        rw [if_neg (by rw [hboth.2]; decide), hboth.1]
      · cases h
  intro blob first second firstText secondText hfirst hsecond
  rw [hpassword _ _ _ hfirst, hpassword _ _ _ hsecond]

def beforeFirstWallet : NearZeroState where
  activeRow := some "1"
  wrappedRow := some sampleWrappedRow
  secrets :=
    { walletIds := []
      nodup := List.nodup_nil
      row := fun _ =>
        { revision := 0, encryptedData := [], iv := [], salt := [], kdfPhc := ""
          mnemonicEncryptedData := [], mnemonicIv := [], mnemonicSalt := []
          mnemonicKdfPhc := "" }
      alongside := () }
  session := some "near-zero secret"
  nearZeroSecurityActive := true

def releaseEnvironment : Environment where
  regtestServerUrl := "http://localhost:3535"
  dateParses := fun time => time.length = 24
  toLowerCase := String.toLower
  regtestEnabled := false
  notIterableMessage := "value is not iterable"

def failedDeletion : NearZeroState :=
  beforeFirstWallet.afterUpgrade sampleNearZeroVault releaseEnvironment sampleSettingsEngine
    sampleBase64ToUint8 "user password" (fun _ => ((), ())) { changes := 2, restarted := false }

def goodReplies : LoadReplies where
  readsActiveRow := true
  readsWrappedRow := true
  probe := true
  live := { unwraps := true, readsPayload := true, decrypts := true }
  reuse := { unwraps := true, readsPayload := true, decrypts := true }
  mismatchEnd := { probe := true, attempt := fun _ => .ended }
  restore := { unwraps := true, readsPayload := true, decrypts := true }
  restoreEnd := { probe := true, attempt := fun _ => .ended }
  begins := .begun

theorem failedDeletion_secret :
    failedDeletion.secret sampleNearZeroVault sampleSettingsEngine sampleBase64ToUint8 =
      some "near-zero secret" := by
  have hrow : failedDeletion.wrappedRow = some sampleWrappedRow := rfl
  rw [secret_eq_some_iff hrow, unwrapSessionSecret, deserializeEncryptedBlobFromSettings]
  simp [sampleSettingsEngine, JsonValue.get?, getRow, JsonValue.properties, sampleBase64ToUint8,
    sampleNearZeroVault, sampleWrappedBlob, bind, Except.bind]

theorem tryLoad_failedDeletion :
    tryLoadNearZeroSessionIntoMemory sampleNearZeroVault sampleSettingsEngine
        sampleBase64ToUint8 failedDeletion goodReplies =
      { returned := some true
        session := some "user password"
        shown := some true
        ended := [] } := by
  rfl

/-- After an upgrade without a wallet whose first deletion failed, a load reports the user's
session as the near-zero one. -/
theorem near_zero_load_reports_user_session :
    sampleNearZeroVault.OnePassword ∧
      ¬ LoadKept sampleNearZeroVault sampleSettingsEngine sampleBase64ToUint8 failedDeletion
        (tryLoadNearZeroSessionIntoMemory sampleNearZeroVault sampleSettingsEngine
          sampleBase64ToUint8 failedDeletion goodReplies) := by
  apply And.intro sampleNearZeroVault_onePassword
  intro hkept
  rw [tryLoad_failedDeletion] at hkept
  have hsecret := hkept.reported rfl "user password" rfl
  rw [failedDeletion_secret] at hsecret
  exact absurd (Option.some.inj hsecret) (by decide)

/-- The state after a restart with a wallet whose secrets the near-zero secret opens. -/
def loadedWallet : NearZeroState :=
  { beforeFirstWallet with
    session := none
    secrets :=
      { walletIds := [1]
        nodup := List.nodup_singleton 1
        row := fun walletId =>
          { beforeFirstWallet.secrets.row walletId with
            encryptedData := samplePayloadBlob.ciphertext
            iv := samplePayloadBlob.iv
            salt := samplePayloadBlob.salt
            kdfPhc := samplePayloadBlob.kdfPhc }
        alongside := () } }

theorem near_zero_load_kept_iff_sample :
    LoadKept sampleNearZeroVault sampleSettingsEngine sampleBase64ToUint8 loadedWallet
        (tryLoadNearZeroSessionIntoMemory sampleNearZeroVault sampleSettingsEngine
          sampleBase64ToUint8 loadedWallet goodReplies) ↔
      LoadSafe sampleNearZeroVault sampleSettingsEngine sampleBase64ToUint8 loadedWallet
        goodReplies :=
  (near_zero_load_kept_iff sampleNearZeroVault sampleNearZeroVault_onePassword releaseEnvironment
    sampleSettingsEngine sampleBase64ToUint8 loadedWallet "user password"
    (fun _ => ((), ())) { changes := 2, restarted := false } goodReplies).1

end Bitboard.Frontend
