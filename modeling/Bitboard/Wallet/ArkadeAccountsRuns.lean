/-
# What the operations on Arkade accounts keep

An operation writes one account. A merge and a sync write the account they name, and an
ensure writes the active account of its network or one whose signer matches: each keeps
the id and the network of the row it replaces, and never takes the receive cursor back.
Where an ensure finds neither, it builds an account, and the id for it is the caller's.
That id is not looked up: if a stored account has it, that account is replaced.
-/

import Bitboard.Lib.Run
import Bitboard.Wallet.ArkadeAccounts

namespace Bitboard.Wallet

open Lib
open ArkadeAccountOp

/-- Account ids are unique, and the active id of a network names an account of it. -/
structure SoundArkadeAccounts (payload : WalletSecretsPayload) : Prop where
  uniqueIds : (payload.arkadeAccounts.map StoredArkadeAccount.id).Nodup
  activeNames : ∀ network id, payload.activeArkadeAccountIdByNetwork network = some id →
    ∃ account ∈ payload.arkadeAccounts, account.id = id ∧ account.networkMode = network

variable (env : ArkadeEnvironment)

def receiveCursor (account : StoredArkadeAccount) : Except String Nat :=
  readOffchainNextDerivationIndex env account.sdkPersistenceJson

/-- The cursor does not go back, and a state that can be read is not replaced by one that
cannot. -/
structure CursorKept (before after : StoredArkadeAccount) : Prop where
  le : ∀ first second, receiveCursor env before = .ok first →
    receiveCursor env after = .ok second → first ≤ second
  stored : before.sdkPersistenceJson ≠ none → after.sdkPersistenceJson ≠ none
  readable : before.sdkPersistenceJson ≠ none → ∀ first,
    receiveCursor env before = .ok first →
      ∃ second, receiveCursor env after = .ok second

def ensuredAccount (payload : WalletSecretsPayload) (params : EnsureArkadeAccountParams) :
    Option StoredArkadeAccount :=
  (findActiveArkadeAccount payload params.networkMode).or
    (findMatchingArkadeAccount payload params)

/-- The id of the stored account that an operation is about. -/
def ArkadeAccountOp.target (payload : WalletSecretsPayload) : ArkadeAccountOp → Option String
  | .ensure params => (ensuredAccount payload params).map StoredArkadeAccount.id
  | .mergeSdkPersistence arkadeAccountId _ _ => some arkadeAccountId
  | .updateOperatorSyncAt arkadeAccountId _ => some arkadeAccountId

structure KeepsArkadeAccounts (payload : WalletSecretsPayload) (op : ArkadeAccountOp) :
    Prop where
  sound : SoundArkadeAccounts (arkadeAccountStep env payload op)
  cursors : ∀ account ∈ payload.arkadeAccounts,
    ∃ kept ∈ (arkadeAccountStep env payload op).arkadeAccounts,
      kept.id = account.id ∧ CursorKept env account kept
  others : ∀ account ∈ payload.arkadeAccounts, op.target payload ≠ some account.id →
    account ∈ (arkadeAccountStep env payload op).arkadeAccounts
  ensuredState : ∀ params, op = .ensure params → ∀ account ∈ payload.arkadeAccounts,
    account.sdkPersistenceJson ≠ none →
    ∃ kept ∈ (arkadeAccountStep env payload op).arkadeAccounts,
      kept.id = account.id ∧ kept.sdkPersistenceJson = account.sdkPersistenceJson
  mismatch : ∀ params account, op = .ensure params →
    findActiveArkadeAccount payload params.networkMode = some account →
    operatorSignerMatches account params.operatorSignerPkHex params.signerMigrationHint = false →
    ∃ message, op.apply env payload = .error message
  thrown : ∀ message, op.apply env payload = .error message →
    arkadeAccountStep env payload op = payload

/-- An ensure that builds an account is given an id that no stored account has. -/
def ArkadeAccountOp.NamesNoOther (payload : WalletSecretsPayload) : ArkadeAccountOp → Prop
  | .ensure params => ensuredAccount payload params = none →
      params.newId ∉ payload.arkadeAccounts.map StoredArkadeAccount.id
  | .mergeSdkPersistence _ _ _ => True
  | .updateOperatorSyncAt _ _ => True

variable {env} {payload : WalletSecretsPayload} {op : ArkadeAccountOp}
  {params : EnsureArkadeAccountParams} {account existing row : StoredArkadeAccount}
  {setActive : Bool} {id json : String} {network : ArkadeSupportedNetworkMode}

theorem findArkadeAccount_mem (hfound : findArkadeAccount payload id = some account) :
    account ∈ payload.arkadeAccounts ∧ account.id = id :=
  ⟨List.mem_of_find?_eq_some hfound, by simpa using List.find?_some hfound⟩

theorem findActiveArkadeAccount_mem
    (hfound : findActiveArkadeAccount payload network = some account) :
    account ∈ payload.arkadeAccounts := by
  rw [findActiveArkadeAccount, Option.bind_eq_some_iff] at hfound
  obtain ⟨id, -, hid⟩ := hfound
  exact (findArkadeAccount_mem hid).1

theorem CursorKept.of_eq (heq : account.sdkPersistenceJson = existing.sdkPersistenceJson) :
    CursorKept env existing account where
  le := by
    intro first second hfirst hsecond
    rw [receiveCursor, heq, ← receiveCursor, hfirst] at hsecond
    cases hsecond
    exact le_refl _
  stored := by
    intro hstored
    rwa [heq]
  readable := by
    intro hstored first hfirst
    exact ⟨first, by rwa [receiveCursor, heq]⟩

theorem CursorKept.of_none (hnone : existing.sdkPersistenceJson = none) :
    CursorKept env existing account where
  le := by
    intro first second hfirst hsecond
    rw [receiveCursor, hnone] at hfirst
    cases hfirst
    exact Nat.zero_le second
  stored := fun hstored => absurd hnone hstored
  readable := fun hstored => absurd hnone hstored

theorem CursorKept.trans {first second third : StoredArkadeAccount}
    (hfirst : CursorKept env first second)
    (hsecond : CursorKept env second third) : CursorKept env first third where
  le := by
    intro before after hbefore hafter
    cases hstored : first.sdkPersistenceJson with
    | none => exact (CursorKept.of_none hstored).le before after hbefore hafter
    | some state =>
      have hsome : first.sdkPersistenceJson ≠ none := by simp [hstored]
      obtain ⟨between, hbetween⟩ := hfirst.readable hsome before hbefore
      exact (hfirst.le before between hbefore hbetween).trans
        (hsecond.le between after hbetween hafter)
  stored := fun hstored => hsecond.stored (hfirst.stored hstored)
  readable := by
    intro hstored before hbefore
    obtain ⟨between, hbetween⟩ := hfirst.readable hstored before hbefore
    exact hsecond.readable (hfirst.stored hstored) between hbetween

theorem CursorKept.of_or {state : Option String}
    (hor : account.sdkPersistenceJson = existing.sdkPersistenceJson.or state) :
    CursorKept env existing account := by
  cases hstored : existing.sdkPersistenceJson with
  | none => exact CursorKept.of_none hstored
  | some stored =>
    apply CursorKept.of_eq
    rw [hor, hstored]
    rfl

/-- A merge takes the state with the higher cursor. -/
theorem CursorKept.of_merge {merged : String}
    (hmerge : mergeSdkPersistenceJsonMonotonic env existing.sdkPersistenceJson json = .ok merged)
    (haccount : account.sdkPersistenceJson = some merged) :
    CursorKept env existing account := by
  cases hstored : existing.sdkPersistenceJson with
  | none => exact CursorKept.of_none hstored
  | some stored =>
    rw [hstored, mergeSdkPersistenceJsonMonotonic] at hmerge
    cases hexisting : readOffchainNextDerivationIndex env (some stored) with
    | error message =>
      rw [hexisting] at hmerge
      cases hmerge
    | ok existingIndex =>
      cases hincoming : readOffchainNextDerivationIndex env (some json) with
      | error message =>
        rw [hexisting, hincoming] at hmerge
        cases hmerge
      | ok incomingIndex =>
        rw [hexisting, hincoming] at hmerge
        by_cases hle : existingIndex ≤ incomingIndex
        · have hmerged : merged = json := by
            simpa [bind, Except.bind, pure, Except.pure, hle] using hmerge.symm
          subst hmerged
          exact {
            le := by
              intro first second hfirst hsecond
              rw [receiveCursor, hstored, hexisting] at hfirst
              rw [receiveCursor, haccount, hincoming] at hsecond
              cases hfirst
              cases hsecond
              exact hle
            stored := by simp [haccount]
            readable := by
              intro hsome first hfirst
              exact ⟨incomingIndex, by rwa [receiveCursor, haccount]⟩ }
        · have hmerged : merged = stored := by
            simpa [bind, Except.bind, pure, Except.pure, hle] using hmerge.symm
          apply CursorKept.of_eq
          rw [haccount, hstored, hmerged]

variable (env) in
/-- The account that an operation writes over a stored one. -/
structure WritesOver (payload : WalletSecretsPayload) (op : ArkadeAccountOp)
    (existing account : StoredArkadeAccount) : Prop where
  mem : existing ∈ payload.arkadeAccounts
  target : op.target payload = some existing.id
  id : account.id = existing.id
  networkMode : account.networkMode = existing.networkMode
  cursor : CursorKept env existing account
  ensuredState : ∀ params, op = .ensure params → existing.sdkPersistenceJson ≠ none →
    account.sdkPersistenceJson = existing.sdkPersistenceJson

theorem or_of_ne_none {stored state : Option String} (hstored : stored ≠ none) :
    stored.or state = stored := by
  cases stored with
  | none => exact absurd rfl hstored
  | some stored => rfl

variable (env) in
/-- An operation leaves the payload, writes over the account it is about, or builds one. -/
def StepsInPlace (payload : WalletSecretsPayload) (op : ArkadeAccountOp) : Prop :=
  arkadeAccountStep env payload op = payload ∨
    (∃ existing account setActive, WritesOver env payload op existing account ∧
      arkadeAccountStep env payload op = upsertArkadeAccountInPayload payload account setActive) ∨
    ∃ params, op = .ensure params ∧ ensuredAccount payload params = none ∧
      arkadeAccountStep env payload op =
        upsertArkadeAccountInPayload payload (buildDefaultArkadeAccount env params) true

section Steps

attribute [local simp] arkadeAccountStep ArkadeAccountOp.apply ensureArkadeAccountInPayload
  mergeSdkPersistenceIntoPayload updateOperatorSyncAtInPayload bind Except.bind Except.map pure
  Except.pure

variable {payload : WalletSecretsPayload} {params : EnsureArkadeAccountParams}
variable {existing : StoredArkadeAccount} {id : String}

/-- An active account is opened again, unless its operator has another signer. -/
theorem stepsInPlace_ensure_active
    (hactive : findActiveArkadeAccount payload params.networkMode = some existing) :
    StepsInPlace env payload (.ensure params) := by
  cases hmatches : operatorSignerMatches existing params.operatorSignerPkHex
      params.signerMigrationHint with
  | false =>
    left
    simp [hactive, assertOperatorSignerMatchesOrMigration, hmatches]
  | true =>
    right
    left
    refine ⟨existing, { existing with
      operatorUrl := params.operatorUrl
      delegatorUrl := params.delegator
      operatorSignerPkHex := params.operatorSignerPkHex
      sdkPersistenceJson := existing.sdkPersistenceJson.or params.sdkPersistenceJson
      lastSessionOpenedAt := some params.now }, true, ?_, ?_⟩
    · exact {
        mem := findActiveArkadeAccount_mem hactive
        target := by simp [target, ensuredAccount, hactive]
        id := rfl
        networkMode := rfl
        cursor := CursorKept.of_or rfl
        ensuredState := fun _ _ hstored => or_of_ne_none hstored }
    · simp [hactive, assertOperatorSignerMatchesOrMigration, hmatches]

/-- Without an active account, one with the same operator is opened, or a new one. -/
theorem stepsInPlace_ensure_inactive
    (hactive : findActiveArkadeAccount payload params.networkMode = none) :
    StepsInPlace env payload (.ensure params) := by
  right
  cases hmatching : findMatchingArkadeAccount payload params with
  | some existing =>
    left
    refine ⟨existing, { existing with
      operatorSignerPkHex := params.operatorSignerPkHex
      sdkPersistenceJson := existing.sdkPersistenceJson.or params.sdkPersistenceJson
      lastSessionOpenedAt := some params.now }, true, ?_, ?_⟩
    · exact {
        mem := List.mem_of_find?_eq_some hmatching
        target := by simp [target, ensuredAccount, hactive, hmatching]
        id := rfl
        networkMode := rfl
        cursor := CursorKept.of_or rfl
        ensuredState := fun _ _ hstored => or_of_ne_none hstored }
    · simp [hactive, hmatching]
  | none =>
    right
    refine ⟨params, rfl, ?_, ?_⟩
    · simp [ensuredAccount, hactive, hmatching]
    · simp [hactive, hmatching]

/-- What the SDK has to persist is merged into the account, if it is there. -/
theorem stepsInPlace_mergeSdkPersistence (json : String) (syncedAt : Option String) :
    StepsInPlace env payload (.mergeSdkPersistence id json syncedAt) := by
  cases hsize : assertSdkPersistenceJsonWithinSizeLimit json with
  | error message =>
    left
    simp [hsize]
  | ok checked =>
    cases hfound : findArkadeAccount payload id with
    | none =>
      left
      simp [hsize, hfound]
    | some existing =>
      cases hmerge : mergeSdkPersistenceJsonMonotonic env existing.sdkPersistenceJson json with
      | error message =>
        left
        simp [hsize, hfound, hmerge]
      | ok merged =>
        right
        left
        have hmem := findArkadeAccount_mem hfound
        refine ⟨existing, { existing with
          sdkPersistenceJson := some merged
          lastSuccessfulOperatorSyncAt :=
            syncedAt.or existing.lastSuccessfulOperatorSyncAt }, false, ?_, ?_⟩
        · exact {
            mem := hmem.1
            target := by rw [hmem.2]; rfl
            id := rfl
            networkMode := rfl
            cursor := CursorKept.of_merge hmerge rfl
            ensuredState := by
              intro params hensure
              cases hensure }
        · simp [hsize, hfound, hmerge]

theorem stepsInPlace_updateOperatorSyncAt (syncedAt : String) :
    StepsInPlace env payload (.updateOperatorSyncAt id syncedAt) := by
  cases hfound : findArkadeAccount payload id with
  | none =>
    left
    simp [hfound]
  | some existing =>
    right
    left
    have hmem := findArkadeAccount_mem hfound
    refine ⟨existing, { existing with lastSuccessfulOperatorSyncAt := some syncedAt },
      false, ?_, ?_⟩
    · exact {
        mem := hmem.1
        target := by rw [hmem.2]; rfl
        id := rfl
        networkMode := rfl
        cursor := CursorKept.of_eq rfl
        ensuredState := by
          intro params hensure
          cases hensure }
    · simp [hfound]

end Steps

variable (env) in
theorem arkadeAccountStep_cases (payload : WalletSecretsPayload) (op : ArkadeAccountOp) :
    StepsInPlace env payload op := by
  cases op with
  | ensure params =>
    cases hactive : findActiveArkadeAccount payload params.networkMode with
    | some existing => exact stepsInPlace_ensure_active hactive
    | none => exact stepsInPlace_ensure_inactive hactive
  | mergeSdkPersistence id json syncedAt => exact stepsInPlace_mergeSdkPersistence json syncedAt
  | updateOperatorSyncAt id syncedAt => exact stepsInPlace_updateOperatorSyncAt syncedAt

/-! ## What a write leaves -/

theorem mem_upsertArkadeAccount :
    row ∈ (upsertArkadeAccountInPayload payload account setActive).arkadeAccounts ↔
      (row ∈ payload.arkadeAccounts ∧ row.id ≠ account.id) ∨ row = account := by
  simp [upsertArkadeAccountInPayload]

/-- A write keeps the accounts sound if the rows of its id are of its network. -/
theorem SoundArkadeAccounts.upsert (hsound : SoundArkadeAccounts payload)
    (hsame : ∀ row ∈ payload.arkadeAccounts, row.id = account.id →
      row.networkMode = account.networkMode) (setActive : Bool) :
    SoundArkadeAccounts (upsertArkadeAccountInPayload payload account setActive) where
  uniqueIds := by
    rw [upsertArkadeAccountInPayload, List.map_append]
    apply List.Nodup.append
    · exact hsound.uniqueIds.sublist (List.filter_sublist.map _)
    · exact List.nodup_singleton _
    · simp [List.disjoint_singleton]
  activeNames := by
    intro network id hactive
    have hold : payload.activeArkadeAccountIdByNetwork network = some id →
        ∃ kept ∈ (upsertArkadeAccountInPayload payload account setActive).arkadeAccounts,
          kept.id = id ∧ kept.networkMode = network := by
      intro hstored
      obtain ⟨row, hrow, hid, hnetwork⟩ := hsound.activeNames network id hstored
      by_cases hsameId : row.id = account.id
      · refine ⟨account, mem_upsertArkadeAccount.mpr (.inr rfl), ?_, ?_⟩
        · rw [← hsameId, hid]
        · rw [← hsame row hrow hsameId, hnetwork]
      · exact ⟨row, mem_upsertArkadeAccount.mpr (.inl ⟨hrow, hsameId⟩), hid, hnetwork⟩
    cases setActive with
    | false => exact hold hactive
    | true =>
      by_cases hnetwork : network = account.networkMode
      · subst hnetwork
        simp only [upsertArkadeAccountInPayload, if_true, Function.update_self,
          Option.some.injEq] at hactive
        exact ⟨account, mem_upsertArkadeAccount.mpr (.inr rfl), hactive, rfl⟩
      · simp only [upsertArkadeAccountInPayload, if_true, Function.update_of_ne hnetwork] at hactive
        exact hold hactive

theorem eq_of_id_eq (hsound : SoundArkadeAccounts payload) (hrow : row ∈ payload.arkadeAccounts)
    (hexisting : existing ∈ payload.arkadeAccounts) (hid : row.id = existing.id) :
    row = existing :=
  List.inj_on_of_nodup_map hsound.uniqueIds hrow hexisting hid

theorem ensure_mismatch_throws
    (hactive : findActiveArkadeAccount payload params.networkMode = some account)
    (hmatches : operatorSignerMatches account params.operatorSignerPkHex
      params.signerMigrationHint = false) :
    ∃ message, (ensure params).apply env payload = .error message := by
  refine ⟨"Arkade persistence belongs to a different operator (signer public key mismatch)", ?_⟩
  simp [apply, ensureArkadeAccountInPayload, hactive,
    assertOperatorSignerMatchesOrMigration, hmatches, bind, Except.bind, Except.map]

theorem arkadeAccountStep_of_error {message : String}
    (herror : op.apply env payload = .error message) :
    arkadeAccountStep env payload op = payload := by
  rw [arkadeAccountStep, herror]

section

variable (hsound : SoundArkadeAccounts payload)
include hsound

theorem keepsArkadeAccounts_of_same (hsame : arkadeAccountStep env payload op = payload) :
    KeepsArkadeAccounts env payload op where
  sound := by rwa [hsame]
  cursors := by
    intro account haccount
    rw [hsame]
    exact ⟨account, haccount, rfl, CursorKept.of_eq rfl⟩
  others := by
    intro account haccount hother
    rwa [hsame]
  ensuredState := by
    intro params hop account haccount hstored
    rw [hsame]
    exact ⟨account, haccount, rfl, rfl⟩
  mismatch := by
    intro params account hop hactive hmatches
    subst hop
    exact ensure_mismatch_throws hactive hmatches
  thrown := fun _ herror => arkadeAccountStep_of_error herror

/-- An operation that writes over the account it is about keeps everything else. -/
theorem keepsArkadeAccounts_of_writesOver (hwrites : WritesOver env payload op existing account)
    (hstep : arkadeAccountStep env payload op =
      upsertArkadeAccountInPayload payload account setActive) :
    KeepsArkadeAccounts env payload op where
  sound := by
    rw [hstep]
    apply hsound.upsert
    intro row hrow hid
    rw [eq_of_id_eq hsound hrow hwrites.mem (hid.trans hwrites.id), hwrites.networkMode]
  cursors := by
    intro row hrow
    rw [hstep]
    by_cases hid : row.id = account.id
    · rw [eq_of_id_eq hsound hrow hwrites.mem (hid.trans hwrites.id)]
      exact ⟨account, mem_upsertArkadeAccount.mpr (.inr rfl), hwrites.id, hwrites.cursor⟩
    · exact ⟨row, mem_upsertArkadeAccount.mpr (.inl ⟨hrow, hid⟩), rfl, CursorKept.of_eq rfl⟩
  others := by
    intro row hrow hother
    rw [hstep]
    apply mem_upsertArkadeAccount.mpr
    left
    refine ⟨hrow, ?_⟩
    intro hid
    apply hother
    rw [hwrites.target, hid, hwrites.id]
  ensuredState := by
    intro params hop row hrow hstored
    rw [hstep]
    by_cases hid : row.id = account.id
    · have hrowEq := eq_of_id_eq hsound hrow hwrites.mem (hid.trans hwrites.id)
      subst hrowEq
      exact ⟨account, mem_upsertArkadeAccount.mpr (.inr rfl), hwrites.id,
        hwrites.ensuredState params hop hstored⟩
    · exact ⟨row, mem_upsertArkadeAccount.mpr (.inl ⟨hrow, hid⟩), rfl, rfl⟩
  mismatch := by
    intro params active hop hactive hmatches
    subst hop
    exact ensure_mismatch_throws hactive hmatches
  thrown := fun _ herror => arkadeAccountStep_of_error herror

/-- An ensure that builds an account under an id of its own keeps everything else. -/
theorem keepsArkadeAccounts_of_builds
    (hnew : params.newId ∉ payload.arkadeAccounts.map StoredArkadeAccount.id)
    (hstep : arkadeAccountStep env payload (.ensure params) =
      upsertArkadeAccountInPayload payload (buildDefaultArkadeAccount env params) true) :
    KeepsArkadeAccounts env payload (.ensure params) := by
  have hkept : ∀ row ∈ payload.arkadeAccounts,
      row ∈ (arkadeAccountStep env payload (.ensure params)).arkadeAccounts := by
    intro row hrow
    rw [hstep]
    apply mem_upsertArkadeAccount.mpr
    left
    refine ⟨hrow, ?_⟩
    intro hid
    apply hnew
    rw [show params.newId = row.id from hid.symm]
    exact List.mem_map_of_mem hrow
  exact {
    sound := by
      rw [hstep]
      apply hsound.upsert
      intro row hrow hid
      exfalso
      apply hnew
      rw [show params.newId = row.id from hid.symm]
      exact List.mem_map_of_mem hrow
    cursors := by
      intro row hrow
      exact ⟨row, hkept row hrow, rfl, CursorKept.of_eq rfl⟩
    others := fun row hrow _ => hkept row hrow
    ensuredState := by
      intro other hop row hrow hstored
      exact ⟨row, hkept row hrow, rfl, rfl⟩
    mismatch := by
      intro other active hop hactive hmatches
      cases hop
      exact ensure_mismatch_throws hactive hmatches
    thrown := fun _ herror => arkadeAccountStep_of_error herror }

end

theorem not_keepsArkadeAccounts_of_replaces (hnone : ensuredAccount payload params = none)
    (hold : params.newId ∈ payload.arkadeAccounts.map StoredArkadeAccount.id)
    (hstep : arkadeAccountStep env payload (.ensure params) =
      upsertArkadeAccountInPayload payload (buildDefaultArkadeAccount env params) true) :
    ¬KeepsArkadeAccounts env payload (.ensure params) := by
  intro hkeeps
  obtain ⟨row, hrow, hid⟩ := List.mem_map.mp hold
  have hkept := hkeeps.others row hrow (by simp [target, hnone])
  rw [hstep, mem_upsertArkadeAccount] at hkept
  cases hkept with
  | inl hother => exact hother.2 hid
  | inr hbuilt =>
    -- The built account would match the ensure, so the ensure would have found the row.
    have hmatching : findMatchingArkadeAccount payload params = none := by
      rw [ensuredAccount, Option.or_eq_none_iff] at hnone
      exact hnone.2
    have hnot := List.find?_eq_none.mp hmatching row hrow
    simp [hbuilt, buildDefaultArkadeAccount, operatorSignerMatches] at hnot

variable (env) in
/-- An ensure that finds no account builds one. -/
theorem arkadeAccountStep_of_builds (hnone : ensuredAccount payload params = none) :
    arkadeAccountStep env payload (.ensure params) =
      upsertArkadeAccountInPayload payload (buildDefaultArkadeAccount env params) true := by
  rw [ensuredAccount, Option.or_eq_none_iff] at hnone
  simp [arkadeAccountStep, apply, ensureArkadeAccountInPayload, hnone.1, hnone.2, Except.map]

variable (env) in
/-- An operation keeps the accounts exactly if it names no other account. -/
theorem keepsArkadeAccounts_iff (hsound : SoundArkadeAccounts payload) (op : ArkadeAccountOp) :
    KeepsArkadeAccounts env payload op ↔ op.NamesNoOther payload := by
  by_cases hbuilds : ∃ params, op = .ensure params ∧ ensuredAccount payload params = none
  · obtain ⟨params, hop, hnone⟩ := hbuilds
    subst hop
    have hstep := arkadeAccountStep_of_builds env hnone
    constructor
    · intro hkeeps _ hold
      exact not_keepsArkadeAccounts_of_replaces hnone hold hstep hkeeps
    · intro hnames
      exact keepsArkadeAccounts_of_builds hsound (hnames hnone) hstep
  · have hkeeps : KeepsArkadeAccounts env payload op := by
      cases arkadeAccountStep_cases env payload op with
      | inl hsame => exact keepsArkadeAccounts_of_same hsound hsame
      | inr hrest =>
        cases hrest with
        | inl hwrites =>
          obtain ⟨existing, account, setActive, hwrites, hstep⟩ := hwrites
          exact keepsArkadeAccounts_of_writesOver hsound hwrites hstep
        | inr hbuilt =>
          obtain ⟨params, hop, hnone, -⟩ := hbuilt
          exact absurd ⟨params, hop, hnone⟩ hbuilds
    have hnames : op.NamesNoOther payload := by
      cases op with
      | ensure params =>
        intro hnone
        exact absurd ⟨params, rfl, hnone⟩ hbuilds
      | mergeSdkPersistence | updateOperatorSyncAt => trivial
    exact ⟨fun _ => hnames, fun _ => hkeeps⟩

theorem cursorKept_run (hsound : SoundArkadeAccounts payload) {ops : List ArkadeAccountOp}
    (hmeets : RunMeets (arkadeAccountStep env)
      (fun payload op => op.NamesNoOther payload) payload ops)
    (haccount : account ∈ payload.arkadeAccounts) :
    ∃ kept ∈ (run (arkadeAccountStep env) payload ops).arkadeAccounts,
      kept.id = account.id ∧ CursorKept env account kept := by
  induction ops generalizing payload account with
  | nil => exact ⟨account, haccount, rfl, CursorKept.of_eq rfl⟩
  | cons op ops ih =>
    have hkeeps := (keepsArkadeAccounts_iff env hsound op).mpr hmeets.1
    obtain ⟨next, hnext, hnextId, hnextCursor⟩ := hkeeps.cursors account haccount
    obtain ⟨kept, hkept, hkeptId, hkeptCursor⟩ := ih hkeeps.sound hmeets.2 hnext
    exact ⟨kept, hkept, hkeptId.trans hnextId, hnextCursor.trans hkeptCursor⟩

/-- The operations of a sequence keep the accounts exactly if each ensure that builds an account
is given an id that no stored account has. Then no cursor goes back over the sequence. -/
theorem arkade_accounts_kept_iff_names_no_other (env : ArkadeEnvironment)
    (payload : WalletSecretsPayload) (hsound : SoundArkadeAccounts payload)
    (ops : List ArkadeAccountOp) :
    (RunMeets (arkadeAccountStep env) (KeepsArkadeAccounts env) payload ops ↔
      RunMeets (arkadeAccountStep env) (fun payload op => op.NamesNoOther payload)
        payload ops) ∧
    (RunMeets (arkadeAccountStep env) (fun payload op => op.NamesNoOther payload)
        payload ops →
      ∀ account ∈ payload.arkadeAccounts,
        ∃ kept ∈ (run (arkadeAccountStep env) payload ops).arkadeAccounts,
          kept.id = account.id ∧ CursorKept env account kept) := by
  constructor
  · apply runMeets_iff_of_invariant SoundArkadeAccounts
    · intro payload op hsound
      exact keepsArkadeAccounts_iff env hsound op
    · intro payload op hnames hsound
      exact ((keepsArkadeAccounts_iff env hsound op).mpr hnames).sound
    · exact hsound
  · intro hmeets account haccount
    exact cursorKept_run hsound hmeets haccount

def sampleArkadeEnvironment : ArkadeEnvironment where
  parseJson := fun text =>
    if text = "state" then
      some (.object [("wallet_db",
        .object [("offchain_next_derivation_index", .number (.finite 5))])])
    else none
  parseUrl := fun _ => none

def movedAccount : StoredArkadeAccount where
  id := "account"
  label := "operator"
  networkMode := .mutinynet
  operatorUrl := "https://mutinynet.operator"
  delegatorUrl := none
  operatorSignerPkHex := "02aa"
  createdAt := "2026-01-01T00:00:00.000Z"
  lastSessionOpenedAt := none
  lastSuccessfulOperatorSyncAt := none
  sdkPersistenceJson := some "state"

def movedPayload : WalletSecretsPayload :=
  { emptyPayload with
    arkadeAccounts := [movedAccount]
    activeArkadeAccountIdByNetwork := fun network =>
      if network = .mutinynet then some "account" else none }

def staleEnsure : EnsureArkadeAccountParams where
  networkMode := .signet
  operatorSignerPkHex := "03bb"
  operatorUrl := "https://signet.operator"
  delegatorUrl := ""
  sdkPersistenceJson := none
  arkadeAccountId := some "account"
  signerMigrationHint := none
  freshId := "fresh"
  now := "2026-01-02T00:00:00.000Z"

theorem soundArkadeAccounts_movedPayload : SoundArkadeAccounts movedPayload where
  uniqueIds := by simp [movedPayload]
  activeNames := by
    intro network id hactive
    refine ⟨movedAccount, List.mem_singleton_self _, ?_⟩
    simp only [movedPayload] at hactive
    split at hactive
    · rename_i hnetwork
      cases hactive
      exact ⟨rfl, hnetwork.symm⟩
    · cases hactive

/-- The ensure replaces the moved account: its state is gone, the account of the id is another
operator's, and the active id of Mutinynet names an account of Signet. -/
theorem ensure_replaces_another_account :
    SoundArkadeAccounts movedPayload ∧
    ¬RunMeets (arkadeAccountStep sampleArkadeEnvironment)
      (KeepsArkadeAccounts sampleArkadeEnvironment) movedPayload [.ensure staleEnsure] ∧
    (arkadeAccountStep sampleArkadeEnvironment movedPayload (.ensure staleEnsure)).arkadeAccounts =
      [buildDefaultArkadeAccount sampleArkadeEnvironment staleEnsure] ∧
    (arkadeAccountStep sampleArkadeEnvironment movedPayload
      (.ensure staleEnsure)).activeArkadeAccountIdByNetwork .mutinynet = some "account" := by
  refine ⟨soundArkadeAccounts_movedPayload, ?_, by decide +kernel, by decide +kernel⟩
  intro hmeets
  have hnames := (keepsArkadeAccounts_iff sampleArkadeEnvironment
    soundArkadeAccounts_movedPayload _).mp hmeets.1
  exact hnames (by decide +kernel) (by decide +kernel)

/-- An ensure with an id of its own, and a merge into the moved account. -/
theorem arkade_accounts_kept_fresh_ensure :
    RunMeets (arkadeAccountStep sampleArkadeEnvironment)
      (KeepsArkadeAccounts sampleArkadeEnvironment) movedPayload
      [.ensure { staleEnsure with arkadeAccountId := none },
        .mergeSdkPersistence "account" "state" none] := by
  apply (arkade_accounts_kept_iff_names_no_other sampleArkadeEnvironment movedPayload
    soundArkadeAccounts_movedPayload _).1.mpr
  refine ⟨?_, trivial, trivial⟩
  intro _
  decide +kernel

end Bitboard.Wallet
