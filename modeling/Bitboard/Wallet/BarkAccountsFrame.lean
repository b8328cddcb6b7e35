/-
# What the operations on Bark accounts leave alone

Every operation writes one row: the row of its network, rebuilt out of the kept fields
with the operation's own fields replaced. The rebuilt row has its kept form, in which
rebuilding changes nothing. So operations with different fields commute on an account
that exists, and operations on different networks commute except for the place that two
new accounts take in the list.
-/

import Bitboard.Wallet.BarkAccounts

namespace Bitboard.Wallet

open Lib
open BarkAccountOp BarkAccountChange

inductive BarkField where
  | id
  | serverUrl
  | fingerprint
  | lastSuccessfulSyncAt
  | receiveKeyIndex
  | recordEnvelope
  | pendingEmergencyClaim
  | proceedAutomatically
  | emergencyExitFeePreset
  | emergencyExitMaxFeeRateSatPerVb
  | exitNodeSweepVtxoItems

def BarkField.Agrees (left right : StoredBarkAccount) : BarkField → Prop
  | .id => left.id = right.id
  | .serverUrl => left.serverUrl = right.serverUrl
  | .fingerprint => left.fingerprint = right.fingerprint
  | .lastSuccessfulSyncAt => left.lastSuccessfulSyncAt = right.lastSuccessfulSyncAt
  | .receiveKeyIndex => left.receiveKeyIndex = right.receiveKeyIndex
  | .recordEnvelope => left.recordEnvelope = right.recordEnvelope
  | .pendingEmergencyClaim => left.pendingEmergencyClaim = right.pendingEmergencyClaim
  | .proceedAutomatically => left.proceedAutomatically = right.proceedAutomatically
  | .emergencyExitFeePreset => left.emergencyExitFeePreset = right.emergencyExitFeePreset
  | .emergencyExitMaxFeeRateSatPerVb =>
    left.emergencyExitMaxFeeRateSatPerVb = right.emergencyExitMaxFeeRateSatPerVb
  | .exitNodeSweepVtxoItems => left.exitNodeSweepVtxoItems = right.exitNodeSweepVtxoItems

namespace BarkField.Agrees

variable {field : BarkField} {first second third : StoredBarkAccount}

theorem refl (account : StoredBarkAccount) (field : BarkField) : field.Agrees account account := by
  cases field <;> exact Eq.refl _

theorem symm (hagrees : field.Agrees first second) : field.Agrees second first := by
  cases field <;> exact Eq.symm hagrees

theorem trans (hfirst : field.Agrees first second) (hsecond : field.Agrees second third) :
    field.Agrees first third := by
  cases field <;> exact Eq.trans hfirst hsecond

theorem ext (hnetwork : first.networkMode = second.networkMode)
    (hagrees : ∀ field : BarkField, field.Agrees first second) : first = second := by
  have hid := hagrees .id
  have hserver := hagrees .serverUrl
  have hfingerprint := hagrees .fingerprint
  have hsynced := hagrees .lastSuccessfulSyncAt
  have hindex := hagrees .receiveKeyIndex
  have henvelope := hagrees .recordEnvelope
  have hclaim := hagrees .pendingEmergencyClaim
  have hproceed := hagrees .proceedAutomatically
  have hpreset := hagrees .emergencyExitFeePreset
  have hmaxFee := hagrees .emergencyExitMaxFeeRateSatPerVb
  have hitems := hagrees .exitNodeSweepVtxoItems
  cases first
  cases second
  simp_all [BarkField.Agrees]

end BarkField.Agrees

def BarkAccountChange.owns : BarkAccountChange → BarkField → Bool
  | .opened _ _ _ _, .fingerprint => true
  | .opened _ _ index _, .receiveKeyIndex => index.isSome
  | .opened _ _ _ envelope, .recordEnvelope => envelope.isSome
  | .successfulSync _ _, .lastSuccessfulSyncAt => true
  | .successfulSync _ envelope, .recordEnvelope => envelope.isSome
  | .recordEnvelope _ _ _, .recordEnvelope => true
  | .recordEnvelope _ index _, .receiveKeyIndex => index.isSome
  | .recordEnvelope _ _ syncedAt, .lastSuccessfulSyncAt => syncedAt.isSome
  | .pendingEmergencyClaim _, .pendingEmergencyClaim => true
  | .proceedAutomatically _, .proceedAutomatically => true
  | .feePreset _, .emergencyExitFeePreset => true
  | .maxFeeRate _, .emergencyExitMaxFeeRateSatPerVb => true
  | .mergedNotices _, .exitNodeSweepVtxoItems => true
  | .clearedNotices _, .exitNodeSweepVtxoItems => true
  | _, _ => false

section Rewrite

variable (env : BarkEnvironment)

/-- The change is carried out on the row: it does not throw, and does not return the payload
as it is. -/
def BarkAccountChange.accepts (row : StoredBarkAccount) : BarkAccountChange → Bool
  | .opened _ fingerprint index envelope =>
    (checkReceiveKeyIndex index).isOk && (checkRecordEnvelope envelope).isOk &&
      env.toLowerCase row.fingerprint = env.toLowerCase fingerprint
  | .successfulSync syncedAt envelope =>
    (checkSyncedAt env (some syncedAt)).isOk && (checkRecordEnvelope envelope).isOk
  | .recordEnvelope envelope index syncedAt =>
    (checkRecordEnvelope (some envelope)).isOk && (checkReceiveKeyIndex index).isOk &&
      (checkSyncedAt env syncedAt).isOk
  | .pendingEmergencyClaim pending => !pending.any fun claim => !isPendingEmergencyClaim claim
  | .proceedAutomatically _ => true
  | .feePreset preset => (emergencyExitFeePresetFromUnknown preset).isSome
  | .maxFeeRate rate => (emergencyExitMaxFeeRateFromUnknown rate).isSome
  | .mergedNotices items =>
    !items.isEmpty &&
      !(mergeExitNodeSweepVtxoItems
        ((preservedAccount env row).exitNodeSweepVtxoItems.getD []) items).isEmpty
  | .clearedNotices _ => true

/-- The row that a change writes over the stored one. -/
def BarkAccountChange.rewrite (row : StoredBarkAccount) : BarkAccountChange → StoredBarkAccount
  | .opened _ fingerprint index envelope =>
    { preservedAccount env row with
      fingerprint := fingerprint
      receiveKeyIndex := index.or row.receiveKeyIndex
      recordEnvelope := envelope.or row.recordEnvelope }
  | .successfulSync syncedAt envelope =>
    { preservedAccount env row with
      lastSuccessfulSyncAt := some syncedAt
      recordEnvelope := envelope.or row.recordEnvelope }
  | .recordEnvelope envelope index syncedAt =>
    { preservedAccount env row with
      recordEnvelope := some envelope
      receiveKeyIndex := index.or row.receiveKeyIndex
      lastSuccessfulSyncAt := syncedAt.or row.lastSuccessfulSyncAt }
  | .pendingEmergencyClaim pending =>
    { preservedAccount env row with pendingEmergencyClaim := pending }
  | .proceedAutomatically enabled =>
    { preservedAccount env row with
      proceedAutomatically := if enabled then some true else none }
  | .feePreset preset =>
    { preservedAccount env row with
      emergencyExitFeePreset := emergencyExitFeePresetFromUnknown preset }
  | .maxFeeRate rate =>
    { preservedAccount env row with
      emergencyExitMaxFeeRateSatPerVb := emergencyExitMaxFeeRateFromUnknown rate }
  | .mergedNotices items =>
    { preservedAccount env row with
      exitNodeSweepVtxoItems :=
        some (mergeExitNodeSweepVtxoItems
          ((preservedAccount env row).exitNodeSweepVtxoItems.getD []) items) }
  | .clearedNotices kind =>
    { preservedAccount env row with
      exitNodeSweepVtxoItems :=
        let remaining := exitNodeSweepVtxoItemsWithoutKind
          ((preservedAccount env row).exitNodeSweepVtxoItems.getD []) kind
        if remaining.isEmpty then none else some remaining }

/-- The account that a change writes where the network has none: only an open creates one. -/
def BarkAccountChange.created (network : BarkRailNetwork) :
    BarkAccountChange → Option StoredBarkAccount
  | .opened freshId fingerprint index envelope =>
    if (checkReceiveKeyIndex index).isOk && (checkRecordEnvelope envelope).isOk then
      some (accountWithPreservedFields env freshId network none fingerprint index
        envelope)
    else none
  | _ => none

variable {env} {payload : WalletSecretsPayload} {op : BarkAccountOp}
  {row account : StoredBarkAccount} {network : BarkRailNetwork} {change : BarkAccountChange}

theorem findBarkAccount_networkMode (hrow : findBarkAccount payload network = some row) :
    row.networkMode = network :=
  key_of_getRow hrow

section

attribute [local simp] barkAccountStep apply applyOpenedBarkAccount applySuccessfulBarkSync
  applyBarkRecordEnvelope applyPendingEmergencyClaim applyProceedAutomatically
  applyEmergencyExitFeePreset applyEmergencyExitMaxFeeRate applyMergedExitChainNotice
  applyClearedExitChainNotice requireBarkAccount created accepts rewrite preservedAccount
  accountWithPreservedFields Except.isOk Except.toBool bind Except.bind pure Except.pure

/-- An operation on a network without an account: only an open writes one. -/
theorem barkAccountStep_of_missing (hrow : findBarkAccount payload op.network = none) :
    barkAccountStep env payload op =
      match op.change.created env op.network with
      | some account => upsertBarkAccountInPayload payload account
      | none => payload := by
  obtain ⟨network, change⟩ := op
  dsimp only at hrow
  cases change with
  | opened freshId fingerprint index envelope =>
    cases hindex : checkReceiveKeyIndex index <;>
      cases henvelope : checkRecordEnvelope envelope <;> simp [hrow, hindex, henvelope]
  | successfulSync syncedAt envelope =>
    cases hsynced : checkSyncedAt env (some syncedAt) <;>
      cases henvelope : checkRecordEnvelope envelope <;> simp [hrow, hsynced, henvelope]
  | recordEnvelope envelope index syncedAt =>
    cases henvelope : checkRecordEnvelope (some envelope) <;>
      cases hindex : checkReceiveKeyIndex index <;>
      cases hsynced : checkSyncedAt env syncedAt <;> simp [hrow, hsynced, hindex, henvelope]
  | pendingEmergencyClaim pending =>
    cases hvalid : pending.any fun claim => !isPendingEmergencyClaim claim <;> simp [hvalid, hrow]
  | proceedAutomatically | clearedNotices => simp [hrow]
  | feePreset preset =>
    cases hpreset : emergencyExitFeePresetFromUnknown preset <;> simp [hpreset, hrow]
  | maxFeeRate rate =>
    cases hrate : emergencyExitMaxFeeRateFromUnknown rate <;> simp [hrate, hrow]
  | mergedNotices items => cases items <;> simp [hrow]

/-- An operation on the account of a network writes the rewritten row, or nothing. -/
theorem barkAccountStep_of_found (hrow : findBarkAccount payload op.network = some row) :
    barkAccountStep env payload op =
      if op.change.accepts env row then
        upsertBarkAccountInPayload payload (op.change.rewrite env row)
      else payload := by
  have hnetwork := findBarkAccount_networkMode hrow
  obtain ⟨network, change⟩ := op
  dsimp only at hrow hnetwork
  subst network
  cases change with
  | opened freshId fingerprint index envelope =>
    cases hindex : checkReceiveKeyIndex index <;>
      cases henvelope : checkRecordEnvelope envelope <;>
      by_cases hprint : env.toLowerCase row.fingerprint = env.toLowerCase fingerprint <;>
      simp [hrow, hindex, henvelope, hprint]
  | successfulSync syncedAt envelope =>
    cases hsynced : checkSyncedAt env (some syncedAt) <;>
      cases henvelope : checkRecordEnvelope envelope <;> simp [hrow, hsynced, henvelope]
  | recordEnvelope envelope index syncedAt =>
    cases henvelope : checkRecordEnvelope (some envelope) <;>
      cases hindex : checkReceiveKeyIndex index <;>
      cases hsynced : checkSyncedAt env syncedAt <;> simp [hrow, hsynced, hindex, henvelope]
  | pendingEmergencyClaim pending =>
    cases hvalid : pending.any fun claim => !isPendingEmergencyClaim claim <;> simp [hvalid, hrow]
  | proceedAutomatically | clearedNotices => simp [hrow]
  | feePreset preset =>
    cases hpreset : emergencyExitFeePresetFromUnknown preset <;> simp [hpreset, hrow]
  | maxFeeRate rate =>
    cases hrate : emergencyExitMaxFeeRateFromUnknown rate <;> simp [hrate, hrow]
  | mergedNotices items =>
    cases items with
    | nil => simp
    | cons item items =>
      cases hmerged : (mergeExitNodeSweepVtxoItems
          ((preservedAccount env row).exitNodeSweepVtxoItems.getD [])
          (item :: items)).isEmpty <;>
        simp_all

end

/-! ## The kept form -/

variable {other : StoredBarkAccount}
variable {items : List BarkExitNodeSweepVtxoItem}

theorem preservedItems_normal
    (hitems : (preservedAccount env row).exitNodeSweepVtxoItems = some items) :
    NormalSweepItems items ∧ items.isEmpty = false := by
  simp only [preservedAccount, accountWithPreservedFields, Option.bind_some,
    Option.filter_eq_some_iff, Option.bind_eq_some_iff, Bool.not_eq_true'] at hitems
  obtain ⟨⟨stored, hstored, hkept⟩, hnonempty⟩ := hitems
  exact ⟨normalSweepItems_of_fromItems hkept, hnonempty⟩

theorem preservedItems_getD_normal :
    NormalSweepItems ((preservedAccount env row).exitNodeSweepVtxoItems.getD []) := by
  cases hitems : (preservedAccount env row).exitNodeSweepVtxoItems with
  | none =>
    exact {
      named := List.forall_mem_nil _
      nodup := List.nodup_nil
      sorted := List.Pairwise.nil }
  | some items => exact (preservedItems_normal hitems).1

theorem keptItems_of_normal (hnormal : NormalSweepItems items) (hnonempty : items.isEmpty = false) :
    (exitNodeSweepVtxoItemsFromItems items).filter (fun kept => !kept.isEmpty) = some items := by
  rw [exitNodeSweepVtxoItemsFromItems_of_normal hnormal]
  simp [Option.filter, hnonempty]

variable (env) in
/-- The account is as a rebuild leaves it: the URL is the network's own, the claim and the fee
are valid, only an explicit true is stored, and the items are in the normal form. -/
structure KeptForm (row : StoredBarkAccount) : Prop where
  serverUrl : row.serverUrl = env.barkServerUrl row.networkMode
  claim : ∀ claim, row.pendingEmergencyClaim = some claim → isPendingEmergencyClaim claim = true
  proceed : row.proceedAutomatically ≠ some false
  maxFeeRate : ∀ rate, row.emergencyExitMaxFeeRateSatPerVb = some rate →
    rate.isPositiveFinite = true
  items : ∀ items, row.exitNodeSweepVtxoItems = some items →
    NormalSweepItems items ∧ items.isEmpty = false

/-- Rebuilding an account in the kept form changes nothing. -/
theorem KeptForm.preservedAccount_eq (hkept : KeptForm env row) :
    preservedAccount env row = row := by
  obtain ⟨hserver, hclaim, hproceed, hrate, hitems⟩ := hkept
  have hnetwork : (preservedAccount env row).networkMode = row.networkMode := rfl
  apply BarkField.Agrees.ext hnetwork
  intro field
  cases field with
  | id | fingerprint | lastSuccessfulSyncAt => rfl
  | serverUrl => exact hserver.symm
  | receiveKeyIndex | recordEnvelope | emergencyExitFeePreset => rfl
  | pendingEmergencyClaim =>
    cases hstored : row.pendingEmergencyClaim with
    | none => simp [BarkField.Agrees, preservedAccount, accountWithPreservedFields, hstored]
    | some claim =>
      simp [BarkField.Agrees, preservedAccount, accountWithPreservedFields, hstored,
        pendingEmergencyClaimFromUnknown, hclaim claim hstored]
  | proceedAutomatically =>
    cases hstored : row.proceedAutomatically with
    | none => simp [BarkField.Agrees, preservedAccount, accountWithPreservedFields, hstored]
    | some enabled =>
      cases enabled with
      | false => exact absurd hstored hproceed
      | true =>
        simp [BarkField.Agrees, preservedAccount, accountWithPreservedFields, hstored,
          proceedAutomaticallyFromUnknown]
  | emergencyExitMaxFeeRateSatPerVb =>
    cases hstored : row.emergencyExitMaxFeeRateSatPerVb with
    | none => simp [BarkField.Agrees, preservedAccount, accountWithPreservedFields, hstored]
    | some rate =>
      simp [BarkField.Agrees, preservedAccount, accountWithPreservedFields, hstored,
        emergencyExitMaxFeeRateFromUnknown, hrate rate hstored]
  | exitNodeSweepVtxoItems =>
    cases hstored : row.exitNodeSweepVtxoItems with
    | none => simp [BarkField.Agrees, preservedAccount, accountWithPreservedFields, hstored]
    | some items =>
      have hlist := hitems items hstored
      simp only [BarkField.Agrees, preservedAccount, accountWithPreservedFields, hstored,
        Option.bind_some]
      exact keptItems_of_normal hlist.1 hlist.2

variable (env) in
/-- A rebuilt account is in the kept form. -/
theorem keptForm_preservedAccount (row : StoredBarkAccount) :
    KeptForm env (preservedAccount env row) where
  serverUrl := rfl
  claim := by
    intro claim hclaim
    simp only [preservedAccount, accountWithPreservedFields, Option.bind_some,
      Option.bind_eq_some_iff, pendingEmergencyClaimFromUnknown] at hclaim
    obtain ⟨stored, hstored, hvalid⟩ := hclaim
    split at hvalid
    · cases hvalid
      assumption
    · cases hvalid
  proceed := by
    intro hfalse
    simp only [preservedAccount, accountWithPreservedFields, Option.bind_some,
      Option.bind_eq_some_iff, proceedAutomaticallyFromUnknown] at hfalse
    obtain ⟨enabled, henabled, hvalue⟩ := hfalse
    cases enabled <;> simp at hvalue
  maxFeeRate := by
    intro rate hrate
    simp only [preservedAccount, accountWithPreservedFields, Option.bind_some,
      Option.bind_eq_some_iff, emergencyExitMaxFeeRateFromUnknown] at hrate
    obtain ⟨stored, hstored, hvalid⟩ := hrate
    split at hvalid
    · cases hvalid
      assumption
    · cases hvalid
  items := by
    intro items hitems
    exact preservedItems_normal hitems

/-- A row that an operation writes is in the kept form. -/
theorem keptForm_rewrite (haccepts : change.accepts env row = true) :
    KeptForm env (change.rewrite env row) := by
  have hkept := keptForm_preservedAccount env row
  cases change with
  | opened | successfulSync | recordEnvelope | feePreset => exact { hkept with }
  | pendingEmergencyClaim pending =>
    refine { hkept with claim := ?_ }
    intro claim hclaim
    simp only [rewrite] at hclaim
    simpa [accepts, hclaim] using haccepts
  | proceedAutomatically enabled =>
    refine { hkept with proceed := ?_ }
    cases enabled <;> simp [rewrite]
  | maxFeeRate rate =>
    refine { hkept with maxFeeRate := ?_ }
    intro stored hstored
    simp only [rewrite, emergencyExitMaxFeeRateFromUnknown] at hstored
    split at hstored
    · cases hstored
      assumption
    · cases hstored
  | mergedNotices items =>
    refine { hkept with items := ?_ }
    intro stored hstored
    simp only [rewrite, Option.some.injEq] at hstored
    subst stored
    simp only [accepts, Bool.and_eq_true, Bool.not_eq_true'] at haccepts
    exact ⟨normalSweepItems_normalize _, haccepts.2⟩
  | clearedNotices kind =>
    refine { hkept with items := ?_ }
    intro stored hstored
    simp only [rewrite] at hstored
    split at hstored
    · cases hstored
    · rename_i hnonempty
      cases hstored
      exact ⟨preservedItems_getD_normal.withoutKind kind, by simpa using hnonempty⟩

theorem rewrite_networkMode : (change.rewrite env row).networkMode = row.networkMode := by
  cases change <;> rfl

variable (env row) in
/-- A field that is not the operation's own is the kept one. -/
theorem rewrite_agrees_preservedAccount {field : BarkField} (hother : change.owns field = false) :
    field.Agrees (change.rewrite env row) (preservedAccount env row) := by
  cases change with
  | opened freshId fingerprint index envelope =>
    cases field with
    | fingerprint => cases hother
    | receiveKeyIndex =>
      cases index with
      | none => exact Eq.refl _
      | some index => cases hother
    | recordEnvelope =>
      cases envelope with
      | none => exact Eq.refl _
      | some envelope => cases hother
    | _ => exact Eq.refl _
  | successfulSync syncedAt envelope =>
    cases field with
    | lastSuccessfulSyncAt => cases hother
    | recordEnvelope =>
      cases envelope with
      | none => exact Eq.refl _
      | some envelope => cases hother
    | _ => exact Eq.refl _
  | recordEnvelope envelope index syncedAt =>
    cases field with
    | recordEnvelope => cases hother
    | receiveKeyIndex =>
      cases index with
      | none => exact Eq.refl _
      | some index => cases hother
    | lastSuccessfulSyncAt =>
      cases syncedAt with
      | none => exact Eq.refl _
      | some syncedAt => cases hother
    | _ => exact Eq.refl _
  | pendingEmergencyClaim pending =>
    cases field with
    | pendingEmergencyClaim => cases hother
    | _ => exact Eq.refl _
  | proceedAutomatically enabled =>
    cases field with
    | proceedAutomatically => cases hother
    | _ => exact Eq.refl _
  | feePreset preset =>
    cases field with
    | emergencyExitFeePreset => cases hother
    | _ => exact Eq.refl _
  | maxFeeRate rate =>
    cases field with
    | emergencyExitMaxFeeRateSatPerVb => cases hother
    | _ => exact Eq.refl _
  | mergedNotices | clearedNotices =>
    cases field with
    | exitNodeSweepVtxoItems => cases hother
    | _ => exact Eq.refl _

/-- What an operation writes into a field of its own depends on that field alone. -/
theorem rewrite_agrees_rewrite {field : BarkField} (hown : change.owns field = true)
    (hkept : field.Agrees (preservedAccount env row) (preservedAccount env other)) :
    field.Agrees (change.rewrite env row) (change.rewrite env other) := by
  cases change with
  | opened freshId fingerprint index envelope =>
    cases field with
    | fingerprint => exact Eq.refl fingerprint
    | receiveKeyIndex => exact congrArg index.or hkept
    | recordEnvelope => exact congrArg envelope.or hkept
    | _ => cases hown
  | successfulSync syncedAt envelope =>
    cases field with
    | lastSuccessfulSyncAt => exact Eq.refl (some syncedAt)
    | recordEnvelope => exact congrArg envelope.or hkept
    | _ => cases hown
  | recordEnvelope envelope index syncedAt =>
    cases field with
    | recordEnvelope => exact Eq.refl (some envelope)
    | receiveKeyIndex => exact congrArg index.or hkept
    | lastSuccessfulSyncAt => exact congrArg syncedAt.or hkept
    | _ => cases hown
  | pendingEmergencyClaim pending =>
    cases field with
    | pendingEmergencyClaim => exact Eq.refl pending
    | _ => cases hown
  | proceedAutomatically enabled =>
    cases field with
    | proceedAutomatically => exact Eq.refl _
    | _ => cases hown
  | feePreset preset =>
    cases field with
    | emergencyExitFeePreset => exact Eq.refl _
    | _ => cases hown
  | maxFeeRate rate =>
    cases field with
    | emergencyExitMaxFeeRateSatPerVb => exact Eq.refl _
    | _ => cases hown
  | mergedNotices items =>
    cases field with
    | exitNodeSweepVtxoItems =>
      exact congrArg
        (fun kept => some (mergeExitNodeSweepVtxoItems (kept.getD []) items)) hkept
    | _ => cases hown
  | clearedNotices kind =>
    cases field with
    | exitNodeSweepVtxoItems =>
      have hitems : (preservedAccount env row).exitNodeSweepVtxoItems =
          (preservedAccount env other).exitNodeSweepVtxoItems := hkept
      simp only [BarkField.Agrees, rewrite, hitems]
    | _ => cases hown

theorem accepts_congr (hkept : ∀ field, change.owns field = true →
      field.Agrees (preservedAccount env row) (preservedAccount env other)) :
    change.accepts env row = change.accepts env other := by
  cases change with
  | opened freshId fingerprint index envelope =>
    have hprint : row.fingerprint = other.fingerprint :=
      hkept .fingerprint (by simp [owns])
    simp [accepts, hprint]
  | mergedNotices items =>
    have hitems : (preservedAccount env row).exitNodeSweepVtxoItems =
        (preservedAccount env other).exitNodeSweepVtxoItems :=
      hkept .exitNodeSweepVtxoItems (by simp [owns])
    simp [accepts, hitems]
  | successfulSync | recordEnvelope | pendingEmergencyClaim | proceedAutomatically | feePreset
  | maxFeeRate | clearedNotices => rfl

section Commute

variable {first second : BarkAccountChange}

theorem preserved_rewrite_agrees {field : BarkField}
    (hfirst : first.accepts env row = true) (hother : first.owns field = false) :
    field.Agrees (preservedAccount env (first.rewrite env row))
      (preservedAccount env row) := by
  rw [(keptForm_rewrite hfirst).preservedAccount_eq]
  exact rewrite_agrees_preservedAccount env row hother

theorem accepts_rewrite (hdisjoint : ∀ field, ¬(first.owns field = true ∧ second.owns field = true))
    (hfirst : first.accepts env row = true) :
    second.accepts env (first.rewrite env row) = second.accepts env row := by
  apply accepts_congr
  intro field hown
  apply preserved_rewrite_agrees hfirst
  cases hfield : first.owns field with
  | false => rfl
  | true => exact absurd ⟨hfield, hown⟩ (hdisjoint field)

theorem rewrite_rewrite_agrees {field : BarkField} (hfirst : first.accepts env row = true)
    (hsecond : second.accepts env row = true) (hother : second.owns field = false) :
    field.Agrees (second.rewrite env (first.rewrite env row))
      (first.rewrite env (second.rewrite env row)) := by
  have hleft : field.Agrees (second.rewrite env (first.rewrite env row))
      (first.rewrite env row) := by
    have hagrees := rewrite_agrees_preservedAccount env
      (first.rewrite env row) hother
    rwa [(keptForm_rewrite hfirst).preservedAccount_eq] at hagrees
  apply hleft.trans
  cases hown : first.owns field with
  | true =>
    apply rewrite_agrees_rewrite hown
    exact (preserved_rewrite_agrees hsecond hother).symm
  | false =>
    apply (rewrite_agrees_preservedAccount env _ hown).trans
    apply (preserved_rewrite_agrees hsecond hother).symm.trans
    exact (rewrite_agrees_preservedAccount env _ hown).symm

theorem rewrite_comm (hdisjoint : ∀ field, ¬(first.owns field = true ∧ second.owns field = true))
    (hfirst : first.accepts env row = true)
    (hsecond : second.accepts env row = true) :
    second.rewrite env (first.rewrite env row) = first.rewrite env (second.rewrite env row) := by
  apply BarkField.Agrees.ext
  · simp only [rewrite_networkMode]
  · intro field
    cases hown : second.owns field with
    | false => exact rewrite_rewrite_agrees hfirst hsecond hown
    | true =>
      have hother : first.owns field = false := by
        cases hfield : first.owns field with
        | false => rfl
        | true => exact absurd ⟨hfield, hown⟩ (hdisjoint field)
      exact (rewrite_rewrite_agrees hsecond hfirst hother).symm

end Commute

theorem created_networkMode (haccount : change.created env network = some account) :
    account.networkMode = network := by
  cases change with
  | opened freshId fingerprint index envelope =>
    simp only [created, Option.ite_none_right_eq_some, Option.some.injEq] at haccount
    rw [← haccount.2]
    rfl
  | _ => cases haccount

variable (env) in
/-- An operation leaves the payload or writes one row of its network. -/
theorem barkAccountStep_cases (payload : WalletSecretsPayload) (op : BarkAccountOp) :
    barkAccountStep env payload op = payload ∨
      ∃ account, account.networkMode = op.network ∧
        barkAccountStep env payload op = upsertBarkAccountInPayload payload account := by
  cases hrow : findBarkAccount payload op.network with
  | none =>
    rw [barkAccountStep_of_missing hrow]
    cases haccount : op.change.created env op.network with
    | none => exact .inl rfl
    | some account => exact .inr ⟨account, created_networkMode haccount, rfl⟩
  | some row =>
    rw [barkAccountStep_of_found hrow]
    split
    · right
      refine ⟨op.change.rewrite env row, ?_, rfl⟩
      rw [rewrite_networkMode]
      exact findBarkAccount_networkMode hrow
    · exact .inl rfl

theorem findBarkAccount_upsert_self (hnetwork : account.networkMode = network) :
    findBarkAccount (upsertBarkAccountInPayload payload account) network = some account := by
  rw [← hnetwork]
  exact getRow_putRow_self

theorem upsert_upsert_self {written : StoredBarkAccount}
    (hnetwork : written.networkMode = account.networkMode) :
    upsertBarkAccountInPayload (upsertBarkAccountInPayload payload account) written =
      upsertBarkAccountInPayload payload written := by
  simp [upsertBarkAccountInPayload, putRow_putRow_self hnetwork]

variable (env payload) in
theorem findBarkAccount_step_of_ne (hne : network ≠ op.network) :
    findBarkAccount (barkAccountStep env payload op) network = findBarkAccount payload network := by
  cases barkAccountStep_cases env payload op with
  | inl heq => rw [heq]
  | inr hwrite =>
    obtain ⟨account, hnetwork, heq⟩ := hwrite
    rw [heq]
    apply getRow_putRow_of_ne
    rwa [hnetwork]

end Rewrite

end Bitboard.Wallet
