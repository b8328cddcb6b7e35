/-
# Which rows of a payload are kept

A Bark row is kept if it says whose records it has, if its sync time and its receive key
index are absent or valid, and if its envelope is absent or a string: every other field is
left out when it is malformed. An Arkade row is kept if it is valid, or valid without an
oversized state of the SDK. A kept row is kept again as it is.
-/

import Bitboard.Wallet.PayloadJson

namespace Bitboard.Wallet.PayloadJson

open Lib
open JsonValue

variable {env : Environment} {row kept : JsonValue} {name other : String}
  {record migrated : List (String × JsonValue)} {reader : JsonValue → Option JsonValue}

/-- The fields that a malformed value of is left out. -/
def cleanedFields : List String :=
  ["pendingEmergencyClaim", "proceedAutomatically", "emergencyExitFeePreset",
    "emergencyExitMaxFeeRateSatPerVb", "exitNodeSweepVtxoItems"]

theorem get?_migrate_of_ne (hname : hasNonDigit name = true) (henvelope : name ≠ "recordEnvelope")
    (hdump : name ≠ "recordDump") :
    (object (migrateLegacyBarkRecordDumpField row)).get? name = row.get? name := by
  rw [migrateLegacyBarkRecordDumpField, get?_deleteProperty_of_ne hdump]
  split
  · rw [get?_setProperty_of_ne henvelope, get?_spread row hname]
  · rw [get?_spread row hname]

theorem get?_migrate_dump :
    (object (migrateLegacyBarkRecordDumpField row)).get? "recordDump" = none :=
  get?_deleteProperty_self

/-- The envelope of a migrated row: its own, or what the older version wrote. -/
theorem get?_migrate_envelope :
    (object (migrateLegacyBarkRecordDumpField row)).get? "recordEnvelope" =
      (row.get? "recordEnvelope").or ((row.get? "recordDump").filter isString) := by
  have hne : "recordEnvelope" ≠ "recordDump" := by decide
  rw [migrateLegacyBarkRecordDumpField, get?_deleteProperty_of_ne hne,
    get?_spread row (by decide), get?_spread row (by decide)]
  split
  · rename_i dump henvelope hdump
    rw [get?_setProperty_self, henvelope, hdump]
    rfl
  · rename_i hcases
    rw [get?_spread row (by decide)]
    cases henvelope : row.get? "recordEnvelope" with
    | some envelope => rfl
    | none =>
      cases hdump : row.get? "recordDump" with
      | none => rfl
      | some dump =>
        cases dump with
        | string s => exact absurd hdump (hcases s henvelope)
        | _ => rfl

theorem get?_cleanField_self :
    (object (cleanField name reader record)).get? name =
      ((object record).get? name).bind reader := by
  rw [cleanField]
  split
  · rename_i value hvalue
    rw [get?_setProperty_self, hvalue]
  · rename_i hnone
    rw [get?_deleteProperty_self, hnone]

theorem get?_cleanField_of_ne (hne : other ≠ name) :
    (object (cleanField name reader record)).get? other = (object record).get? other := by
  rw [cleanField]
  split
  · exact get?_setProperty_of_ne hne
  · exact get?_deleteProperty_of_ne hne

theorem get?_cleanBarkRow_of_notMem (hname : name ∉ cleanedFields) :
    (object (cleanBarkRow migrated)).get? name = (object migrated).get? name := by
  simp only [cleanedFields, List.mem_cons, List.not_mem_nil, or_false, not_or] at hname
  obtain ⟨hclaim, hproceed, hpreset, hmaxFee, hitems⟩ := hname
  rw [cleanBarkRow, get?_cleanField_of_ne hitems, get?_cleanField_of_ne hmaxFee,
    get?_cleanField_of_ne hpreset, get?_cleanField_of_ne hproceed, get?_cleanField_of_ne hclaim]

theorem get?_cleanBarkRow_claim :
    (object (cleanBarkRow migrated)).get? "pendingEmergencyClaim" =
      ((object migrated).get? "pendingEmergencyClaim").bind
        pendingEmergencyClaimFromUnknown := by
  rw [cleanBarkRow, get?_cleanField_of_ne (by decide), get?_cleanField_of_ne (by decide),
    get?_cleanField_of_ne (by decide), get?_cleanField_of_ne (by decide), get?_cleanField_self]

theorem get?_cleanBarkRow_proceed :
    (object (cleanBarkRow migrated)).get? "proceedAutomatically" =
      ((object migrated).get? "proceedAutomatically").bind
        proceedAutomaticallyFromUnknown := by
  rw [cleanBarkRow, get?_cleanField_of_ne (by decide), get?_cleanField_of_ne (by decide),
    get?_cleanField_of_ne (by decide), get?_cleanField_self, get?_cleanField_of_ne (by decide)]

theorem get?_cleanBarkRow_preset :
    (object (cleanBarkRow migrated)).get? "emergencyExitFeePreset" =
      ((object migrated).get? "emergencyExitFeePreset").bind
        emergencyExitFeePresetFromUnknown := by
  rw [cleanBarkRow, get?_cleanField_of_ne (by decide), get?_cleanField_of_ne (by decide),
    get?_cleanField_self, get?_cleanField_of_ne (by decide), get?_cleanField_of_ne (by decide)]

theorem get?_cleanBarkRow_maxFee :
    (object (cleanBarkRow migrated)).get? "emergencyExitMaxFeeRateSatPerVb" =
      ((object migrated).get? "emergencyExitMaxFeeRateSatPerVb").bind
        emergencyExitMaxFeeRateFromUnknown := by
  rw [cleanBarkRow, get?_cleanField_of_ne (by decide), get?_cleanField_self,
    get?_cleanField_of_ne (by decide), get?_cleanField_of_ne (by decide),
    get?_cleanField_of_ne (by decide)]

theorem get?_cleanBarkRow_items :
    (object (cleanBarkRow migrated)).get? "exitNodeSweepVtxoItems" =
      ((object migrated).get? "exitNodeSweepVtxoItems").bind
        keptExitNodeSweepVtxoItems := by
  rw [cleanBarkRow, get?_cleanField_self, get?_cleanField_of_ne (by decide),
    get?_cleanField_of_ne (by decide), get?_cleanField_of_ne (by decide),
    get?_cleanField_of_ne (by decide)]

theorem absentOr_bind {check : JsonValue → Bool} (value : Option JsonValue)
    (hreader : ∀ given kept, reader given = some kept → check kept = true) :
    absentOr check (value.bind reader) = true := by
  cases value with
  | none => rfl
  | some given =>
    cases hkept : reader given with
    | none =>
      rw [Option.bind_some, hkept]
      rfl
    | some kept =>
      rw [Option.bind_some, hkept]
      exact hreader given kept hkept

variable {given : JsonValue}

theorem isPendingEmergencyClaim_of_kept
    (hkept : pendingEmergencyClaimFromUnknown given = some kept) :
    isPendingEmergencyClaim kept = true := by
  rw [pendingEmergencyClaimFromUnknown] at hkept
  split at hkept
  · rename_i hclaim
    split at hkept
    · rename_i txid vtxoIds htxid hvtxoIds
      cases hkept
      rw [isPendingEmergencyClaim, htxid, hvtxoIds] at hclaim
      exact hclaim
    · cases hkept
  · cases hkept

theorem isBoolean_of_kept
    (hkept : proceedAutomaticallyFromUnknown given = some kept) : kept.isBoolean = true := by
  rw [proceedAutomaticallyFromUnknown.eq_def] at hkept
  split at hkept
  · cases hkept
    rfl
  · cases hkept

theorem feePreset_of_kept (hkept : emergencyExitFeePresetFromUnknown given = some kept) :
    (emergencyExitFeePresetFromUnknown kept).isSome = true := by
  have hsame : given = kept := by
    rw [emergencyExitFeePresetFromUnknown, Option.ite_none_right_eq_some] at hkept
    exact Option.some.inj hkept.2
  subst hsame
  rw [hkept]
  rfl

theorem maxFeeRate_of_kept (hkept : emergencyExitMaxFeeRateFromUnknown given = some kept) :
    (emergencyExitMaxFeeRateFromUnknown kept).isSome = true := by
  have hsame : given = kept := by
    rw [emergencyExitMaxFeeRateFromUnknown.eq_def] at hkept
    split at hkept
    · rw [Option.ite_none_right_eq_some] at hkept
      exact Option.some.inj hkept.2
    · cases hkept
  subst hsame
  rw [hkept]
  rfl

theorem nodeKindNames_lookup (kind : BarkExitNodeSweepKind) :
    nodeKindNames.lookup (nodeKindName kind) = some kind := by
  cases kind <;> decide

theorem sweepItemFromUnknown_sweepItemValue {item : BarkExitNodeSweepVtxoItem}
    (hnamed : item.vtxoId.isEmpty = false) :
    sweepItemFromUnknown (sweepItemValue item) = some item := by
  have hvtxoId : (sweepItemValue item).get? "vtxoId" = some (.string item.vtxoId) := rfl
  have hnodeKind : (sweepItemValue item).get? "nodeKind" =
      some (.string (nodeKindName item.nodeKind)) := rfl
  rw [sweepItemFromUnknown, hvtxoId, hnodeKind, nodeKindFromUnknown, nodeKindNames_lookup]
  simp [hnamed]

variable {items : List BarkExitNodeSweepVtxoItem}

theorem mapM_sweepItemValue (hnamed : ∀ item ∈ items, item.vtxoId.isEmpty = false) :
    (items.map sweepItemValue).mapM sweepItemFromUnknown = some items := by
  induction items with
  | nil => rfl
  | cons item items ih =>
    have hrest := ih fun other hother => hnamed other (List.mem_cons_of_mem item hother)
    rw [List.map_cons, List.mapM_cons,
      sweepItemFromUnknown_sweepItemValue (hnamed item List.mem_cons_self), hrest]
    rfl

theorem normalSweepItems_of_fromUnknown
    (hitems : exitNodeSweepVtxoItemsFromUnknown given = some items) : NormalSweepItems items := by
  rw [exitNodeSweepVtxoItemsFromUnknown.eq_def] at hitems
  split at hitems
  · rw [Option.map_eq_some_iff] at hitems
    obtain ⟨read, -, hnormalize⟩ := hitems
    rw [← hnormalize]
    exact normalSweepItems_normalize read
  · cases hitems

theorem sweepItems_of_kept (hkept : keptExitNodeSweepVtxoItems given = some kept) :
    (exitNodeSweepVtxoItemsFromUnknown kept).isSome = true := by
  rw [keptExitNodeSweepVtxoItems] at hkept
  split at hkept
  · rename_i items hitems
    rw [Option.ite_none_left_eq_some] at hkept
    cases hkept.2
    simp [exitNodeSweepVtxoItemsFromUnknown,
      mapM_sweepItemValue (normalSweepItems_of_fromUnknown hitems).named]
  · cases hkept

/-! ## Bark rows -/

/-- The row is kept: it says whose records it has, its sync time and receive key index are
absent or valid, and its envelope is absent or a string. -/
def isBarkRowKept (env : Environment) (row : JsonValue) : Bool :=
  isBarkRowIdentity env row && isBarkRowProgress env row &&
    absentOr isString (row.get? "recordEnvelope")

theorem isBarkRowIdentity_congr {left right : JsonValue}
    (hsame : ∀ name ∈ ["id", "networkMode", "serverUrl", "fingerprint"],
      left.get? name = right.get? name) :
    isBarkRowIdentity env left = isBarkRowIdentity env right := by
  rw [isBarkRowIdentity, isBarkRowIdentity, barkNetwork?, barkNetwork?,
    hsame "id" (by simp), hsame "networkMode" (by simp), hsame "serverUrl" (by simp),
    hsame "fingerprint" (by simp)]

theorem isBarkRowProgress_congr {left right : JsonValue}
    (hsame : ∀ name ∈ ["lastSuccessfulSyncAt", "receiveKeyIndex"],
      left.get? name = right.get? name) :
    isBarkRowProgress env left = isBarkRowProgress env right := by
  rw [isBarkRowProgress, isBarkRowProgress, hsame "lastSuccessfulSyncAt" (by simp),
    hsame "receiveKeyIndex" (by simp)]

theorem isBarkRowKept_migrate :
    isBarkRowKept env (.object (migrateLegacyBarkRecordDumpField row)) = isBarkRowKept env row := by
  have henvelope : absentOr isString
      ((object (migrateLegacyBarkRecordDumpField row)).get? "recordEnvelope") =
        absentOr isString (row.get? "recordEnvelope") := by
    rw [get?_migrate_envelope]
    cases row.get? "recordEnvelope" with
    | some envelope => rfl
    | none =>
      cases row.get? "recordDump" with
      | none => rfl
      | some dump => cases dump <;> rfl
  rw [isBarkRowKept, isBarkRowKept, henvelope]
  congr 2
  · apply isBarkRowIdentity_congr
    intro name hname
    simp only [List.mem_cons, List.not_mem_nil, or_false] at hname
    rcases hname with rfl | rfl | rfl | rfl <;>
      exact get?_migrate_of_ne (by decide) (by decide) (by decide)
  · apply isBarkRowProgress_congr
    intro name hname
    simp only [List.mem_cons, List.not_mem_nil, or_false] at hname
    rcases hname with rfl | rfl <;>
      exact get?_migrate_of_ne (by decide) (by decide) (by decide)

theorem isBarkRowKept_clean :
    isBarkRowKept env (.object (cleanBarkRow migrated)) = isBarkRowKept env (.object migrated) := by
  rw [isBarkRowKept, isBarkRowKept,
    get?_cleanBarkRow_of_notMem (show "recordEnvelope" ∉ cleanedFields by decide)]
  congr 2
  · apply isBarkRowIdentity_congr
    intro name hname
    simp only [List.mem_cons, List.not_mem_nil, or_false] at hname
    rcases hname with rfl | rfl | rfl | rfl <;> exact get?_cleanBarkRow_of_notMem (by decide)
  · apply isBarkRowProgress_congr
    intro name hname
    simp only [List.mem_cons, List.not_mem_nil, or_false] at hname
    rcases hname with rfl | rfl <;> exact get?_cleanBarkRow_of_notMem (by decide)

/-- The fields that are left out when they are malformed are absent or valid. -/
def areOptionalFieldsValid (row : JsonValue) : Bool :=
  absentOr isPendingEmergencyClaim (row.get? "pendingEmergencyClaim") &&
    absentOr isBoolean (row.get? "proceedAutomatically") &&
    absentOr (fun value => (emergencyExitFeePresetFromUnknown value).isSome)
      (row.get? "emergencyExitFeePreset") &&
    absentOr (fun value => (emergencyExitMaxFeeRateFromUnknown value).isSome)
      (row.get? "emergencyExitMaxFeeRateSatPerVb") &&
    absentOr (fun value => (exitNodeSweepVtxoItemsFromUnknown value).isSome)
      (row.get? "exitNodeSweepVtxoItems")

theorem isRecord_of_get?_ne_none (hget : row.get? name ≠ none) : row.isRecord = true := by
  cases row with
  | object | array => rfl
  | _ => exact absurd rfl hget

theorem isRecord_of_isBarkRowIdentity (hrow : isBarkRowIdentity env row = true) :
    row.isRecord = true := by
  have hid : row.get? "id" ≠ none := by
    intro hnone
    rw [isBarkRowIdentity, hnone] at hrow
    cases hrow
  exact isRecord_of_get?_ne_none hid

theorem isStoredBarkAccount_eq (row : JsonValue) :
    isStoredBarkAccount env row = (isBarkRowKept env row && areOptionalFieldsValid row) := by
  rw [Bool.eq_iff_iff]
  simp only [isStoredBarkAccount, isBarkRowKept, areOptionalFieldsValid, Bool.and_eq_true]
  constructor
  · intro hrow
    obtain ⟨⟨⟨⟨⟨⟨⟨⟨hrecord, hidentity⟩, hprogress⟩, henvelope⟩, hclaim⟩, hproceed⟩, hpreset⟩,
      hmaxFee⟩, hitems⟩ := hrow
    exact ⟨⟨⟨hidentity, hprogress⟩, henvelope⟩, ⟨⟨⟨⟨hclaim, hproceed⟩, hpreset⟩, hmaxFee⟩, hitems⟩⟩
  · intro hrow
    obtain ⟨⟨⟨hidentity, hprogress⟩, henvelope⟩,
        ⟨⟨⟨⟨hclaim, hproceed⟩, hpreset⟩, hmaxFee⟩, hitems⟩⟩ :=
      hrow
    exact ⟨⟨⟨⟨⟨⟨⟨⟨isRecord_of_isBarkRowIdentity hidentity, hidentity⟩, hprogress⟩, henvelope⟩,
      hclaim⟩, hproceed⟩, hpreset⟩, hmaxFee⟩, hitems⟩

theorem isBarkRowKept_of_isStoredBarkAccount (hrow : isStoredBarkAccount env row = true) :
    isBarkRowKept env row = true := by
  rw [isStoredBarkAccount_eq, Bool.and_eq_true] at hrow
  exact hrow.1

theorem isStoredBarkAccount_migrate :
    isStoredBarkAccount env (.object (migrateLegacyBarkRecordDumpField row)) =
      isStoredBarkAccount env row := by
  have hsame : ∀ name ∈ cleanedFields,
      (object (migrateLegacyBarkRecordDumpField row)).get? name = row.get? name := by
    intro name hname
    simp only [cleanedFields, List.mem_cons, List.not_mem_nil, or_false] at hname
    rcases hname with rfl | rfl | rfl | rfl | rfl <;>
      exact get?_migrate_of_ne (by decide) (by decide) (by decide)
  rw [isStoredBarkAccount_eq, isStoredBarkAccount_eq, isBarkRowKept_migrate,
    areOptionalFieldsValid, areOptionalFieldsValid, hsame "pendingEmergencyClaim" (by decide),
    hsame "proceedAutomatically" (by decide), hsame "emergencyExitFeePreset" (by decide),
    hsame "emergencyExitMaxFeeRateSatPerVb" (by decide),
    hsame "exitNodeSweepVtxoItems" (by decide)]

theorem isStoredBarkAccount_clean :
    isStoredBarkAccount env (.object (cleanBarkRow migrated)) =
      isBarkRowKept env (.object migrated) := by
  rw [isStoredBarkAccount_eq, isBarkRowKept_clean, areOptionalFieldsValid, get?_cleanBarkRow_claim,
    get?_cleanBarkRow_proceed, get?_cleanBarkRow_preset, get?_cleanBarkRow_maxFee,
    get?_cleanBarkRow_items, absentOr_bind _ fun _ _ => isPendingEmergencyClaim_of_kept,
    absentOr_bind _ fun _ _ => isBoolean_of_kept, absentOr_bind _ fun _ _ => feePreset_of_kept,
    absentOr_bind _ fun _ _ => maxFeeRate_of_kept, absentOr_bind _ fun _ _ => sweepItems_of_kept]
  simp

/-- What `sanitizeStoredBarkAccountRow` does, said once: a row that is valid after the migration
stays, another row that is kept is cleaned, and all others are dropped. -/
theorem sanitizeStoredBarkAccountRow_eq (row : JsonValue) :
    sanitizeStoredBarkAccountRow env row =
      if isStoredBarkAccount env (.object (migrateLegacyBarkRecordDumpField row)) then
        some (.object (migrateLegacyBarkRecordDumpField row))
      else if isBarkRowKept env row then
        some (.object (cleanBarkRow (migrateLegacyBarkRecordDumpField row)))
      else none := by
  have hrecord : row.isRecord = false → isBarkRowKept env row = false := by
    intro hnot
    cases hkept : isBarkRowKept env row with
    | false => rfl
    | true =>
      rw [isBarkRowKept, Bool.and_eq_true, Bool.and_eq_true] at hkept
      rw [isRecord_of_isBarkRowIdentity hkept.1.1] at hnot
      cases hnot
  rw [sanitizeStoredBarkAccountRow]
  cases hrow : row.isRecord with
  | false =>
    have hkept := hrecord hrow
    have hstored : isStoredBarkAccount env
        (.object (migrateLegacyBarkRecordDumpField row)) = false := by
      cases hstored : isStoredBarkAccount env
          (.object (migrateLegacyBarkRecordDumpField row)) with
      | false => rfl
      | true =>
        have hmigrated := isBarkRowKept_of_isStoredBarkAccount hstored
        rw [isBarkRowKept_migrate, hkept] at hmigrated
        cases hmigrated
    simp [hkept, hstored]
  | true =>
    simp only [isStoredBarkAccount_clean, isBarkRowKept_migrate, Bool.not_true,
      Bool.false_eq_true, if_false]

theorem isSome_sanitizeStoredBarkAccountRow (row : JsonValue) :
    (sanitizeStoredBarkAccountRow env row).isSome = isBarkRowKept env row := by
  rw [sanitizeStoredBarkAccountRow_eq]
  split
  · rename_i hstored
    rw [← isBarkRowKept_migrate, isBarkRowKept_of_isStoredBarkAccount hstored]
    rfl
  · split
    · rename_i hkept
      rw [hkept]
      rfl
    · rename_i hkept
      simp [hkept]

theorem isStoredBarkAccount_of_sanitize
    (hkept : sanitizeStoredBarkAccountRow env row = some kept) :
    isStoredBarkAccount env kept = true := by
  rw [sanitizeStoredBarkAccountRow_eq] at hkept
  split at hkept
  · rename_i hstored
    cases hkept
    exact hstored
  · rw [Option.ite_none_right_eq_some] at hkept
    obtain ⟨hrow, heq⟩ := hkept
    cases heq
    rw [isStoredBarkAccount_clean, isBarkRowKept_migrate]
    exact hrow

theorem sanitize_of_isStoredBarkAccount (hrow : isStoredBarkAccount env row = true) :
    sanitizeStoredBarkAccountRow env row =
      some (.object (migrateLegacyBarkRecordDumpField row)) := by
  rw [sanitizeStoredBarkAccountRow_eq, isStoredBarkAccount_migrate, if_pos hrow]

section

variable (hkept : sanitizeStoredBarkAccountRow env row = some kept)
include hkept

theorem sanitize_cases :
    ∃ record, kept = .object record ∧ (record = migrateLegacyBarkRecordDumpField row ∨
      record = cleanBarkRow (migrateLegacyBarkRecordDumpField row)) := by
  rw [sanitizeStoredBarkAccountRow_eq] at hkept
  split at hkept
  · cases hkept
    exact ⟨_, rfl, .inl rfl⟩
  · rw [Option.ite_none_right_eq_some] at hkept
    exact ⟨_, (Option.some.inj hkept.2).symm, .inr rfl⟩

theorem get?_kept (hname : hasNonDigit name = true) (henvelope : name ≠ "recordEnvelope")
    (hdump : name ≠ "recordDump") (hcleaned : name ∉ cleanedFields) :
    kept.get? name = row.get? name := by
  obtain ⟨record, rfl, hrecord⟩ := sanitize_cases hkept
  cases hrecord with
  | inl hmigrated =>
    rw [hmigrated]
    exact get?_migrate_of_ne hname henvelope hdump
  | inr hclean =>
    rw [hclean, get?_cleanBarkRow_of_notMem hcleaned]
    exact get?_migrate_of_ne hname henvelope hdump

theorem get?_kept_envelope :
    kept.get? "recordEnvelope" =
      (row.get? "recordEnvelope").or ((row.get? "recordDump").filter isString) := by
  obtain ⟨record, rfl, hrecord⟩ := sanitize_cases hkept
  cases hrecord with
  | inl hmigrated =>
    rw [hmigrated]
    exact get?_migrate_envelope
  | inr hclean =>
    rw [hclean, get?_cleanBarkRow_of_notMem (by decide)]
    exact get?_migrate_envelope

theorem get?_kept_dump : kept.get? "recordDump" = none := by
  obtain ⟨record, rfl, hrecord⟩ := sanitize_cases hkept
  cases hrecord with
  | inl hmigrated =>
    rw [hmigrated]
    exact get?_migrate_dump
  | inr hclean =>
    rw [hclean, get?_cleanBarkRow_of_notMem (by decide)]
    exact get?_migrate_dump

theorem networkName_kept : networkName kept = networkName row := by
  rw [networkName, networkName, get?_kept hkept (by decide) (by decide) (by decide) (by decide)]

end

theorem migrate_of_get?_eq_none (hdump : (object record).get? "recordDump" = none) :
    migrateLegacyBarkRecordDumpField (.object record) = record := by
  rw [migrateLegacyBarkRecordDumpField]
  simp only [spread, hdump]
  split
  · rename_i dump henvelope hsome
    cases hsome
  · exact deleteProperty_of_get?_eq_none hdump

theorem sanitize_kept (hkept : sanitizeStoredBarkAccountRow env row = some kept) :
    sanitizeStoredBarkAccountRow env kept = some kept := by
  have hdump := get?_kept_dump hkept
  have hstored := isStoredBarkAccount_of_sanitize hkept
  obtain ⟨record, rfl, -⟩ := sanitize_cases hkept
  rw [sanitize_of_isStoredBarkAccount hstored, migrate_of_get?_eq_none hdump]

theorem get?_strip_of_ne (hname : hasNonDigit name = true) (hne : name ≠ "sdkPersistenceJson") :
    (stripOversizedSdkPersistenceJson row).get? name = row.get? name := by
  rw [stripOversizedSdkPersistenceJson]
  split
  · split
    · rfl
    · rw [get?_deleteProperty_of_ne hne, get?_spread row hname]
  · rfl

/-- The row is kept: it is valid, or valid without an oversized state. -/
def isArkadeRowKept (env : Environment) (row : JsonValue) : Bool :=
  isStoredArkadeAccount env row ||
    isStoredArkadeAccount env (stripOversizedSdkPersistenceJson row)

theorem isRecord_of_isStoredArkadeAccount (hrow : isStoredArkadeAccount env row = true) :
    row.isRecord = true := by
  simp only [isStoredArkadeAccount, Bool.and_eq_true] at hrow
  exact hrow.1.1.1.1.1.1.1.1.1.1

theorem sanitize_of_isStoredArkadeAccount (hrow : isStoredArkadeAccount env row = true) :
    sanitizeStoredArkadeAccountRow env row = some row := by
  simp [sanitizeStoredArkadeAccountRow, isRecord_of_isStoredArkadeAccount hrow, hrow]

theorem sanitizeArkade_cases (hkept : sanitizeStoredArkadeAccountRow env row = some kept) :
    isStoredArkadeAccount env kept = true ∧
      (kept = row ∨ kept = stripOversizedSdkPersistenceJson row) := by
  rw [sanitizeStoredArkadeAccountRow] at hkept
  split at hkept
  · cases hkept
  · split at hkept
    · rename_i hstored
      cases hkept
      exact ⟨hstored, .inl rfl⟩
    · dsimp only at hkept
      rw [Option.ite_none_right_eq_some] at hkept
      obtain ⟨hstored, heq⟩ := hkept
      cases heq
      exact ⟨hstored, .inr rfl⟩

theorem isSome_sanitizeStoredArkadeAccountRow (row : JsonValue) :
    (sanitizeStoredArkadeAccountRow env row).isSome = isArkadeRowKept env row := by
  have hrecord : isArkadeRowKept env row = true → row.isRecord = true := by
    intro hkept
    rw [isArkadeRowKept, Bool.or_eq_true] at hkept
    cases hkept with
    | inl hstored => exact isRecord_of_isStoredArkadeAccount hstored
    | inr hstored =>
      have hid : row.get? "id" ≠ none := by
        intro hnone
        rw [← get?_strip_of_ne (by decide) (by decide)] at hnone
        simp [isStoredArkadeAccount, hnone, isNonEmptyString] at hstored
      exact isRecord_of_get?_ne_none hid
  rw [sanitizeStoredArkadeAccountRow]
  cases hrow : row.isRecord with
  | false =>
    cases hkept : isArkadeRowKept env row with
    | false => rfl
    | true =>
      rw [hrecord hkept] at hrow
      cases hrow
  | true =>
    rw [isArkadeRowKept]
    cases isStoredArkadeAccount env row with
    | true => rfl
    | false =>
      cases hstripped : isStoredArkadeAccount env
          (stripOversizedSdkPersistenceJson row) <;> simp [hstripped]

theorem get?_keptArkade (hkept : sanitizeStoredArkadeAccountRow env row = some kept)
    (hname : hasNonDigit name = true) (hne : name ≠ "sdkPersistenceJson") :
    kept.get? name = row.get? name := by
  cases (sanitizeArkade_cases hkept).2 with
  | inl heq => rw [heq]
  | inr heq =>
    rw [heq]
    exact get?_strip_of_ne hname hne

end Bitboard.Wallet.PayloadJson
