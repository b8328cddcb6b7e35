/-
# What reading a payload keeps

A payload that is accepted is valid and comes back from its own text, its valid rows are
kept, its active ids name kept accounts, and Bark rows keep their envelopes: all of this
exactly if the text has no number out of range among what is kept, if no active id names
an account of another network, and if no Bark row with an envelope has a malformed sync
time or receive key index.
-/

import Bitboard.Wallet.PayloadJsonReread

namespace Bitboard.Wallet.PayloadJson

open Lib
open JsonValue

variable {env : Environment} {raw value row kept : JsonValue} {name : String}
  {record : List (String × JsonValue)} {isDouble : ℚ → Prop}

/-- No earlier row that is kept has the network of the row. -/
def NoEarlierOfNetwork (env : Environment) (before : List JsonValue) (row : JsonValue) : Prop :=
  ∀ earlier ∈ before, isBarkRowKept env earlier = true →
    networkName earlier ≠ networkName row

/-- What an accepted payload is to keep of the record that it was read from. -/
structure PayloadKept {Text : Type} (env : Environment) (engine : JsonEngine Text)
    (record : List (String × JsonValue)) (value : JsonValue) : Prop where
  valid : isWalletSecretsPayload env value = true
  rereads : parseWalletPayloadJson env engine (engine.stringify value) = .ok value
  descriptorRows : value.get? "descriptorWallets" = (object record).get? "descriptorWallets"
  lightningRows : rowsOf (value.get? "lightningNwcConnections") =
    rowsOf ((object record).get? "lightningNwcConnections")
  arkadeKept : ∀ row ∈ arkadeRows record, isStoredArkadeAccount env row = true →
    row ∈ rowsOf (value.get? "arkadeAccounts")
  barkKept : ∀ before row after, barkRows record = before ++ row :: after →
    isStoredBarkAccount env row = true → NoEarlierOfNetwork env before row →
    .object (migrateLegacyBarkRecordDumpField row) ∈ rowsOf (value.get? "barkAccounts")
  activeAccounts : ∀ entry ∈ entriesOf (value.get? "activeArkadeAccountIdByNetwork"),
    ∃ account ∈ rowsOf (value.get? "arkadeAccounts"),
      account.get? "id" = some entry.2 ∧ account.get? "networkMode" = some (.string entry.1)
  envelopes : ∀ before row after envelope, barkRows record = before ++ row :: after →
    isBarkRowIdentity env row = true →
    row.get? "recordEnvelope" = some (.string envelope) →
    NoEarlierOfNetwork env before row →
    ∃ kept ∈ rowsOf (value.get? "barkAccounts"),
      sanitizeStoredBarkAccountRow env row = some kept ∧
        kept.get? "recordEnvelope" = some (.string envelope)

/-- The numbers of a Bark row that are kept are finite. -/
def BarkRowFinite (env : Environment) (row : JsonValue) : Prop :=
  ∀ name value, row.get? name = some value → name ≠ "recordDump" →
    (isStoredBarkAccount env row = true ∨ name ∉ cleanedFields) → value.Finite

/-- No number is out of range among what is kept of a record. -/
structure KeptNumbersFinite (env : Environment) (record : List (String × JsonValue)) :
    Prop where
  otherProperties : ∀ name value, (object record).get? name = some value →
    name ∉ builtNames → value.Finite
  arkadeNumbers : ∀ row ∈ arkadeRows record, isArkadeRowKept env row = true → row.Finite
  barkNumbers : ∀ before row after, barkRows record = before ++ row :: after →
    isBarkRowKept env row = true → NoEarlierOfNetwork env before row →
    BarkRowFinite env row

structure ReadsWithoutLoss (env : Environment) (record : List (String × JsonValue)) :
    Prop where
  numbers : KeptNumbersFinite env record
  active : ∀ entry ∈ activeEntries record, entry.1 ∈ arkadeSupportedNetworkModes →
    ∀ row ∈ arkadeRows record, isArkadeRowKept env row = true →
    row.get? "id" = some entry.2 →
    ∃ other ∈ arkadeRows record, isArkadeRowKept env other = true ∧
      other.get? "id" = some entry.2 ∧ other.get? "networkMode" = some (.string entry.1)
  progress : ∀ before row after envelope, barkRows record = before ++ row :: after →
    isBarkRowIdentity env row = true →
    row.get? "recordEnvelope" = some (.string envelope) →
    NoEarlierOfNetwork env before row → isBarkRowProgress env row = true

theorem get?_accepted_arkade :
    rowsOf ((object (acceptedRecord env record)).get? "arkadeAccounts") =
      keptArkadeAccounts env record := by
  rw [acceptedRecord, get?_builtRecord_arkade]
  rfl

theorem get?_accepted_bark :
    rowsOf ((object (acceptedRecord env record)).get? "barkAccounts") =
      keptBarkAccounts env record := by
  rw [acceptedRecord, get?_builtRecord_bark]
  rfl

theorem get?_accepted_active :
    entriesOf ((object (acceptedRecord env record)).get?
        "activeArkadeAccountIdByNetwork") = keptActiveEntries env record := by
  rw [acceptedRecord, get?_builtRecord_active]
  rfl

theorem get?_accepted_lightning :
    (object (acceptedRecord env record)).get? "lightningNwcConnections" =
      some (coalesceNullishArrayField
        ((object record).get? "lightningNwcConnections")) := by
  rw [acceptedRecord, get?_builtRecord_lightning, get?_withoutBuiltProperties_of_notMem (by decide)]

theorem get?_accepted_of_notMem (hname : name ∉ builtNames)
    (hlightning : name ≠ "lightningNwcConnections") :
    (object (acceptedRecord env record)).get? name = (object record).get? name := by
  rw [acceptedRecord, get?_builtRecord_of_notMem hname hlightning,
    get?_withoutBuiltProperties_of_notMem hname]

theorem rowsOf_coalesce (given : Option JsonValue) :
    rowsOf (some (coalesceNullishArrayField given)) = rowsOf given := by
  cases given with
  | none => rfl
  | some given => cases given <;> rfl

theorem mem_keptArkadeAccounts :
    kept ∈ keptArkadeAccounts env record ↔
      ∃ row ∈ arkadeRows record, sanitizeStoredArkadeAccountRow env row = some kept :=
  List.mem_filterMap

theorem exists_cons_eq_append {α : Type} {first : α} {rows : List α} {P : List α → α → Prop} :
    (∃ before row after, first :: rows = before ++ row :: after ∧ P before row) ↔
      P [] first ∨ ∃ before row after, rows = before ++ row :: after ∧ P (first :: before) row := by
  constructor
  · intro hsplit
    obtain ⟨before, row, after, heq, hrow⟩ := hsplit
    cases before with
    | nil =>
      cases heq
      exact .inl hrow
    | cons head before =>
      cases heq
      exact .inr ⟨before, row, after, rfl, hrow⟩
  · intro hcases
    cases hcases with
    | inl hfirst => exact ⟨[], first, rows, rfl, hfirst⟩
    | inr hrest =>
      obtain ⟨before, row, after, heq, hrow⟩ := hrest
      exact ⟨first :: before, row, after, by rw [heq]; rfl, hrow⟩

/-- A row is in the list without duplicates if it is the first of its network. -/
theorem mem_deduplicate_iff {seen : List (Option String)} {rows : List JsonValue}
    {sanitizeRow : JsonValue → Option JsonValue} :
    kept ∈ deduplicateBarkAccountsByNetwork seen (rows.filterMap sanitizeRow) ↔
      ∃ before row after, rows = before ++ row :: after ∧ sanitizeRow row = some kept ∧
        networkName kept ∉ seen ∧
        ∀ earlier ∈ before, ∀ keptEarlier, sanitizeRow earlier = some keptEarlier →
          networkName keptEarlier ≠ networkName kept := by
  induction rows generalizing seen with
  | nil => simp [deduplicateBarkAccountsByNetwork]
  | cons first rows ih =>
    rw [exists_cons_eq_append]
    cases hfirst : sanitizeRow first with
    | none => simp [hfirst, ih]
    | some keptFirst =>
      rw [List.filterMap_cons_some hfirst, deduplicateBarkAccountsByNetwork]
      by_cases hseen : networkName keptFirst ∈ seen
      · rw [if_pos hseen, ih]
        constructor
        · intro hrest
          right
          obtain ⟨before, row, after, heq, hrow, hnew, hbefore⟩ := hrest
          refine ⟨before, row, after, heq, hrow, hnew, ?_⟩
          intro earlier hearlier keptEarlier hkeptEarlier
          cases List.mem_cons.mp hearlier with
          | inl hhead =>
            rw [hhead, hfirst] at hkeptEarlier
            cases hkeptEarlier
            intro heqName
            exact hnew (heqName ▸ hseen)
          | inr htail => exact hbefore earlier htail keptEarlier hkeptEarlier
        · intro hcases
          cases hcases with
          | inl hhead =>
            cases Option.some.inj hhead.1
            exact absurd hseen hhead.2.1
          | inr hrest =>
            obtain ⟨before, row, after, heq, hrow, hnew, hbefore⟩ := hrest
            exact ⟨before, row, after, heq, hrow, hnew,
              fun earlier hearlier => hbefore earlier (List.mem_cons_of_mem first hearlier)⟩
      · rw [if_neg hseen, List.mem_cons, ih]
        constructor
        · intro hcases
          cases hcases with
          | inl heq =>
            left
            rw [heq]
            exact ⟨rfl, hseen, List.forall_mem_nil _⟩
          | inr hrest =>
            right
            obtain ⟨before, row, after, heq, hrow, hnew, hbefore⟩ := hrest
            rw [List.mem_cons, not_or] at hnew
            refine ⟨before, row, after, heq, hrow, hnew.2, ?_⟩
            intro earlier hearlier keptEarlier hkeptEarlier
            cases List.mem_cons.mp hearlier with
            | inl hhead =>
              rw [hhead, hfirst] at hkeptEarlier
              cases hkeptEarlier
              exact Ne.symm hnew.1
            | inr htail => exact hbefore earlier htail keptEarlier hkeptEarlier
        · intro hcases
          cases hcases with
          | inl hhead => exact .inl (Option.some.inj hhead.1).symm
          | inr hrest =>
            obtain ⟨before, row, after, heq, hrow, hnew, hbefore⟩ := hrest
            right
            refine ⟨before, row, after, heq, hrow, ?_, ?_⟩
            · rw [List.mem_cons, not_or]
              exact ⟨Ne.symm (hbefore first List.mem_cons_self keptFirst hfirst), hnew⟩
            · intro earlier hearlier
              exact hbefore earlier (List.mem_cons_of_mem first hearlier)

theorem exists_sanitize_of_isBarkRowKept (hrow : isBarkRowKept env row = true) :
    ∃ kept, sanitizeStoredBarkAccountRow env row = some kept := by
  rw [← isSome_sanitizeStoredBarkAccountRow] at hrow
  exact Option.isSome_iff_exists.mp hrow

/-- The Bark accounts that are kept: of the rows that are kept the first of each network. -/
theorem mem_keptBarkAccounts :
    kept ∈ keptBarkAccounts env record ↔
      ∃ before row after, barkRows record = before ++ row :: after ∧
        sanitizeStoredBarkAccountRow env row = some kept ∧
        NoEarlierOfNetwork env before row := by
  rw [keptBarkAccounts, mem_deduplicate_iff]
  constructor
  · intro hkept
    obtain ⟨before, row, after, heq, hrow, -, hbefore⟩ := hkept
    refine ⟨before, row, after, heq, hrow, ?_⟩
    intro earlier hearlier hearlierKept
    obtain ⟨keptEarlier, hkeptEarlier⟩ := exists_sanitize_of_isBarkRowKept hearlierKept
    have hne := hbefore earlier hearlier keptEarlier hkeptEarlier
    rwa [networkName_kept hkeptEarlier, networkName_kept hrow] at hne
  · intro hfirst
    obtain ⟨before, row, after, heq, hrow, hbefore⟩ := hfirst
    refine ⟨before, row, after, heq, hrow, List.not_mem_nil, ?_⟩
    intro earlier hearlier keptEarlier hkeptEarlier
    rw [networkName_kept hkeptEarlier, networkName_kept hrow]
    apply hbefore earlier hearlier
    rw [← isSome_sanitizeStoredBarkAccountRow, hkeptEarlier]
    rfl

/-! ## Infinite numbers -/

theorem finite_claim {given : JsonValue}
    (hkept : pendingEmergencyClaimFromUnknown given = some kept) :
    kept.Finite := by
  rw [pendingEmergencyClaimFromUnknown] at hkept
  split at hkept
  · rename_i hclaim
    split at hkept
    · rename_i txid vtxoIds htxid hvtxoIds
      cases hkept
      simp only [isPendingEmergencyClaim, htxid, hvtxoIds, Bool.and_eq_true] at hclaim
      apply JsonValue.Everywhere.object _ trivial
      intro property hproperty
      cases List.mem_cons.mp hproperty with
      | inl heq =>
        rw [heq]
        cases txid with
        | string s => exact JsonValue.Everywhere.string s
        | _ => cases hclaim.1
      | inr hlast =>
        rw [List.mem_singleton.mp hlast]
        cases vtxoIds with
        | array items =>
          apply JsonValue.Everywhere.array
          intro item hitem
          have htext := hclaim.2
          simp only [Bool.and_eq_true, List.all_eq_true] at htext
          have hstring := htext.2 item hitem
          cases item with
          | string s => exact JsonValue.Everywhere.string s
          | _ => cases hstring
        | _ => cases hclaim.2
    · cases hkept
  · cases hkept

/-- What a reader of an optional field kept has no infinite number. -/
theorem finite_of_reader {given : JsonValue} :
    (pendingEmergencyClaimFromUnknown given = some kept → kept.Finite) ∧
      (proceedAutomaticallyFromUnknown given = some kept → kept.Finite) ∧
      (emergencyExitFeePresetFromUnknown given = some kept → kept.Finite) ∧
      (emergencyExitMaxFeeRateFromUnknown given = some kept → kept.Finite) ∧
      (keptExitNodeSweepVtxoItems given = some kept → kept.Finite) := by
  refine ⟨finite_claim, ?_, ?_, ?_, everywhere_sweepItems namesClosed_true⟩
  · intro hkept
    rw [proceedAutomaticallyFromUnknown.eq_def] at hkept
    split at hkept
    · cases hkept
      exact JsonValue.Everywhere.boolean true
    · cases hkept
  · intro hkept
    rw [emergencyExitFeePresetFromUnknown, Option.ite_none_right_eq_some] at hkept
    cases hkept.2
    cases kept with
    | string s => exact JsonValue.Everywhere.string s
    | _ => cases hkept.1
  · intro hkept
    rw [emergencyExitMaxFeeRateFromUnknown.eq_def] at hkept
    split at hkept
    · rename_i rate
      rw [Option.ite_none_right_eq_some] at hkept
      cases hkept.2
      cases rate with
      | finite q => exact JsonValue.Everywhere.number _ ⟨q, rfl⟩
      | infinite | nan => cases hkept.1
    · cases hkept

/-- A cleaned field of a row has no infinite number. -/
theorem finite_get?_cleanBarkRow {migrated : List (String × JsonValue)}
    (hname : name ∈ cleanedFields)
    (hget : (object (cleanBarkRow migrated)).get? name = some value) :
    value.Finite := by
  simp only [cleanedFields, List.mem_cons, List.not_mem_nil, or_false] at hname
  rcases hname with rfl | rfl | rfl | rfl | rfl
  · rw [get?_cleanBarkRow_claim, Option.bind_eq_some_iff] at hget
    obtain ⟨given, -, hkept⟩ := hget
    exact finite_of_reader.1 hkept
  · rw [get?_cleanBarkRow_proceed, Option.bind_eq_some_iff] at hget
    obtain ⟨given, -, hkept⟩ := hget
    exact finite_of_reader.2.1 hkept
  · rw [get?_cleanBarkRow_preset, Option.bind_eq_some_iff] at hget
    obtain ⟨given, -, hkept⟩ := hget
    exact finite_of_reader.2.2.1 hkept
  · rw [get?_cleanBarkRow_maxFee, Option.bind_eq_some_iff] at hget
    obtain ⟨given, -, hkept⟩ := hget
    exact finite_of_reader.2.2.2.1 hkept
  · rw [get?_cleanBarkRow_items, Option.bind_eq_some_iff] at hget
    obtain ⟨given, -, hkept⟩ := hget
    exact finite_of_reader.2.2.2.2 hkept

variable (record) in
/-- A property of a migrated row. -/
theorem get?_migrate_object (hdump : name ≠ "recordDump") :
    (object (migrateLegacyBarkRecordDumpField (.object record))).get? name =
        (object record).get? name ∨
      ∃ dump, (object record).get? name = none ∧
        (object (migrateLegacyBarkRecordDumpField (.object record))).get? name =
          some (.string dump) := by
  by_cases henvelope : name = "recordEnvelope"
  · rw [henvelope, get?_migrate_envelope]
    cases hget : (object record).get? "recordEnvelope" with
    | some envelope => exact .inl rfl
    | none =>
      cases hgetDump : (object record).get? "recordDump" with
      | none => exact .inl rfl
      | some dump =>
        cases dump with
        | string s => exact .inr ⟨s, rfl, rfl⟩
        | _ => exact .inl rfl
  · left
    rw [migrateLegacyBarkRecordDumpField, get?_deleteProperty_of_ne hdump]
    split
    · rw [get?_setProperty_of_ne henvelope]
      rfl
    · rfl

theorem get?_migrate_of_get? (hdump : name ≠ "recordDump")
    (hget : (object record).get? name = some value) :
    (object (migrateLegacyBarkRecordDumpField (.object record))).get? name = some value := by
  cases get?_migrate_object record hdump with
  | inl hsame => rw [hsame, hget]
  | inr hnew =>
    obtain ⟨dump, hnone, -⟩ := hnew
    rw [hnone] at hget
    cases hget

theorem get?_of_get?_migrate
    (hget : (object (migrateLegacyBarkRecordDumpField (.object record))).get? name = some value) :
    ((object record).get? name = some value ∧ name ≠ "recordDump") ∨ value.Finite := by
  by_cases hdump : name = "recordDump"
  · rw [hdump, get?_migrate_dump] at hget
    cases hget
  · cases get?_migrate_object record hdump with
    | inl hsame =>
      left
      exact ⟨hsame.symm.trans hget, hdump⟩
    | inr hnew =>
      right
      obtain ⟨dump, -, hstring⟩ := hnew
      rw [hstring] at hget
      cases hget
      exact JsonValue.Everywhere.string dump

/-- A kept row has no infinite number exactly if what is kept of the stored row has none. -/
theorem finite_keptBark_iff (hrow : row.WellFormed isDouble)
    (hkept : sanitizeStoredBarkAccountRow env row = some kept) :
    kept.Finite ↔ BarkRowFinite env row := by
  obtain ⟨stored, rfl⟩ := exists_object_of_sanitize hkept
  have hkeptFormed : kept.WellFormed isDouble := everywhere_keptBark namesClosed_inOrder hrow hkept
  rw [sanitizeStoredBarkAccountRow_eq, isStoredBarkAccount_migrate] at hkept
  split at hkept
  · rename_i hstored
    cases hkept
    rw [finite_object_iff (nodup_of_wellFormed hkeptFormed)]
    constructor
    · intro hfinite name value hget hdump _
      exact hfinite name value (get?_migrate_of_get? hdump hget)
    · intro hfinite name value hget
      cases get?_of_get?_migrate hget with
      | inl hstoredGet => exact hfinite name value hstoredGet.1 hstoredGet.2 (.inl hstored)
      | inr hvalue => exact hvalue
  · rename_i hstored
    rw [Option.ite_none_right_eq_some] at hkept
    cases hkept.2
    rw [finite_object_iff (nodup_of_wellFormed hkeptFormed)]
    constructor
    · intro hfinite name value hget hdump hcases
      have hcleaned : name ∉ cleanedFields := hcases.resolve_left hstored
      apply hfinite name value
      rw [get?_cleanBarkRow_of_notMem hcleaned]
      exact get?_migrate_of_get? hdump hget
    · intro hfinite name value hget
      by_cases hcleaned : name ∈ cleanedFields
      · exact finite_get?_cleanBarkRow hcleaned hget
      · rw [get?_cleanBarkRow_of_notMem hcleaned] at hget
        cases get?_of_get?_migrate hget with
        | inl hstoredGet => exact hfinite name value hstoredGet.1 hstoredGet.2 (.inr hcleaned)
        | inr hvalue => exact hvalue

/-- A kept Arkade row differs from the stored one by a string at most. -/
theorem finite_keptArkade_iff (hrow : row.WellFormed isDouble)
    (hkept : sanitizeStoredArkadeAccountRow env row = some kept) :
    kept.Finite ↔ row.Finite := by
  constructor
  · intro hfinite
    cases (sanitizeArkade_cases hkept).2 with
    | inl heq => rwa [← heq]
    | inr heq =>
      rw [heq, stripOversizedSdkPersistenceJson] at hfinite
      split at hfinite
      · rename_i state hstate
        split at hfinite
        · exact hfinite
        · cases row with
          | object stored =>
            rw [finite_object_iff (nodup_of_wellFormed hrow)]
            intro name value hget
            by_cases hname : name = "sdkPersistenceJson"
            · rw [hname, hstate] at hget
              cases hget
              exact JsonValue.Everywhere.string state
            · have hdeleted : (object (deleteProperty "sdkPersistenceJson"
                  stored)).get? name = some value := by
                rw [get?_deleteProperty_of_ne hname, hget]
              exact everywhere_get? hfinite hdeleted
          | _ => cases hstate
      · exact hfinite
  · intro hfinite
    exact everywhere_keptArkade namesClosed_true hfinite hkept

theorem finite_coalesce_iff {given : Option JsonValue} :
    (coalesceNullishArrayField given).Finite ↔ ∀ value, given = some value → value.Finite := by
  constructor
  · intro hfinite value hvalue
    rw [hvalue] at hfinite
    cases value with
    | null => exact JsonValue.Everywhere.null
    | _ => exact hfinite
  · exact everywhere_coalesce

theorem finite_keptActiveEntries : (object (keptActiveEntries env record)).Finite := by
  apply JsonValue.Everywhere.object _ trivial
  intro entry hentry
  have hkept := (List.mem_filter.mp hentry).2
  rw [isKeptActiveEntry, Bool.and_eq_true, Bool.and_eq_true] at hkept
  apply finite_of_isString
  cases hvalue : entry.2 with
  | string s => rfl
  | _ =>
    rw [hvalue] at hkept
    cases hkept.2

theorem isSome_of_isArkadeRowKept (hrow : isArkadeRowKept env row = true) :
    ∃ kept, sanitizeStoredArkadeAccountRow env row = some kept := by
  rw [← isSome_sanitizeStoredArkadeAccountRow] at hrow
  exact Option.isSome_iff_exists.mp hrow

/-- An accepted payload has no infinite number exactly if nothing that is kept has one. -/
theorem finite_accepted_iff (hrecord : (object record).WellFormed isDouble) :
    (object (acceptedRecord env record)).Finite ↔ KeptNumbersFinite env record := by
  have haccepted : (object (acceptedRecord env record)).WellFormed isDouble :=
    everywhere_acceptedRecord namesClosed_inOrder hrecord
  constructor
  · intro hfinite
    exact {
      otherProperties := by
        intro name value hget hname
        by_cases hlightning : name = "lightningNwcConnections"
        · have hvalue := everywhere_get? hfinite get?_accepted_lightning
          rw [hlightning] at hget
          exact finite_coalesce_iff.mp hvalue value hget
        · rw [← get?_accepted_of_notMem hname hlightning] at hget
          exact everywhere_get? hfinite hget
      arkadeNumbers := by
        intro row hrow hkeptRow
        obtain ⟨kept, hkept⟩ := isSome_of_isArkadeRowKept hkeptRow
        have hrows := finite_array_iff.mp (everywhere_get? hfinite get?_builtRecord_arkade)
        rw [← finite_keptArkade_iff (everywhere_arkadeRows hrecord row hrow) hkept]
        exact hrows kept (mem_keptArkadeAccounts.mpr ⟨row, hrow, hkept⟩)
      barkNumbers := by
        intro before row after heq hkeptRow hbefore
        obtain ⟨kept, hkept⟩ := exists_sanitize_of_isBarkRowKept hkeptRow
        have hrows := finite_array_iff.mp (everywhere_get? hfinite get?_builtRecord_bark)
        have hrow : row ∈ barkRows record := by
          rw [heq]
          exact List.mem_append_right before List.mem_cons_self
        rw [← finite_keptBark_iff (everywhere_barkRows hrecord row hrow) hkept]
        exact hrows kept (mem_keptBarkAccounts.mpr ⟨before, row, after, heq, hkept, hbefore⟩) }
  · intro hkeptFinite
    have hkept : (object (withoutBuiltProperties record)).Finite := by
      have hformed := everywhere_withoutBuiltProperties namesClosed_inOrder hrecord
      rw [finite_object_iff (nodup_of_wellFormed hformed)]
      intro name value hget
      by_cases hname : name ∈ builtNames
      · rw [get?_withoutBuiltProperties_of_mem hname] at hget
        cases hget
      · rw [get?_withoutBuiltProperties_of_notMem hname] at hget
        exact hkeptFinite.otherProperties name value hget hname
    apply everywhere_builtRecord namesClosed_true hkept
    · exact everywhere_coalesce fun _ hget => everywhere_get? hkept hget
    · apply finite_array_iff.mpr
      intro kept hmem
      obtain ⟨row, hrow, hsanitize⟩ := mem_keptArkadeAccounts.mp hmem
      rw [finite_keptArkade_iff (everywhere_arkadeRows hrecord row hrow) hsanitize]
      apply hkeptFinite.arkadeNumbers row hrow
      rw [← isSome_sanitizeStoredArkadeAccountRow, hsanitize]
      rfl
    · exact finite_keptActiveEntries
    · apply finite_array_iff.mpr
      intro kept hmem
      obtain ⟨before, row, after, heq, hsanitize, hbefore⟩ := mem_keptBarkAccounts.mp hmem
      have hrow : row ∈ barkRows record := by
        rw [heq]
        exact List.mem_append_right before List.mem_cons_self
      rw [finite_keptBark_iff (everywhere_barkRows hrecord row hrow) hsanitize]
      apply hkeptFinite.barkNumbers before row after heq _ hbefore
      rw [← isSome_sanitizeStoredBarkAccountRow, hsanitize]
      rfl

end Bitboard.Wallet.PayloadJson
