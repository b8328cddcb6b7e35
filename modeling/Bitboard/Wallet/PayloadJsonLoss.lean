/-
# Where a payload is read with a loss

The parts of `PayloadKept` are taken one by one: which of them hold of every accepted
payload, and which of them ask for more. A number out of range is written as `null`, an
active id is checked against the ids of all networks, and a Bark row with a malformed sync
time or receive key index is dropped together with its envelope.
-/

import Bitboard.Wallet.PayloadJsonKept

namespace Bitboard.Wallet.PayloadJson

open Lib
open JsonValue

variable {Text : Type} {env : Environment} {engine : JsonEngine Text} {text : Text}
  {value row kept : JsonValue} {record : List (String × JsonValue)}

theorem rereads_iff_finite (hlawful : engine.Lawful)
    (hformed : (object (acceptedRecord env record)).WellFormed engine.isDouble)
    (hvalid : isWalletSecretsPayload env
      (.object (acceptedRecord env record)) = true) :
    parseWalletPayloadJson env engine
        (engine.stringify (.object (acceptedRecord env record))) =
      .ok (.object (acceptedRecord env record)) ↔
      (object (acceptedRecord env record)).Finite := by
  constructor
  · intro hreread
    obtain ⟨read, hparse, heq, -⟩ := accepted_form hreread
    rw [heq]
    exact everywhere_acceptedRecord namesClosed_true (hlawful.writesFinite _ _ hparse)
  · intro hfinite
    have hparse := hlawful.rereads _ hformed hfinite
    exact parse_of_normalize hparse (normalize_accepted hvalid) hvalid

theorem mem_keptArkade_of_valid (hrow : row ∈ arkadeRows record)
    (hvalid : isStoredArkadeAccount env row = true) :
    row ∈ keptArkadeAccounts env record :=
  mem_keptArkadeAccounts.mpr ⟨row, hrow, sanitize_of_isStoredArkadeAccount hvalid⟩

theorem mem_accountIds {rows : List JsonValue} {id : String} :
    id ∈ accountIds (.array rows) ↔ ∃ row ∈ rows, row.get? "id" = some (.string id) := by
  rw [accountIds, List.mem_filterMap]
  constructor
  · intro hid
    obtain ⟨row, hrow, hget⟩ := hid
    refine ⟨row, hrow, ?_⟩
    rw [Option.bind_eq_some_iff] at hget
    obtain ⟨value, hvalue, hstring⟩ := hget
    cases value with
    | string s =>
      cases hstring
      exact hvalue
    | _ => cases hstring
  · intro hid
    obtain ⟨row, hrow, hget⟩ := hid
    refine ⟨row, hrow, ?_⟩
    rw [hget]
    rfl

theorem id_of_keptArkade (hkept : kept ∈ keptArkadeAccounts env record) :
    ∃ row ∈ arkadeRows record, isArkadeRowKept env row = true ∧
      kept.get? "id" = row.get? "id" ∧ kept.get? "networkMode" = row.get? "networkMode" := by
  obtain ⟨row, hrow, hsanitize⟩ := mem_keptArkadeAccounts.mp hkept
  refine ⟨row, hrow, ?_, get?_keptArkade hsanitize (by decide) (by decide),
    get?_keptArkade hsanitize (by decide) (by decide)⟩
  rw [← isSome_sanitizeStoredArkadeAccountRow, hsanitize]
  rfl

theorem exists_keptArkade (hrow : row ∈ arkadeRows record)
    (hkeptRow : isArkadeRowKept env row = true) :
    ∃ kept ∈ keptArkadeAccounts env record,
      kept.get? "id" = row.get? "id" ∧ kept.get? "networkMode" = row.get? "networkMode" ∧
        isNonEmptyString (kept.get? "id") = true := by
  obtain ⟨kept, hsanitize⟩ := isSome_of_isArkadeRowKept hkeptRow
  refine ⟨kept, mem_keptArkadeAccounts.mpr ⟨row, hrow, hsanitize⟩,
    get?_keptArkade hsanitize (by decide) (by decide),
    get?_keptArkade hsanitize (by decide) (by decide), ?_⟩
  have hvalid := (sanitizeArkade_cases hsanitize).1
  simp only [isStoredArkadeAccount, Bool.and_eq_true] at hvalid
  obtain ⟨⟨⟨⟨⟨⟨⟨⟨⟨⟨-, -⟩, hid⟩, -⟩, -⟩, -⟩, -⟩, -⟩, -⟩, -⟩, -⟩ := hvalid
  exact hid

/-- The entries that are kept name an account of their network exactly if every entry does that
names a kept account. -/
theorem activeAccounts_iff :
    (∀ entry ∈ keptActiveEntries env record,
      ∃ account ∈ keptArkadeAccounts env record,
        account.get? "id" = some entry.2 ∧ account.get? "networkMode" = some (.string entry.1)) ↔
      ∀ entry ∈ activeEntries record, entry.1 ∈ arkadeSupportedNetworkModes →
        ∀ row ∈ arkadeRows record, isArkadeRowKept env row = true →
        row.get? "id" = some entry.2 →
        ∃ other ∈ arkadeRows record, isArkadeRowKept env other = true ∧
          other.get? "id" = some entry.2 ∧
          other.get? "networkMode" = some (.string entry.1) := by
  constructor
  · intro hactive entry hentry hnetwork row hrow hkeptRow hid
    obtain ⟨kept, hkept, hkeptId, -, hnonempty⟩ := exists_keptArkade hrow hkeptRow
    have hentryKept : entry ∈ keptActiveEntries env record := by
      apply List.mem_filter.mpr
      refine ⟨hentry, ?_⟩
      rw [hkeptId, hid] at hnonempty
      cases hvalue : entry.2 with
      | string id =>
        have hmem : id ∈ accountIds (.array (keptArkadeAccounts env record)) := by
          apply mem_accountIds.mpr
          refine ⟨kept, hkept, ?_⟩
          rw [hkeptId, hid, hvalue]
        rw [hvalue] at hnonempty
        simp [isKeptActiveEntry, hvalue, hnetwork, hnonempty, string?, hmem]
      | _ =>
        rw [hvalue] at hnonempty
        cases hnonempty
    obtain ⟨account, haccount, haccountId, haccountNetwork⟩ := hactive entry hentryKept
    obtain ⟨other, hother, hotherKept, hsameId, hsameNetwork⟩ := id_of_keptArkade haccount
    refine ⟨other, hother, hotherKept, ?_, ?_⟩
    · rw [← hsameId, haccountId]
    · rw [← hsameNetwork, haccountNetwork]
  · intro hrows entry hentry
    obtain ⟨hmem, hkeptEntry⟩ := List.mem_filter.mp hentry
    simp only [isKeptActiveEntry, Bool.and_eq_true, decide_eq_true_eq, Option.any_eq_true]
      at hkeptEntry
    obtain ⟨⟨hnetwork, -⟩, id, hid, hids⟩ := hkeptEntry
    have hvalue : entry.2 = .string id := by
      cases hentryValue : entry.2 with
      | string s =>
        rw [hentryValue] at hid
        cases hid
        rfl
      | _ =>
        rw [hentryValue] at hid
        cases hid
    obtain ⟨kept, hkept, hkeptId⟩ := mem_accountIds.mp hids
    obtain ⟨row, hrow, hkeptRow, hsameId, -⟩ := id_of_keptArkade hkept
    have hrowId : row.get? "id" = some entry.2 := by rw [← hsameId, hkeptId, hvalue]
    obtain ⟨other, hother, hotherKept, hotherId, hotherNetwork⟩ :=
      hrows entry hmem hnetwork row hrow hkeptRow hrowId
    obtain ⟨account, haccount, haccountId, haccountNetwork, -⟩ :=
      exists_keptArkade hother hotherKept
    refine ⟨account, haccount, ?_, ?_⟩
    · rw [haccountId, hotherId]
    · rw [haccountNetwork, hotherNetwork]

theorem isBarkRowKept_of_envelope {envelope : String}
    (hidentity : isBarkRowIdentity env row = true)
    (henvelope : row.get? "recordEnvelope" = some (.string envelope)) :
    isBarkRowKept env row = isBarkRowProgress env row := by
  rw [isBarkRowKept, hidentity, henvelope]
  simp [absentOr, isString]

/-- The form of an accepted payload keeps what it was read from exactly if the record is read
without a loss. -/
theorem payloadKept_acceptedRecord_iff (hlawful : engine.Lawful)
    (hrecord : (object record).WellFormed engine.isDouble)
    (hvalid : isWalletSecretsPayload env
      (.object (acceptedRecord env record)) = true) :
    PayloadKept env engine record (.object (acceptedRecord env record)) ↔
      ReadsWithoutLoss env record := by
  have hformed : (object (acceptedRecord env record)).WellFormed
      engine.isDouble := everywhere_acceptedRecord namesClosed_inOrder hrecord
  constructor
  · intro hkept
    exact {
      numbers := by
        rw [← finite_accepted_iff hrecord, ← rereads_iff_finite hlawful hformed hvalid]
        exact hkept.rereads
      active := by
        have hactive := hkept.activeAccounts
        rw [get?_accepted_active, get?_accepted_arkade] at hactive
        exact activeAccounts_iff.mp hactive
      progress := by
        intro before row after envelope hrows hidentity henvelope hbefore
        obtain ⟨kept, -, hsanitize, -⟩ :=
          hkept.envelopes before row after envelope hrows hidentity henvelope hbefore
        rw [← isBarkRowKept_of_envelope hidentity henvelope,
          ← isSome_sanitizeStoredBarkAccountRow, hsanitize]
        rfl }
  · intro hloss
    exact {
      valid := hvalid
      rereads := by
        rw [rereads_iff_finite hlawful hformed hvalid, finite_accepted_iff hrecord]
        exact hloss.numbers
      descriptorRows := get?_accepted_of_notMem (by decide) (by decide)
      lightningRows := by
        rw [get?_accepted_lightning, rowsOf_coalesce]
      arkadeKept := by
        intro row hrow hvalidRow
        rw [get?_accepted_arkade]
        exact mem_keptArkade_of_valid hrow hvalidRow
      barkKept := by
        intro before row after hrows hvalidRow hbefore
        rw [get?_accepted_bark]
        exact mem_keptBarkAccounts.mpr ⟨before, row, after, hrows,
          sanitize_of_isStoredBarkAccount hvalidRow, hbefore⟩
      activeAccounts := by
        rw [get?_accepted_active, get?_accepted_arkade]
        exact activeAccounts_iff.mpr hloss.active
      envelopes := by
        intro before row after envelope hrows hidentity henvelope hbefore
        have hkeptRow : isBarkRowKept env row = true := by
          rw [isBarkRowKept_of_envelope hidentity henvelope]
          exact hloss.progress before row after envelope hrows hidentity henvelope hbefore
        obtain ⟨kept, hsanitize⟩ := exists_sanitize_of_isBarkRowKept hkeptRow
        refine ⟨kept, ?_, hsanitize, ?_⟩
        · rw [get?_accepted_bark]
          exact mem_keptBarkAccounts.mpr ⟨before, row, after, hrows, hsanitize, hbefore⟩
        · rw [get?_kept_envelope hsanitize, henvelope]
          rfl }

/-- An accepted payload keeps what it was read from exactly if the record is read without a
loss. -/
theorem payload_kept_iff_reads_without_loss (env : Environment)
    (engine : JsonEngine Text) (hlawful : engine.Lawful) (text : Text) (value : JsonValue)
    (haccepted : parseWalletPayloadJson env engine text = .ok value) :
    ∃ record, engine.parse text = some (.object record) ∧
      (PayloadKept env engine record value ↔ ReadsWithoutLoss env record) := by
  obtain ⟨record, hparse, heq, hvalid⟩ := accepted_form haccepted
  subst heq
  exact ⟨record, hparse,
    payloadKept_acceptedRecord_iff hlawful (hlawful.reads text _ hparse) hvalid⟩

/-! ## Texts that are read with a loss, and one that is not -/

abbrev TokenTree := { value : JsonValue // value.WellFormed fun _ => True }

open Classical in
noncomputable def treeEngine : JsonEngine TokenTree where
  parse := fun text => some text.1
  stringify := fun value =>
    if hvalue : value.WellFormed (fun _ => True) ∧ value.Finite then ⟨value, hvalue.1⟩
    else ⟨.null, JsonValue.Everywhere.null⟩
  isDouble := fun _ => True

theorem treeEngine_lawful : treeEngine.Lawful where
  reads := by
    intro text value hparse
    cases hparse
    exact text.2
  rereads := by
    intro value hformed hfinite
    have hvalue : value.WellFormed (fun _ => True) ∧ value.Finite := ⟨hformed, hfinite⟩
    simp [treeEngine, hvalue]
  writesFinite := by
    intro value read hparse
    cases hparse
    simp only [treeEngine]
    split
    · rename_i hvalue
      exact hvalue.2
    · exact JsonValue.Everywhere.null

def sampleEnvironment : Environment where
  regtestServerUrl := "http://localhost:3535"
  dateParses := fun time => time.length = 24
  toLowerCase := String.toLower
  regtestEnabled := false
  notIterableMessage := "value is not iterable"

def samplePayload (properties : List (String × JsonValue)) : List (String × JsonValue) :=
  ("descriptorWallets", .array []) :: properties

def sampleArkadeRow : JsonValue :=
  .object [("id", .string "account"), ("label", .string "operator"),
    ("networkMode", .string "mutinynet"), ("operatorUrl", .string "https://operator"),
    ("operatorSignerPkHex", .string "02aa"), ("createdAt", .string "2026-01-01T00:00:00.000Z")]

def crossNetworkPayload : List (String × JsonValue) :=
  samplePayload [("arkadeAccounts", .array [sampleArkadeRow]),
    ("activeArkadeAccountIdByNetwork", .object [("signet", .string "account")])]

def sampleBarkRow (syncedAt : JsonValue) : JsonValue :=
  .object [("id", .string "account"), ("networkMode", .string "signet"),
    ("serverUrl", .string barkSignetServerUrl), ("fingerprint", .string "f00dbabe"),
    ("recordEnvelope", .string "records"), ("lastSuccessfulSyncAt", syncedAt)]

def malformedSyncPayload : List (String × JsonValue) :=
  samplePayload [("barkAccounts", .array [sampleBarkRow .null])]

def overflowPayload : List (String × JsonValue) :=
  samplePayload [("height", .number (.infinite false))]

def samplePropertyNames : List String :=
  ["descriptorWallets", "arkadeAccounts", "activeArkadeAccountIdByNetwork", "barkAccounts",
    "height", "signet", "id", "label", "networkMode", "operatorUrl", "operatorSignerPkHex",
    "createdAt", "serverUrl", "fingerprint", "recordEnvelope", "lastSuccessfulSyncAt"]

theorem hasNonDigit_samplePropertyNames : samplePropertyNames.all hasNonDigit = true := by
  decide +kernel

theorem namesInOrder_sample {names : List String} (hnames : names ⊆ samplePropertyNames)
    (hnodup : names.Nodup) : NamesInOrder names := by
  apply namesInOrder_of_nodup _ hnodup
  rw [List.all_eq_true]
  intro name hname
  exact List.all_eq_true.mp hasNonDigit_samplePropertyNames name (hnames hname)

theorem wellFormed_array_singleton {item : JsonValue} (hitem : item.WellFormed fun _ => True) :
    (array [item]).WellFormed fun _ => True := by
  apply JsonValue.Everywhere.array
  intro other hother
  rwa [List.mem_singleton.mp hother]

theorem wellFormed_sampleArkadeRow : sampleArkadeRow.WellFormed fun _ => True := by
  apply JsonValue.Everywhere.object
  · exact namesInOrder_sample (by simp [samplePropertyNames]) (by simp)
  · intro property hproperty
    simp only [List.mem_cons, List.not_mem_nil, or_false] at hproperty
    rcases hproperty with rfl | rfl | rfl | rfl | rfl | rfl
    all_goals exact .string _

theorem wellFormed_sampleBarkRow {syncedAt : JsonValue}
    (hsyncedAt : syncedAt.WellFormed fun _ => True) :
    (sampleBarkRow syncedAt).WellFormed fun _ => True := by
  have hnames : NamesInOrder ["id", "networkMode", "serverUrl", "fingerprint",
      "recordEnvelope", "lastSuccessfulSyncAt"] :=
    namesInOrder_sample (by simp [samplePropertyNames]) (by simp)
  apply JsonValue.Everywhere.object _ hnames
  intro property hproperty
  simp only [List.mem_cons, List.not_mem_nil, or_false] at hproperty
  rcases hproperty with rfl | rfl | rfl | rfl | rfl | rfl
  case inr.inr.inr.inr.inr => exact hsyncedAt
  all_goals exact .string _

theorem wellFormed_crossNetworkPayload : (object crossNetworkPayload).WellFormed fun _ => True := by
  apply JsonValue.Everywhere.object
  · exact namesInOrder_sample (by simp [crossNetworkPayload, samplePayload, samplePropertyNames])
      (by simp [crossNetworkPayload, samplePayload])
  · intro property hproperty
    simp only [crossNetworkPayload, samplePayload, List.mem_cons, List.not_mem_nil, or_false]
      at hproperty
    rcases hproperty with rfl | rfl | rfl
    · exact .array [] (List.forall_mem_nil _)
    · exact wellFormed_array_singleton wellFormed_sampleArkadeRow
    · apply JsonValue.Everywhere.object
      · exact namesInOrder_sample (by simp [samplePropertyNames]) (by simp)
      · intro entry hentry
        rw [List.mem_singleton.mp hentry]
        exact .string _

theorem wellFormed_barkPayload {syncedAt : JsonValue}
    (hsyncedAt : syncedAt.WellFormed fun _ => True) :
    (object (samplePayload
      [("barkAccounts", .array [sampleBarkRow syncedAt])])).WellFormed fun _ => True := by
  have hnames : NamesInOrder ["descriptorWallets", "barkAccounts"] :=
    namesInOrder_sample (by simp [samplePropertyNames]) (by simp)
  apply JsonValue.Everywhere.object _ hnames
  intro property hproperty
  rcases List.mem_pair.mp hproperty with rfl | rfl
  · exact .array [] (List.forall_mem_nil _)
  · exact wellFormed_array_singleton (wellFormed_sampleBarkRow hsyncedAt)

theorem wellFormed_overflowPayload : (object overflowPayload).WellFormed fun _ => True := by
  apply JsonValue.Everywhere.object
  · exact namesInOrder_sample (by simp [overflowPayload, samplePayload, samplePropertyNames])
      (by simp [overflowPayload, samplePayload])
  · intro property hproperty
    rcases List.mem_pair.mp hproperty with rfl | rfl
    · exact .array [] (List.forall_mem_nil _)
    · exact .number _ (.inr ⟨false, rfl⟩)

theorem parse_treeEngine {record : List (String × JsonValue)}
    (hformed : (object record).WellFormed fun _ => True)
    (hnormalize : normalizeWalletSecretsPayload sampleEnvironment (.object record) =
      .ok (.object (acceptedRecord sampleEnvironment record)))
    (hvalid : isWalletSecretsPayload sampleEnvironment
      (.object (acceptedRecord sampleEnvironment record)) = true) :
    parseWalletPayloadJson sampleEnvironment treeEngine ⟨.object record, hformed⟩ =
      .ok (.object (acceptedRecord sampleEnvironment record)) :=
  parse_of_normalize rfl hnormalize hvalid

theorem not_readsWithoutLoss_crossNetworkPayload :
    ¬ReadsWithoutLoss sampleEnvironment crossNetworkPayload := by
  intro hloss
  obtain ⟨other, hother, -, -, hnetwork⟩ :=
    hloss.active ("signet", .string "account") (List.mem_singleton_self _) (by decide)
      sampleArkadeRow (List.mem_singleton_self _) (by decide +kernel) rfl
  rw [List.mem_singleton.mp hother] at hnetwork
  have hname := string.inj (Option.some.inj hnetwork)
  exact absurd hname (by decide)

theorem not_readsWithoutLoss_malformedSyncPayload :
    ¬ReadsWithoutLoss sampleEnvironment malformedSyncPayload := by
  intro hloss
  have hprogress := hloss.progress [] (sampleBarkRow .null) [] "records" rfl (by decide +kernel)
    rfl (List.forall_mem_nil _)
  exact absurd hprogress (by decide +kernel)

theorem not_readsWithoutLoss_overflowPayload :
    ¬ReadsWithoutLoss sampleEnvironment overflowPayload := by
  intro hloss
  have hfinite := hloss.numbers.otherProperties "height" _ rfl (by decide)
  cases hfinite with
  | number value hvalue =>
    obtain ⟨q, hq⟩ := hvalue
    cases hq

abbrev syncedBarkRow : JsonValue := sampleBarkRow (.string "2026-01-01T00:00:00.000Z")

theorem readsWithoutLoss_syncedBarkRow :
    ReadsWithoutLoss sampleEnvironment
      (samplePayload [("barkAccounts", .array [syncedBarkRow])]) where
  numbers := {
    otherProperties := by
      intro name value hget hname
      have hmem := mem_of_get? hget
      simp only [samplePayload, List.mem_cons, List.not_mem_nil, or_false, Prod.mk.injEq] at hmem
      rcases hmem with ⟨-, rfl⟩ | ⟨rfl, -⟩
      · exact .array [] (List.forall_mem_nil _)
      · exact absurd (by decide) hname
    arkadeNumbers := List.forall_mem_nil _
    barkNumbers := by
      intro before row after hrows hkept hbefore name value hget hname hvalid
      have hmem : row ∈ [syncedBarkRow] := by
        rw [show [syncedBarkRow] = before ++ row :: after from hrows]
        simp
      rw [List.mem_singleton.mp hmem] at hget
      have hproperty := mem_of_get? hget
      simp only [List.mem_cons, List.not_mem_nil, or_false, Prod.mk.injEq] at hproperty
      rcases hproperty with ⟨-, rfl⟩ | ⟨-, rfl⟩ | ⟨-, rfl⟩ | ⟨-, rfl⟩ | ⟨-, rfl⟩ | ⟨-, rfl⟩
      all_goals exact .string _ }
  active := List.forall_mem_nil _
  progress := by
    intro before row after envelope hrows hidentity henvelope hbefore
    have hmem : row ∈ [syncedBarkRow] := by
      rw [show [syncedBarkRow] = before ++ row :: after from hrows]
      simp
    rw [List.mem_singleton.mp hmem]
    decide +kernel

/-- Three texts are accepted without being kept: one whose active account is of another
network, one whose envelope is dropped with its row, and one that is not read again. -/
theorem accepted_payloads_are_not_kept :
    treeEngine.Lawful ∧
      ∀ record ∈ [crossNetworkPayload, malformedSyncPayload, overflowPayload],
        ∃ text value, treeEngine.parse text = some (.object record) ∧
          parseWalletPayloadJson sampleEnvironment treeEngine text = .ok value ∧
          ¬PayloadKept sampleEnvironment treeEngine record value := by
  refine ⟨treeEngine_lawful, ?_⟩
  intro record hrecord
  have hrejected : ∀ hformed : (object record).WellFormed fun _ => True,
      normalizeWalletSecretsPayload sampleEnvironment (.object record) =
        .ok (.object (acceptedRecord sampleEnvironment record)) →
      isWalletSecretsPayload sampleEnvironment
        (.object (acceptedRecord sampleEnvironment record)) = true →
      ¬ReadsWithoutLoss sampleEnvironment record →
      ∃ text value, treeEngine.parse text = some (.object record) ∧
        parseWalletPayloadJson sampleEnvironment treeEngine text = .ok value ∧
        ¬PayloadKept sampleEnvironment treeEngine record value := by
    intro hformed hnormalize hvalid hloss
    refine ⟨⟨.object record, hformed⟩, _, rfl, parse_treeEngine hformed hnormalize hvalid, ?_⟩
    rwa [payloadKept_acceptedRecord_iff treeEngine_lawful hformed hvalid]
  simp only [List.mem_cons, List.not_mem_nil, or_false] at hrecord
  rcases hrecord with rfl | rfl | rfl
  · exact hrejected wellFormed_crossNetworkPayload rfl (by decide +kernel)
      not_readsWithoutLoss_crossNetworkPayload
  · exact hrejected (wellFormed_barkPayload .null) rfl (by decide +kernel)
      not_readsWithoutLoss_malformedSyncPayload
  · exact hrejected wellFormed_overflowPayload rfl (by decide +kernel)
      not_readsWithoutLoss_overflowPayload

/-- A payload with one valid Bark account is kept. -/
theorem payload_kept_iff_one_bark_account :
    ∃ (text : TokenTree) (value : JsonValue) (record : List (String × JsonValue)),
      parseWalletPayloadJson sampleEnvironment treeEngine text = .ok value ∧
        treeEngine.parse text = some (.object record) ∧
        PayloadKept sampleEnvironment treeEngine record value := by
  have hformed := wellFormed_barkPayload (.string "2026-01-01T00:00:00.000Z")
  have hparse := parse_treeEngine hformed rfl (by decide +kernel)
  obtain ⟨record, hrecord, hkept⟩ :=
    payload_kept_iff_reads_without_loss sampleEnvironment treeEngine treeEngine_lawful _ _ hparse
  refine ⟨_, _, record, hparse, hrecord, hkept.mpr ?_⟩
  cases hrecord
  exact readsWithoutLoss_syncedBarkRow

end Bitboard.Wallet.PayloadJson
