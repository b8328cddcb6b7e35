/-
# Reading a payload again

A payload that is accepted has one form: the properties that are not built anew, in their
place, and after them the lists that are. Reading the form again changes nothing, so a
payload comes back from its own text whenever the text can hold it: a text cannot hold an
infinite number.
-/

import Bitboard.Wallet.PayloadJsonRows

namespace Bitboard.Wallet.PayloadJson

open Lib
open JsonValue

variable {env : Environment} {raw value row kept : JsonValue} {name : String}
  {record : List (String × JsonValue)} {lightning arkade active bark : JsonValue}

def rowsOf : Option JsonValue → List JsonValue
  | some (.array rows) => rows
  | _ => []

/-- The entries of a property that is a plain object. -/
def entriesOf : Option JsonValue → List (String × JsonValue)
  | some (.object entries) => entries
  | _ => []

/-- The Arkade rows of a record, under their present or their older name. -/
def arkadeRows (record : List (String × JsonValue)) : List JsonValue :=
  rowsOf (pickArkadeAccountsField record)

def barkRows (record : List (String × JsonValue)) : List JsonValue :=
  rowsOf ((object record).get? "barkAccounts")

/-- The entries of the active ids, under their present or their older name. -/
def activeEntries (record : List (String × JsonValue)) : List (String × JsonValue) :=
  entriesOf (pickActiveArkadeAccountIdByNetworkField record)

def keptArkadeAccounts (env : Environment) (record : List (String × JsonValue)) : List JsonValue :=
  (arkadeRows record).filterMap (sanitizeStoredArkadeAccountRow env)

def keptBarkAccounts (env : Environment) (record : List (String × JsonValue)) : List JsonValue :=
  deduplicateBarkAccountsByNetwork []
    ((barkRows record).filterMap (sanitizeStoredBarkAccountRow env))

def keptActiveEntries (env : Environment) (record : List (String × JsonValue)) :
    List (String × JsonValue) :=
  (activeEntries record).filter
    (isKeptActiveEntry (accountIds (.array (keptArkadeAccounts env record))))

/-- The record that `normalizeWalletSecretsPayload` builds of its parts. -/
def builtRecord (kept : List (String × JsonValue)) (lightning arkade active bark : JsonValue) :
    List (String × JsonValue) :=
  setProperty "barkAccounts" bark
    (setProperty "activeArkadeAccountIdByNetwork" active
      (setProperty "arkadeAccounts" arkade (setProperty "lightningNwcConnections" lightning kept)))

def acceptedRecord (env : Environment) (record : List (String × JsonValue)) :
    List (String × JsonValue) :=
  builtRecord (withoutBuiltProperties record)
    (coalesceNullishArrayField
      ((object (withoutBuiltProperties record)).get? "lightningNwcConnections"))
    (.array (keptArkadeAccounts env record))
    (.object (keptActiveEntries env record))
    (.array (keptBarkAccounts env record))

def builtNames : List String :=
  ["arkadeWallets", "arkadeOperatorConnections", "activeArkadeConnectionIdByNetwork",
    "arkadeAccounts", "activeArkadeAccountIdByNetwork", "barkRails", "barkAccounts"]

variable {names : List String}

theorem get?_foldl_deleteProperty_of_notMem (hname : name ∉ names) :
    (object (names.foldl (fun record name => deleteProperty name record) record)).get?
      name = (object record).get? name := by
  induction names generalizing record with
  | nil => rfl
  | cons first names ih =>
    rw [List.mem_cons, not_or] at hname
    rw [List.foldl_cons, ih hname.2, get?_deleteProperty_of_ne hname.1]

theorem get?_foldl_deleteProperty_of_mem (hname : name ∈ names) :
    (object (names.foldl (fun record name => deleteProperty name record) record)).get?
      name = none := by
  induction names generalizing record with
  | nil => cases hname
  | cons first names ih =>
    rw [List.foldl_cons]
    by_cases hrest : name ∈ names
    · exact ih hrest
    · have hfirst : name = first := (List.mem_cons.mp hname).resolve_right hrest
      rw [get?_foldl_deleteProperty_of_notMem hrest, hfirst, get?_deleteProperty_self]

theorem get?_withoutBuiltProperties_of_notMem (hname : name ∉ builtNames) :
    (object (withoutBuiltProperties record)).get? name = (object record).get? name :=
  get?_foldl_deleteProperty_of_notMem hname

theorem get?_withoutBuiltProperties_of_mem (hname : name ∈ builtNames) :
    (object (withoutBuiltProperties record)).get? name = none :=
  get?_foldl_deleteProperty_of_mem hname

theorem get?_builtRecord_bark :
    (object (builtRecord record lightning arkade active bark)).get? "barkAccounts" = some bark :=
  get?_setProperty_self

theorem get?_builtRecord_active :
    (object (builtRecord record lightning arkade active bark)).get?
      "activeArkadeAccountIdByNetwork" = some active := by
  rw [builtRecord, get?_setProperty_of_ne (by decide), get?_setProperty_self]

theorem get?_builtRecord_arkade :
    (object (builtRecord record lightning arkade active bark)).get? "arkadeAccounts" =
      some arkade := by
  rw [builtRecord, get?_setProperty_of_ne (by decide), get?_setProperty_of_ne (by decide),
    get?_setProperty_self]

theorem get?_builtRecord_lightning :
    (object (builtRecord record lightning arkade active bark)).get?
      "lightningNwcConnections" = some lightning := by
  rw [builtRecord, get?_setProperty_of_ne (by decide), get?_setProperty_of_ne (by decide),
    get?_setProperty_of_ne (by decide), get?_setProperty_self]

theorem get?_builtRecord_of_notMem (hname : name ∉ builtNames)
    (hlightning : name ≠ "lightningNwcConnections") :
    (object (builtRecord record lightning arkade active bark)).get? name =
      (object record).get? name := by
  simp only [builtNames, List.mem_cons, List.not_mem_nil, or_false, not_or] at hname
  obtain ⟨-, -, -, harkade, hactive, -, hbark⟩ := hname
  rw [builtRecord, get?_setProperty_of_ne hbark, get?_setProperty_of_ne hactive,
    get?_setProperty_of_ne harkade, get?_setProperty_of_ne hlightning]

variable {rows : List JsonValue} {sanitizeRow : JsonValue → Option JsonValue}
variable {given : Option JsonValue}

theorem sanitizeOptionalObjectArray_eq_array
    (hrows : sanitizeOptionalObjectArray given sanitizeRow = .array rows) :
    rows = (rowsOf given).filterMap sanitizeRow := by
  rw [sanitizeOptionalObjectArray] at hrows
  cases given with
  | none => simpa [coalesceNullishArrayField, rowsOf] using hrows.symm
  | some given =>
    cases given with
    | array | null => simpa [coalesceNullishArrayField, rowsOf] using hrows.symm
    | _ => cases hrows

theorem isArrayOf_eq_true {check : JsonValue → Bool} (hgiven : isArrayOf check given = true) :
    ∃ rows, given = some (.array rows) ∧ ∀ row ∈ rows, check row = true := by
  rw [isArrayOf.eq_def] at hgiven
  split at hgiven
  · exact ⟨_, rfl, List.all_eq_true.mp hgiven⟩
  · cases hgiven

theorem sanitizeActive_eq (given : Option JsonValue) (ids : List String) :
    sanitizeActiveArkadeAccountIdByNetwork given ids =
      .object ((entriesOf given).filter (isKeptActiveEntry ids)) := by
  cases given with
  | none => rfl
  | some given => cases given <;> rfl

/-- The Bark rows of an accepted payload: a text in place of the list is accepted only if it is
empty. -/
theorem barkRows_of_iterate (hiterate : iterate env (sanitizeOptionalObjectArray given
      (sanitizeStoredBarkAccountRow env)) = .ok rows)
    (hvalid : ∀ row ∈ deduplicateBarkAccountsByNetwork [] rows,
      isStoredBarkAccount env row = true) :
    rows = (rowsOf given).filterMap (sanitizeStoredBarkAccountRow env) := by
  cases given with
  | none => simpa [sanitizeOptionalObjectArray, coalesceNullishArrayField, iterate, rowsOf] using
      hiterate.symm
  | some given =>
    cases given with
    | array | null =>
      simpa [sanitizeOptionalObjectArray, coalesceNullishArrayField, iterate, rowsOf] using
        hiterate.symm
    | string s =>
      cases hiterate
      cases hs : s.toList with
      | nil => simp [rowsOf]
      | cons c cs =>
        rw [hs, List.map_cons, deduplicateBarkAccountsByNetwork, if_neg (by simp)] at hvalid
        have hfirst := hvalid _ List.mem_cons_self
        cases hfirst
    | _ => cases hiterate

theorem isWalletSecretsPayload_parts (hvalid : isWalletSecretsPayload env value = true) :
    isArrayOf (isDescriptorWalletData env) (value.get? "descriptorWallets") = true ∧
      isArrayOf (isStoredArkadeAccount env) (value.get? "arkadeAccounts") = true ∧
      isArrayOf (isStoredBarkAccount env) (value.get? "barkAccounts") = true ∧
      barkNetworksDiffer (value.get? "barkAccounts") = true := by
  simp only [isWalletSecretsPayload, Bool.and_eq_true] at hvalid
  obtain ⟨⟨⟨⟨⟨⟨-, hdescriptors⟩, -⟩, harkade⟩, -⟩, hbark⟩, hnetworks⟩ := hvalid
  exact ⟨hdescriptors, harkade, hbark, hnetworks⟩

/-- A normalized record that passes the checks has the form of an accepted one. -/
theorem normalize_form (hrecord : raw.isRecord = true)
    (hnormalize : normalizeWalletSecretsPayload env raw = .ok value)
    (hvalid : isWalletSecretsPayload env value = true) :
    ∃ record, raw = .object record ∧ value = .object (acceptedRecord env record) := by
  have hparts := isWalletSecretsPayload_parts hvalid
  rw [normalizeWalletSecretsPayload, hrecord] at hnormalize
  simp only [Bool.not_true, Bool.false_eq_true, if_false] at hnormalize
  cases hiterate : iterate env
      (sanitizeOptionalObjectArray ((object raw.spread).get? "barkAccounts")
        (sanitizeStoredBarkAccountRow env)) with
  | error message =>
    rw [hiterate] at hnormalize
    cases hnormalize
  | ok rows =>
    rw [hiterate] at hnormalize
    simp only [bind, Except.bind, pure, Except.pure, Except.ok.injEq] at hnormalize
    subst hnormalize
    rw [← builtRecord.eq_def, get?_builtRecord_arkade, get?_builtRecord_bark,
      get?_builtRecord_of_notMem (by decide) (by decide),
      get?_withoutBuiltProperties_of_notMem (by decide)] at hparts
    obtain ⟨hdescriptors, harkade, hbark, -⟩ := hparts
    obtain ⟨arkadeAccounts, harkadeRows, -⟩ := isArrayOf_eq_true harkade
    obtain ⟨barkAccounts, hbarkRows, hbarkValid⟩ := isArrayOf_eq_true hbark
    cases Option.some.inj hbarkRows
    have hrows := barkRows_of_iterate hiterate hbarkValid
    have harkadeEq := sanitizeOptionalObjectArray_eq_array (Option.some.inj harkadeRows)
    cases raw with
    | object record =>
      refine ⟨record, rfl, ?_⟩
      rw [Option.some.inj harkadeRows, harkadeEq, hrows, sanitizeActive_eq]
      rfl
    | array items =>
      -- The copy of an array has no list of descriptor wallets.
      rw [get?_spread _ (by decide)] at hdescriptors
      cases hdescriptors
    | null | boolean | number | string => cases hrecord

/-- A payload that is accepted was read from an object, and has the form of an accepted one. -/
theorem accepted_form {Text : Type} {engine : JsonEngine Text} {text : Text}
    (haccepted : parseWalletPayloadJson env engine text = .ok value) :
    ∃ record, engine.parse text = some (.object record) ∧
      value = .object (acceptedRecord env record) ∧
      isWalletSecretsPayload env value = true := by
  rw [parseWalletPayloadJson] at haccepted
  cases hparse : engine.parse text with
  | none =>
    rw [hparse] at haccepted
    cases haccepted
  | some raw =>
    rw [hparse] at haccepted
    cases hnormalize : normalizeWalletSecretsPayload env raw with
    | error message =>
      simp only [hnormalize, bind, Except.bind] at haccepted
      cases haccepted
    | ok parsed =>
      simp only [hnormalize, bind, Except.bind] at haccepted
      split at haccepted
      · rename_i hvalid
        cases haccepted
        have hrecord : raw.isRecord = true := by
          cases hraw : raw.isRecord with
          | true => rfl
          | false =>
            rw [normalizeWalletSecretsPayload, hraw] at hnormalize
            cases hnormalize
            rw [isWalletSecretsPayload, hraw] at hvalid
            cases hvalid
        obtain ⟨record, heq, hform⟩ := normalize_form hrecord hnormalize hvalid
        exact ⟨record, by rw [heq], hform, hvalid⟩
      · cases haccepted

theorem parse_of_normalize {Text : Type} {engine : JsonEngine Text} {text : Text}
    (hparse : engine.parse text = some raw)
    (hnormalize : normalizeWalletSecretsPayload env raw = .ok value)
    (hvalid : isWalletSecretsPayload env value = true) :
    parseWalletPayloadJson env engine text = .ok value := by
  simp [parseWalletPayloadJson, hparse, hnormalize, hvalid, bind, Except.bind, pure, Except.pure]

theorem filterMap_of_forall
    (hrows : ∀ row ∈ rows, sanitizeRow row = some row) : rows.filterMap sanitizeRow = rows := by
  rw [List.filterMap_congr hrows, List.filterMap_some]

theorem mem_of_mem_deduplicate {seen : List (Option String)}
    (hrow : row ∈ deduplicateBarkAccountsByNetwork seen rows) : row ∈ rows := by
  induction rows generalizing seen with
  | nil => cases hrow
  | cons first rows ih =>
    rw [deduplicateBarkAccountsByNetwork] at hrow
    split at hrow
    · exact List.mem_cons_of_mem first (ih hrow)
    · cases List.mem_cons.mp hrow with
      | inl heq => exact heq ▸ List.mem_cons_self
      | inr hmem => exact List.mem_cons_of_mem first (ih hmem)

theorem deduplicate_of_nodup {seen : List (Option String)} (hnodup : (rows.map networkName).Nodup)
    (hseen : ∀ row ∈ rows, networkName row ∉ seen) :
    deduplicateBarkAccountsByNetwork seen rows = rows := by
  induction rows generalizing seen with
  | nil => rfl
  | cons first rows ih =>
    rw [List.map_cons, List.nodup_cons] at hnodup
    rw [deduplicateBarkAccountsByNetwork, if_neg (hseen first List.mem_cons_self), ih hnodup.2]
    intro row hrow hmem
    cases List.mem_cons.mp hmem with
    | inl heq => exact hnodup.1 (heq ▸ List.mem_map_of_mem hrow)
    | inr hold => exact hseen row (List.mem_cons_of_mem first hrow) hold

theorem sanitize_of_mem_keptArkade (hrow : row ∈ keptArkadeAccounts env record) :
    sanitizeStoredArkadeAccountRow env row = some row := by
  rw [keptArkadeAccounts, List.mem_filterMap] at hrow
  obtain ⟨source, -, hkept⟩ := hrow
  exact sanitize_of_isStoredArkadeAccount (sanitizeArkade_cases hkept).1

theorem sanitize_of_mem_keptBark (hrow : row ∈ keptBarkAccounts env record) :
    sanitizeStoredBarkAccountRow env row = some row := by
  have hmem := mem_of_mem_deduplicate hrow
  rw [List.mem_filterMap] at hmem
  obtain ⟨source, -, hkept⟩ := hmem
  exact sanitize_kept hkept

theorem coalesce_coalesce (given : Option JsonValue) :
    coalesceNullishArrayField (some (coalesceNullishArrayField given)) =
      coalesceNullishArrayField given := by
  cases given with
  | none => rfl
  | some given => cases given <;> rfl

/-! ## The form is kept again -/

/-- The properties that are not built anew, with the Lightning connections in their place. -/
def keptRecord (kept : List (String × JsonValue)) (lightning : JsonValue) :
    List (String × JsonValue) :=
  setProperty "lightningNwcConnections" lightning kept

theorem get?_keptRecord_of_mem (hname : name ∈ builtNames) :
    (object (keptRecord (withoutBuiltProperties record) lightning)).get? name = none := by
  have hne : name ≠ "lightningNwcConnections" := by
    intro heq
    rw [heq] at hname
    exact absurd hname (by decide)
  rw [keptRecord, get?_setProperty_of_ne hne, get?_withoutBuiltProperties_of_mem hname]

/-- The lists that are built anew stand after the other properties. -/
theorem builtRecord_eq_append :
    builtRecord (withoutBuiltProperties record) lightning arkade active bark =
      keptRecord (withoutBuiltProperties record) lightning ++
        [("arkadeAccounts", arkade), ("activeArkadeAccountIdByNetwork", active),
          ("barkAccounts", bark)] := by
  have harkade : setProperty "arkadeAccounts" arkade
      (keptRecord (withoutBuiltProperties record) lightning) =
        keptRecord (withoutBuiltProperties record) lightning ++ [("arkadeAccounts", arkade)] :=
    setProperty_of_get?_eq_none (get?_keptRecord_of_mem (by decide))
  have hactive : setProperty "activeArkadeAccountIdByNetwork" active
      (setProperty "arkadeAccounts" arkade
        (keptRecord (withoutBuiltProperties record) lightning)) =
        setProperty "arkadeAccounts" arkade
          (keptRecord (withoutBuiltProperties record) lightning) ++
            [("activeArkadeAccountIdByNetwork", active)] := by
    apply setProperty_of_get?_eq_none
    rw [get?_setProperty_of_ne (by decide), get?_keptRecord_of_mem (by decide)]
  have hbark : setProperty "barkAccounts" bark
      (setProperty "activeArkadeAccountIdByNetwork" active
        (setProperty "arkadeAccounts" arkade
          (keptRecord (withoutBuiltProperties record) lightning))) =
        setProperty "activeArkadeAccountIdByNetwork" active
          (setProperty "arkadeAccounts" arkade
            (keptRecord (withoutBuiltProperties record) lightning)) ++
              [("barkAccounts", bark)] := by
    apply setProperty_of_get?_eq_none
    rw [get?_setProperty_of_ne (by decide), get?_setProperty_of_ne (by decide),
      get?_keptRecord_of_mem (by decide)]
  rw [builtRecord, ← keptRecord, hbark, hactive, harkade]
  simp

theorem foldl_deleteProperty_append (names : List String)
    (first second : List (String × JsonValue)) :
    names.foldl (fun record name => deleteProperty name record) (first ++ second) =
      names.foldl (fun record name => deleteProperty name record) first ++
        names.foldl (fun record name => deleteProperty name record) second := by
  induction names generalizing first second with
  | nil => rfl
  | cons name names ih =>
    rw [List.foldl_cons, List.foldl_cons, List.foldl_cons, ← ih, deleteProperty, List.filter_append]
    rfl

theorem foldl_deleteProperty_of_forall
    (hnone : ∀ name ∈ names, (object record).get? name = none) :
    names.foldl (fun record name => deleteProperty name record) record = record := by
  induction names with
  | nil => rfl
  | cons name names ih =>
    rw [List.foldl_cons, deleteProperty_of_get?_eq_none (hnone name List.mem_cons_self)]
    exact ih fun other hother => hnone other (List.mem_cons_of_mem name hother)

theorem withoutBuiltProperties_builtRecord :
    withoutBuiltProperties
        (builtRecord (withoutBuiltProperties record) lightning arkade active bark) =
      keptRecord (withoutBuiltProperties record) lightning := by
  have hkept : withoutBuiltProperties (keptRecord (withoutBuiltProperties record) lightning) =
      keptRecord (withoutBuiltProperties record) lightning :=
    foldl_deleteProperty_of_forall fun name hname => get?_keptRecord_of_mem hname
  have htail : withoutBuiltProperties
      [("arkadeAccounts", arkade), ("activeArkadeAccountIdByNetwork", active),
        ("barkAccounts", bark)] = [] := by
    simp [withoutBuiltProperties, deleteProperty]
  rw [builtRecord_eq_append]
  rw [withoutBuiltProperties] at hkept htail ⊢
  rw [foldl_deleteProperty_append, hkept, htail, List.append_nil]

theorem builtRecord_keptRecord :
    builtRecord (keptRecord (withoutBuiltProperties record) lightning) lightning arkade active
        bark =
      builtRecord (withoutBuiltProperties record) lightning arkade active bark := by
  have hsame : setProperty "lightningNwcConnections" lightning
      (keptRecord (withoutBuiltProperties record) lightning) =
        keptRecord (withoutBuiltProperties record) lightning :=
    setProperty_of_get?_eq_some get?_setProperty_self
  rw [builtRecord, hsame]
  rfl

/-- Normalizing an accepted payload changes nothing. -/
theorem normalize_accepted (hvalid : isWalletSecretsPayload env
      (.object (acceptedRecord env record)) = true) :
    normalizeWalletSecretsPayload env (.object (acceptedRecord env record)) =
      .ok (.object (acceptedRecord env record)) := by
  have hnetworks := (isWalletSecretsPayload_parts hvalid).2.2.2
  rw [acceptedRecord, get?_builtRecord_bark, barkNetworksDiffer, decide_eq_true_eq] at hnetworks
  have harkade : (keptArkadeAccounts env record).filterMap
      (sanitizeStoredArkadeAccountRow env) = keptArkadeAccounts env record :=
    filterMap_of_forall fun row hrow => sanitize_of_mem_keptArkade hrow
  have hbark : (keptBarkAccounts env record).filterMap
      (sanitizeStoredBarkAccountRow env) = keptBarkAccounts env record :=
    filterMap_of_forall fun row hrow => sanitize_of_mem_keptBark hrow
  have hdeduplicate : deduplicateBarkAccountsByNetwork []
      (keptBarkAccounts env record) = keptBarkAccounts env record :=
    deduplicate_of_nodup hnetworks fun row _ => List.not_mem_nil
  have hpick : pickArkadeAccountsField (acceptedRecord env record) =
      some (.array (keptArkadeAccounts env record)) := by
    rw [pickArkadeAccountsField, acceptedRecord, get?_builtRecord_arkade]
  have hpickActive : pickActiveArkadeAccountIdByNetworkField (acceptedRecord env record) =
      some (.object (keptActiveEntries env record)) := by
    rw [pickActiveArkadeAccountIdByNetworkField, acceptedRecord, get?_builtRecord_active]
  have hrows : (object (acceptedRecord env record)).get? "barkAccounts" =
      some (.array (keptBarkAccounts env record)) := get?_builtRecord_bark
  have hentries : (keptActiveEntries env record).filter
      (isKeptActiveEntry (accountIds (.array (keptArkadeAccounts env record)))) =
        keptActiveEntries env record := by
    rw [keptActiveEntries, List.filter_filter]
    simp
  have hsanitize : ∀ (rows : List JsonValue) (sanitizeRow : JsonValue → Option JsonValue),
      sanitizeOptionalObjectArray (some (.array rows)) sanitizeRow =
        .array (rows.filterMap sanitizeRow) := fun _ _ => rfl
  rw [normalizeWalletSecretsPayload]
  simp only [isRecord, spread, Bool.not_true, Bool.false_eq_true, if_false,
    hpick, hpickActive, hrows, hsanitize, harkade, hbark, iterate, bind, Except.bind, pure,
    Except.pure, hdeduplicate, sanitizeActive_eq, entriesOf, hentries]
  rw [← builtRecord.eq_def, acceptedRecord, withoutBuiltProperties_builtRecord, keptRecord,
    get?_setProperty_self, coalesce_coalesce, ← keptRecord, builtRecord_keptRecord]

section Everywhere

variable {number : JsNumber → Prop} {names : List String → Prop}

theorem everywhere_cleanField (hclosed : NamesClosed names) {reader : JsonValue → Option JsonValue}
    (hname : hasNonDigit name = true)
    (hreader : ∀ given kept : JsonValue, given.Everywhere number names →
      reader given = some kept → kept.Everywhere number names)
    (hrecord : (object record).Everywhere number names) :
    (object (cleanField name reader record)).Everywhere number names := by
  rw [cleanField]
  split
  · rename_i value hvalue
    rw [Option.bind_eq_some_iff] at hvalue
    obtain ⟨given, hgiven, hkept⟩ := hvalue
    exact everywhere_setProperty hclosed hrecord hname
      (hreader given value (everywhere_get? hrecord hgiven) hkept)
  · exact everywhere_deleteProperty hclosed hrecord

theorem names_pair (hclosed : NamesClosed names) {first second : String} (hne : second ≠ first)
    (hfirst : hasNonDigit first = true) (hsecond : hasNonDigit second = true) :
    names [first, second] := by
  have hone : names ([] ++ [first]) :=
    hclosed.append [] first hclosed.nil List.not_mem_nil (arrayIndex?_of_hasNonDigit hfirst)
  exact hclosed.append [first] second hone (by simpa using hne)
    (arrayIndex?_of_hasNonDigit hsecond)

variable {given : JsonValue}

theorem everywhere_claim (hclosed : NamesClosed names) (hgiven : given.Everywhere number names)
    (hkept : pendingEmergencyClaimFromUnknown given = some kept) :
    kept.Everywhere number names := by
  rw [pendingEmergencyClaimFromUnknown] at hkept
  split at hkept
  · split at hkept
    · rename_i txid vtxoIds htxid hvtxoIds
      cases hkept
      have hnames : names ["txid", "vtxoIds"] :=
        names_pair hclosed (by decide) (by decide) (by decide)
      apply JsonValue.Everywhere.object
      · exact hnames
      · intro property hproperty
        cases List.mem_cons.mp hproperty with
        | inl heq =>
          rw [heq]
          exact everywhere_get? hgiven htxid
        | inr hlast =>
          rw [List.mem_singleton.mp hlast]
          exact everywhere_get? hgiven hvtxoIds
    · cases hkept
  · cases hkept

theorem everywhere_sweepItems (hclosed : NamesClosed names)
    (hkept : keptExitNodeSweepVtxoItems given = some kept) : kept.Everywhere number names := by
  rw [keptExitNodeSweepVtxoItems] at hkept
  split at hkept
  · rename_i items hitems
    rw [Option.ite_none_left_eq_some] at hkept
    cases hkept.2
    apply JsonValue.Everywhere.array
    intro value hvalue
    obtain ⟨item, -, rfl⟩ := List.mem_map.mp hvalue
    have hnames : names ["vtxoId", "nodeKind"] :=
      names_pair hclosed (by decide) (by decide) (by decide)
    apply JsonValue.Everywhere.object
    · exact hnames
    · intro property hproperty
      cases List.mem_cons.mp hproperty with
      | inl heq =>
        rw [heq]
        exact JsonValue.Everywhere.string _
      | inr hlast =>
        rw [List.mem_singleton.mp hlast]
        exact JsonValue.Everywhere.string _
  · cases hkept

/-- The scalar readers keep the value that they read. -/
theorem everywhere_scalarReaders (hgiven : given.Everywhere number names) :
    (proceedAutomaticallyFromUnknown given = some kept → kept.Everywhere number names) ∧
      (emergencyExitFeePresetFromUnknown given = some kept → kept.Everywhere number names) ∧
      (emergencyExitMaxFeeRateFromUnknown given = some kept → kept.Everywhere number names) := by
  refine ⟨?_, ?_, ?_⟩
  · intro hkept
    rw [proceedAutomaticallyFromUnknown.eq_def] at hkept
    split at hkept
    · cases hkept
      exact hgiven
    · cases hkept
  · intro hkept
    rw [emergencyExitFeePresetFromUnknown, Option.ite_none_right_eq_some] at hkept
    cases hkept.2
    exact hgiven
  · intro hkept
    rw [emergencyExitMaxFeeRateFromUnknown.eq_def] at hkept
    split at hkept
    · rw [Option.ite_none_right_eq_some] at hkept
      cases hkept.2
      exact hgiven
    · cases hkept

theorem everywhere_migrate (hclosed : NamesClosed names)
    (hrecord : (object record).Everywhere number names) :
    (object (migrateLegacyBarkRecordDumpField (.object record))).Everywhere number
      names := by
  rw [migrateLegacyBarkRecordDumpField]
  apply everywhere_deleteProperty hclosed
  split
  · exact everywhere_setProperty hclosed hrecord (by decide) (JsonValue.Everywhere.string _)
  · exact hrecord

theorem everywhere_cleanBarkRow (hclosed : NamesClosed names)
    (hrecord : (object record).Everywhere number names) :
    (object (cleanBarkRow record)).Everywhere number names := by
  rw [cleanBarkRow]
  apply everywhere_cleanField hclosed (by decide)
  · exact fun _ _ _ => everywhere_sweepItems hclosed
  apply everywhere_cleanField hclosed (by decide)
  · exact fun _ _ hgiven => (everywhere_scalarReaders hgiven).2.2
  apply everywhere_cleanField hclosed (by decide)
  · exact fun _ _ hgiven => (everywhere_scalarReaders hgiven).2.1
  apply everywhere_cleanField hclosed (by decide)
  · exact fun _ _ hgiven => (everywhere_scalarReaders hgiven).1
  apply everywhere_cleanField hclosed (by decide)
  · exact fun _ _ hgiven => everywhere_claim hclosed hgiven
  exact hrecord

theorem exists_object_of_sanitize
    (hkept : sanitizeStoredBarkAccountRow env row = some kept) :
    ∃ record, row = .object record := by
  have hrow : isBarkRowKept env row = true := by
    rw [← isSome_sanitizeStoredBarkAccountRow, hkept]
    rfl
  cases row with
  | object record => exact ⟨record, rfl⟩
  | _ => cases hrow

theorem everywhere_keptBark (hclosed : NamesClosed names) (hrow : row.Everywhere number names)
    (hkept : sanitizeStoredBarkAccountRow env row = some kept) :
    kept.Everywhere number names := by
  obtain ⟨record, rfl⟩ := exists_object_of_sanitize hkept
  have hmigrated := everywhere_migrate hclosed hrow
  obtain ⟨keptRecord, rfl, hcases⟩ := sanitize_cases hkept
  cases hcases with
  | inl heq =>
    rw [heq]
    exact hmigrated
  | inr heq =>
    rw [heq]
    exact everywhere_cleanBarkRow hclosed hmigrated

theorem everywhere_keptArkade (hclosed : NamesClosed names) (hrow : row.Everywhere number names)
    (hkept : sanitizeStoredArkadeAccountRow env row = some kept) :
    kept.Everywhere number names := by
  cases (sanitizeArkade_cases hkept).2 with
  | inl heq => rwa [heq]
  | inr heq =>
    rw [heq, stripOversizedSdkPersistenceJson]
    split
    · rename_i state hstate
      split
      · exact hrow
      · cases row with
        | object record => exact everywhere_deleteProperty hclosed hrow
        | _ => cases hstate
    · exact hrow

theorem everywhere_rowsOf {given : Option JsonValue}
    (hgiven : ∀ value, given = some value → value.Everywhere number names) :
    ∀ row ∈ rowsOf given, row.Everywhere number names := by
  intro row hrow
  rw [rowsOf.eq_def] at hrow
  split at hrow
  · exact everywhere_items (hgiven _ rfl) row hrow
  · cases hrow

theorem everywhere_arkadeRows (hrecord : (object record).Everywhere number names) :
    ∀ row ∈ arkadeRows record, row.Everywhere number names := by
  apply everywhere_rowsOf
  intro value hvalue
  rw [pickArkadeAccountsField] at hvalue
  split at hvalue
  · rename_i present hpresent
    cases hvalue
    exact everywhere_get? hrecord hpresent
  · exact everywhere_get? hrecord hvalue

theorem everywhere_barkRows (hrecord : (object record).Everywhere number names) :
    ∀ row ∈ barkRows record, row.Everywhere number names :=
  everywhere_rowsOf fun _ hvalue => everywhere_get? hrecord hvalue

theorem everywhere_activeEntries (hclosed : NamesClosed names)
    (hrecord : (object record).Everywhere number names) :
    (object (activeEntries record)).Everywhere number names := by
  have hempty : (object []).Everywhere number names :=
    JsonValue.Everywhere.object [] hclosed.nil (List.forall_mem_nil _)
  have hpick : ∀ value, pickActiveArkadeAccountIdByNetworkField record = some value →
      value.Everywhere number names := by
    intro value hvalue
    rw [pickActiveArkadeAccountIdByNetworkField] at hvalue
    split at hvalue
    · rename_i present hpresent
      cases hvalue
      exact everywhere_get? hrecord hpresent
    · exact everywhere_get? hrecord hvalue
  rw [activeEntries, entriesOf.eq_def]
  split
  · rename_i entries hentries
    exact hpick _ hentries
  · exact hempty

theorem everywhere_withoutBuiltProperties (hclosed : NamesClosed names)
    (hrecord : (object record).Everywhere number names) :
    (object (withoutBuiltProperties record)).Everywhere number names := by
  have hfold : ∀ (deleted : List String) (rest : List (String × JsonValue)),
      (object rest).Everywhere number names →
      (object (deleted.foldl (fun rest name => deleteProperty name rest) rest)).Everywhere
        number names := by
    intro deleted
    induction deleted with
    | nil => exact fun _ hrest => hrest
    | cons name deleted ih =>
      intro rest hrest
      exact ih _ (everywhere_deleteProperty hclosed hrest)
  exact hfold _ _ hrecord

theorem everywhere_coalesce {given : Option JsonValue}
    (hgiven : ∀ value, given = some value → value.Everywhere number names) :
    (coalesceNullishArrayField given).Everywhere number names := by
  rw [coalesceNullishArrayField.eq_def]
  split
  · exact JsonValue.Everywhere.array [] (List.forall_mem_nil _)
  · exact JsonValue.Everywhere.array [] (List.forall_mem_nil _)
  · exact hgiven _ rfl

theorem everywhere_builtRecord (hclosed : NamesClosed names)
    (hrecord : (object record).Everywhere number names)
    (hlightning : lightning.Everywhere number names) (harkade : arkade.Everywhere number names)
    (hactive : active.Everywhere number names) (hbark : bark.Everywhere number names) :
    (object (builtRecord record lightning arkade active bark)).Everywhere number
      names := by
  rw [builtRecord]
  apply everywhere_setProperty hclosed _ (by decide) hbark
  apply everywhere_setProperty hclosed _ (by decide) hactive
  apply everywhere_setProperty hclosed _ (by decide) harkade
  exact everywhere_setProperty hclosed hrecord (by decide) hlightning

theorem everywhere_filterMap {rows : List JsonValue} {sanitizeRow : JsonValue → Option JsonValue}
    (hrows : ∀ row ∈ rows, ∀ kept, sanitizeRow row = some kept → kept.Everywhere number names) :
    ∀ kept ∈ rows.filterMap sanitizeRow, kept.Everywhere number names := by
  intro kept hkept
  obtain ⟨row, hrow, hsanitize⟩ := List.mem_filterMap.mp hkept
  exact hrows row hrow kept hsanitize

theorem everywhere_acceptedRecord (hclosed : NamesClosed names)
    (hrecord : (object record).Everywhere number names) :
    (object (acceptedRecord env record)).Everywhere number names := by
  have hkept := everywhere_withoutBuiltProperties hclosed hrecord
  apply everywhere_builtRecord hclosed hkept
  · exact everywhere_coalesce fun _ hvalue => everywhere_get? hkept hvalue
  · apply JsonValue.Everywhere.array
    apply everywhere_filterMap
    intro row hrow kept hsanitize
    exact everywhere_keptArkade hclosed (everywhere_arkadeRows hrecord row hrow) hsanitize
  · have hentries := everywhere_properties (everywhere_activeEntries hclosed hrecord)
    apply JsonValue.Everywhere.object
    · exact hclosed.sublist _ _ (List.filter_sublist.map _) hentries.1
    · intro property hproperty
      exact hentries.2 property (List.mem_of_mem_filter hproperty)
  · apply JsonValue.Everywhere.array
    intro row hrow
    refine everywhere_filterMap ?_ row (mem_of_mem_deduplicate hrow)
    intro source hsource kept hsanitize
    exact everywhere_keptBark hclosed (everywhere_barkRows hrecord source hsource) hsanitize

end Everywhere

end Bitboard.Wallet.PayloadJson
