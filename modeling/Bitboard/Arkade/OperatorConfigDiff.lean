/-
# Showing changed operator terms

When the operator's terms change, the wallet asks for consent and shows what is different
from the terms it accepted last. The comparison goes field by field through texts: numbers
are printed, an amount that is not set shows as a dash, and nested terms show as JSON.

The map of service statuses is written in the order in which it iterates. Two maps with
the same entries need not iterate alike, so that equal terms can show a difference.
-/

import Bitboard.Arkade.OperatorInfo
import Bitboard.Lib.JsonText

namespace Bitboard.Arkade

open Bitboard.Lib
open JsonText CachedOperatorInfoRecord

structure OperatorConfigDiffEntry where
  fieldKey : String
  fieldLabel : String
  acceptedValue : String
  pendingValue : String

def optionalString (name : String) : Option String → List (List Char × JsonText)
  | none => []
  | some text => [(name.toList, .string text.toList)]

def CachedIntentFeeInfoRecord.toJson (fees : CachedIntentFeeInfoRecord) : JsonText :=
  .object (optionalString "offchain_input" fees.offchainInput ++
    (optionalString "offchain_output" fees.offchainOutput ++
      (optionalString "onchain_input" fees.onchainInput ++
        optionalString "onchain_output" fees.onchainOutput)))

def CachedFeeInfoRecord.toJson (fees : CachedFeeInfoRecord) : JsonText :=
  .object [("intent_fee".toList, fees.intentFee.toJson),
    ("tx_fee_rate".toList, .string fees.txFeeRate.toList)]

def CachedScheduledSessionRecord.toJson (session : CachedScheduledSessionRecord) : JsonText :=
  .object ([("next_start_time".toList, .integer session.nextStartTime),
    ("next_end_time".toList, .integer session.nextEndTime),
    ("period".toList, .integer session.period),
    ("duration".toList, .integer session.duration)] ++
      (session.fees.map fun fees => ("fees".toList, fees.toJson)).toList)

def CachedDeprecatedSignerRecord.toJson (signer : CachedDeprecatedSignerRecord) : JsonText :=
  .object [("signer_pk_hex".toList, .string signer.signerPkHex.toList),
    ("cutoff_date".toList, .integer signer.cutoffDate)]

variable (serviceStatus : List (String × String))

def serviceStatusJson : JsonText :=
  .object (serviceStatus.map fun (name, status) => (name.toList, .string status.toList))

/-- `serde_json::to_string`. Writing these values never fails. -/
def serdeJsonToString (value : JsonText) : String := String.ofList value.render

variable (entries : List OperatorConfigDiffEntry)

def pushIfChanged (fieldKey fieldLabel accepted pending : String) : List OperatorConfigDiffEntry :=
  if accepted ≠ pending then
    entries ++ [{ fieldKey, fieldLabel, acceptedValue := accepted, pendingValue := pending }]
  else entries

def optionU64Text : Option Nat → String
  | some value => toString value
  | none => "—"

def pushOptionU64 (fieldKey fieldLabel : String) (accepted pending : Option Nat) :
    List OperatorConfigDiffEntry :=
  pushIfChanged entries fieldKey fieldLabel (optionU64Text accepted) (optionU64Text pending)

def optionToJsonText {T : Type} (toJson : T → JsonText) : Option T → String
  | some inner => serdeJsonToString (toJson inner)
  | none => "—"

def pushOptionJsonIfChanged {T : Type} (toJson : T → JsonText)
    (entries : List OperatorConfigDiffEntry) (fieldKey fieldLabel : String)
    (accepted pending : Option T) : List OperatorConfigDiffEntry :=
  pushIfChanged entries fieldKey fieldLabel (optionToJsonText toJson accepted)
    (optionToJsonText toJson pending)

def operatorConfigDiff (accepted pending : CachedOperatorInfoRecord) :
    List OperatorConfigDiffEntry :=
  let entries := []
  let entries := pushIfChanged entries "digest" "Config digest" accepted.digest pending.digest
  let entries := pushIfChanged entries "version" "Server version" accepted.version pending.version
  let entries := pushIfChanged entries "signer_pk_hex" "Operator signer"
    accepted.signerPkHex pending.signerPkHex
  let entries := pushIfChanged entries "forfeit_pk_hex" "Forfeit key"
    accepted.forfeitPkHex pending.forfeitPkHex
  let entries := pushIfChanged entries "forfeit_address" "Forfeit address"
    accepted.forfeitAddress pending.forfeitAddress
  let entries := pushIfChanged entries "checkpoint_tapscript_hex" "Checkpoint tapscript"
    accepted.checkpointTapscriptHex pending.checkpointTapscriptHex
  let entries := pushIfChanged entries "network" "Network" accepted.network pending.network
  let entries := pushIfChanged entries "session_duration" "Session duration (seconds)"
    (toString accepted.sessionDuration) (toString pending.sessionDuration)
  let entries := pushIfChanged entries "unilateral_exit_delay_consensus"
    "Unilateral exit delay (blocks)" (toString accepted.unilateralExitDelayConsensus)
    (toString pending.unilateralExitDelayConsensus)
  let entries := pushIfChanged entries "boarding_exit_delay_consensus"
    "Boarding exit delay (blocks)" (toString accepted.boardingExitDelayConsensus)
    (toString pending.boardingExitDelayConsensus)
  let entries := pushOptionU64 entries "utxo_min_amount_sats" "UTXO min (sats)"
    accepted.utxoMinAmountSats pending.utxoMinAmountSats
  let entries := pushOptionU64 entries "utxo_max_amount_sats" "UTXO max (sats)"
    accepted.utxoMaxAmountSats pending.utxoMaxAmountSats
  let entries := pushOptionU64 entries "vtxo_min_amount_sats" "VTXO min (sats)"
    accepted.vtxoMinAmountSats pending.vtxoMinAmountSats
  let entries := pushOptionU64 entries "vtxo_max_amount_sats" "VTXO max (sats)"
    accepted.vtxoMaxAmountSats pending.vtxoMaxAmountSats
  let entries := pushIfChanged entries "dust_sats" "Dust (sats)" (toString accepted.dustSats)
    (toString pending.dustSats)
  let entries := pushIfChanged entries "max_tx_weight" "Max transaction weight"
    (toString accepted.maxTxWeight) (toString pending.maxTxWeight)
  let entries := pushIfChanged entries "max_op_return_outputs" "Max OP_RETURN outputs"
    (toString accepted.maxOpReturnOutputs) (toString pending.maxOpReturnOutputs)
  let entries := pushOptionJsonIfChanged CachedFeeInfoRecord.toJson entries "fees"
    "Fee schedule" accepted.fees pending.fees
  let entries := pushOptionJsonIfChanged CachedScheduledSessionRecord.toJson entries
    "scheduled_session" "Operator batch schedule" accepted.scheduledSession
    pending.scheduledSession
  let entries := pushIfChanged entries "deprecated_signers" "Deprecated signers"
    (serdeJsonToString (.array (accepted.deprecatedSigners.map
      CachedDeprecatedSignerRecord.toJson)))
    (serdeJsonToString (.array (pending.deprecatedSigners.map
      CachedDeprecatedSignerRecord.toJson)))
  pushIfChanged entries "service_status" "Service status"
    (serdeJsonToString (serviceStatusJson accepted.serviceStatus))
    (serdeJsonToString (serviceStatusJson pending.serviceStatus))

theorem serdeJsonToString_injective : Function.Injective serdeJsonToString := by
  intro value value' heq
  have hlist := congrArg String.toList heq
  simp only [serdeJsonToString, String.toList_ofList] at hlist
  exact render_injective hlist

theorem toString_nat_inj {n m : Nat} : toString n = toString m ↔ n = m := by
  constructor
  · intro heq
    exact toString_natCast_inj (congrArg String.toList heq)
  · intro heq
    rw [heq]

theorem toString_int_inj {value value' : Int} : toString value = toString value' ↔
    value = value' := by
  constructor
  · intro heq
    have happend : (toString value).toList ++ [] = (toString value').toList ++ [] := by rw [heq]
    exact (toString_int_append_inj noDigitHead_nil noDigitHead_nil
      happend).1
  · intro heq
    rw [heq]

theorem dash_ne_toString (n : Nat) : "—" ≠ toString n := by
  intro heq
  have hdigit := isDigit_of_mem_toString (n := n) '—' (by rw [← heq]; decide)
  exact absurd hdigit (by decide)

theorem optionU64Text_inj {accepted pending : Option Nat} :
    optionU64Text accepted = optionU64Text pending ↔ accepted = pending := by
  cases accepted with
  | none =>
    cases pending with
    | none => exact iff_of_true rfl rfl
    | some n => exact iff_of_false (dash_ne_toString n) (Option.some_ne_none n).symm
  | some n =>
    cases pending with
    | none => exact iff_of_false (dash_ne_toString n).symm (Option.some_ne_none n)
    | some m => simp only [optionU64Text, toString_nat_inj, Option.some.injEq]

theorem dash_ne_serdeJsonToString (value : JsonText) : "—" ≠ serdeJsonToString value := by
  intro heq
  obtain ⟨c, tail, htext, hc⟩ := exists_render_cons value
  have hlist := congrArg String.toList heq
  rw [serdeJsonToString, String.toList_ofList, htext] at hlist
  have hfirst : '—' = c := by simpa using congrArg List.head? hlist
  rw [← hfirst] at hc
  revert hc
  decide

theorem optionToJsonText_inj {T : Type} {toJson : T → JsonText}
    (hinjective : Function.Injective toJson) {accepted pending : Option T} :
    optionToJsonText toJson accepted = optionToJsonText toJson pending ↔ accepted = pending := by
  cases accepted with
  | none =>
    cases pending with
    | none => exact iff_of_true rfl rfl
    | some inner =>
      exact iff_of_false (dash_ne_serdeJsonToString _) (Option.some_ne_none inner).symm
  | some inner =>
    cases pending with
    | none =>
      exact iff_of_false (dash_ne_serdeJsonToString _).symm (Option.some_ne_none inner)
    | some other =>
      simp only [optionToJsonText, serdeJsonToString_injective.eq_iff, hinjective.eq_iff,
        Option.some.injEq]

/-! ## The JSON forms tell values apart -/

theorem fst_of_mem_optionalString {name : String} {value : Option String}
    {property : List Char × JsonText} (hmem : property ∈ optionalString name value) :
    property.1 = name.toList := by
  cases value with
  | none => cases hmem
  | some text => rw [List.mem_singleton.mp hmem]

/-- An optional property can be read back when no later one has its name. -/
theorem optionalString_append_inj {name : String} {value value' : Option String}
    {rest rest' : List (List Char × JsonText)}
    (hrest : ∀ property ∈ rest, property.1 ≠ name.toList)
    (hrest' : ∀ property ∈ rest', property.1 ≠ name.toList)
    (heq : optionalString name value ++ rest = optionalString name value' ++ rest') :
    value = value' ∧ rest = rest' := by
  cases value with
  | none =>
    cases value' with
    | none => exact ⟨rfl, heq⟩
    | some text =>
      have hmem : (name.toList, string text.toList) ∈ rest := by
        have hhead := List.mem_cons_self (a := (name.toList, string text.toList))
          (l := rest')
        rwa [← show rest = _ :: rest' from heq] at hhead
      exact absurd rfl (hrest _ hmem)
  | some text =>
    cases value' with
    | none =>
      have hmem : (name.toList, string text.toList) ∈ rest' := by
        have hhead := List.mem_cons_self (a := (name.toList, string text.toList))
          (l := rest)
        rwa [show _ :: rest = rest' from heq] at hhead
      exact absurd rfl (hrest' _ hmem)
    | some text' =>
      have hcons : (name.toList, string text.toList) :: rest =
          (name.toList, string text'.toList) :: rest' := heq
      injection hcons with hhead htail
      injection hhead with _ hvalue
      injection hvalue with htext
      exact ⟨congrArg some (String.toList_injective htext), htail⟩

theorem CachedIntentFeeInfoRecord.toJson_injective :
    Function.Injective CachedIntentFeeInfoRecord.toJson := by
  intro fees fees' heq
  injection heq with hproperties
  have hnames : ∀ {name name' : String} {value : Option String}, name' ≠ name →
      ∀ property ∈ optionalString name' value, property.1 ≠ name.toList := by
    intro name name' value hne property hmem hname
    rw [fst_of_mem_optionalString hmem] at hname
    exact hne (String.toList_injective hname)
  have happend : ∀ {name : String} {first second : List (List Char × JsonText)},
      (∀ property ∈ first, property.1 ≠ name.toList) →
      (∀ property ∈ second, property.1 ≠ name.toList) →
      ∀ property ∈ first ++ second, property.1 ≠ name.toList := by
    intro name first second hfirst hsecond property hmem
    exact (List.mem_append.mp hmem).elim (hfirst property) (hsecond property)
  have hlater : ∀ {name : String} (intent : CachedIntentFeeInfoRecord),
      "offchain_output" ≠ name → "onchain_input" ≠ name → "onchain_output" ≠ name →
      ∀ property ∈ optionalString "offchain_output" intent.offchainOutput ++
        (optionalString "onchain_input" intent.onchainInput ++
          optionalString "onchain_output" intent.onchainOutput),
        property.1 ≠ name.toList := by
    intro name intent hsecond hthird hfourth
    exact happend (hnames hsecond) (happend (hnames hthird) (hnames hfourth))
  have hoffchainInput := optionalString_append_inj
    (hlater fees (by decide) (by decide) (by decide))
    (hlater fees' (by decide) (by decide) (by decide)) hproperties
  have hoffchainOutput := optionalString_append_inj
    (happend (hnames (by decide)) (hnames (by decide)))
    (happend (hnames (by decide)) (hnames (by decide))) hoffchainInput.2
  have honchainInput := optionalString_append_inj (hnames (by decide)) (hnames (by decide))
    hoffchainOutput.2
  have hlast : optionalString "onchain_output" fees.onchainOutput ++ [] =
      optionalString "onchain_output" fees'.onchainOutput ++ [] := by
    rw [honchainInput.2]
  have honchainOutput := optionalString_append_inj (by simp) (by simp) hlast
  cases fees
  cases fees'
  simp_all

theorem CachedFeeInfoRecord.toJson_injective : Function.Injective CachedFeeInfoRecord.toJson := by
  intro fees fees' heq
  simp only [CachedFeeInfoRecord.toJson, object.injEq, List.cons.injEq, Prod.mk.injEq,
    string.injEq, true_and, and_true,
    CachedIntentFeeInfoRecord.toJson_injective.eq_iff] at heq
  cases fees
  cases fees'
  have hrate := String.toList_injective heq.2
  simp_all

theorem CachedScheduledSessionRecord.toJson_injective :
    Function.Injective CachedScheduledSessionRecord.toJson := by
  intro session session' heq
  simp only [CachedScheduledSessionRecord.toJson, object.injEq, List.cons_append,
    List.nil_append, List.cons.injEq, Prod.mk.injEq, integer.injEq, true_and] at heq
  obtain ⟨hstart, hend, hperiod, hduration, hfees⟩ := heq
  have hfees : session.fees = session'.fees := by
    apply Option.map_injective (f := fun fees => ("fees".toList, fees.toJson))
    · intro inner inner' hinner
      exact CachedFeeInfoRecord.toJson_injective (Prod.mk.inj hinner).2
    · generalize session.fees.map (fun fees => ("fees".toList, fees.toJson)) = first at hfees ⊢
      generalize session'.fees.map (fun fees => ("fees".toList, fees.toJson)) = second at hfees ⊢
      cases first with
      | none => cases second with
        | none => rfl
        | some inner => cases hfees
      | some inner => cases second with
        | none => cases hfees
        | some other => exact congrArg some (List.cons.inj hfees).1
  cases session
  cases session'
  simp_all

theorem CachedDeprecatedSignerRecord.toJson_injective :
    Function.Injective CachedDeprecatedSignerRecord.toJson := by
  intro signer signer' heq
  simp only [CachedDeprecatedSignerRecord.toJson, object.injEq, List.cons.injEq,
    Prod.mk.injEq, string.injEq, integer.injEq, true_and, and_true] at heq
  cases signer
  cases signer'
  have hkey := String.toList_injective heq.1
  simp_all

theorem serviceStatusJson_injective : Function.Injective serviceStatusJson := by
  intro serviceStatus serviceStatus' heq
  injection heq with hproperties
  apply List.map_injective_iff.mpr _ hproperties
  intro entry entry' hentry
  have hname := String.toList_injective (Prod.mk.inj hentry).1
  have hstatus := String.toList_injective (string.inj (Prod.mk.inj hentry).2)
  exact Prod.ext hname hstatus

theorem pushIfChanged_eq_nil_iff {entries : List OperatorConfigDiffEntry}
    {fieldKey fieldLabel accepted pending : String} :
    pushIfChanged entries fieldKey fieldLabel accepted pending = [] ↔
      entries = [] ∧ accepted = pending := by
  unfold pushIfChanged
  split
  · simp_all
  · simp_all

theorem deprecatedSigners_toJson_inj {signers signers' : List CachedDeprecatedSignerRecord} :
    array (signers.map CachedDeprecatedSignerRecord.toJson) =
      array (signers'.map CachedDeprecatedSignerRecord.toJson) ↔ signers = signers' := by
  rw [array.injEq]
  exact (List.map_injective_iff.mpr CachedDeprecatedSignerRecord.toJson_injective).eq_iff

variable {accepted pending : CachedOperatorInfoRecord}

theorem operatorConfigDiff_eq_nil_iff :
    operatorConfigDiff accepted pending = [] ↔ accepted = pending := by
  simp only [operatorConfigDiff, pushOptionU64, pushOptionJsonIfChanged, pushIfChanged_eq_nil_iff,
    optionU64Text_inj, toString_nat_inj, toString_int_inj,
    optionToJsonText_inj CachedFeeInfoRecord.toJson_injective,
    optionToJsonText_inj CachedScheduledSessionRecord.toJson_injective,
    serdeJsonToString_injective.eq_iff, deprecatedSigners_toJson_inj,
    serviceStatusJson_injective.eq_iff, true_and]
  cases accepted
  cases pending
  simp only [mk.injEq]
  constructor
  · intro h
    simp only [h, and_self]
  · intro h
    simp only [h, and_self]

/-- `PartialEq` of the records. The maps are compared as maps, whatever the order in which
their entries come. -/
def CachedOperatorInfoRecord.Equal (accepted pending : CachedOperatorInfoRecord) : Prop :=
  accepted.serviceStatus.Perm pending.serviceStatus ∧
    { accepted with serviceStatus := pending.serviceStatus } = pending

instance (accepted pending : CachedOperatorInfoRecord) : Decidable (accepted.Equal pending) :=
  inferInstanceAs (Decidable (_ ∧ _))

theorem CachedOperatorInfoRecord.eq_iff_equal_and_order :
    accepted = pending ↔
      accepted.Equal pending ∧ accepted.serviceStatus = pending.serviceStatus := by
  constructor
  · intro heq
    subst heq
    exact ⟨⟨List.Perm.refl _, rfl⟩, rfl⟩
  · intro h
    have hrest := h.1.2
    rw [← h.2] at hrest
    exact hrest

/-- The stored form gives the terms back, and the difference of two records is empty exactly
when they are equal, unless equal records list their service statuses in different orders. -/
theorem cached_operator_info_round_trips_and_diff {PublicKey Address : Type}
    (codec : OperatorCodec PublicKey Address) (hcodec : codec.RoundTrips) :
    (∀ info : Info PublicKey Address, info.network ≠ .testnet4 →
      codec.isValidForNetwork info.forfeitAddress info.network = true →
      (fromServerInfo codec info).toServerInfo codec = .ok info) ∧
    ∀ accepted pending : CachedOperatorInfoRecord,
      ((operatorConfigDiff accepted pending = [] ↔ accepted.Equal pending) ↔
        ¬ (accepted.Equal pending ∧ accepted.serviceStatus ≠ pending.serviceStatus)) := by
  constructor
  · exact toServerInfo_fromServerInfo hcodec
  · intro accepted pending
    rw [operatorConfigDiff_eq_nil_iff, eq_iff_equal_and_order]
    tauto

def sampleOperatorCodec : OperatorCodec Bool (Fin 1) where
  publicKeyText pk :=
    if pk then "034f355bdcb7cc0af728ef3cceb9615d90684bb5b2ca5f859ab0f0b704075871aa"
    else "0279be667ef9dcbbac55a06295ce870b07029bfcdb2dce28d959f2815b16f81798"
  publicKeyFromStr text :=
    if text = "034f355bdcb7cc0af728ef3cceb9615d90684bb5b2ca5f859ab0f0b704075871aa" then .ok true
    else if text = "0279be667ef9dcbbac55a06295ce870b07029bfcdb2dce28d959f2815b16f81798" then
      .ok false
    else .error "malformed public key"
  addressText _ := "tb1pqqqqp399et2xygdj5xreqhjjvcmzhxw4aywxecjdzew6hylgvsesf3hn0c"
  addressFromStr text :=
    if text = "tb1pqqqqp399et2xygdj5xreqhjjvcmzhxw4aywxecjdzew6hylgvsesf3hn0c" then .ok 0
    else .error "invalid address"
  isValidForNetwork _ network := network = .signet ∨ network = .testnet
  networkError _ _ := "validation error"
  scriptError _ := "invalid hex"

theorem sampleOperatorCodec_roundTrips : sampleOperatorCodec.RoundTrips where
  publicKey pk := by cases pk <;> rfl
  address address := by rw [Subsingleton.elim address 0]; rfl

def sampleServerInfo : Info Bool (Fin 1) where
  version := "test"
  signerPk := true
  forfeitPk := false
  forfeitAddress := 0
  checkpointTapscript := [0x51, 0xc0]
  network := .signet
  sessionDuration := 600
  unilateralExitDelay := ⟨144⟩
  boardingExitDelay := ⟨144⟩
  utxoMinAmount := some 1000
  utxoMaxAmount := none
  vtxoMinAmount := none
  vtxoMaxAmount := none
  dust := 330
  fees := none
  scheduledSession := none
  deprecatedSigners := [⟨false, 1750000000⟩, ⟨true, 0⟩]
  serviceStatus
  digest := "digest-a"
  maxTxWeight := 400000
  maxOpReturnOutputs := 1

def sampleCachedInfo : CachedOperatorInfoRecord :=
  .fromServerInfo sampleOperatorCodec (sampleServerInfo serviceStatus)

theorem cached_operator_info_round_trips_and_diff_sample :
    (sampleCachedInfo []).toServerInfo sampleOperatorCodec = .ok (sampleServerInfo []) ∧
      operatorConfigDiff (sampleCachedInfo [])
        { sampleCachedInfo [] with dustSats := 546 } ≠ [] := by
  have h := cached_operator_info_round_trips_and_diff sampleOperatorCodec
    sampleOperatorCodec_roundTrips
  have hdiffer : ¬ (sampleCachedInfo []).Equal { sampleCachedInfo [] with dustSats := 546 } := by
    intro hequal
    exact absurd (congrArg CachedOperatorInfoRecord.dustSats hequal.2) (by decide)
  constructor
  · exact h.1 (sampleServerInfo []) (by decide) rfl
  · intro hnone
    exact hdiffer (((h.2 _ _).mpr fun hboth => hdiffer hboth.1).mp hnone)

/-- Equal terms whose two services iterate in different orders show a difference. -/
theorem operator_config_diff_depends_on_map_order :
    ¬ ∀ accepted pending : CachedOperatorInfoRecord,
      operatorConfigDiff accepted pending = [] ↔ accepted.Equal pending := by
  intro hall
  let indexer := ("indexer", "ready")
  let wallet := ("wallet", "ready")
  have hequal : (sampleCachedInfo [indexer, wallet]).Equal (sampleCachedInfo [wallet, indexer]) :=
    ⟨List.Perm.swap _ _ _, rfl⟩
  have hsame := operatorConfigDiff_eq_nil_iff.mp ((hall _ _).mpr hequal)
  have horder : [indexer, wallet] = [wallet, indexer] :=
    congrArg CachedOperatorInfoRecord.serviceStatus hsame
  exact absurd horder (by decide)

end Bitboard.Arkade
