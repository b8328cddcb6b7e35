/-
# Owners of lab addresses

The worker finds the owner of an address by its text, or else by a text that it takes for the same
address. This module says when an owner is found, which entries the functions of the worker make,
and what the keys of the map are: addresses that a coinbase can pay to.
-/

import Bitboard.Frontend.LabMining
import Bitboard.Lib.FallibleLoop

namespace Bitboard.Frontend

open Bitboard.Lib

theorem labAddressesEqual_iff {first second : String} :
    labAddressesEqual first second = true ↔ trim first.toList = trim second.toList ∨
      (isBech32Address (trim first.toList) = true ∧ isBech32Address (trim second.toList) = true ∧
        toLowerCase (trim first.toList) = toLowerCase (trim second.toList)) := by
  simp [labAddressesEqual, and_assoc]

theorem labAddressesEqual_refl (address : String) : labAddressesEqual address address = true :=
  labAddressesEqual_iff.mpr (.inl rfl)

theorem labAddressesEqual_trans {first second third : String}
    (h : labAddressesEqual first second = true) (hnext : labAddressesEqual second third = true) :
    labAddressesEqual first third = true := by
  apply labAddressesEqual_iff.mpr
  cases labAddressesEqual_iff.mp h with
  | inl htrim =>
    rw [htrim]
    exact labAddressesEqual_iff.mp hnext
  | inr hlower =>
    cases labAddressesEqual_iff.mp hnext with
    | inl htrim =>
      rw [← htrim]
      exact .inr hlower
    | inr hnextLower =>
      exact .inr ⟨hlower.1, hnextLower.2.1, hlower.2.2.trans hnextLower.2.2⟩

section Owners

variable {addressToOwner : AddressOwners} {address : String} {owner : LabOwner}

theorem mem_setLabOwner {entry : String × LabOwner} :
    entry ∈ setLabOwner addressToOwner address owner ↔
      entry = (address, owner) ∨ (entry ∈ addressToOwner ∧ entry.1 ≠ address) := by
  unfold setLabOwner
  split
  · rename_i hany
    obtain ⟨known, hknown, hkey⟩ := List.any_eq_true.mp hany
    rw [List.mem_map]
    constructor
    · intro hentry
      obtain ⟨other, hother, heq⟩ := hentry
      by_cases hsame : other.1 = address
      · rw [if_pos hsame] at heq
        exact .inl heq.symm
      · rw [if_neg hsame] at heq
        rw [← heq]
        exact .inr ⟨hother, hsame⟩
    · intro hentry
      cases hentry with
      | inl heq =>
        refine ⟨known, hknown, ?_⟩
        rw [if_pos (of_decide_eq_true hkey), heq]
      | inr hother =>
        refine ⟨entry, hother.1, ?_⟩
        rw [if_neg hother.2]
  · rename_i hany
    rw [List.mem_append, List.mem_singleton]
    constructor
    · intro hentry
      cases hentry with
      | inl hold =>
        apply Or.inr
        apply And.intro hold
        intro hsame
        exact hany (List.any_eq_true.mpr ⟨entry, hold, decide_eq_true hsame⟩)
      | inr hnew => exact .inl hnew
    · intro hentry
      cases hentry with
      | inl hnew => exact .inr hnew
      | inr hold => exact .inl hold.1

theorem exists_mem_of_lookup (h : lookupOwnerForLabAddress address addressToOwner = some owner) :
    ∃ entry ∈ addressToOwner, labAddressesEqual entry.1 address = true ∧ entry.2 = owner := by
  unfold lookupOwnerForLabAddress at h
  obtain ⟨entry, hentry, howner⟩ := Option.map_eq_some_iff.mp h
  cases Option.or_eq_some_iff.mp hentry with
  | inl hdirect =>
    have hkey : entry.1 = address := by simpa using List.find?_some hdirect
    refine ⟨entry, List.mem_of_find?_eq_some hdirect, ?_, howner⟩
    rw [hkey]
    exact labAddressesEqual_refl address
  | inr hvariant =>
    have hkey := List.find?_some hvariant.2
    exact ⟨entry, List.mem_of_find?_eq_some hvariant.2, hkey, howner⟩

end Owners

section Keys

variable {Txid : Type} {env : LabEnvironment Txid}

def IsPayable (env : LabEnvironment Txid) (address : String) : Prop :=
  ∃ usual, env.parseAddress address = some (some usual)

/-- The address is in its usual form, and a coinbase can pay to it. -/
def IsUsual (env : LabEnvironment Txid) (address : String) : Prop :=
  env.parseAddress address = some (some address)

/-- All keys of the map are addresses that a coinbase can pay to. -/
def PayableKeys (env : LabEnvironment Txid) (addressToOwner : AddressOwners) : Prop :=
  ∀ entry ∈ addressToOwner, IsPayable env entry.1

/-- All outputs pay to addresses in their usual form. -/
def UsualOutputs (env : LabEnvironment Txid) (outputs : List LabTxOutput) : Prop :=
  ∀ output ∈ outputs, ∃ address, output.address = some address ∧ IsUsual env address

theorem PayableKeys.set {addressToOwner : AddressOwners}
    (hkeys : PayableKeys env addressToOwner) {address : String}
    (haddress : IsPayable env address) (owner : LabOwner) :
    PayableKeys env (setLabOwner addressToOwner address owner) := by
  intro entry hentry
  cases mem_setLabOwner.mp hentry with
  | inl hnew =>
    rw [hnew]
    exact haddress
  | inr hold => exact hkeys entry hold.1

theorem PayableKeys.of_lookup {addressToOwner : AddressOwners}
    (hkeys : PayableKeys env addressToOwner) {address : String} {owner : LabOwner}
    (hlookup : lookupOwnerForLabAddress address addressToOwner = some owner)
    {parsed : Option String} (hparsed : env.parseAddress address = some parsed) :
    ∃ usual, parsed = some usual := by
  obtain ⟨entry, hentry, hsame, _⟩ := exists_mem_of_lookup hlookup
  obtain ⟨usual, husual⟩ := hkeys entry hentry
  exact ⟨usual, (env.parseAddress_equal hsame husual hparsed).symm⟩

end Keys

variable {details : List LabTxOutputDetail}

section Blocks

variable {Txid : Type} [LinearOrder Txid] {env : LabEnvironment Txid}

/-- Every key of the second map is one of the first, or one of the addresses. -/
def KeysFrom (before : AddressOwners) (addresses : List String) (after : AddressOwners) : Prop :=
  ∀ entry ∈ after, entry.1 ∈ addresses ∨ ∃ old ∈ before, old.1 = entry.1

theorem KeysFrom.refl (addressToOwner : AddressOwners) (addresses : List String) :
    KeysFrom addressToOwner addresses addressToOwner :=
  fun entry hentry => .inr ⟨entry, hentry, rfl⟩

variable {addresses : List String}

theorem KeysFrom.set {before after : AddressOwners}
    (h : KeysFrom before addresses after) {address : String} (haddress : address ∈ addresses)
    (owner : LabOwner) : KeysFrom before addresses (setLabOwner after address owner) := by
  intro entry hentry
  cases mem_setLabOwner.mp hentry with
  | inl hnew =>
    rw [hnew]
    exact .inl haddress
  | inr hold => exact h entry hold.1

theorem buildOutputs_addresses (changeAddress : Option String) (sender : Option LabOwner)
    (outputs : List BlockEffectsTxOutput) (addressToOwner : AddressOwners) :
    (buildOutputsForBlockEffectTx changeAddress sender outputs addressToOwner).1.map
      LabTxOutputDetail.address = outputs.map BlockEffectsTxOutput.address := by
  induction outputs generalizing addressToOwner with
  | nil => rfl
  | cons output outputs ih =>
    rw [buildOutputsForBlockEffectTx]
    split
    · rw [List.map_cons, List.map_cons, ih]
    · rw [List.map_cons, List.map_cons, ih]

variable {before addressToOwner : AddressOwners}

theorem buildOutputs_keysFrom (changeAddress : Option String) (sender : Option LabOwner)
    {outputs : List BlockEffectsTxOutput}
    (houtputs : ∀ output ∈ outputs, output.address ∈ addresses)
    (h : KeysFrom before addresses addressToOwner) :
    KeysFrom before addresses
      (buildOutputsForBlockEffectTx changeAddress sender outputs addressToOwner).2 := by
  induction outputs generalizing addressToOwner with
  | nil => exact h
  | cons output outputs ih =>
    have hrest := fun other hother => houtputs other (List.mem_cons_of_mem _ hother)
    rw [buildOutputsForBlockEffectTx]
    split
    · exact ih hrest (h.set (houtputs output List.mem_cons_self) _)
    · exact ih hrest h

theorem enterOwners_keysFrom (hdetails : ∀ detail ∈ details, detail.address ∈ addresses)
    (h : KeysFrom before addresses addressToOwner) :
    KeysFrom before addresses (enterOwners details addressToOwner) := by
  unfold enterOwners
  induction details generalizing addressToOwner with
  | nil => exact h
  | cons detail details ih =>
    rw [List.foldl_cons]
    apply ih fun other hother => hdetails other (List.mem_cons_of_mem _ hother)
    split
    · exact h
    · exact h.set (hdetails detail List.mem_cons_self) _

theorem payOutputOf_mem {primaryToAddress : Option String} {detail : LabTxOutputDetail}
    (h : payOutputOf details primaryToAddress = some detail) : detail ∈ details := by
  cases Option.or_eq_some_iff.mp h with
  | inl hbyAddress =>
    split at hbyAddress
    · cases hbyAddress
    · exact List.mem_of_find?_eq_some hbyAddress
  | inr honly =>
    have hhead := honly.2
    split at hhead
    · exact List.mem_of_mem_filter (List.mem_of_head? hhead)
    · cases hhead

omit [LinearOrder Txid] in
theorem resolveReceiver_keysFrom (operation : Option (LabTxOperationRecord Txid))
    (sender : Option LabOwner) {before addressToOwner : AddressOwners} {addresses : List String}
    (hdetails : ∀ detail ∈ details, detail.address ∈ addresses)
    (h : KeysFrom before addresses addressToOwner) :
    KeysFrom before addresses
      (resolveReceiverForBlockEffectTx details operation sender addressToOwner).2.2 := by
  have hoperation : KeysFrom before addresses
      (receiverFromOperation details operation addressToOwner).2 := by
    unfold receiverFromOperation
    split
    · exact h
    · split
      · rename_i address receiver hfound
        obtain ⟨_, _, hfound⟩ := Option.bind_eq_some_iff.mp hfound
        obtain ⟨_, _, hfound⟩ := Option.bind_eq_some_iff.mp hfound
        obtain ⟨detail, hdetail, heq⟩ := Option.map_eq_some_iff.mp hfound
        cases heq
        exact h.set (hdetails detail (payOutputOf_mem hdetail)) _
      · exact h
  have hsender : KeysFrom before addresses (receiverFromSender details sender
      (receiverFromOperation details operation addressToOwner)).2 := by
    unfold receiverFromSender
    split
    · rename_i output owner _ hfirst
      split
      · exact hoperation.set (hdetails output (List.mem_of_find?_eq_some hfirst)) _
      · exact hoperation
    · exact hoperation
  apply enterOwners_keysFrom _ hsender
  intro detail hdetail
  obtain ⟨original, horiginal, heq⟩ := List.mem_map.mp hdetail
  rw [← heq]
  split
  · exact hdetails original horiginal
  · exact hdetails original horiginal

variable {state : LabState Txid} {height : Nat} {work next : BlockWork Txid}
  {transaction : LabTransaction Txid}

theorem applyBlockTransaction_keysFrom
    (h : applyBlockTransaction env state height work transaction = .ok next) :
    KeysFrom work.addressToOwner
      ((blockEffectsOutputs transaction).map BlockEffectsTxOutput.address) next.addressToOwner := by
  unfold applyBlockTransaction at h
  dsimp only at h
  split at h
  · cases h
  · cases h
    apply resolveReceiver_keysFrom
    · intro detail hdetail
      rw [← buildOutputs_addresses]
      exact List.mem_map_of_mem hdetail
    · apply buildOutputs_keysFrom
      · intro output houtput
        exact List.mem_map_of_mem houtput
      · exact KeysFrom.refl _ _

/-- A block of transactions that pay to usual addresses enters such addresses only. -/
theorem applyTransactions_payableKeys {transactions : List (LabTransaction Txid)}
    (hkeys : PayableKeys env work.addressToOwner)
    (houtputs : ∀ transaction ∈ transactions, UsualOutputs env transaction.outputs)
    (h : transactions.foldlM (applyBlockTransaction env state height) work = .ok next) :
    PayableKeys env next.addressToOwner := by
  apply foldlM_invariant (fun work : BlockWork Txid => PayableKeys env work.addressToOwner)
    _ hkeys h
  intro work transaction htransaction next hnext hkeys entry hentry
  cases applyBlockTransaction_keysFrom hnext entry hentry with
  | inl hnew =>
    obtain ⟨effect, heffect, haddress⟩ := List.mem_map.mp hnew
    obtain ⟨output, houtput, heq⟩ := List.mem_filterMap.mp heffect
    obtain ⟨address, hsome, heq⟩ := Option.map_eq_some_iff.mp heq
    obtain ⟨usual, husual, hparse⟩ := houtputs transaction htransaction output houtput
    rw [hsome] at husual
    cases husual
    rw [← haddress, ← heq]
    exact ⟨_, hparse⟩
  | inr hold =>
    obtain ⟨old, hmem, hkey⟩ := hold
    rw [← hkey]
    exact hkeys old hmem

end Blocks

end Bitboard.Frontend
