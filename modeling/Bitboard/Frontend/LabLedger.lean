/-
# Blocks against a ledger

The worker collects what a block spends and what it creates apart, removes all of the former and
then adds all of the latter. A ledger goes through the transactions in order. Both leave the same
unspent outputs where no transaction of the block spends an output of an earlier one.

The details of a transaction name the outputs that it spends. Outputs of the same block are looked
up by their numbers among the outputs that are reported, which are those with addresses.
-/

import Bitboard.Frontend.LabBlocks
import Bitboard.Frontend.LabEnvironments

namespace Bitboard.Frontend

open Bitboard.Lib

section Ledger

variable {Txid : Type} [LinearOrder Txid] (env : LabEnvironment Txid)

/-- The outputs of a transaction that have addresses, under their numbers among all outputs. -/
def addressedOutputs (transaction : LabTransaction Txid) : List (LabUtxo Txid) :=
  transaction.outputs.zipIdx.filterMap fun (output, vout) =>
    output.address.map fun address =>
      { txid := env.txid transaction, vout, address, amountSats := output.amountSats }

/-- The unspent outputs after the transactions: each removes its inputs and adds its outputs that
have addresses. -/
def referenceLedger (utxos : List (LabUtxo Txid)) (transactions : List (LabTransaction Txid)) :
    List (LabUtxo Txid) :=
  transactions.foldl (fun utxos transaction =>
    remainingCoins LabUtxo.outpoint utxos transaction.inputs ++
      addressedOutputs env transaction) utxos

/-- The output that an input spends, among those that are known. -/
def spentOutput (known : List (LabUtxo Txid)) (input : LabOutpoint Txid) : Option (LabUtxo Txid) :=
  known.reverse.find? fun utxo => utxo.outpoint = input

/-- What the details of a transaction say about an input. -/
def attributedTo (details : List (LabTxDetails Txid)) (txid : Txid) (input : LabOutpoint Txid) :
    Option (String × Nat) :=
  (details.find? fun detail => detail.txid = txid).bind fun detail =>
    (detail.inputs.find? fun entry => entry.prevOutpoint = some input).map fun entry =>
      (entry.address, entry.amountSats)

/-- The block leaves the unspent outputs of the ledger, and the details that it adds name for each
input the output that it spends: one that was unspent before the block, or one of an earlier
transaction of the block. -/
structure AppliesAsLedger (state : LabState Txid) (block : LabBlock Txid) (next : LabState Txid) :
    Prop where
  utxos : ∀ utxo, utxo ∈ next.utxos ↔ utxo ∈ referenceLedger env state.utxos block.transactions
  details : ∀ before transaction after, block.transactions = before ++ transaction :: after →
    ∀ input ∈ transaction.inputs,
      attributedTo (next.txDetails.drop state.txDetails.length) (env.txid transaction)
          input =
        (spentOutput (state.utxos ++ before.flatMap (addressedOutputs env)) input).map
          fun utxo => (utxo.address, utxo.amountSats)

/-- No transaction spends an output with an address of an earlier one. An input that names an
earlier transaction by a number below that of its outputs with addresses is one that the unspent
outputs already have, with the same address and amount. -/
structure SpendsNothingOfItself (utxos : List (LabUtxo Txid))
    (transactions : List (LabTransaction Txid)) : Prop where
  unspent : ∀ before transaction after, transactions = before ++ transaction :: after →
    ∀ utxo ∈ before.flatMap (addressedOutputs env), utxo.outpoint ∉ transaction.inputs
  numbered : ∀ before transaction after, transactions = before ++ transaction :: after →
    ∀ input ∈ transaction.inputs, ∀ earlier ∈ effectTransactions before,
      input.txid = env.txid earlier → ∀ output,
        (blockEffectsOutputs earlier)[input.vout]? = some output →
          (spentOutput utxos input).map (fun utxo => (utxo.address, utxo.amountSats)) =
            some (output.address, output.amountSats)

variable {env}

theorem mem_referenceLedger {utxos : List (LabUtxo Txid)}
    {transactions : List (LabTransaction Txid)} {utxo : LabUtxo Txid} :
    utxo ∈ referenceLedger env utxos transactions ↔
      (utxo ∈ utxos ∧ ∀ transaction ∈ transactions, utxo.outpoint ∉ transaction.inputs) ∨
        ∃ before transaction after, transactions = before ++ transaction :: after ∧
          utxo ∈ newUtxosOf env transaction ∧
            ∀ later ∈ after, utxo.outpoint ∉ later.inputs := by
  induction transactions generalizing utxos with
  | nil => simp [referenceLedger]
  | cons first rest ih =>
    have hstep : referenceLedger env utxos (first :: rest) =
      referenceLedger env (remainingCoins LabUtxo.outpoint utxos first.inputs ++
        newUtxosOf env first) rest := rfl
    rw [hstep, ih, List.mem_append, mem_remainingCoins]
    constructor
    · intro h
      cases h with
      | inl hkept =>
        cases hkept.1 with
        | inl hold =>
          apply Or.inl
          refine ⟨hold.1, ?_⟩
          intro transaction htransaction
          cases List.mem_cons.mp htransaction with
          | inl hfirst =>
            rw [hfirst]
            exact hold.2
          | inr hlater => exact hkept.2 transaction hlater
        | inr hnew => exact .inr ⟨[], first, rest, rfl, hnew, hkept.2⟩
      | inr hcreated =>
        obtain ⟨before, transaction, after, hsplit, hnew, hlater⟩ := hcreated
        refine .inr ⟨first :: before, transaction, after, ?_, hnew, hlater⟩
        rw [hsplit, List.cons_append]
    · intro h
      cases h with
      | inl hkept =>
        refine .inl ⟨.inl ⟨hkept.1, hkept.2 first List.mem_cons_self⟩, ?_⟩
        intro transaction htransaction
        exact hkept.2 transaction (List.mem_cons_of_mem _ htransaction)
      | inr hcreated =>
        obtain ⟨before, transaction, after, hsplit, hnew, hlater⟩ := hcreated
        cases before with
        | nil =>
          obtain ⟨rfl, rfl⟩ := List.cons_eq_cons.mp hsplit
          exact .inl ⟨.inr hnew, hlater⟩
        | cons head before =>
          obtain ⟨rfl, hrest⟩ := List.cons_eq_cons.mp hsplit
          exact .inr ⟨before, transaction, after, hrest, hnew, hlater⟩

section Utxos

variable {block : LabBlock Txid}

omit [LinearOrder Txid] in
theorem mem_spent_iff {outpoint : LabOutpoint Txid} :
    outpoint ∈ block.spent ↔
      ∃ transaction ∈ block.transactions, outpoint ∈ transaction.inputs :=
  List.mem_flatMap

variable (env) in
/-- Removing what is spent and adding what is created leaves the unspent outputs of the ledger if
no transaction spends an output of an earlier one, and only then. -/
theorem utxos_eq_referenceLedger_iff (utxos : List (LabUtxo Txid))
    (hdistinct : block.transactions.Nodup) :
    (∀ utxo, utxo ∈ remainingCoins LabUtxo.outpoint utxos block.spent ++
        block.created env ↔
      utxo ∈ referenceLedger env utxos block.transactions) ↔
      ∀ before transaction after, block.transactions = before ++ transaction :: after →
        ∀ utxo ∈ before.flatMap (addressedOutputs env), utxo.outpoint ∉ transaction.inputs := by
  constructor
  · intro hsame before transaction after hsplit utxo hutxo hspent
    obtain ⟨earlier, hearlier, hnew⟩ := List.mem_flatMap.mp hutxo
    obtain ⟨first, second, rfl⟩ := List.append_of_mem hearlier
    have hcreated : utxo ∈ block.created env := by
      apply List.mem_flatMap.mpr
      refine ⟨earlier, ?_, hnew⟩
      rw [hsplit]
      exact List.mem_append_left _ hearlier
    cases mem_referenceLedger.mp ((hsame utxo).mp (List.mem_append_right _ hcreated)) with
    | inl hkept =>
      apply hkept.2 transaction _ hspent
      rw [hsplit]
      exact List.mem_append_right _ List.mem_cons_self
    | inr hledger =>
      obtain ⟨start, creator, rest, hother, hcreator, hlater⟩ := hledger
      have hsameCreator : creator = earlier := (eq_of_mem_newUtxosOf hcreator hnew rfl).2
      -- A transaction stands at one place of the block only.
      have hrest : rest = second ++ transaction :: after := by
        rw [hsplit, List.append_assoc, List.cons_append] at hother hdistinct
        rw [hsameCreator] at hother
        have honce := (List.nodup_cons.mp (List.nodup_middle.mp hdistinct)).1
        rw [List.mem_append, not_or] at honce
        exact ((List.append_cons_inj_of_notMem honce.1 honce.2).mp hother).2.2.symm
      apply hlater transaction _ hspent
      rw [hrest]
      exact List.mem_append_right _ List.mem_cons_self
  · intro hunspent utxo
    rw [mem_referenceLedger, List.mem_append, mem_remainingCoins]
    constructor
    · intro h
      cases h with
      | inl hold =>
        refine .inl ⟨hold.1, ?_⟩
        intro transaction htransaction hspent
        exact hold.2 (mem_spent_iff.mpr ⟨transaction, htransaction, hspent⟩)
      | inr hcreated =>
        obtain ⟨creator, hcreator, hnew⟩ := List.mem_flatMap.mp hcreated
        obtain ⟨before, after, hsplit⟩ := List.append_of_mem hcreator
        refine .inr ⟨before, creator, after, hsplit, hnew, ?_⟩
        intro later hlater
        obtain ⟨between, rest, rfl⟩ := List.append_of_mem hlater
        apply hunspent (before ++ creator :: between) later rest
        · rw [hsplit, List.append_assoc, List.cons_append]
        · apply List.mem_flatMap.mpr
          exact ⟨creator, List.mem_append_right _ List.mem_cons_self, hnew⟩
    · intro h
      cases h with
      | inl hold =>
        refine .inl ⟨hold.1, ?_⟩
        intro hspent
        obtain ⟨transaction, htransaction, hinput⟩ := mem_spent_iff.mp hspent
        exact hold.2 transaction htransaction hinput
      | inr hledger =>
        obtain ⟨before, creator, after, hsplit, hnew, _⟩ := hledger
        apply Or.inr
        apply List.mem_flatMap.mpr
        refine ⟨creator, ?_, hnew⟩
        rw [hsplit]
        exact List.mem_append_right _ List.mem_cons_self

end Utxos

variable {transaction : LabTransaction Txid}

section Details

variable {utxoMap : LabOutpoint Txid → Option (LabUtxo Txid)} {outpoint : LabOutpoint Txid}

/-- The outputs of a transaction are found by their numbers among those that are reported. -/
theorem registerBlockTxOutputs_apply (txid : Txid) (outputs : List BlockEffectsTxOutput) :
    registerBlockTxOutputs utxoMap txid outputs outpoint =
      if outpoint.txid = txid then
        (outputs[outpoint.vout]?.map fun output => {
          txid
          vout := outpoint.vout
          address := output.address
          amountSats := output.amountSats }).or (utxoMap outpoint)
      else utxoMap outpoint := by
  have hfrom : ∀ (outputs : List BlockEffectsTxOutput) (start : Nat)
      (utxoMap : LabOutpoint Txid → Option (LabUtxo Txid)),
      (outputs.zipIdx start).foldl (fun (utxoMap : LabOutpoint Txid → Option (LabUtxo Txid))
          (output : BlockEffectsTxOutput × Nat) =>
        Function.update utxoMap { txid, vout := output.2 } (some {
          txid
          vout := output.2
          address := output.1.address
          amountSats := output.1.amountSats })) utxoMap outpoint =
        if outpoint.txid = txid ∧ start ≤ outpoint.vout then
          (outputs[outpoint.vout - start]?.map fun output => {
            txid
            vout := outpoint.vout
            address := output.address
            amountSats := output.amountSats }).or (utxoMap outpoint)
        else utxoMap outpoint := by
    intro outputs
    induction outputs with
    | nil => simp
    | cons output outputs ih =>
      intro start utxoMap
      rw [List.zipIdx_cons, List.foldl_cons, ih]
      by_cases hhead : outpoint = { txid, vout := start }
      · rw [hhead]
        simp
      · rw [Function.update_of_ne hhead]
        by_cases htxid : outpoint.txid = txid
        · have hvout : outpoint.vout ≠ start := by
            intro hvout
            apply hhead
            cases outpoint
            cases htxid
            cases hvout
            rfl
          by_cases hstart : start + 1 ≤ outpoint.vout
          · have hnext : outpoint.vout - start = (outpoint.vout - (start + 1)) + 1 := by omega
            rw [if_pos ⟨htxid, hstart⟩, if_pos ⟨htxid, by omega⟩, hnext, List.getElem?_cons_succ]
          · rw [if_neg (by omega), if_neg (by omega)]
        · rw [if_neg (by simp [htxid]), if_neg (by simp [htxid])]
  have hzero := hfrom outputs 0 utxoMap
  simp only [Nat.zero_le, and_true, Nat.sub_zero] at hzero
  exact hzero

variable (env) in
/-- The outputs that are found after the transactions. -/
def registerAll (utxoMap : LabOutpoint Txid → Option (LabUtxo Txid))
    (transactions : List (LabTransaction Txid)) : LabOutpoint Txid → Option (LabUtxo Txid) :=
  transactions.foldl (fun utxoMap transaction =>
    registerBlockTxOutputs utxoMap (env.txid transaction)
      (blockEffectsOutputs transaction)) utxoMap

variable {transactions : List (LabTransaction Txid)}

theorem registerAll_of_forall
    (h : ∀ transaction ∈ transactions, outpoint.txid = env.txid transaction →
      (blockEffectsOutputs transaction)[outpoint.vout]? = none) :
    registerAll env utxoMap transactions outpoint = utxoMap outpoint := by
  induction transactions generalizing utxoMap with
  | nil => rfl
  | cons first rest ih =>
    have hstep : registerAll env utxoMap (first :: rest) =
      registerAll env (registerBlockTxOutputs utxoMap (env.txid first)
        (blockEffectsOutputs first)) rest := rfl
    rw [hstep, ih fun transaction hmem => h transaction (List.mem_cons_of_mem _ hmem),
      registerBlockTxOutputs_apply]
    split
    · rename_i htxid
      rw [h first List.mem_cons_self htxid]
      rfl
    · rfl

theorem registerAll_of_mem (hdistinct : transactions.Nodup) (hmem : transaction ∈ transactions)
    (htxid : outpoint.txid = env.txid transaction) {output : BlockEffectsTxOutput}
    (houtput : (blockEffectsOutputs transaction)[outpoint.vout]? = some output) :
    registerAll env utxoMap transactions outpoint = some {
      txid := env.txid transaction
      vout := outpoint.vout
      address := output.address
      amountSats := output.amountSats } := by
  induction transactions generalizing utxoMap with
  | nil => cases hmem
  | cons first rest ih =>
    obtain ⟨hfirst, hrest⟩ := List.nodup_cons.mp hdistinct
    have hstep : registerAll env utxoMap (first :: rest) =
      registerAll env (registerBlockTxOutputs utxoMap (env.txid first)
        (blockEffectsOutputs first)) rest := rfl
    rw [hstep]
    cases List.mem_cons.mp hmem with
    | inr hlater => exact ih hrest hlater
    | inl hsame =>
      rw [registerAll_of_forall, registerBlockTxOutputs_apply, ← hsame, if_pos htxid, houtput]
      · rfl
      · intro other hother hotherTxid
        rw [htxid] at hotherTxid
        rw [hsame] at hotherTxid
        rw [env.txid_injective hotherTxid] at hfirst
        exact absurd hother hfirst

/-- The details name an input with the output that is found for it. -/
theorem find?_buildInputs (addressToOwner : AddressOwners) {input : LabOutpoint Txid}
    (hinput : input ∈ transaction.inputs) :
    ((buildInputsForBlockEffectTx utxoMap addressToOwner transaction).find? fun entry =>
        entry.prevOutpoint = some input).map (fun entry => (entry.address, entry.amountSats)) =
      (utxoMap input).map fun utxo => (utxo.address, utxo.amountSats) := by
  have hcoinbase : transaction.isCoinbase = false := by
    rw [LabTransaction.isCoinbase, List.isEmpty_eq_false_iff]
    exact List.ne_nil_of_mem hinput
  rw [buildInputsForBlockEffectTx, hcoinbase, if_neg Bool.false_ne_true]
  generalize transaction.inputs = inputs at hinput
  induction inputs with
  | nil => cases hinput
  | cons first rest ih =>
    by_cases hsame : first = input
    · rw [hsame]
      cases hfound : utxoMap input with
      | some utxo => simp [hfound]
      | none =>
        simp only [List.filterMap_cons, hfound, Option.map_none]
        rw [List.find?_eq_none.mpr]
        · rfl
        · intro entry hentry
          obtain ⟨other, _, hother⟩ := List.mem_filterMap.mp hentry
          obtain ⟨utxo, hutxo, heq⟩ := Option.map_eq_some_iff.mp hother
          rw [← heq, decide_eq_true_eq]
          intro hprev
          cases hprev
          rw [hfound] at hutxo
          cases hutxo
    · have hrest : input ∈ rest := by
        cases List.mem_cons.mp hinput with
        | inl heq => exact absurd heq.symm hsame
        | inr hmem => exact hmem
      cases hfound : utxoMap first with
      | none =>
        simp only [List.filterMap_cons, hfound, Option.map_none]
        exact ih hrest
      | some utxo =>
        simp only [List.filterMap_cons, hfound, Option.map_some]
        rw [List.find?_cons_of_neg (by simpa using hsame)]
        exact ih hrest

end Details

/-! ## Details of a block -/

section Blocks

variable {state next : LabState Txid} {height : Nat} {work final : BlockWork Txid}

/-- A transaction registers its outputs, and adds its details if there is something in them. -/
theorem applyBlockTransaction_details {after : BlockWork Txid}
    (h : applyBlockTransaction env state height work transaction = .ok after) :
    after.utxoMap = registerBlockTxOutputs work.utxoMap (env.txid transaction)
        (blockEffectsOutputs transaction) ∧
      ∃ own, after.txDetails = work.txDetails ++ own ∧
        (∀ detail ∈ own, detail.txid = env.txid transaction) ∧
        ∀ input ∈ transaction.inputs, ∀ others : List (LabTxDetails Txid),
          (∀ detail ∈ others, detail.txid ≠ env.txid transaction) →
            attributedTo (own ++ others) (env.txid transaction) input =
              (work.utxoMap input).map fun utxo => (utxo.address, utxo.amountSats) := by
  unfold applyBlockTransaction at h
  dsimp only at h
  split at h
  · cases h
  · cases h
    refine ⟨rfl, ?_⟩
    generalize hinputs : buildInputsForBlockEffectTx work.utxoMap work.addressToOwner transaction =
      inputs
    dsimp only
    split
    · refine ⟨_, rfl, ?_, ?_⟩
      · intro detail hdetail
        rw [List.mem_singleton.mp hdetail]
      · intro input hinput others _
        rw [← find?_buildInputs work.addressToOwner hinput, hinputs]
        simp [attributedTo]
    · rename_i hempty
      rw [not_or, not_not] at hempty
      refine ⟨[], (List.append_nil _).symm, by simp, ?_⟩
      intro input hinput others hothers
      rw [← find?_buildInputs work.addressToOwner hinput, hinputs, hempty.1, List.nil_append]
      have hnone : others.find? (fun detail => detail.txid = env.txid transaction) = none := by
        rw [List.find?_eq_none]
        intro detail hdetail
        simpa using hothers detail hdetail
      rw [attributedTo, hnone]
      rfl

/-- The details of distinct transactions name each input with the output that is found for it
after the transactions before. -/
theorem applyTransactions_details {transactions : List (LabTransaction Txid)}
    (hdistinct : transactions.Nodup)
    (h : transactions.foldlM (applyBlockTransaction env state height) work = .ok final) :
    ∃ details, final.txDetails = work.txDetails ++ details ∧
      (∀ detail ∈ details, ∃ transaction ∈ transactions, detail.txid = env.txid transaction) ∧
      ∀ before transaction after, transactions = before ++ transaction :: after →
        ∀ input ∈ transaction.inputs,
          attributedTo details (env.txid transaction) input =
            (registerAll env work.utxoMap before input).map fun utxo =>
              (utxo.address, utxo.amountSats) := by
  induction transactions generalizing work with
  | nil =>
    cases h
    refine ⟨[], (List.append_nil _).symm, by simp, ?_⟩
    intro before transaction after hsplit
    simp at hsplit
  | cons first rest ih =>
    obtain ⟨hfirst, hrest⟩ := List.nodup_cons.mp hdistinct
    obtain ⟨middle, hmiddle, hfinal⟩ := foldlM_cons_eq_ok.mp h
    obtain ⟨hmap, own, hown, hownTxids, hattributed⟩ := applyBlockTransaction_details hmiddle
    obtain ⟨details, hdetails, htxids, hlater⟩ := ih hrest hfinal
    refine ⟨own ++ details, ?_, ?_, ?_⟩
    · rw [hdetails, hown, List.append_assoc]
    · intro detail hdetail
      cases List.mem_append.mp hdetail with
      | inl hmem => exact ⟨first, List.mem_cons_self, hownTxids detail hmem⟩
      | inr hmem =>
        obtain ⟨transaction, htransaction, htxid⟩ := htxids detail hmem
        exact ⟨transaction, List.mem_cons_of_mem _ htransaction, htxid⟩
    · intro before transaction after hsplit input hinput
      cases before with
      | nil =>
        obtain ⟨rfl, rfl⟩ := List.cons_eq_cons.mp hsplit
        apply hattributed input hinput
        intro detail hdetail htxid
        obtain ⟨other, hother, hotherTxid⟩ := htxids detail hdetail
        rw [hotherTxid] at htxid
        rw [env.txid_injective htxid] at hother
        exact hfirst hother
      | cons head before =>
        obtain ⟨rfl, hsplitRest⟩ := List.cons_eq_cons.mp hsplit
        have hmem : transaction ∈ rest := by
          rw [hsplitRest]
          exact List.mem_append_right _ List.mem_cons_self
        have hskip : own.find? (fun detail =>
            detail.txid = env.txid transaction) = none := by
          rw [List.find?_eq_none]
          intro detail hdetail htxid
          rw [decide_eq_true_eq, hownTxids detail hdetail] at htxid
          rw [env.txid_injective htxid] at hfirst
          exact hfirst hmem
        have hrestAttributed := hlater before transaction after hsplitRest input hinput
        rw [hmap] at hrestAttributed
        rw [attributedTo, List.find?_append, hskip, Option.none_or]
        exact hrestAttributed

omit [LinearOrder Txid] in
/-- The transactions that are reported before one with inputs. -/
theorem effectTransactions_append (before after : List (LabTransaction Txid))
    (hinputs : transaction.inputs ≠ []) :
    effectTransactions (before ++ transaction :: after) =
      effectTransactions before ++ transaction ::
        after.filter fun transaction => transaction.inputs ≠ [] := by
  cases before with
  | nil => rfl
  | cons first rest =>
    rw [List.cons_append, effectTransactions, effectTransactions, List.filter_append,
      List.filter_cons_of_pos (by simpa using hinputs), List.cons_append]

omit [LinearOrder Txid] in
theorem effectTransactions_sublist (transactions : List (LabTransaction Txid)) :
    (effectTransactions transactions).Sublist transactions := by
  cases transactions with
  | nil => exact List.Sublist.refl _
  | cons first rest => exact List.filter_sublist.cons_cons first

theorem spentOutput_append {utxos created : List (LabUtxo Txid)} {input : LabOutpoint Txid}
    (h : ∀ utxo ∈ created, utxo.outpoint ≠ input) :
    spentOutput (utxos ++ created) input = spentOutput utxos input := by
  have hnone : created.reverse.find? (fun utxo => utxo.outpoint = input) = none := by
    rw [List.find?_eq_none]
    intro utxo hutxo
    simpa using h utxo (List.mem_reverse.mp hutxo)
  rw [spentOutput, List.reverse_append, List.find?_append, hnone, Option.none_or]
  rfl

/-- A block of distinct transactions that is applied leaves what the ledger leaves, and details
that name the outputs spent, if it spends nothing of itself, and only then. -/
theorem applyBlockEffects_appliesAsLedger_iff {block : LabBlock Txid}
    (hdistinct : block.transactions.Nodup)
    (h : applyBlockEffects env state block = .ok next) :
    AppliesAsLedger env state block next ↔
      SpendsNothingOfItself env state.utxos block.transactions := by
  obtain ⟨_, work, hwork, hnext⟩ := applyBlockEffects_eq_ok.mp h
  have hreported : (effectTransactions block.transactions).Nodup :=
    List.Nodup.sublist (effectTransactions_sublist _) hdistinct
  obtain ⟨details, hdetails, _, hattributed⟩ := applyTransactions_details hreported hwork
  have hadded : next.txDetails.drop state.txDetails.length = details := by
    have happended : next.txDetails = state.txDetails ++ details := by
      rw [hnext]
      exact hdetails
    rw [happended, List.drop_left]
  have hnamed : ∀ before transaction after, block.transactions = before ++ transaction :: after →
      ∀ input ∈ transaction.inputs,
        attributedTo (next.txDetails.drop state.txDetails.length)
            (env.txid transaction) input =
          (registerAll env (spentOutput state.utxos) (effectTransactions before)
            input).map fun utxo => (utxo.address, utxo.amountSats) := by
    intro before transaction after hsplit input hinput
    have hreportedSplit := effectTransactions_append before after
      (List.ne_nil_of_mem hinput)
    rw [← hsplit] at hreportedSplit
    rw [hadded]
    exact hattributed _ transaction _ hreportedSplit input hinput
  have hutxos := utxos_eq_referenceLedger_iff env state.utxos hdistinct
  have hknown : ∀ before transaction after, block.transactions = before ++ transaction :: after →
      (∀ utxo ∈ before.flatMap (addressedOutputs env), utxo.outpoint ∉ transaction.inputs) →
        ∀ input ∈ transaction.inputs,
          spentOutput (state.utxos ++ before.flatMap (addressedOutputs env)) input =
            spentOutput state.utxos input := by
    intro before transaction after _ hunspent input hinput
    apply spentOutput_append
    intro utxo hutxo heq
    rw [← heq] at hinput
    exact hunspent utxo hutxo hinput
  constructor
  · intro hledger
    have hunspent := hutxos.mp (by
      rw [hnext] at hledger
      exact hledger.utxos)
    refine ⟨hunspent, ?_⟩
    intro before transaction after hsplit input hinput earlier hearlier htxid output houtput
    have hsame := hledger.details before transaction after hsplit input hinput
    have hbefore : (effectTransactions before).Nodup := by
      apply List.Nodup.sublist (effectTransactions_sublist before)
      rw [hsplit] at hdistinct
      exact hdistinct.of_append_left
    rw [hnamed before transaction after hsplit input hinput,
      registerAll_of_mem hbefore hearlier htxid houtput,
      hknown before transaction after hsplit (hunspent before transaction after hsplit) input
        hinput] at hsame
    exact hsame.symm
  · intro hspends
    constructor
    · rw [hnext]
      exact hutxos.mpr hspends.unspent
    · intro before transaction after hsplit input hinput
      rw [hnamed before transaction after hsplit input hinput,
        hknown before transaction after hsplit (hspends.unspent before transaction after hsplit)
          input hinput]
      by_cases hown : ∃ earlier ∈ effectTransactions before,
          input.txid = env.txid earlier ∧
            (blockEffectsOutputs earlier)[input.vout]? ≠ none
      · obtain ⟨earlier, hearlier, htxid, hsome⟩ := hown
        obtain ⟨output, houtput⟩ := Option.ne_none_iff_exists'.mp hsome
        have hbefore : (effectTransactions before).Nodup := by
          apply List.Nodup.sublist (effectTransactions_sublist before)
          rw [hsplit] at hdistinct
          exact hdistinct.of_append_left
        rw [registerAll_of_mem hbefore hearlier htxid houtput]
        exact (hspends.numbered before transaction after hsplit input hinput earlier hearlier
          htxid output houtput).symm
      · rw [registerAll_of_forall]
        intro earlier hearlier htxid
        by_contra hsome
        exact hown ⟨earlier, hearlier, htxid, hsome⟩

end Blocks

end Ledger

def coinAddress : String := "bcrt1qqyqszqgpqyqszqgpqyqszqgpqyqszqgpvxat9t"

def coinTransaction : LabTransaction (List Nat) :=
  .coinbase 0 { address := some coinAddress, amountSats := 5000 }

def coinOutpoint : LabOutpoint (List Nat) where
  txid := codedEnvironment.txid coinTransaction
  vout := 0

def oneCoinState : LabState (List Nat) where
  blocks := [{ height := 0, transactions := [coinTransaction], subsidySats := 5000 }]
  utxos := [{
    txid := coinOutpoint.txid
    vout := 0
    address := coinAddress
    amountSats := 5000 }]
  entities := []
  addressToOwner := [(coinAddress, .labEntity 1)]
  mempool := []
  transactions := []
  txDetails := []
  txOperations := []
  blockWeightLimit := 4000
  minerSubsidySats := 5000

def payBack (input : LabOutpoint (List Nat)) (amountSats : Nat) : LabTransaction (List Nat) :=
  .spend [input] [{ address := some coinAddress, amountSats }]

def blockWith (payments : List (LabTransaction (List Nat))) : LabBlock (List Nat) where
  height := 1
  transactions := .coinbase 1 { address := some coinAddress, amountSats := 5000 } :: payments
  subsidySats := 5000

def afterBlock (block : LabBlock (List Nat)) : LabState (List Nat) :=
  (applyBlockEffects codedEnvironment oneCoinState block).toOption.getD oneCoinState

theorem applyBlockEffects_eq_afterBlock {block : LabBlock (List Nat)}
    (h : (applyBlockEffects codedEnvironment oneCoinState block).isOk = true) :
    applyBlockEffects codedEnvironment oneCoinState block = .ok (afterBlock block) := by
  unfold afterBlock
  cases happlied : applyBlockEffects codedEnvironment oneCoinState block with
  | error message =>
    rw [happlied] at h
    cases h
  | ok next => rfl

theorem applyBlockEffects_appliesAsLedger_one_payment :
    AppliesAsLedger codedEnvironment oneCoinState (blockWith [payBack coinOutpoint 5000])
        (afterBlock (blockWith [payBack coinOutpoint 5000])) ↔
      SpendsNothingOfItself codedEnvironment oneCoinState.utxos
        (blockWith [payBack coinOutpoint 5000]).transactions :=
  applyBlockEffects_appliesAsLedger_iff (by decide +kernel)
    (applyBlockEffects_eq_afterBlock (by decide +kernel))

def chainedBlock : LabBlock (List Nat) :=
  blockWith [payBack coinOutpoint 5000,
    payBack { txid := codedEnvironment.txid (payBack coinOutpoint 5000), vout := 0 } 4000]

theorem chained_block_leaves_spent_output :
    applyBlockEffects codedEnvironment oneCoinState chainedBlock = .ok (afterBlock chainedBlock) ∧
      ¬ AppliesAsLedger codedEnvironment oneCoinState chainedBlock (afterBlock chainedBlock) := by
  refine ⟨applyBlockEffects_eq_afterBlock (by decide +kernel), ?_⟩
  intro hledger
  have hleft : ∃ utxo ∈ (afterBlock chainedBlock).utxos,
      utxo ∉ referenceLedger codedEnvironment oneCoinState.utxos chainedBlock.transactions := by
    decide +kernel
  obtain ⟨utxo, hutxo, hspent⟩ := hleft
  exact hspent ((hledger.utxos utxo).mp hutxo)

end Bitboard.Frontend
