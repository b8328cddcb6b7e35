/-
# Coins of the lab chain

The unspent outputs of the lab are those that its blocks leave. This module asks when the blocks
conserve coins: no output is spent twice, each input was unspent before its block, and the
unspent outputs are worth all subsidies that were mined.

A prepared transaction may be put into the mempool after its outputs have been spent, since
nothing checks them again. In runs where they are still unspent then, the mempool keeps to
unspent outputs and every block conserves coins.
-/

import Bitboard.Frontend.LabBlocks

namespace Bitboard.Frontend

open Bitboard.Lib
open MempoolEntry

section Chain

variable {Txid : Type} [LinearOrder Txid]
variable (env : LabEnvironment Txid)

def ledger (blocks : List (LabBlock Txid)) : List (LabUtxo Txid) :=
  blocks.foldl (fun utxos block =>
    remainingCoins LabUtxo.outpoint utxos block.spent ++ block.created env) []

/-- The unspent outputs are those that the blocks leave, no output is spent twice, every input was
unspent before its block, and the unspent outputs are worth the subsidies. -/
structure Conserved (state : LabState Txid) : Prop where
  ledger_eq : state.utxos = ledger env state.blocks
  spentOnce : (state.blocks.flatMap LabBlock.spent).Nodup
  wasUnspent : ∀ before block after, state.blocks = before ++ block :: after →
    ∀ transaction ∈ block.transactions, ∀ input ∈ transaction.inputs,
      input ∈ (ledger env before).map LabUtxo.outpoint
  supply : (state.utxos.map LabUtxo.amountSats).sum = (state.blocks.map LabBlock.subsidySats).sum

/-- The entry spends unspent outputs, and its recorded fee is what its outputs leave of them. -/
structure Funded (utxos : List (LabUtxo Txid)) (entry : MempoolEntry Txid) : Prop where
  inputs_eq : entry.inputs = entry.signedTx.inputs
  txid_eq : entry.txid = env.txid entry.signedTx.transaction
  inputs_ne : entry.inputs ≠ []
  inputs_nodup : entry.inputs.Nodup
  usual : UsualOutputs env entry.signedTx.outputs
  trueFee : ∃ taken, TakesCoins LabUtxo.outpoint utxos entry.inputs taken ∧
    (taken.map LabUtxo.amountSats).sum =
      entry.feeSats + (entry.signedTx.outputs.map LabTxOutput.amountSats).sum

variable {env}
variable {utxos : List (LabUtxo Txid)}

omit [LinearOrder Txid] in
theorem Funded.unspent {entry : MempoolEntry Txid} (h : Funded env utxos entry)
    {input : LabOutpoint Txid} (hinput : input ∈ entry.inputs) :
    input ∈ utxos.map LabUtxo.outpoint := by
  obtain ⟨taken, htakes, _⟩ := h.trueFee
  rw [← htakes.keys_eq] at hinput
  obtain ⟨utxo, hutxo, heq⟩ := List.mem_map.mp hinput
  rw [← heq]
  exact List.mem_map_of_mem (htakes.mem utxo hutxo)

theorem Funded.of_remaining {new : List (LabUtxo Txid)} {entry : MempoolEntry Txid}
    (h : Funded env utxos entry) {spent : List (LabOutpoint Txid)}
    (hdisjoint : ∀ input ∈ entry.inputs, input ∉ spent) :
    Funded env (remainingCoins LabUtxo.outpoint utxos spent ++ new) entry := { h with
  trueFee := by
    obtain ⟨taken, htakes, hfee⟩ := h.trueFee
    exact ⟨taken, htakes.of_remaining hdisjoint, hfee⟩ }

omit [LinearOrder Txid] in
/-- Together the entries spend unspent outputs worth their fees and outputs. -/
theorem exists_taken_of_funded {entries : List (MempoolEntry Txid)}
    (hfunded : ∀ entry ∈ entries, Funded env utxos entry) :
    ∃ taken, TakesCoins LabUtxo.outpoint utxos (entries.flatMap inputs) taken ∧
      (taken.map LabUtxo.amountSats).sum = (entries.map feeSats).sum +
        (entries.map fun entry =>
          (entry.signedTx.outputs.map LabTxOutput.amountSats).sum).sum := by
  induction entries with
  | nil => exact ⟨[], TakesCoins.nil, rfl⟩
  | cons entry entries ih =>
    obtain ⟨others, hothers, hsum⟩ := ih fun other hother =>
      hfunded other (List.mem_cons_of_mem _ hother)
    obtain ⟨taken, htakes, hfee⟩ := (hfunded entry List.mem_cons_self).trueFee
    refine ⟨taken ++ others, htakes.append hothers, ?_⟩
    rw [List.map_append, List.sum_append, hsum, hfee, List.map_cons, List.sum_cons,
      List.map_cons, List.sum_cons]
    omega

omit [LinearOrder Txid] in
/-- Entries that can stand in one block spend distinct outputs. -/
theorem nodup_inputs_of_compatible {entries : List (MempoolEntry Txid)}
    (hcompatible : entries.Pairwise Compatible)
    (hfunded : ∀ entry ∈ entries, Funded env utxos entry) :
    (entries.flatMap inputs).Nodup := by
  apply List.nodup_flatMap.mpr
  constructor
  · intro entry hentry
    exact (hfunded entry hentry).inputs_nodup
  · apply hcompatible.imp
    intro first second h input hfirst hsecond
    exact h.2 input hfirst hsecond

def IsConfirmed (state : LabState Txid) (transaction : LabTransaction Txid) : Prop :=
  ∃ block ∈ state.blocks, transaction ∈ block.transactions

variable (env)

/-- The chain conserves coins; unspent outputs and spent ones are apart, and come from
transactions of blocks. -/
structure ChainInv (state : LabState Txid) : Prop where
  conserved : Conserved env state
  nodup : (state.utxos.map LabUtxo.outpoint).Nodup
  spentGone : ∀ outpoint ∈ state.blocks.flatMap LabBlock.spent,
    outpoint ∉ state.utxos.map LabUtxo.outpoint
  created : ∀ utxo ∈ state.utxos, ∃ transaction, IsConfirmed state transaction ∧
    utxo ∈ newUtxosOf env transaction
  spentCreated : ∀ outpoint ∈ state.blocks.flatMap LabBlock.spent, ∃ transaction,
    IsConfirmed state transaction ∧ outpoint.txid = env.txid transaction
  heights : ∀ height output, IsConfirmed state (.coinbase height output) →
    height < nextHeight state

variable {env}

omit [LinearOrder Txid] in
/-- What counts for the chain are the blocks and the unspent outputs. -/
theorem isConfirmed_congr {state other : LabState Txid} (hblocks : other.blocks = state.blocks)
    (transaction : LabTransaction Txid) :
    IsConfirmed other transaction ↔ IsConfirmed state transaction := by
  unfold IsConfirmed
  rw [hblocks]

theorem ChainInv.congr {state other : LabState Txid} (h : ChainInv env state)
    (hblocks : other.blocks = state.blocks) (hutxos : other.utxos = state.utxos) :
    ChainInv env other where
  conserved := by
    constructor
    · rw [hblocks, hutxos]
      exact h.conserved.ledger_eq
    · rw [hblocks]
      exact h.conserved.spentOnce
    · rw [hblocks]
      exact h.conserved.wasUnspent
    · rw [hblocks, hutxos]
      exact h.conserved.supply
  nodup := by
    rw [hutxos]
    exact h.nodup
  spentGone := by
    rw [hblocks, hutxos]
    exact h.spentGone
  created := by
    simp only [isConfirmed_congr hblocks]
    rw [hutxos]
    exact h.created
  spentCreated := by
    simp only [isConfirmed_congr hblocks]
    rw [hblocks]
    exact h.spentCreated
  heights := by
    simp only [isConfirmed_congr hblocks, nextHeight]
    rw [hblocks]
    exact h.heights

variable {transaction : LabTransaction Txid}

section Block

variable {state : LabState Txid} {entries : List (MempoolEntry Txid)} {address : String}

def blockOf (state : LabState Txid) (address : String) (entries : List (MempoolEntry Txid)) :
    LabBlock Txid :=
  nextBlock state (some address) (entries.map signedTx)
    (entries.map feeSats).sum

omit [LinearOrder Txid] in
theorem mem_blockOf (h : transaction ∈ (blockOf state address entries).transactions) :
    (∃ output, transaction = .coinbase (nextHeight state) output) ∨
      ∃ entry ∈ entries, transaction = entry.signedTx.transaction := by
  cases List.mem_cons.mp h with
  | inl hcoinbase => exact .inl ⟨_, hcoinbase⟩
  | inr hspend =>
    obtain ⟨signedTx, hsigned, htransaction⟩ := List.mem_map.mp hspend
    obtain ⟨entry, hentry, hsignedTx⟩ := List.mem_map.mp hsigned
    refine .inr ⟨entry, hentry, ?_⟩
    rw [hsignedTx, htransaction]

omit [LinearOrder Txid] in
theorem spent_blockOf (hfunded : ∀ entry ∈ entries, Funded env state.utxos entry) :
    (blockOf state address entries).spent = entries.flatMap inputs := by
  show [] ++ ((entries.map signedTx).map SignedLabTransaction.transaction).flatMap
    LabTransaction.inputs = _
  rw [List.nil_append, List.map_map, List.flatMap_map]
  apply List.flatMap_congr
  intro entry hentry
  exact (hfunded entry hentry).inputs_eq.symm

theorem not_isConfirmed_of_mem_blockOf (hinv : ChainInv env state)
    (hfunded : ∀ entry ∈ entries, Funded env state.utxos entry)
    (hmem : transaction ∈ (blockOf state address entries).transactions) :
    ¬ IsConfirmed state transaction := by
  intro hconfirmed
  cases mem_blockOf hmem with
  | inl hcoinbase =>
    obtain ⟨output, rfl⟩ := hcoinbase
    exact Nat.lt_irrefl _ (hinv.heights _ _ hconfirmed)
  | inr hspend =>
    obtain ⟨entry, hentry, rfl⟩ := hspend
    obtain ⟨block, hblock, htransaction⟩ := hconfirmed
    have hentryFunded := hfunded entry hentry
    obtain ⟨input, hinput⟩ := List.exists_mem_of_ne_nil _ hentryFunded.inputs_ne
    apply hinv.spentGone input _ (hentryFunded.unspent hinput)
    apply List.mem_flatMap.mpr
    refine ⟨block, hblock, List.mem_flatMap.mpr ⟨_, htransaction, ?_⟩⟩
    rw [hentryFunded.inputs_eq] at hinput
    exact hinput

omit [LinearOrder Txid] in
/-- The transactions of the next block are distinct. -/
theorem nodup_transactions_blockOf
    (hfunded : ∀ entry ∈ entries, Funded env state.utxos entry)
    (hcompatible : entries.Pairwise Compatible) :
    (blockOf state address entries).transactions.Nodup := by
  apply List.nodup_cons.mpr
  constructor
  · intro hmem
    obtain ⟨signedTx, _, htransaction⟩ := List.mem_map.mp hmem
    cases htransaction
  · rw [List.map_map]
    apply List.pairwise_map.mpr
    apply hcompatible.imp_of_mem
    intro first second hfirst hsecond h hsame
    apply h.1
    rw [(hfunded first hfirst).txid_eq, (hfunded second hsecond).txid_eq]
    exact congrArg env.txid hsame

omit [LinearOrder Txid] in
theorem mem_created_iff {block : LabBlock Txid} {utxo : LabUtxo Txid} :
    utxo ∈ block.created env ↔
      ∃ transaction ∈ block.transactions, utxo ∈ newUtxosOf env transaction :=
  List.mem_flatMap

omit [LinearOrder Txid] in
/-- A block of distinct transactions creates distinct outputs. -/
theorem nodup_created {block : LabBlock Txid} (h : block.transactions.Nodup) :
    ((block.created env).map LabUtxo.outpoint).Nodup := by
  rw [LabBlock.created, List.map_flatMap]
  apply List.nodup_flatMap.mpr
  constructor
  · intro transaction _
    exact nodup_newUtxosOf transaction
  · apply h.imp
    intro first second hdistinct outpoint hfirst hsecond
    obtain ⟨utxo, hutxo, rfl⟩ := List.mem_map.mp hfirst
    obtain ⟨other, hother, heq⟩ := List.mem_map.mp hsecond
    exact hdistinct (eq_of_mem_newUtxosOf hutxo hother heq.symm).2

theorem created_fresh (hinv : ChainInv env state)
    (hfunded : ∀ entry ∈ entries, Funded env state.utxos entry) {utxo : LabUtxo Txid}
    (hutxo : utxo ∈ (blockOf state address entries).created env)
    (hconfirmed : IsConfirmed state transaction) : utxo.txid ≠ env.txid transaction := by
  intro htxid
  obtain ⟨creator, hcreator, hcreated⟩ := mem_created_iff.mp hutxo
  apply not_isConfirmed_of_mem_blockOf hinv hfunded hcreator
  rw [(mem_newUtxosOf_iff.mp hcreated).1] at htxid
  rw [env.txid_injective htxid]
  exact hconfirmed

omit [LinearOrder Txid] in
/-- The new outputs are worth the subsidy beside what the entries spend. -/
theorem sum_created_blockOf (hfunded : ∀ entry ∈ entries, Funded env state.utxos entry) :
    (((blockOf state address entries).created env).map LabUtxo.amountSats).sum =
      state.minerSubsidySats + (entries.map feeSats).sum +
        (entries.map fun entry =>
          (entry.signedTx.outputs.map LabTxOutput.amountSats).sum).sum := by
  have hspends : ((((entries.map signedTx).map
      SignedLabTransaction.transaction).flatMap (newUtxosOf env)).map
        LabUtxo.amountSats).sum = (entries.map fun entry =>
          (entry.signedTx.outputs.map LabTxOutput.amountSats).sum).sum := by
    induction entries with
    | nil => rfl
    | cons entry entries ih =>
      have hentry : ((newUtxosOf env entry.signedTx.transaction).map
          LabUtxo.amountSats).sum = (entry.signedTx.outputs.map LabTxOutput.amountSats).sum :=
        sum_newUtxosOf (hfunded entry List.mem_cons_self).usual
      simp only [List.map_cons, List.flatMap_cons, List.map_append, List.sum_append,
        List.sum_cons, hentry, ih fun other hother =>
          hfunded other (List.mem_cons_of_mem _ hother)]
  have hcoinbase : ∀ amountSats, ((newUtxosOf env (.coinbase (nextHeight state)
      { address := some address, amountSats })).map LabUtxo.amountSats).sum = amountSats :=
    fun _ => rfl
  rw [LabBlock.created, blockOf, nextBlock, List.flatMap_cons, List.map_append, List.sum_append,
    hspends, hcoinbase]

section NextBlock

variable {next : LabState Txid} (hinv : ChainInv env state)
  (hfunded : ∀ entry ∈ entries, Funded env state.utxos entry)
  (hcompatible : entries.Pairwise Compatible)
  (hblocks : next.blocks = state.blocks ++ [blockOf state address entries])
  (hutxos : next.utxos = remainingCoins LabUtxo.outpoint state.utxos
      (blockOf state address entries).spent ++
    (blockOf state address entries).created env)

omit [LinearOrder Txid] in
include hfunded in
/-- What the block spends was unspent before it. -/
theorem unspent_of_mem_spent {outpoint : LabOutpoint Txid}
    (hmem : outpoint ∈ (blockOf state address entries).spent) :
    outpoint ∈ state.utxos.map LabUtxo.outpoint := by
  rw [spent_blockOf hfunded] at hmem
  obtain ⟨entry, hentry, hinput⟩ := List.mem_flatMap.mp hmem
  exact (hfunded entry hentry).unspent hinput

omit [LinearOrder Txid] in
include hfunded hcompatible in
/-- The block spends nothing twice. -/
theorem nodup_spent_blockOf : (blockOf state address entries).spent.Nodup := by
  rw [spent_blockOf hfunded]
  exact nodup_inputs_of_compatible hcompatible hfunded

omit [LinearOrder Txid] in
include hblocks in
theorem isConfirmed_block_iff (transaction : LabTransaction Txid) :
    IsConfirmed next transaction ↔ IsConfirmed state transaction ∨
      transaction ∈ (blockOf state address entries).transactions := by
  simp only [IsConfirmed, hblocks, List.mem_append, List.mem_singleton, or_and_right, exists_or,
    exists_eq_left]

omit [LinearOrder Txid] in
include hblocks in
theorem allSpent_block : next.blocks.flatMap LabBlock.spent =
    state.blocks.flatMap LabBlock.spent ++ (blockOf state address entries).spent := by
  rw [hblocks, List.flatMap_append, List.flatMap_singleton]

include hinv hfunded in
/-- What the block creates is not among the outputs that are there. -/
theorem notMem_of_mem_created {utxo : LabUtxo Txid}
    (hutxo : utxo ∈ (blockOf state address entries).created env) :
    utxo.outpoint ∉ state.utxos.map LabUtxo.outpoint := by
  intro hold
  obtain ⟨old, hmem, heq⟩ := List.mem_map.mp hold
  obtain ⟨transaction, htransaction, hcreated⟩ := hinv.created old hmem
  apply created_fresh hinv hfunded hutxo htransaction
  rw [← (mem_newUtxosOf_iff.mp hcreated).1]
  exact (congrArg LabOutpoint.txid heq).symm

include hinv hfunded hblocks in
/-- Each input of the longer chain was unspent before its block. -/
theorem wasUnspent_block {before after : List (LabBlock Txid)} {block : LabBlock Txid}
    (hsplit : next.blocks = before ++ block :: after)
    (htransaction : transaction ∈ block.transactions) {input : LabOutpoint Txid}
    (hinput : input ∈ transaction.inputs) :
    input ∈ (ledger env before).map LabUtxo.outpoint := by
  rw [hblocks] at hsplit
  cases List.eq_nil_or_concat after with
  | inl hnil =>
    rw [hnil] at hsplit
    obtain ⟨hbefore, hblock⟩ := List.append_inj' hsplit rfl
    cases hblock
    rw [← hbefore, ← hinv.conserved.ledger_eq]
    exact unspent_of_mem_spent hfunded (List.mem_flatMap.mpr ⟨transaction, htransaction, hinput⟩)
  | inr hconcat =>
    obtain ⟨others, last, rfl⟩ := hconcat
    rw [List.concat_eq_append, ← List.cons_append, ← List.append_assoc] at hsplit
    obtain ⟨hold, _⟩ := List.append_inj' hsplit rfl
    exact hinv.conserved.wasUnspent before block others hold transaction htransaction input hinput

include hinv hfunded hcompatible hblocks hutxos in
/-- The block adds its subsidy to what the unspent outputs are worth. -/
theorem supply_block : (next.utxos.map LabUtxo.amountSats).sum =
    (next.blocks.map LabBlock.subsidySats).sum := by
  obtain ⟨taken, htakes, htaken⟩ := exists_taken_of_funded hfunded
  have hspent : (blockOf state address entries).spent = entries.flatMap inputs :=
    spent_blockOf hfunded
  rw [← hspent] at htakes
  have hsum := htakes.sum_eq LabUtxo.amountSats hinv.nodup (nodup_spent_blockOf hfunded hcompatible)
  rw [hutxos, hblocks, List.map_append, List.sum_append, List.map_append, List.sum_append,
    ← hinv.conserved.supply, sum_created_blockOf hfunded]
  show _ = _ + (state.minerSubsidySats + 0)
  omega

include hinv hfunded hcompatible hblocks hutxos in
theorem conserved_block : Conserved env next where
  ledger_eq := by
    rw [hutxos, hblocks, ledger, List.foldl_append, hinv.conserved.ledger_eq]
    rfl
  spentOnce := by
    rw [allSpent_block hblocks]
    apply List.Nodup.append hinv.conserved.spentOnce (nodup_spent_blockOf hfunded hcompatible)
    intro outpoint hold hnew
    exact hinv.spentGone outpoint hold (unspent_of_mem_spent hfunded hnew)
  wasUnspent := by
    intro before block after hsplit transaction htransaction input hinput
    exact wasUnspent_block hinv hfunded hblocks hsplit htransaction hinput
  supply := supply_block hinv hfunded hcompatible hblocks hutxos

include hinv hfunded hblocks hutxos in
/-- What any block has spent is not unspent after this one. -/
theorem spentGone_block {outpoint : LabOutpoint Txid}
    (hmem : outpoint ∈ next.blocks.flatMap LabBlock.spent) :
    outpoint ∉ next.utxos.map LabUtxo.outpoint := by
  intro hunspent
  rw [hutxos, List.map_append] at hunspent
  rw [allSpent_block hblocks] at hmem
  cases List.mem_append.mp hunspent with
  | inl hremaining =>
    obtain ⟨utxo, hutxo, rfl⟩ := List.mem_map.mp hremaining
    have hremains := mem_remainingCoins.mp hutxo
    cases List.mem_append.mp hmem with
    | inl hold => exact hinv.spentGone _ hold (List.mem_map_of_mem hremains.1)
    | inr hnew => exact hremains.2 hnew
  | inr hcreated =>
    obtain ⟨utxo, hutxo, rfl⟩ := List.mem_map.mp hcreated
    cases List.mem_append.mp hmem with
    | inl hold =>
      obtain ⟨transaction, htransaction, htxid⟩ := hinv.spentCreated _ hold
      exact created_fresh hinv hfunded hutxo htransaction htxid
    | inr hnew =>
      exact notMem_of_mem_created hinv hfunded hutxo (unspent_of_mem_spent hfunded hnew)

include hinv hfunded hcompatible hblocks hutxos in
/-- The next block, with entries that can stand in one block and spend unspent outputs, keeps the
invariant. -/
theorem ChainInv.block : ChainInv env next where
  conserved := conserved_block hinv hfunded hcompatible hblocks hutxos
  nodup := by
    rw [hutxos]
    exact nodup_remainingCoins_append hinv.nodup
      (nodup_created (nodup_transactions_blockOf hfunded hcompatible))
      fun utxo => notMem_of_mem_created hinv hfunded
  spentGone outpoint := spentGone_block hinv hfunded hblocks hutxos
  created := by
    intro utxo hutxo
    rw [hutxos] at hutxo
    simp only [isConfirmed_block_iff hblocks]
    cases List.mem_append.mp hutxo with
    | inl hremaining =>
      obtain ⟨transaction, htransaction, hcreated⟩ :=
        hinv.created utxo (mem_remainingCoins.mp hremaining).1
      exact ⟨transaction, .inl htransaction, hcreated⟩
    | inr hnew =>
      obtain ⟨transaction, htransaction, hcreated⟩ := mem_created_iff.mp hnew
      exact ⟨transaction, .inr htransaction, hcreated⟩
  spentCreated := by
    intro outpoint hmem
    rw [allSpent_block hblocks] at hmem
    simp only [isConfirmed_block_iff hblocks]
    cases List.mem_append.mp hmem with
    | inl hspentBefore =>
      obtain ⟨transaction, htransaction, htxid⟩ := hinv.spentCreated outpoint hspentBefore
      exact ⟨transaction, .inl htransaction, htxid⟩
    | inr hnew =>
      obtain ⟨utxo, hutxo, rfl⟩ := List.mem_map.mp (unspent_of_mem_spent hfunded hnew)
      obtain ⟨transaction, htransaction, hcreated⟩ := hinv.created utxo hutxo
      exact ⟨transaction, .inl htransaction, (mem_newUtxosOf_iff.mp hcreated).1⟩
  heights := by
    intro height output hcoinbase
    have hnext : nextHeight next = nextHeight state + 1 := by
      rw [nextHeight, hblocks, List.getLast?_concat]
      rfl
    rw [hnext]
    cases (isConfirmed_block_iff hblocks _).mp hcoinbase with
    | inl hold => exact Nat.lt_succ_of_lt (hinv.heights height output hold)
    | inr hnew =>
      cases mem_blockOf hnew with
      | inl heq =>
        obtain ⟨other, heq⟩ := heq
        cases heq
        exact Nat.lt_succ_self _
      | inr heq =>
        obtain ⟨entry, _, heq⟩ := heq
        cases heq

end NextBlock

end Block

end Chain

end Bitboard.Frontend
