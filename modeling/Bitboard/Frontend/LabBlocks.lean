/-
# Blocks of the lab chain

What a block spends and creates, which entries of the mempool can stand in one block, and what
is stored when blocks are applied one after the other.
-/

import Bitboard.Frontend.LabOwners
import Bitboard.Lib.Coins

namespace Bitboard.Frontend

open Bitboard.Lib

section Blocks

variable {Txid : Type} [LinearOrder Txid]

def LabBlock.spent (block : LabBlock Txid) : List (LabOutpoint Txid) :=
  block.transactions.flatMap LabTransaction.inputs

def LabBlock.created (env : LabEnvironment Txid) (block : LabBlock Txid) : List (LabUtxo Txid) :=
  block.transactions.flatMap (newUtxosOf env)

variable {env : LabEnvironment Txid}
variable {transaction : LabTransaction Txid}

omit [LinearOrder Txid] in
theorem mem_newUtxosOf_iff {utxo : LabUtxo Txid} :
    utxo ∈ newUtxosOf env transaction ↔ utxo.txid = env.txid transaction ∧
      transaction.outputs[utxo.vout]? =
        some { address := some utxo.address, amountSats := utxo.amountSats } := by
  rw [newUtxosOf, List.mem_filterMap]
  constructor
  · intro h
    obtain ⟨output, houtput, heq⟩ := h
    obtain ⟨address, haddress, heq⟩ := Option.map_eq_some_iff.mp heq
    have hget := List.mem_zipIdx_iff_getElem?.mp houtput
    rw [← heq]
    refine ⟨rfl, ?_⟩
    rw [hget, ← haddress]
  · intro h
    refine ⟨(_, utxo.vout), List.mem_zipIdx_iff_getElem?.mpr h.2, ?_⟩
    rw [← h.1]
    rfl

omit [LinearOrder Txid] in
/-- An output is known by its outpoint. -/
theorem eq_of_mem_newUtxosOf {first second : LabTransaction Txid} {utxo other : LabUtxo Txid}
    (hutxo : utxo ∈ newUtxosOf env first) (hother : other ∈ newUtxosOf env second)
    (houtpoint : utxo.outpoint = other.outpoint) : utxo = other ∧ first = second := by
  obtain ⟨htxid, hget⟩ := mem_newUtxosOf_iff.mp hutxo
  obtain ⟨hotherTxid, hotherGet⟩ := mem_newUtxosOf_iff.mp hother
  have htxids : utxo.txid = other.txid := congrArg LabOutpoint.txid houtpoint
  have hvouts : utxo.vout = other.vout := congrArg LabOutpoint.vout houtpoint
  have hsame : first = second := by
    apply env.txid_injective
    rw [← htxid, ← hotherTxid, htxids]
  rw [← hsame, ← hvouts, hget] at hotherGet
  cases utxo
  cases other
  cases hotherGet
  cases htxids
  cases hvouts
  exact ⟨rfl, hsame⟩

omit [LinearOrder Txid] in
theorem nodup_newUtxosOf (transaction : LabTransaction Txid) :
    ((newUtxosOf env transaction).map LabUtxo.outpoint).Nodup := by
  apply List.Nodup.of_map LabOutpoint.vout
  rw [List.map_map]
  have hsublist : ((newUtxosOf env transaction).map
      (LabOutpoint.vout ∘ LabUtxo.outpoint)).Sublist
        (transaction.outputs.zipIdx.map Prod.snd) := by
    unfold newUtxosOf
    generalize transaction.outputs.zipIdx = outputs
    induction outputs with
    | nil => exact List.Sublist.refl _
    | cons output outputs ih =>
      cases hutxo : utxoOfOutput (env.txid transaction) output.1 output.2 with
      | none =>
        simp only [List.filterMap_cons, hutxo, List.map_cons]
        exact ih.cons _
      | some utxo =>
        obtain ⟨address, _, heq⟩ := Option.map_eq_some_iff.mp hutxo
        simp only [List.filterMap_cons, hutxo, List.map_cons]
        rw [← heq]
        exact ih.cons_cons _
  apply List.Nodup.sublist hsublist
  rw [List.zipIdx_map_snd]
  exact List.nodup_range'

omit [LinearOrder Txid] in
/-- Where all outputs have addresses, the new outputs are worth all of them. -/
theorem sum_newUtxosOf (husual : UsualOutputs env transaction.outputs) :
    ((newUtxosOf env transaction).map LabUtxo.amountSats).sum =
      (transaction.outputs.map LabTxOutput.amountSats).sum := by
  have hzip : ∀ (outputs : List LabTxOutput) (start : Nat), UsualOutputs env outputs →
      (((outputs.zipIdx start).filterMap fun output =>
        utxoOfOutput (env.txid transaction) output.1 output.2).map
          LabUtxo.amountSats).sum = (outputs.map LabTxOutput.amountSats).sum := by
    intro outputs
    induction outputs with
    | nil => exact fun _ _ => rfl
    | cons output outputs ih =>
      intro start houtputs
      obtain ⟨address, haddress, _⟩ := houtputs output List.mem_cons_self
      have hrest := ih (start + 1) fun other hother =>
        houtputs other (List.mem_cons_of_mem _ hother)
      have hutxo : utxoOfOutput (env.txid transaction) output start = some {
          txid := env.txid transaction
          vout := start
          address
          amountSats := output.amountSats } := by
        rw [utxoOfOutput, haddress]
        rfl
      simp only [List.zipIdx_cons, List.filterMap_cons, hutxo, List.map_cons, List.sum_cons, hrest]
  exact hzip _ 0 husual

theorem removeSpentUtxos_eq (utxos : List (LabUtxo Txid)) (spent : List (LabOutpoint Txid)) :
    removeSpentUtxos utxos spent = remainingCoins LabUtxo.outpoint utxos spent := by
  unfold removeSpentUtxos remainingCoins
  induction spent generalizing utxos with
  | nil => simp
  | cons outpoint spent ih =>
    rw [List.foldl_cons, ih, List.filter_filter]
    apply List.filter_congr
    intro utxo _
    rw [Bool.eq_iff_iff]
    simp only [Bool.and_eq_true, decide_eq_true_eq, List.mem_cons, not_or]
    exact and_comm

def Compatible (first second : MempoolEntry Txid) : Prop :=
  first.txid ≠ second.txid ∧ ∀ input ∈ first.inputs, input ∉ second.inputs

theorem overlaps_eq_false_iff {first second : MempoolEntry Txid} :
    overlaps first second = false ↔ ∀ input ∈ first.inputs, input ∉ second.inputs := by
  simp [overlaps]

theorem selectRounds_compatible (sortedEntries : List (MempoolEntry Txid)) (rounds : Nat)
    (selectedEntries : List (MempoolEntry Txid)) (remainingWeight : Nat)
    (hmem : ∀ entry ∈ selectedEntries, entry ∈ sortedEntries)
    (hpairwise : selectedEntries.Pairwise Compatible) :
    (∀ entry ∈ selectRounds sortedEntries rounds selectedEntries remainingWeight,
        entry ∈ sortedEntries) ∧
      (selectRounds sortedEntries rounds selectedEntries remainingWeight).Pairwise
        Compatible := by
  induction rounds generalizing selectedEntries remainingWeight with
  | zero => exact ⟨hmem, hpairwise⟩
  | succ rounds ih =>
    rw [selectRounds]
    split
    · exact ⟨hmem, hpairwise⟩
    · rename_i entry hentry
      have hselectable := List.find?_some hentry
      simp only [isSelectable, Bool.and_eq_true, Bool.not_eq_true', List.any_eq_false,
        decide_eq_true_eq] at hselectable
      apply ih
      · intro other hother
        cases List.mem_append.mp hother with
        | inl hold => exact hmem other hold
        | inr hnew =>
          rw [List.mem_singleton.mp hnew]
          exact List.mem_of_find?_eq_some hentry
      · apply List.pairwise_append.mpr
        refine ⟨hpairwise, List.pairwise_singleton _ _, ?_⟩
        intro selected hselected other hother
        rw [List.mem_singleton.mp hother]
        have hdisjoint := overlaps_eq_false_iff.mp
          (Bool.eq_false_iff.mpr (hselectable.2 selected hselected))
        constructor
        · exact hselectable.1.1 selected hselected
        · intro input hinput hentryInput
          exact hdisjoint input hentryInput hinput

theorem selectMempoolTxsForBlock_compatible (mempool : List (MempoolEntry Txid))
    (blockWeightLimit : Option Int) :
    (∀ entry ∈ selectMempoolTxsForBlock mempool blockWeightLimit, entry ∈ mempool) ∧
      (selectMempoolTxsForBlock mempool blockWeightLimit).Pairwise Compatible := by
  obtain ⟨hmem, hpairwise⟩ := selectRounds_compatible (mempool.mergeSort standsBefore)
    mempool.length [] (blockWeightLimit.getD LAB_DEFAULT_BLOCK_WEIGHT_UNITS).toNat (by simp)
    List.Pairwise.nil
  constructor
  · intro entry hentry
    exact List.mem_mergeSort.mp (hmem entry hentry)
  · exact hpairwise

omit [LinearOrder Txid] in
/-- Only transactions of the block are reported. -/
theorem mem_of_mem_effectTransactions {transactions : List (LabTransaction Txid)}
    (h : transaction ∈ effectTransactions transactions) : transaction ∈ transactions := by
  cases transactions with
  | nil => cases h
  | cons first others =>
    cases List.mem_cons.mp h with
    | inl hfirst => exact List.mem_cons.mpr (.inl hfirst)
    | inr hother => exact List.mem_cons_of_mem _ (List.mem_of_mem_filter hother)

variable {state next : LabState Txid}

/-- A block is applied if its amounts are numbers for the worker and a receiver is found for each
of its transactions. -/
theorem applyBlockEffects_eq_ok {block : LabBlock Txid} :
    applyBlockEffects env state block = .ok next ↔
      (∀ utxo ∈ block.created env, utxo.amountSats ≤ MAX_SAFE_INTEGER) ∧
        ∃ work, (effectTransactions block.transactions).foldlM
            (applyBlockTransaction env state block.height) state.blockWork = .ok work ∧
          next = { state with
            transactions := work.transactions
            txDetails := work.txDetails
            addressToOwner := work.addressToOwner
            utxos := remainingCoins LabUtxo.outpoint state.utxos block.spent ++
              block.created env
            blocks := state.blocks ++ [block] } := by
  unfold applyBlockEffects labBlockEffects
  dsimp only
  rw [show block.transactions.flatMap (newUtxosOf env) = block.created env from rfl,
    show block.transactions.flatMap LabTransaction.inputs = block.spent from rfl]
  cases hlarge : (block.created env).find? fun utxo =>
      decide (MAX_SAFE_INTEGER < utxo.amountSats) with
  | some utxo =>
    constructor
    · intro h
      cases h
    · intro h
      have hsmall := h.1 utxo (List.mem_of_find?_eq_some hlarge)
      have hutxo : MAX_SAFE_INTEGER < utxo.amountSats := by
        simpa using List.find?_some hlarge
      omega
  | none =>
    have hsmall : ∀ utxo ∈ block.created env, utxo.amountSats ≤ MAX_SAFE_INTEGER := by
      intro utxo hutxo
      simpa using List.find?_eq_none.mp hlarge utxo hutxo
    simp only [removeSpentUtxos_eq]
    constructor
    · intro h
      obtain ⟨effects, heffects, h⟩ := bind_eq_ok.mp h
      cases heffects
      obtain ⟨work, hwork, h⟩ := bind_eq_ok.mp h
      cases h
      exact ⟨hsmall, work, hwork, rfl⟩
    · intro h
      obtain ⟨_, work, hwork, hnext⟩ := h
      rw [hnext]
      apply bind_eq_ok.mpr
      refine ⟨_, rfl, bind_eq_ok.mpr ⟨work, hwork, rfl⟩⟩

theorem mineEmptyBlocks_invariant (inv : LabState Txid → Prop) {coinbaseOutput : Option String}
    (hblock : ∀ state next, applyBlockEffects env state
      (nextBlock state coinbaseOutput [] 0) = .ok next → inv state → inv next)
    {blocks : Nat} (hstate : inv state)
    (h : mineEmptyBlocks env coinbaseOutput blocks state = .ok next) : inv next := by
  induction blocks generalizing state with
  | zero =>
    cases h
    exact hstate
  | succ blocks ih =>
    obtain ⟨first, hfirst, hrest⟩ := bind_eq_ok.mp h
    exact ih (hblock state first hfirst hstate) hrest

/-- The state after the first block of a mining run. -/
def afterFirstBlock (first : LabState Txid) (selectedEntries : List (MempoolEntry Txid)) :
    LabState Txid :=
  { first with mempool := mempoolAfterBlock first.mempool selectedEntries }

theorem mineWithMempool_eq_ok {coinbaseOutput : Option String} {blockCountToMine : Nat} :
    mineWithMempool env state coinbaseOutput blockCountToMine = .ok next ↔
      ∃ first, applyBlockEffects env state (nextBlock state coinbaseOutput
          ((selectMempoolTxsForBlock state.mempool (some state.blockWeightLimit)).map
            MempoolEntry.signedTx)
          ((selectMempoolTxsForBlock state.mempool (some state.blockWeightLimit)).map
            MempoolEntry.feeSats).sum) = .ok first ∧
        mineEmptyBlocks env coinbaseOutput (blockCountToMine - 1)
          (afterFirstBlock first
            (selectMempoolTxsForBlock state.mempool (some state.blockWeightLimit))) = .ok next :=
  bind_eq_ok

/-- Mining succeeds if there is a target that a coinbase can pay to, and its blocks can be
applied. -/
theorem executeMineBlocks_eq_ok {blockCountToMine : Nat}
    {targetAddress : String} {options : MineOptions} {entityAddress : WalletAddress env} :
    executeMineBlocks env state blockCountToMine targetAddress options entityAddress = .ok next ↔
      (LAB_MIN_BLOCKS_PER_MINE ≤ blockCountToMine ∧
        blockCountToMine ≤ LAB_MAX_BLOCKS_PER_MINE) ∧
      ∃ coinbaseAddress ownerForCoinbase entities address,
        coinbaseTarget env state targetAddress options entityAddress =
            .ok (coinbaseAddress, ownerForCoinbase, entities) ∧
          env.parseAddress coinbaseAddress = some (some address) ∧
          mineWithMempool env (stateForCoinbase state coinbaseAddress
            ((options.ownerWalletId.map LabOwner.wallet).or ownerForCoinbase) entities)
            (some address) blockCountToMine = .ok next := by
  unfold executeMineBlocks
  by_cases hcount : blockCountToMine < LAB_MIN_BLOCKS_PER_MINE ∨
      LAB_MAX_BLOCKS_PER_MINE < blockCountToMine
  · rw [if_pos hcount]
    constructor
    · intro h
      cases h
    · intro h
      omega
  · rw [if_neg hcount]
    constructor
    · intro h
      obtain ⟨target, htarget, h⟩ := bind_eq_ok.mp h
      obtain ⟨coinbaseAddress, ownerForCoinbase, entities⟩ := target
      obtain ⟨coinbaseOutput, houtput, h⟩ := bind_eq_ok.mp h
      unfold coinbaseOutputOf at houtput
      split at houtput
      · rename_i address hparse
        cases houtput
        exact ⟨by omega, coinbaseAddress, ownerForCoinbase, entities, address, htarget, hparse, h⟩
      · cases houtput
      · cases houtput
    · intro h
      obtain ⟨_, coinbaseAddress, ownerForCoinbase, entities, address, htarget, hparse, h⟩ := h
      rw [htarget]
      apply bind_eq_ok.mpr
      refine ⟨_, rfl, bind_eq_ok.mpr ⟨some address, ?_, h⟩⟩
      rw [coinbaseOutputOf, hparse]

end Blocks

end Bitboard.Frontend
