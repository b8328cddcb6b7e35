/-
# Conservation over runs of the lab

The coins of the lab are conserved in every run in which a transaction is put into the mempool
only while all of its inputs are unspent. Nothing checks this: a prepared transaction that is
signed and put into the mempool after its inputs have been spent is mined once more.
-/

import Bitboard.Frontend.LabChainRuns
import Bitboard.Frontend.LabEnvironments
import Bitboard.Frontend.LabOperations

namespace Bitboard.Frontend

open Bitboard.Lib

section Conservation

variable {Txid : Type} [LinearOrder Txid] {env : LabEnvironment Txid}
variable (env) in
/-- The chain conserves coins, owners are known for addresses only, and the mempool spends
unspent outputs for its recorded fees. -/
structure ConservingState (state : LabState Txid) : Prop where
  chain : ChainInv env state
  payable : PayableKeys env state.addressToOwner
  mempool : ∀ entry ∈ state.mempool, Funded env state.utxos entry

variable {entries : List (MempoolEntry Txid)}

section States

variable {state next : LabState Txid}

theorem ConservingState.congr (h : ConservingState env state)
    (hblocks : next.blocks = state.blocks) (hutxos : next.utxos = state.utxos)
    (hmempool : next.mempool = state.mempool)
    (hkeys : PayableKeys env next.addressToOwner) : ConservingState env next where
  chain := h.chain.congr hblocks hutxos
  payable := hkeys
  mempool := by
    rw [hmempool, hutxos]
    exact h.mempool

omit [LinearOrder Txid] in
/-- A coinbase and funded entries pay to addresses in their usual form. -/
theorem usualOutputs_of_mem_blockOf {address : String} (haddress : IsUsual env address)
    (hfunded : ∀ entry ∈ entries, Funded env state.utxos entry) {transaction : LabTransaction Txid}
    (hmem : transaction ∈ (blockOf state address entries).transactions) :
    UsualOutputs env transaction.outputs := by
  cases List.mem_cons.mp hmem with
  | inl hcoinbase =>
    intro output houtput
    rw [hcoinbase] at houtput
    rw [List.mem_singleton.mp houtput]
    exact ⟨address, rfl, haddress⟩
  | inr hspend =>
    obtain ⟨signedTx, hsigned, rfl⟩ := List.mem_map.mp hspend
    obtain ⟨entry, hentry, rfl⟩ := List.mem_map.mp hsigned
    exact (hfunded entry hentry).usual

/-- A block of entries that can stand together, after which those of the mempool are kept that
spend nothing in common with them. -/
theorem ConservingState.block (h : ConservingState env state) {address : String}
    (haddress : IsUsual env address) (hentries : ∀ entry ∈ entries, entry ∈ state.mempool)
    (hcompatible : entries.Pairwise Compatible)
    (hnext : applyBlockEffects env state (blockOf state address entries) = .ok next) :
    ConservingState env (afterFirstBlock next entries) := by
  have hfunded : ∀ entry ∈ entries, Funded env state.utxos entry := by
    intro entry hentry
    exact h.mempool entry (hentries entry hentry)
  obtain ⟨_, work, hwork, rfl⟩ := applyBlockEffects_eq_ok.mp hnext
  constructor
  · exact h.chain.block hfunded hcompatible rfl rfl
  · apply applyTransactions_payableKeys h.payable _ hwork
    intro transaction htransaction
    exact usualOutputs_of_mem_blockOf haddress hfunded (mem_of_mem_effectTransactions htransaction)
  · intro entry hentry
    obtain ⟨hmem, hkept⟩ := List.mem_filter.mp hentry
    rw [Bool.and_eq_true, Bool.not_eq_true', Bool.not_eq_true', List.any_eq_false,
      List.any_eq_false] at hkept
    apply (h.mempool entry hmem).of_remaining
    intro input hinput hspent
    rw [spent_blockOf hfunded] at hspent
    obtain ⟨selected, hselected, hshared⟩ := List.mem_flatMap.mp hspent
    have hdisjoint := Bool.eq_false_iff.mpr (hkept.2 selected hselected)
    exact overlaps_eq_false_iff.mp hdisjoint input hinput hshared

theorem mempoolAfterBlock_nil (mempool : List (MempoolEntry Txid)) :
    mempoolAfterBlock mempool [] = mempool := by
  simp [mempoolAfterBlock]

theorem ConservingState.executeMineBlocks (h : ConservingState env state)
    {blockCountToMine : Nat} {targetAddress : String} {options : MineOptions}
    {entityAddress : WalletAddress env}
    (hnext : executeMineBlocks env state blockCountToMine targetAddress options
      entityAddress = .ok next) : ConservingState env next := by
  obtain ⟨_, coinbaseAddress, ownerForCoinbase, entities, address, _, hparse, hmine⟩ :=
    executeMineBlocks_eq_ok.mp hnext
  have haddress : IsUsual env address := (env.parseAddress_text hparse).1
  generalize hstate : stateForCoinbase state coinbaseAddress
    ((options.ownerWalletId.map LabOwner.wallet).or ownerForCoinbase) entities = start at hmine
  have hstart : ConservingState env start := by
    rw [← hstate]
    refine h.congr rfl rfl rfl ?_
    unfold stateForCoinbase
    dsimp only
    split
    · exact h.payable
    · exact h.payable.set ⟨address, hparse⟩ _
  obtain ⟨first, hfirst, hempty⟩ := mineWithMempool_eq_ok.mp hmine
  obtain ⟨hmem, hcompatible⟩ :=
    selectMempoolTxsForBlock_compatible start.mempool (some start.blockWeightLimit)
  apply mineEmptyBlocks_invariant (ConservingState env) _ _ hempty
  · intro state next hblock hconserving
    have hnone : ∀ entry ∈ ([] : List (MempoolEntry Txid)), entry ∈ state.mempool := by simp
    have hafter := hconserving.block haddress hnone List.Pairwise.nil hblock
    refine hafter.congr rfl rfl ?_ hafter.payable
    exact (mempoolAfterBlock_nil next.mempool).symm
  · exact hstart.block haddress hmem hcompatible hfirst

end States

/-- The inputs of a prepared transaction are distinct, and are outputs of transactions. -/
structure PreparedFromChain (prepared : PreparedLabTransaction env) : Prop where
  inv : PreparedInv prepared
  nodup : (prepared.fromUtxos.map LabUtxo.outpoint).Nodup
  created : ∀ utxo ∈ prepared.fromUtxos, ∃ transaction, utxo ∈ newUtxosOf env transaction

variable {prepared : PreparedLabTransaction env} {state : LabState Txid}

theorem ChainInv.preparedFromChain (h : ChainInv env state)
    (hprepared : PreparedInv prepared) {keeps : LabUtxo Txid → Bool}
    (hutxos : prepared.fromUtxos = state.utxos.filter keeps) :
    PreparedFromChain prepared where
  inv := hprepared
  nodup := by
    rw [hutxos]
    exact h.nodup.sublist (List.filter_sublist.map _)
  created := by
    intro utxo hutxo
    rw [hutxos] at hutxo
    obtain ⟨transaction, _, hcreated⟩ := h.created utxo (List.mem_of_mem_filter hutxo)
    exact ⟨transaction, hcreated⟩

theorem PreparedFromChain.takesCoins (hinv : ChainInv env state)
    (h : PreparedFromChain prepared)
    (hunspent : ∀ input ∈ prepared.mempoolMetadata.inputs,
      input ∈ state.utxos.map LabUtxo.outpoint) :
    TakesCoins LabUtxo.outpoint state.utxos prepared.mempoolMetadata.inputs
      prepared.fromUtxos where
  keys_eq := h.inv.inputs_eq.symm
  mem := by
    intro utxo hutxo
    have hinput : utxo.outpoint ∈ prepared.mempoolMetadata.inputs := by
      rw [h.inv.inputs_eq]
      exact List.mem_map_of_mem hutxo
    obtain ⟨found, hfound, houtpoint⟩ := List.mem_map.mp (hunspent _ hinput)
    obtain ⟨first, hfirst⟩ := h.created utxo hutxo
    obtain ⟨second, _, hsecond⟩ := hinv.created found hfound
    rwa [(eq_of_mem_newUtxosOf hfirst hsecond houtpoint.symm).1]

variable {mempoolMetadata : LabMempoolMetadata Txid} {signedTx : SignedLabTransaction Txid}
  {changeAddress : WalletAddress env}

omit [LinearOrder Txid] in
theorem Signs.usualOutputs {prepared : PreparedLabTransaction env} {payAddress : String}
    (h : Signs prepared changeAddress signedTx mempoolMetadata payAddress) :
    UsualOutputs env signedTx.outputs := by
  intro output houtput
  cases h.addresses output houtput with
  | inl hpay => exact ⟨payAddress, hpay, (env.parseAddress_text h.parsed).1⟩
  | inr hchange => exact ⟨changeAddress.1, hchange, changeAddress.2⟩

/-- A transaction that is put into the mempool while its inputs are unspent is funded. -/
theorem ConservingState.append (h : ConservingState env state)
    (hprepared : PreparedFromChain prepared) {payAddress : String}
    (hsigns : Signs prepared changeAddress signedTx mempoolMetadata payAddress)
    (hunspent : ∀ input ∈ signedTx.inputs, input ∈ state.utxos.map LabUtxo.outpoint)
    (sender : LabOwner) (change : Option String) :
    ConservingState env (appendLabTxOperationAndMempoolEntry env state signedTx
      mempoolMetadata sender change) where
  chain := h.chain.congr rfl rfl
  payable := h.payable
  mempool := by
    intro entry hentry
    cases List.mem_append.mp hentry with
    | inl hold => exact h.mempool entry hold
    | inr hnew =>
      rw [List.mem_singleton.mp hnew]
      have hinputs : mempoolMetadata.inputs = prepared.fromUtxos.map LabUtxo.outpoint := by
        rw [hsigns.metadata_inputs, hprepared.inv.inputs_eq]
      rw [hsigns.inputs_eq] at hunspent
      constructor
      · show mempoolMetadata.inputs = signedTx.inputs
        rw [hsigns.metadata_inputs, hsigns.inputs_eq]
      · rfl
      · show mempoolMetadata.inputs ≠ []
        rw [hinputs]
        simpa using hprepared.inv.fromUtxos_ne
      · show mempoolMetadata.inputs.Nodup
        rw [hinputs]
        exact hprepared.nodup
      · exact hsigns.usualOutputs
      · refine ⟨prepared.fromUtxos, ?_, ?_⟩
        · show TakesCoins LabUtxo.outpoint state.utxos mempoolMetadata.inputs prepared.fromUtxos
          rw [hsigns.metadata_inputs]
          exact hprepared.takesCoins h.chain hunspent
        · rw [← hprepared.inv.totalInput_eq]
          exact hsigns.trueFee

structure ConservingSystem (system : LabSystem env) : Prop where
  state : ConservingState env system.state
  prepared : ∀ id prepared, system.prepared id = some prepared → PreparedFromChain prepared

/-- What the operation puts into the mempool spends outputs that are unspent then. -/
def SubmitsUnspent (system : LabSystem env) (op : LabOp env) : Prop :=
  ∀ submission, system.submission op = some submission →
    ∀ input ∈ submission.signedTx.inputs, input ∈ system.state.utxos.map LabUtxo.outpoint

instance (system : LabSystem env) (op : LabOp env) : Decidable (SubmitsUnspent system op) :=
  decidable_of_iff (∀ submission ∈ (system.submission op).toList,
    ∀ input ∈ submission.signedTx.inputs,
      (system.state.utxos.map LabUtxo.outpoint).contains input = true) (by
      simp only [Option.mem_toList, List.contains_iff_mem]
      rfl)

section Steps

variable {system : LabSystem env}

theorem ConservingSystem.store (h : ConservingSystem system)
    {outcome : Except String (LabState Txid)}
    (houtcome : ∀ next, outcome = .ok next → ConservingState env next) :
    ConservingSystem (system.store outcome) := by
  cases outcome with
  | error message => exact h
  | ok next => exact ⟨houtcome next rfl, h.prepared⟩

theorem ConservingSystem.keep (h : ConservingSystem system) (id : Nat)
    {outcome : Except String (PreparedLabTransaction env)}
    (houtcome : ∀ prepared, outcome = .ok prepared →
      PreparedInv prepared ∧ ∃ keeps, prepared.fromUtxos = system.state.utxos.filter keeps) :
    ConservingSystem (system.keep id outcome) where
  state := by
    cases outcome with
    | error | ok => exact h.state
  prepared := by
    intro other prepared hprepared
    cases keep_prepared hprepared with
    | inl hold => exact h.prepared other prepared hold
    | inr hnew =>
      obtain ⟨hinv, keeps, hutxos⟩ := houtcome prepared hnew
      exact h.state.chain.preparedFromChain hinv hutxos

theorem ConservingSystem.submit (h : ConservingSystem system) (id : Nat)
    (entityChangeAddress : Option (WalletAddress env)) (signing : LabSigning)
    (hunspent : ∀ submission, system.accepted id entityChangeAddress signing = some submission →
      ∀ input ∈ submission.signedTx.inputs, input ∈ system.state.utxos.map LabUtxo.outpoint) :
    ConservingSystem (system.submit id entityChangeAddress signing) where
  state := by
    have hspec := submit_spec (fun id prepared hid => (h.prepared id prepared hid).inv) id
      entityChangeAddress signing
    cases hspec with
    | inl hsame =>
      rw [hsame]
      exact h.state
    | inr hsubmitted =>
      obtain ⟨submission, prepared, payAddress, sender, haccepted, hid, _, hsigns, hnext⟩ :=
        hsubmitted
      rw [hnext]
      exact h.state.append (h.prepared id prepared hid) hsigns
        (hunspent submission haccepted) sender _
  prepared := fun other prepared hprepared =>
    h.prepared other prepared (submit_prepared hprepared)

theorem conservingSystem_labStep (op : LabOp env) (hguard : SubmitsUnspent system op)
    (h : ConservingSystem system) : ConservingSystem (labStep system op) := by
  have hkeys := h.state.payable
  cases op with
  | prepareEntity id labEntityId fromAddress toAddress amountSats active =>
    apply h.keep
    intro prepared hprepared
    exact prepareLabEntityTransaction_eq_ok hkeys hprepared
  | prepareWallet id walletId toAddress amountSats currentAddress changeAddress outpoints =>
    apply h.keep
    intro prepared hprepared
    exact prepareLabWalletTransaction_eq_ok hkeys hprepared
  | finalize id changeAddress signing => exact h.submit id (some changeAddress) signing hguard
  | addSigned id signing => exact h.submit id none signing hguard
  | assignRandomRecipient labEntityId entityAddress =>
    apply h.store
    intro next hnext
    rw [assignRandomRecipient_eq_ok hnext]
    exact h.state.congr rfl rfl rfl (hkeys.set ⟨_, entityAddress.2⟩ _)
  | mineBlocks blockCountToMine targetAddress options entityAddress =>
    apply h.store
    intro next hnext
    exact h.state.executeMineBlocks hnext
  | createEntity ownerName entityAddress =>
    apply h.store
    intro next hnext
    obtain ⟨entities, rfl⟩ := createLabEntity_eq_ok hnext
    exact h.state.congr rfl rfl rfl (hkeys.set ⟨_, entityAddress.2⟩ _)
  | renameEntity labEntityId newName =>
    apply h.store
    intro next hnext
    obtain ⟨entities, rfl⟩ := renameLabEntity_eq_ok hnext
    exact h.state.congr rfl rfl rfl hkeys
  | setEntityDead labEntityId dead =>
    apply h.store
    intro next hnext
    obtain ⟨entities, rfl⟩ := updateLabEntity_eq_ok hnext
    exact h.state.congr rfl rfl rfl hkeys
  | deleteEntity labEntityId =>
    apply h.store
    intro next hnext
    obtain ⟨_, entities, rfl⟩ := deleteLabEntity_eq_ok hnext
    refine h.state.congr rfl rfl rfl ?_
    intro entry hentry
    exact hkeys entry (List.mem_of_mem_filter hentry)
  | setBlockWeightLimit blockWeightLimit =>
    apply h.store
    intro next hnext
    rw [setBlockWeightLimit_eq_ok hnext]
    exact h.state.congr rfl rfl rfl hkeys
  | setMinerSubsidySats minerSubsidySats =>
    show ConservingSystem (system.store (setMinerSubsidySats system.state minerSubsidySats))
    apply h.store
    intro next hnext
    cases hnext
    exact h.state.congr rfl rfl rfl hkeys

end Steps

theorem conservingSystem_initial : ConservingSystem (initialLabSystem env) where
  state := by
    constructor
    · constructor
      · constructor
        · rfl
        · exact List.nodup_nil
        · intro before block after hsplit
          simp [initialLabSystem] at hsplit
        · rfl
      · exact List.nodup_nil
      · simp [initialLabSystem]
      · simp [initialLabSystem]
      · simp [initialLabSystem]
      · simp [initialLabSystem, IsConfirmed]
    · intro entry hentry
      cases hentry
    · intro entry hentry
      cases hentry
  prepared := by
    intro id prepared hprepared
    cases hprepared

/-- In a run in which each transaction is put into the mempool while its inputs are unspent, the
chain conserves coins, and every recorded fee is what the outputs leave of unspent inputs. -/
theorem lab_conserves_coins (ops : List (LabOp env))
    (hmeets : RunMeets labStep SubmitsUnspent (initialLabSystem env) ops) :
    Conserved env (labRun env ops).state :=
  (run_invariant_of_runMeets ConservingSystem (fun _ op => conservingSystem_labStep op)
    conservingSystem_initial hmeets).state.chain.conserved

end Conservation

def usualAddress (text : String) (h : isUsualText text = true) : WalletAddress codedEnvironment :=
  ⟨text, if_pos h⟩

def payerAddress : WalletAddress codedEnvironment :=
  usualAddress "bcrt1qqyqszqgpqyqszqgpqyqszqgpqyqszqgpvxat9t" (by decide +kernel)

def payeeAddress : WalletAddress codedEnvironment :=
  usualAddress "bcrt1qqgpqyqszqgpqyqszqgpqyqszqgpqyqszazmwwa" (by decide +kernel)

def firstChangeAddress : WalletAddress codedEnvironment :=
  usualAddress "bcrt1qqvpsxqcrqvpsxqcrqvpsxqcrqvpsxqcruj60yu" (by decide +kernel)

def secondChangeAddress : WalletAddress codedEnvironment :=
  usualAddress "bcrt1qqszqgpqyqszqgpqyqszqgpqyqszqgpqyuza2rq" (by decide +kernel)

def mineToPayer : LabOp codedEnvironment :=
  .mineBlocks 1 "" { ownerName := none, ownerLabEntityId := some 1, ownerWalletId := none }
    payerAddress

def preparePayment (id : Nat) : LabOp codedEnvironment :=
  .prepareEntity id 1 payerAddress.1 payeeAddress.1 1000 none

def paymentSigning : LabSigning where
  finalAmountSats := 1000
  changeSats := some 312498800
  changeFirst := false
  weight := 561

def paymentRun : List (LabOp codedEnvironment) := [
  .createEntity none payerAddress,
  .createEntity none payeeAddress,
  mineToPayer,
  preparePayment 0,
  .finalize 0 firstChangeAddress paymentSigning,
  mineToPayer]

theorem lab_conserves_coins_one_payment :
    Conserved codedEnvironment (labRun codedEnvironment paymentRun).state :=
  lab_conserves_coins paymentRun (by decide +kernel)

def staleSpendRun : List (LabOp codedEnvironment) := [
  .createEntity none payerAddress,
  .createEntity none payeeAddress,
  mineToPayer,
  preparePayment 0,
  .finalize 0 firstChangeAddress paymentSigning,
  preparePayment 1,
  mineToPayer,
  .finalize 1 secondChangeAddress paymentSigning,
  mineToPayer]

theorem stale_spend_confirmed_twice :
    ¬ Conserved codedEnvironment (labRun codedEnvironment staleSpendRun).state := by
  intro hconserved
  have hspent : ¬ ((labRun codedEnvironment staleSpendRun).state.blocks.flatMap
      LabBlock.spent).Nodup := by decide +kernel
  exact hspent hconserved.spentOnce

end Bitboard.Frontend
