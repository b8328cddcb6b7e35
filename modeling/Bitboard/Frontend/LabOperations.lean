/-
# What lab operations do

One lemma for each operation says what it makes of the stored state when it succeeds. Those of the
two steps of a transaction say what is kept when it is prepared, how its signed form follows from
that, and what is put into the mempool.
-/

import Bitboard.Frontend.LabBlocks

namespace Bitboard.Frontend

open Bitboard.Lib

variable {amountSats : Nat}

section Operations

variable {Txid : Type} {env : LabEnvironment Txid} {state next : LabState Txid}
variable {entityAddress : WalletAddress env}

theorem createLabEntity_eq_ok {ownerName : Option String}
    (h : createLabEntity env state ownerName entityAddress = .ok next) :
    ∃ entities, next = { state with
      entities
      addressToOwner := setLabOwner state.addressToOwner entityAddress.1
        (.labEntity (nextLabEntityId state.entities)) } := by
  unfold createLabEntity at h
  dsimp only at h
  split at h
  · cases h
    exact ⟨_, rfl⟩
  · split at h
    · cases h
    · cases h
      exact ⟨_, rfl⟩

variable {labEntityId : Nat}

theorem updateLabEntity_eq_ok {update : LabEntityRecord → LabEntityRecord}
    (h : updateLabEntity state labEntityId update = .ok next) :
    ∃ entities, next = { state with entities } := by
  unfold updateLabEntity at h
  split at h
  · cases h
  · cases h
    exact ⟨_, rfl⟩

theorem renameLabEntity_eq_ok {newName : String}
    (h : renameLabEntity state labEntityId newName = .ok next) :
    ∃ entities, next = { state with entities } := by
  unfold renameLabEntity at h
  dsimp only at h
  split at h
  · cases h
  · exact updateLabEntity_eq_ok h

theorem deleteLabEntity_eq_ok (h : deleteLabEntity state labEntityId = .ok next) :
    (∀ record ∈ state.transactions, record.sender ≠ some (.labEntity labEntityId) ∧
      record.receiver ≠ some (.labEntity labEntityId)) ∧
    ∃ entities, next = { state with
      entities
      addressToOwner := state.addressToOwner.filter fun entry =>
        entry.2 ≠ .labEntity labEntityId } := by
  unfold deleteLabEntity at h
  dsimp only at h
  split at h
  · cases h
  · split at h
    · cases h
    · rename_i htouches
      cases h
      refine ⟨?_, _, rfl⟩
      intro record hrecord
      rw [Bool.not_eq_true, Bool.or_eq_false_iff, List.any_eq_false] at htouches
      simpa [touchesTx] using htouches.1 record hrecord

theorem assignRandomRecipient_eq_ok
    (h : assignRandomRecipient env state labEntityId entityAddress = .ok next) :
    next = { state with
      addressToOwner :=
        setLabOwner state.addressToOwner entityAddress.1 (.labEntity labEntityId) } := by
  unfold assignRandomRecipient at h
  split at h
  · cases h
  · cases h
    rfl

theorem setBlockWeightLimit_eq_ok {blockWeightLimit : Nat}
    (h : setBlockWeightLimit state blockWeightLimit = .ok next) :
    next = { state with blockWeightLimit } := by
  unfold setBlockWeightLimit at h
  split at h
  · cases h
  · cases h
    rfl

/-- What is kept of a prepared transaction, whatever happens later: the inputs and what they are
worth, a receiver, and an address that a coinbase could pay to. -/
structure PreparedInv (prepared : PreparedLabTransaction env) : Prop where
  inputs_eq : prepared.mempoolMetadata.inputs = prepared.fromUtxos.map LabUtxo.outpoint
  fromUtxos_ne : prepared.fromUtxos ≠ []
  totalInput_eq : prepared.totalInput = (prepared.fromUtxos.map LabUtxo.amountSats).sum
  receiver : prepared.mempoolMetadata.receiver ≠ none
  payable : ∀ parsed, env.parseAddress prepared.toAddress = some parsed →
    ∃ usual, parsed = some usual

variable {toAddress : String}

theorem preparedInv_preparedFrom {spender : LabSpender env} {sender receiver : LabOwner}
    {fromUtxos : List (LabUtxo Txid)} (hutxos : fromUtxos ≠ [])
    (hpayable : ∀ parsed, env.parseAddress toAddress = some parsed →
      ∃ usual, parsed = some usual) :
    PreparedInv (preparedFrom env spender sender receiver toAddress amountSats fromUtxos)
    where
  inputs_eq := rfl
  fromUtxos_ne := hutxos
  totalInput_eq := rfl
  receiver := Option.some_ne_none receiver
  payable := hpayable

variable {active : Option (WalletAddress env × Nat)}

theorem payable_of_knownRecipientOwner {owner : LabOwner}
    (h : knownRecipientOwner env toAddress active = some owner) {parsed : Option String}
    (hparsed : env.parseAddress toAddress = some parsed) :
    ∃ usual, parsed = some usual := by
  obtain ⟨wallet, _, howner⟩ := Option.bind_eq_some_iff.mp h
  dsimp only at howner
  split at howner
  · rename_i hsame
    exact ⟨wallet.1.1, env.parseAddress_equal hsame hparsed wallet.1.2⟩
  · cases howner

variable {prepared : PreparedLabTransaction env}

/-- A prepared transaction of an entity spends all that is unspent at its address. -/
theorem prepareLabEntityTransaction_eq_ok (hkeys : PayableKeys env state.addressToOwner)
    {labEntityId : Nat} {fromAddress toAddress : String}
    (h : prepareLabEntityTransaction env state labEntityId fromAddress toAddress amountSats
      (knownRecipientOwner env toAddress active) = .ok prepared) :
    PreparedInv prepared ∧ ∃ keeps, prepared.fromUtxos = state.utxos.filter keeps := by
  unfold prepareLabEntityTransaction at h
  dsimp only at h
  split at h
  · cases h
  · rename_i hfrom
    split at h
    · cases h
    · split at h
      · cases h
      · split at h
        · cases h
        · rename_i hutxos
          split at h
          · cases h
          · rename_i receiver hreceiver
            cases h
            refine ⟨preparedInv_preparedFrom (by simpa using hutxos) ?_, _, rfl⟩
            intro parsed hparsed
            cases Option.or_eq_some_iff.mp hreceiver with
            | inl hlookup => exact hkeys.of_lookup hlookup hparsed
            | inr hother =>
              cases Option.or_eq_some_iff.mp hother.2 with
              | inr hknown => exact payable_of_knownRecipientOwner hknown.2 hparsed
              | inl hsame =>
                -- The recipient is the address that the entity spends from.
                split at hsame
                · rename_i hequal
                  obtain ⟨entry, hentry, hkey, _⟩ :=
                    exists_mem_of_lookup (not_not.mp hfrom)
                  obtain ⟨usual, husual⟩ := hkeys entry hentry
                  refine ⟨usual, ?_⟩
                  exact (env.parseAddress_equal (labAddressesEqual_trans hkey hequal)
                    husual hparsed).symm
                · cases hsame

variable {changeAddress : WalletAddress env}

/-- A prepared transaction of a wallet spends some of what is unspent. -/
theorem prepareLabWalletTransaction_eq_ok [DecidableEq Txid]
    (hkeys : PayableKeys env state.addressToOwner) {walletId : Nat}
    {selectedOutpoints : Option (List (LabOutpoint Txid))}
    (h : prepareLabWalletTransaction env state walletId toAddress amountSats changeAddress
      (knownRecipientOwner env toAddress active) selectedOutpoints = .ok prepared) :
    PreparedInv prepared ∧ ∃ keeps, prepared.fromUtxos = state.utxos.filter keeps := by
  unfold prepareLabWalletTransaction at h
  dsimp only at h
  split at h
  · cases h
  · split at h
    · cases h
    · split at h
      · cases h
      · rename_i hutxos
        split at h
        · cases h
        · rename_i receiver hreceiver
          cases h
          constructor
          · apply preparedInv_preparedFrom (by simpa using hutxos)
            intro parsed hparsed
            cases Option.or_eq_some_iff.mp hreceiver with
            | inl hlookup => exact hkeys.of_lookup hlookup hparsed
            | inr hknown => exact payable_of_knownRecipientOwner hknown.2 hparsed
          · cases selectedOutpoints with
            | none => exact ⟨_, rfl⟩
            | some outpoints => exact ⟨_, List.filter_filter⟩

/-! ## Signing -/

/-- The signed form of a prepared transaction: it spends all inputs, pays the recipient and the
change address only, and its metadata names both. -/
structure Signs (prepared : PreparedLabTransaction env)
    (changeAddress : WalletAddress env) (signedTx : SignedLabTransaction Txid)
    (mempoolMetadata : LabMempoolMetadata Txid) (payAddress : String) : Prop where
  parsed : env.parseAddress prepared.toAddress = some (some payAddress)
  inputs_eq : signedTx.inputs = prepared.mempoolMetadata.inputs
  metadata_inputs : mempoolMetadata.inputs = prepared.mempoolMetadata.inputs
  metadata_receiver : mempoolMetadata.receiver = prepared.mempoolMetadata.receiver
  trueFee : prepared.totalInput =
    mempoolMetadata.feeSats + (signedTx.outputs.map LabTxOutput.amountSats).sum
  addresses : ∀ output ∈ signedTx.outputs,
    output.address = some payAddress ∨ output.address = some changeAddress.1
  pays : ∃ output ∈ signedTx.outputs, output.address = some payAddress
  hasChange_iff : mempoolMetadata.hasChange = true ↔
    ∃ output ∈ signedTx.outputs, output.address = some changeAddress.1
  change_eq : (mempoolMetadata.outputsDetail.find? (·.isChange)).map LabTxOutputDetail.address =
    if mempoolMetadata.hasChange then some changeAddress.1 else none
  walletChangeAddress_eq : mempoolMetadata.walletChangeAddress =
    if mempoolMetadata.hasChange then changeAddress.1 else ""
  primary_eq : (mempoolMetadata.outputsDetail.find? (!·.isChange)).map LabTxOutputDetail.address =
    some prepared.toAddress

variable {mempoolMetadata : LabMempoolMetadata Txid} {signedTx : SignedLabTransaction Txid}
variable {signing : LabSigning}

theorem buildAndSignLabTransaction_eq_some (hprepared : PreparedInv prepared)
    (h : buildAndSignLabTransaction env prepared changeAddress signing =
      some (signedTx, mempoolMetadata)) :
    ∃ payAddress, Signs prepared changeAddress signedTx mempoolMetadata payAddress := by
  unfold buildAndSignLabTransaction at h
  split at h
  · cases h
  · rename_i recipient hparsed
    obtain ⟨payAddress, rfl⟩ := hprepared.payable recipient hparsed
    dsimp only at h
    split at h
    · rename_i hspent
      cases h
      refine ⟨payAddress, ?_⟩
      constructor
      · exact hparsed
      · rfl
      · rfl
      · rfl
      · cases hchange : signing.changeSats with
        | none =>
          rw [hchange] at hspent
          simp only [Option.getD_none, List.map_cons, List.map_nil, List.sum_cons,
            List.sum_nil] at hspent ⊢
          omega
        | some amountSats =>
          rw [hchange] at hspent
          cases signing.changeFirst <;>
            simp only [Option.getD_some, List.map_cons, List.map_nil, List.sum_cons,
              List.sum_nil, if_true, Bool.false_eq_true, if_false] at hspent ⊢ <;>
            omega
      · intro output houtput
        cases hchange : signing.changeSats <;> cases hfirst : signing.changeFirst <;>
          simp [hchange, hfirst] at houtput <;> grind
      · cases hchange : signing.changeSats <;> cases hfirst : signing.changeFirst <;> simp
      · simp [List.any_eq_true]
      · dsimp only
        generalize List.any _ _ = hasChange
        cases hasChange <;> rfl
      · rfl
      · dsimp only
        generalize List.any _ _ = hasChange
        cases hasChange <;> rfl
    · cases h

/-- The transaction that an operation puts into the mempool, with its metadata and the address
that the change goes to. -/
structure Submission (env : LabEnvironment Txid) where
  signedTx : SignedLabTransaction Txid
  mempoolMetadata : LabMempoolMetadata Txid
  toAddress : String
  changeAddress : WalletAddress env

/-- The address of the change, if the transaction has any. -/
def Submission.recordedChange (submission : Submission env) : Option String :=
  if submission.mempoolMetadata.hasChange then some submission.changeAddress.1 else none

/-- The change address that a spender uses: entities name it when they sign. -/
def changeAddressOf (prepared : PreparedLabTransaction env)
    (entityChangeAddress : Option (WalletAddress env)) :
    Option (WalletAddress env) :=
  match prepared.spender, entityChangeAddress with
  | .entity _, some changeAddress => some changeAddress
  | .wallet changeAddress, none => some changeAddress
  | _, _ => none

def LabSystem.accepted (system : LabSystem env) (id : Nat)
    (entityChangeAddress : Option (WalletAddress env)) (signing : LabSigning) :
    Option (Submission env) :=
  (system.prepared id).bind fun prepared =>
    (changeAddressOf prepared entityChangeAddress).bind fun changeAddress =>
      (putIntoMempool system.state prepared entityChangeAddress signing).bind
        fun (signedTx, mempoolMetadata, outcome) =>
          outcome.toOption.map fun _ => {
            signedTx
            mempoolMetadata
            toAddress := prepared.toAddress
            changeAddress }

def LabSystem.submission (system : LabSystem env) : LabOp env → Option (Submission env)
  | .finalize id changeAddress signing => system.accepted id (some changeAddress) signing
  | .addSigned id signing => system.accepted id none signing
  | _ => none

variable {entityChangeAddress : Option (WalletAddress env)}

/-- An accepted transaction stands in the mempool, and is recorded with its sender, its change
address and its recipient. -/
theorem putIntoMempool_eq_some (hprepared : PreparedInv prepared)
    (h : putIntoMempool state prepared entityChangeAddress signing =
      some (signedTx, mempoolMetadata, .ok next)) :
    ∃ changeAddress payAddress sender,
      changeAddressOf prepared entityChangeAddress = some changeAddress ∧
        Signs prepared changeAddress signedTx mempoolMetadata payAddress ∧
        next = appendLabTxOperationAndMempoolEntry env state signedTx mempoolMetadata
          sender (if mempoolMetadata.hasChange then some changeAddress.1 else none) := by
  unfold putIntoMempool at h
  split at h
  · rename_i labEntityId changeAddress hspender
    obtain ⟨signed, hsigned, heq⟩ := Option.map_eq_some_iff.mp h
    obtain ⟨signedTx, mempoolMetadata⟩ := signed
    simp only [Prod.mk.injEq] at heq
    obtain ⟨rfl, rfl, houtcome⟩ := heq
    obtain ⟨payAddress, hsigns⟩ := buildAndSignLabTransaction_eq_some hprepared hsigned
    unfold finalizeLabEntityMempoolTransaction at houtcome
    split at houtcome
    · cases houtcome
    · split at houtcome
      · cases houtcome
      · rename_i entity _ _
        cases houtcome
        refine ⟨changeAddress, payAddress, .labEntity entity.labEntityId,
          by simp only [changeAddressOf, hspender], hsigns, ?_⟩
        have hchange := hsigns.change_eq
        cases hhas : mempoolMetadata.hasChange with
        | false => rfl
        | true =>
          rw [hhas] at hchange
          simp only [if_true] at hchange ⊢
          rw [hchange]
  · rename_i changeAddress hspender
    obtain ⟨signed, hsigned, heq⟩ := Option.map_eq_some_iff.mp h
    obtain ⟨signedTx, mempoolMetadata⟩ := signed
    simp only [Prod.mk.injEq] at heq
    obtain ⟨rfl, rfl, houtcome⟩ := heq
    obtain ⟨payAddress, hsigns⟩ := buildAndSignLabTransaction_eq_some hprepared hsigned
    unfold addSignedTransactionToMempool at houtcome
    dsimp only at houtcome
    split at houtcome
    · cases houtcome
    · split at houtcome
      · cases houtcome
      · rename_i sender hsender
        cases houtcome
        refine ⟨changeAddress, payAddress, sender, by simp only [changeAddressOf, hspender],
          hsigns, ?_⟩
        have hwallet := hsigns.walletChangeAddress_eq
        cases hhas : mempoolMetadata.hasChange with
        | false => rfl
        | true =>
          rw [hhas] at hwallet
          simp only [if_true] at hwallet ⊢
          rw [hwallet]
  · cases h

variable {system : LabSystem env}

/-- Either nothing is put into the mempool and the state stays, or the submission is. -/
theorem submit_spec
    (hprepared : ∀ id prepared, system.prepared id = some prepared → PreparedInv prepared)
    (id : Nat) (entityChangeAddress : Option (WalletAddress env))
    (signing : LabSigning) :
    (system.submit id entityChangeAddress signing).state = system.state ∨
      ∃ submission prepared payAddress sender,
        system.accepted id entityChangeAddress signing = some submission ∧
          system.prepared id = some prepared ∧
          submission.toAddress = prepared.toAddress ∧
          Signs prepared submission.changeAddress submission.signedTx
            submission.mempoolMetadata payAddress ∧
          (system.submit id entityChangeAddress signing).state =
            appendLabTxOperationAndMempoolEntry env system.state submission.signedTx
              submission.mempoolMetadata sender submission.recordedChange := by
  unfold LabSystem.submit
  split
  · exact .inl rfl
  · rename_i prepared hid
    split
    · exact .inl rfl
    · rename_i signedTx mempoolMetadata outcome hput
      cases outcome with
      | error message => exact .inl rfl
      | ok next =>
        apply Or.inr
        obtain ⟨changeAddress, payAddress, sender, hchange, hsigns, hnext⟩ :=
          putIntoMempool_eq_some (hprepared id prepared hid) hput
        refine ⟨⟨signedTx, mempoolMetadata, prepared.toAddress, changeAddress⟩, prepared,
          payAddress, sender, ?_, hid, rfl, hsigns, hnext⟩
        unfold LabSystem.accepted
        rw [hid, Option.bind_some, hchange, Option.bind_some, hput]
        rfl

theorem submit_prepared {id other : Nat}
    (h : (system.submit id entityChangeAddress signing).prepared other = some prepared) :
    system.prepared other = some prepared := by
  unfold LabSystem.submit at h
  split at h
  · exact h
  · split at h
    · exact h
    · rename_i outcome _
      have hremoved : Function.update system.prepared id none other = some prepared := by
        cases outcome with
        | error | ok => exact h
      by_cases hsame : other = id
      · rw [hsame, Function.update_self] at hremoved
        cases hremoved
      · rwa [Function.update_of_ne hsame] at hremoved

theorem keep_prepared {id other : Nat}
    {outcome : Except String (PreparedLabTransaction env)}
    (h : (system.keep id outcome).prepared other = some prepared) :
    system.prepared other = some prepared ∨ outcome = .ok prepared := by
  cases outcome with
  | error message => exact .inl h
  | ok kept =>
    have hupdate : Function.update system.prepared id (some kept) other = some prepared := h
    by_cases hsame : other = id
    · rw [hsame, Function.update_self] at hupdate
      cases hupdate
      exact .inr rfl
    · rw [Function.update_of_ne hsame] at hupdate
      exact .inl hupdate

end Operations

end Bitboard.Frontend
