/-
# The lab chain

The lab simulates a chain on which entities and the wallets of the app send to each other. A
transaction is prepared from unspent outputs, signed outside of the queue of lab operations, and
put into the mempool by a second operation. Mining picks transactions of the mempool for the first
block by their fee rates, drops those that spend what the picked ones spend, and finds out who
owns the outputs of a block.

Every operation works on the state that is stored when it runs and stores what it makes of it; an
operation that fails stores nothing. A batch of random transactions is a sequence of operations
that assign an address to the recipient, prepare and finalize.

The functions follow `lab.worker.ts`, `lab-mine-blocks.ts`, `lab-mining-template.ts`,
`lab-block-effects.ts`, `lab-apply-block-transactions.ts`, `lab-worker-operations.ts`, and the
parts of `lab.rs` and `lab_psbt.rs` that they call.
-/

import Bitboard.Frontend.LightningSend
import Mathlib

namespace Bitboard.Frontend

open Bitboard.Lib

structure LabOutpoint (Txid : Type) where
  txid : Txid
  vout : Nat
  deriving DecidableEq

/-- An output. Without an address it pays to a script that is neither P2WPKH nor P2TR. -/
structure LabTxOutput where
  address : Option String
  amountSats : Nat
  deriving DecidableEq

inductive LabTransaction (Txid : Type) where
  | coinbase (height : Nat) (output : LabTxOutput)
  | spend (inputs : List (LabOutpoint Txid)) (outputs : List LabTxOutput)
  deriving DecidableEq

def LabTransaction.inputs {Txid : Type} : LabTransaction Txid → List (LabOutpoint Txid)
  | .coinbase _ _ => []
  | .spend inputs _ => inputs

def LabTransaction.outputs {Txid : Type} : LabTransaction Txid → List LabTxOutput
  | .coinbase _ output => [output]
  | .spend _ outputs => outputs

/-- The null outpoint of a coinbase is not among the inputs, and the worker takes a transaction
without inputs for a coinbase. -/
def LabTransaction.isCoinbase {Txid : Type} (transaction : LabTransaction Txid) : Bool :=
  transaction.inputs.isEmpty

structure LabUtxo (Txid : Type) where
  txid : Txid
  vout : Nat
  address : String
  amountSats : Nat
  deriving DecidableEq

def LabUtxo.outpoint {Txid : Type} (utxo : LabUtxo Txid) : LabOutpoint Txid where
  txid := utxo.txid
  vout := utxo.vout

/-- The hex text of a signed transaction: its inputs and outputs, and its weight with the
signatures. -/
structure SignedLabTransaction (Txid : Type) where
  inputs : List (LabOutpoint Txid)
  outputs : List LabTxOutput
  weight : Nat

def SignedLabTransaction.transaction {Txid : Type} (signed : SignedLabTransaction Txid) :
    LabTransaction Txid :=
  .spend signed.inputs signed.outputs

inductive LabOwner where
  | wallet (walletId : Nat)
  | labEntity (labEntityId : Nat)
  deriving DecidableEq

structure LabEntityRecord where
  labEntityId : Nat
  entityName : Option String
  isDead : Bool

/-- One entry of `outputsDetail` of a mempool entry. -/
structure LabTxOutputDetail where
  address : String
  amountSats : Nat
  isChange : Bool
  owner : Option LabOwner

structure MempoolEntry (Txid : Type) where
  signedTx : SignedLabTransaction Txid
  txid : Txid
  sender : Option LabOwner
  receiver : Option LabOwner
  feeSats : Nat
  weight : Nat
  vsize : Nat
  inputs : List (LabOutpoint Txid)
  outputsDetail : List LabTxOutputDetail

/-- One entry of `inputs` of the details. Without an outpoint it is that of a coinbase. -/
structure LabTxInputDetail (Txid : Type) where
  address : String
  amountSats : Nat
  owner : Option LabOwner
  prevOutpoint : Option (LabOutpoint Txid)

structure LabTxDetails (Txid : Type) where
  txid : Txid
  blockHeight : Nat
  inputs : List (LabTxInputDetail Txid)
  outputs : List LabTxOutputDetail

structure LabTxRecord (Txid : Type) where
  txid : Txid
  sender : Option LabOwner
  receiver : Option LabOwner

/-- What is remembered of a transaction that was put into the mempool, with its decoded
payload. -/
structure LabTxOperationRecord (Txid : Type) where
  txid : Txid
  sender : LabOwner
  changeAddress : Option String
  changeVout : Option Nat
  receiver : Option LabOwner
  primaryToAddress : Option String

/-- A block with its transactions, the coinbase first. For the record: the subsidy in it. -/
structure LabBlock (Txid : Type) where
  height : Nat
  transactions : List (LabTransaction Txid)
  subsidySats : Nat

/-- The owners of addresses, in the order in which the addresses were entered. -/
abbrev AddressOwners := List (String × LabOwner)

structure LabState (Txid : Type) where
  blocks : List (LabBlock Txid)
  utxos : List (LabUtxo Txid)
  entities : List LabEntityRecord
  addressToOwner : AddressOwners
  mempool : List (MempoolEntry Txid)
  transactions : List (LabTxRecord Txid)
  txDetails : List (LabTxDetails Txid)
  txOperations : List (LabTxOperationRecord Txid)
  blockWeightLimit : Nat
  minerSubsidySats : Nat

def isBech32Address (address : List Char) : Bool :=
  let lower := toLowerCase address
  "bc1".toList.isPrefixOf lower || "tb1".toList.isPrefixOf lower ||
    "bcrt1".toList.isPrefixOf lower

def labAddressesEqual (firstAddress secondAddress : String) : Bool :=
  let trimmedFirst := trim firstAddress.toList
  let trimmedSecond := trim secondAddress.toList
  trimmedFirst = trimmedSecond ||
    (isBech32Address trimmedFirst && isBech32Address trimmedSecond &&
      toLowerCase trimmedFirst = toLowerCase trimmedSecond)

def lookupOwnerForLabAddress (address : String) (addressToOwner : AddressOwners) :
    Option LabOwner :=
  ((addressToOwner.find? fun entry => entry.1 = address).or
    (addressToOwner.find? fun entry => labAddressesEqual entry.1 address)).map Prod.snd

def setLabOwner (addressToOwner : AddressOwners) (address : String) (owner : LabOwner) :
    AddressOwners :=
  if addressToOwner.any fun entry => entry.1 = address then
    addressToOwner.map fun entry => if entry.1 = address then (address, owner) else entry
  else addressToOwner ++ [(address, owner)]

def findLabEntityById (entities : List LabEntityRecord) (labEntityId : Nat) :
    Option LabEntityRecord :=
  entities.find? fun entity => entity.labEntityId = labEntityId

def nextLabEntityId (entities : List LabEntityRecord) : Nat :=
  entities.foldl (fun most entity => max most entity.labEntityId) 0 + 1

def LAB_ENTITY_NAME_MAX_LENGTH : Nat := 128

def validateLabEntityRenameName (trimmed : String) (entities : List LabEntityRecord)
    (excludeLabEntityId : Option Nat) : Except String Unit :=
  if trimmed = "" then .error "Name must not be empty"
  else if LAB_ENTITY_NAME_MAX_LENGTH < (Wallet.utf16 trimmed).length then
    .error "Name must be at most 128 characters"
  else if "Anonymous-".toList.isPrefixOf trimmed.toList then
    .error "Name must not start with \"Anonymous-\""
  else if entities.any fun entity =>
      some entity.labEntityId ≠ excludeLabEntityId && entity.entityName = some trimmed then
    .error "That name is already taken"
  else .ok ()

/-- What is computed elsewhere: the id of a transaction, which no other transaction has, and the
address that a text is parsed as, in its usual form; the inner `none` is an address that is neither
P2WPKH nor P2TR. -/
structure LabEnvironment (Txid : Type) where
  txid : LabTransaction Txid → Txid
  txid_injective : Function.Injective txid
  txidText : Txid → String
  parseAddress : String → Option (Option String)
  /-- Texts that the worker takes for the same address are parsed as the same address. -/
  parseAddress_equal : ∀ {first second : String} {parsed other : Option String},
    labAddressesEqual first second = true → parseAddress first = some parsed →
      parseAddress second = some other → parsed = other
  /-- The usual form is parsed as itself, and the worker takes it for the same address. -/
  parseAddress_text : ∀ {text address : String}, parseAddress text = some (some address) →
    parseAddress address = some (some address) ∧ labAddressesEqual address text = true
  parseAddress_blank : ∀ {text : String}, trim text.toList = [] → parseAddress text = none

def WalletAddress {Txid : Type} (env : LabEnvironment Txid) : Type :=
  { address : String // env.parseAddress address = some (some address) }

section Operations

variable {Txid : Type} (env : LabEnvironment Txid)

/-! ## Preparing -/

structure LabMempoolMetadata (Txid : Type) where
  sender : Option LabOwner
  receiver : Option LabOwner
  feeSats : Nat
  inputs : List (LabOutpoint Txid)
  outputsDetail : List LabTxOutputDetail
  hasChange : Bool
  walletChangeAddress : String

/-- Who signs a prepared transaction. A wallet has been asked for its change address. -/
inductive LabSpender where
  | entity (labEntityId : Nat)
  | wallet (changeAddress : WalletAddress env)

/-- What is kept of a prepared transaction until it is put into the mempool. -/
structure PreparedLabTransaction where
  spender : LabSpender env
  toAddress : String
  fromUtxos : List (LabUtxo Txid)
  mempoolMetadata : LabMempoolMetadata Txid
  totalInput : Nat

/-- The pages know the owner of an address only if it is that of the active wallet. -/
def knownRecipientOwner (toAddress : String)
    (active : Option (WalletAddress env × Nat)) : Option LabOwner :=
  active.bind fun (currentAddress, activeWalletId) =>
    if labAddressesEqual toAddress currentAddress.1 then some (.wallet activeWalletId) else none

/-- The address that the wallet of a spender has given for the change. -/
def LabSpender.walletChangeAddress : LabSpender env → String
  | .entity _ => ""
  | .wallet changeAddress => changeAddress.1

/-- The result of both `prepare` functions. -/
def preparedFrom (spender : LabSpender env) (sender receiver : LabOwner)
    (toAddress : String) (amountSats : Nat) (fromUtxos : List (LabUtxo Txid)) :
    PreparedLabTransaction env where
  spender := spender
  toAddress := toAddress
  fromUtxos := fromUtxos
  mempoolMetadata := {
    sender := some sender
    receiver := some receiver
    feeSats := 0
    inputs := fromUtxos.map LabUtxo.outpoint
    outputsDetail := [{
      address := toAddress
      amountSats
      isChange := false
      owner := some receiver }]
    hasChange := false
    walletChangeAddress := spender.walletChangeAddress }
  totalInput := (fromUtxos.map LabUtxo.amountSats).sum

/-- What the worker enters for the recipient in its memory is not stored. -/
def prepareLabEntityTransaction (state : LabState Txid) (labEntityId : Nat)
    (fromAddress toAddress : String) (amountSats : Nat) (knownRecipient : Option LabOwner) :
    Except String (PreparedLabTransaction env) :=
  let expectedOwner := LabOwner.labEntity labEntityId
  if lookupOwnerForLabAddress fromAddress state.addressToOwner ≠ some expectedOwner then
    .error "From address does not belong to this lab entity"
  else
    match findLabEntityById state.entities labEntityId with
    | none => .error ("Unknown lab entity id " ++ toString labEntityId)
    | some entity =>
      if entity.isDead then .error "Dead lab entities cannot send transactions."
      else
        let fromUtxos := state.utxos.filter fun utxo =>
          labAddressesEqual utxo.address fromAddress
        if fromUtxos.isEmpty then .error "No UTXOs for the selected from address"
        else
          let sameAddress :=
            if labAddressesEqual fromAddress toAddress then some expectedOwner else none
          match (lookupOwnerForLabAddress toAddress state.addressToOwner).or
              (sameAddress.or knownRecipient) with
          | none =>
            .error ("prepareLabEntityTransaction labEntityId=" ++ toString labEntityId ++
              " toAddress=\"" ++ toAddress ++ "\": receiver must not be null")
          | some receiver =>
            .ok (preparedFrom env (.entity labEntityId) expectedOwner receiver
              toAddress amountSats fromUtxos)

section Wallet

variable [DecidableEq Txid]

def walletOwnedLabUtxos (state : LabState Txid) (walletId : Nat) : List (LabUtxo Txid) :=
  state.utxos.filter fun utxo =>
    lookupOwnerForLabAddress utxo.address state.addressToOwner = some (.wallet walletId)

def filterUtxosBySelectedOutpoints (utxos : List (LabUtxo Txid)) :
    Option (List (LabOutpoint Txid)) → List (LabUtxo Txid)
  | none => utxos
  | some selectedOutpoints => utxos.filter fun utxo => utxo.outpoint ∈ selectedOutpoints

def prepareLabWalletTransaction (state : LabState Txid) (walletId : Nat) (toAddress : String)
    (amountSats : Nat) (walletChangeAddress : WalletAddress env)
    (knownRecipient : Option LabOwner)
    (selectedOutpoints : Option (List (LabOutpoint Txid))) :
    Except String (PreparedLabTransaction env) :=
  let walletUtxos := walletOwnedLabUtxos state walletId
  let fromUtxos := filterUtxosBySelectedOutpoints walletUtxos selectedOutpoints
  if walletUtxos.isEmpty then
    .error ("No UTXOs available for the wallet. walletId=" ++ toString walletId ++
      ". Ensure the wallet is loaded for lab (regtest) and you have mined to it.")
  else if selectedOutpoints = some [] then
    .error "At least one UTXO must be selected for manual coin control"
  else if fromUtxos.isEmpty then
    .error ("No matching UTXOs for manual selection. walletId=" ++ toString walletId ++ ".")
  else
    match (lookupOwnerForLabAddress toAddress state.addressToOwner).or knownRecipient with
    | none =>
      .error ("prepareLabWalletTransaction: cannot resolve payee owner for toAddress=\"" ++
        toAddress ++ "\". Send to a lab-mapped address, or pay your active receive address " ++
        "(shown on Receive) so the app can set knownRecipientOwner.")
    | some receiver =>
      .ok (preparedFrom env (.wallet walletChangeAddress) (.wallet walletId) receiver
        toAddress amountSats fromUtxos)

end Wallet

/-- What the signer decides: the amount that the recipient gets, the change if there is one, the
order of the outputs and the weight. -/
structure LabSigning where
  finalAmountSats : Nat
  changeSats : Option Nat
  changeFirst : Bool
  weight : Nat

/-- `prepare_build_and_sign_lab_transaction` and the metadata that its callers make of its result.
It spends every output that it is given; what the outputs leave is the fee. -/
def buildAndSignLabTransaction (prepared : PreparedLabTransaction env)
    (changeAddress : WalletAddress env) (signing : LabSigning) :
    Option (SignedLabTransaction Txid × LabMempoolMetadata Txid) :=
  match env.parseAddress prepared.toAddress with
  | none => none
  | some recipient =>
    let spentSats := signing.finalAmountSats + signing.changeSats.getD 0
    if 0 < signing.finalAmountSats ∧ spentSats ≤ prepared.totalInput then
      let payment : LabTxOutput :=
        { address := recipient, amountSats := signing.finalAmountSats }
      let change (amountSats : Nat) : LabTxOutput :=
        { address := some changeAddress.1, amountSats }
      let outputs := match signing.changeSats with
        | none => [payment]
        | some amountSats =>
          if signing.changeFirst then [change amountSats, payment]
          else [payment, change amountSats]
      let feeSats := prepared.totalInput - spentSats
      let hasChange := outputs.any fun output => output.address = some changeAddress.1
      let paymentDetail (amountSats : Nat) : LabTxOutputDetail := {
        address := prepared.toAddress
        amountSats
        isChange := false
        owner := prepared.mempoolMetadata.receiver }
      let outputsDetail :=
        if hasChange then
          [paymentDetail signing.finalAmountSats, {
            address := changeAddress.1
            amountSats := prepared.totalInput - signing.finalAmountSats - feeSats
            isChange := true
            owner := prepared.mempoolMetadata.sender }]
        else [paymentDetail (prepared.totalInput - feeSats)]
      some ({ inputs := prepared.mempoolMetadata.inputs, outputs, weight := signing.weight },
        { prepared.mempoolMetadata with
          feeSats
          hasChange
          outputsDetail
          walletChangeAddress := if hasChange then changeAddress.1 else "" })
    else none

def labVsizeFromWeight (weightWu : Nat) : Nat := (weightWu + 3) / 4

def appendLabTxOperationAndMempoolEntry (state : LabState Txid)
    (signedTx : SignedLabTransaction Txid) (mempoolMetadata : LabMempoolMetadata Txid)
    (sender : LabOwner) (changeAddress : Option String) : LabState Txid :=
  let txid := env.txid signedTx.transaction
  let normalizedWeight := if 0 < signedTx.weight then signedTx.weight else 1
  { state with
    txOperations := state.txOperations ++ [{
      txid
      sender
      changeAddress
      changeVout := mempoolMetadata.outputsDetail.findIdx? (·.isChange)
      receiver := mempoolMetadata.receiver
      primaryToAddress := (mempoolMetadata.outputsDetail.find? (!·.isChange)).map
        LabTxOutputDetail.address }]
    mempool := state.mempool ++ [{
      signedTx
      txid
      sender := mempoolMetadata.sender
      receiver := mempoolMetadata.receiver
      feeSats := mempoolMetadata.feeSats
      weight := normalizedWeight
      vsize := labVsizeFromWeight normalizedWeight
      inputs := mempoolMetadata.inputs
      outputsDetail := mempoolMetadata.outputsDetail }] }

def finalizeLabEntityMempoolTransaction (state : LabState Txid)
    (signedTx : SignedLabTransaction Txid) (mempoolMetadata : LabMempoolMetadata Txid)
    (labEntityId : Nat) : Except String (LabState Txid) :=
  match findLabEntityById state.entities labEntityId with
  | none => .error ("Unknown lab entity id " ++ toString labEntityId)
  | some entity =>
    if mempoolMetadata.receiver = none then
      .error ("finalizeLabEntityMempoolTransaction txid=" ++
        env.txidText (env.txid signedTx.transaction) ++
        ": receiver must not be null")
    else
      let changeOut :=
        if mempoolMetadata.hasChange then mempoolMetadata.outputsDetail.find? (·.isChange)
        else none
      .ok (appendLabTxOperationAndMempoolEntry env state signedTx mempoolMetadata
        (.labEntity entity.labEntityId) (changeOut.map LabTxOutputDetail.address))

def addSignedTransactionToMempool (state : LabState Txid)
    (signedTx : SignedLabTransaction Txid) (mempoolMetadata : LabMempoolMetadata Txid) :
    Except String (LabState Txid) :=
  let txid := env.txidText (env.txid signedTx.transaction)
  if mempoolMetadata.receiver = none then
    .error ("addSignedTransactionToMempool txid=" ++ txid ++ ": receiver must not be null")
  else
    match mempoolMetadata.sender with
    | none => .error ("addSignedTransactionToMempool: missing sender for txid=" ++ txid)
    | some sender =>
      .ok (appendLabTxOperationAndMempoolEntry env state signedTx mempoolMetadata sender
        (if mempoolMetadata.hasChange then some mempoolMetadata.walletChangeAddress else none))

end Operations

end Bitboard.Frontend
