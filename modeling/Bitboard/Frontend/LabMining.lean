/-
# Mining on the lab chain

A block holds a coinbase and the picked transactions of the mempool. When it is applied, the
worker finds out who owns each output: change belongs to the sender, and a payment to the owner
of its address, or to the receiver that was remembered when the transaction was put into the
mempool. A transaction whose receiver cannot be found makes mining fail.

Beside mining this module has the operations on entities, and the runs of all lab operations.
-/

import Bitboard.Frontend.LabChain
import Bitboard.Lib.Binary64

namespace Bitboard.Frontend

open Bitboard.Lib

/-- An output as `lab_block_effects` reports it. -/
structure BlockEffectsTxOutput where
  address : String
  amountSats : Nat

def blockEffectsOutputs {Txid : Type} (transaction : LabTransaction Txid) :
    List BlockEffectsTxOutput :=
  transaction.outputs.filterMap fun output =>
    output.address.map fun address => { address, amountSats := output.amountSats }

variable (outputs : List LabTxOutputDetail)
variable (addressToOwner : AddressOwners)

section Mining

variable {Txid : Type} [LinearOrder Txid] (env : LabEnvironment Txid)

/-- The address of the first output that a mempool entry marks as change. -/
def changeOfEntry (entry : MempoolEntry Txid) : Option String :=
  (entry.outputsDetail.find? (·.isChange)).map LabTxOutputDetail.address

variable (state : LabState Txid)

/-- `rebuildTxidToChangeAddressFromState`: later entries of the map overwrite earlier ones, and
the mempool comes last. -/
def txidToChangeOutput (txid : Txid) : Option String :=
  ((state.mempool.filter fun entry => entry.txid = txid).reverse.findSome? changeOfEntry).or
    ((state.txOperations.filter fun operation => operation.txid = txid).reverse.findSome?
      fun operation => operation.changeAddress.filter (· ≠ ""))

def operationOf (txid : Txid) : Option (LabTxOperationRecord Txid) :=
  state.txOperations.find? fun operation => operation.txid = txid

/-- `buildOutputsForBlockEffectTx`. Without a change address there is no change output either,
since both come from one record. -/
def buildOutputsForBlockEffectTx (changeAddress : Option String) (sender : Option LabOwner) :
    List BlockEffectsTxOutput → AddressOwners → List LabTxOutputDetail × AddressOwners
  | [], addressToOwner => ([], addressToOwner)
  | output :: outputs, addressToOwner =>
    let isChange := changeAddress.any fun address => labAddressesEqual output.address address
    match (if isChange then sender else none) with
    | some owner =>
      let rest := buildOutputsForBlockEffectTx changeAddress sender outputs
        (setLabOwner addressToOwner output.address owner)
      ({ address := output.address, amountSats := output.amountSats, isChange,
         owner := some owner } :: rest.1, rest.2)
    | none =>
      let rest := buildOutputsForBlockEffectTx changeAddress sender outputs addressToOwner
      ({ address := output.address, amountSats := output.amountSats, isChange,
         owner := lookupOwnerForLabAddress output.address addressToOwner } :: rest.1, rest.2)

/-- The output that pays the remembered receiver: that of the remembered address, else the only
one that is no change. -/
def payOutputOf (primaryToAddress : Option String) : Option LabTxOutputDetail :=
  let primaryFromOp := trim (primaryToAddress.getD "").toList
  let nonChangeOutputs := outputs.filter fun output => !output.isChange
  let byAddress :=
    if primaryFromOp = [] then none
    else outputs.find? fun output =>
      labAddressesEqual output.address (String.ofList primaryFromOp)
  byAddress.or (if nonChangeOutputs.length = 1 then nonChangeOutputs.head? else none)

/-- The owner is entered for the address of every output that has one. -/
def enterOwners : AddressOwners :=
  outputs.foldl (fun owners output =>
    match output.owner with
    | none => owners
    | some owner => setLabOwner owners output.address owner) addressToOwner

/-- Outputs that are no change and have no owner are looked up once more. -/
def lookUpAgain : List LabTxOutputDetail :=
  outputs.map fun output =>
    if output.isChange = false ∧ output.owner = none then
      { output with owner := lookupOwnerForLabAddress output.address addressToOwner }
    else output

def firstNonChangeOutput : Option LabTxOutputDetail :=
  outputs.find? fun output => !output.isChange

variable (operation : Option (LabTxOperationRecord Txid))

/-- The receiver as it is found by the address, or as the operation remembers it. -/
def receiverFromOperation (addressToOwner : AddressOwners) : Option LabOwner × AddressOwners :=
  match (firstNonChangeOutput outputs).bind fun output =>
      lookupOwnerForLabAddress output.address addressToOwner with
  | some receiver => (some receiver, addressToOwner)
  | none =>
    match operation.bind fun operation => operation.receiver.bind fun receiver =>
        (payOutputOf outputs operation.primaryToAddress).map fun output =>
          (output.address, receiver) with
    | some (address, receiver) => (some receiver, setLabOwner addressToOwner address receiver)
    | none => (none, addressToOwner)

/-- Where no receiver was found, a payment to the address of the change is the sender's. -/
def receiverFromSender (sender : Option LabOwner) (found : Option LabOwner × AddressOwners) :
    Option LabOwner × AddressOwners :=
  match found.1, firstNonChangeOutput outputs, sender with
  | none, some output, some owner =>
    if outputs.any fun other => other.isChange && labAddressesEqual other.address output.address
    then (some owner, setLabOwner found.2 output.address owner)
    else found
  | _, _, _ => found

/-- `resolveReceiverForBlockEffectTx`: the receiver, the outputs with their owners and the map. -/
def resolveReceiverForBlockEffectTx (sender : Option LabOwner) (addressToOwner : AddressOwners) :
    Option LabOwner × List LabTxOutputDetail × AddressOwners :=
  let found := receiverFromSender outputs sender
    (receiverFromOperation outputs operation addressToOwner)
  let resolved := lookUpAgain outputs found.2
  (found.1, resolved, enterOwners resolved found.2)

/-- What changes while the transactions of a block are applied. -/
structure BlockWork (Txid : Type) where
  utxoMap : LabOutpoint Txid → Option (LabUtxo Txid)
  addressToOwner : AddressOwners
  transactions : List (LabTxRecord Txid)
  txDetails : List (LabTxDetails Txid)

variable (utxoMap : LabOutpoint Txid → Option (LabUtxo Txid))

/-- `buildInputsForBlockEffectTx`. An input whose output is not found is left out. -/
def buildInputsForBlockEffectTx (addressToOwner : AddressOwners)
    (transaction : LabTransaction Txid) : List (LabTxInputDetail Txid) :=
  if transaction.isCoinbase then
    [{ address := "", amountSats := 0, owner := none, prevOutpoint := none }]
  else
    transaction.inputs.filterMap fun input =>
      (utxoMap input).map fun utxo => {
        address := utxo.address
        amountSats := utxo.amountSats
        owner := lookupOwnerForLabAddress utxo.address addressToOwner
        prevOutpoint := some input }

def senderOf (transaction : LabTransaction Txid) (inputs : List (LabTxInputDetail Txid)) :
    Option LabOwner :=
  if transaction.isCoinbase then none
  else
    inputs.head?.bind fun input =>
      if input.address = "" then none else lookupOwnerForLabAddress input.address addressToOwner

/-- `registerBlockTxOutputsInWorkingUtxoMap`: outputs are numbered as they are reported. -/
def registerBlockTxOutputs (txid : Txid) (outputs : List BlockEffectsTxOutput) :
    LabOutpoint Txid → Option (LabUtxo Txid) :=
  outputs.zipIdx.foldl (fun utxoMap (output, vout) =>
    Function.update utxoMap { txid, vout } (some {
      txid
      vout
      address := output.address
      amountSats := output.amountSats })) utxoMap

/-- One round of `applyTransactionsAndDetailsFromBlock`. -/
def applyBlockTransaction (height : Nat) (work : BlockWork Txid)
    (transaction : LabTransaction Txid) : Except String (BlockWork Txid) :=
  let txid := env.txid transaction
  let operation := operationOf state txid
  let changeAddress := (txidToChangeOutput state txid).or
    (operation.bind LabTxOperationRecord.changeAddress)
  let inputs := buildInputsForBlockEffectTx work.utxoMap work.addressToOwner transaction
  let sender := senderOf work.addressToOwner transaction inputs
  let outputs := blockEffectsOutputs transaction
  let details := buildOutputsForBlockEffectTx changeAddress sender outputs work.addressToOwner
  let resolved := resolveReceiverForBlockEffectTx details.1 operation sender details.2
  match resolved.1 with
  | none =>
    .error ("applyTransactionsFromBlock " ++
      (if transaction.isCoinbase then "coinbase " else "") ++ "txid=" ++
      env.txidText txid ++ " height=" ++ toString height ++
      ": receiver must not be null")
  | some receiver =>
    .ok {
      utxoMap := registerBlockTxOutputs work.utxoMap txid outputs
      addressToOwner := resolved.2.2
      transactions := work.transactions ++ [{ txid, sender, receiver := some receiver }]
      txDetails :=
        if inputs ≠ [] ∨ outputs ≠ [] then
          work.txDetails ++
            [{ txid, blockHeight := height, inputs, outputs := resolved.2.1 }]
        else work.txDetails }

/-- What `applyTransactionsAndDetailsFromBlock` begins with. -/
def LabState.blockWork : BlockWork Txid where
  utxoMap := fun outpoint => state.utxos.reverse.find? fun utxo => utxo.outpoint = outpoint
  addressToOwner := state.addressToOwner
  transactions := state.transactions
  txDetails := state.txDetails

/-- An output as it is tracked, if it has an address. -/
def utxoOfOutput (txid : Txid) (output : LabTxOutput) (vout : Nat) : Option (LabUtxo Txid) :=
  output.address.map fun address => { txid, vout, address, amountSats := output.amountSats }

def newUtxosOf (transaction : LabTransaction Txid) : List (LabUtxo Txid) :=
  transaction.outputs.zipIdx.filterMap fun output =>
    utxoOfOutput (env.txid transaction) output.1 output.2

/-- An amount above this one is no number for the worker. -/
def MAX_SAFE_INTEGER : Nat := 9007199254740991

/-- The transactions that are reported: the first one, and those with inputs. -/
def effectTransactions : List (LabTransaction Txid) → List (LabTransaction Txid)
  | [] => []
  | first :: others => first :: others.filter fun transaction => transaction.inputs ≠ []

structure BlockEffects (Txid : Type) where
  spent : List (LabOutpoint Txid)
  newUtxos : List (LabUtxo Txid)
  transactions : List (LabTransaction Txid)

/-- `lab_block_effects`: spent outpoints and new outputs are collected apart. A block with new
outputs has a transaction, so that no coinbase is made up for it. -/
def labBlockEffects (block : LabBlock Txid) : Except String (BlockEffects Txid) :=
  let newUtxos := block.transactions.flatMap (newUtxosOf env)
  match newUtxos.find? fun utxo => MAX_SAFE_INTEGER < utxo.amountSats with
  | some utxo =>
    .error (toString utxo.amountSats ++ " can't be represented as a JavaScript number")
  | none => .ok {
      spent := block.transactions.flatMap LabTransaction.inputs
      newUtxos
      transactions := effectTransactions block.transactions }

def removeSpentUtxos (utxos : List (LabUtxo Txid)) (spent : List (LabOutpoint Txid)) :
    List (LabUtxo Txid) :=
  spent.foldl (fun utxos outpoint => utxos.filter fun utxo => utxo.outpoint ≠ outpoint) utxos

def applyBlockEffects (block : LabBlock Txid) : Except String (LabState Txid) := do
  let effects ← labBlockEffects env block
  let work ← effects.transactions.foldlM
    (applyBlockTransaction env state block.height) state.blockWork
  return { state with
    transactions := work.transactions
    txDetails := work.txDetails
    addressToOwner := work.addressToOwner
    utxos := removeSpentUtxos state.utxos effects.spent ++ effects.newUtxos
    blocks := state.blocks ++ [block] }

def feeSatPerVbyte (entry : MempoolEntry Txid) : ℚ :=
  if entry.vsize = 0 then 0 else nearestDouble (entry.feeSats / entry.vsize)

/-- The first entry does not stand behind the second one: the higher fee rate stands first, and
the lower id where the rates are equal. -/
def standsBefore (first second : MempoolEntry Txid) : Bool :=
  if feeSatPerVbyte first ≠ feeSatPerVbyte second then
    decide (feeSatPerVbyte second < feeSatPerVbyte first)
  else decide (first.txid ≤ second.txid)

def overlaps (first second : MempoolEntry Txid) : Bool :=
  first.inputs.any fun input => input ∈ second.inputs

/-- The entry can be added to those that are selected. -/
def isSelectable (selectedEntries : List (MempoolEntry Txid)) (remainingWeight : Nat)
    (entry : MempoolEntry Txid) : Bool :=
  !(selectedEntries.any fun selected => selected.txid = entry.txid) &&
    decide (entry.weight ≤ remainingWeight) && !(selectedEntries.any (overlaps entry))

/-- The rounds of the loop. Each one adds an entry, so that there are at most as many rounds as
entries. -/
def selectRounds (sortedEntries : List (MempoolEntry Txid)) :
    Nat → List (MempoolEntry Txid) → Nat → List (MempoolEntry Txid)
  | 0, selectedEntries, _ => selectedEntries
  | rounds + 1, selectedEntries, remainingWeight =>
    match sortedEntries.find? (isSelectable selectedEntries remainingWeight) with
    | none => selectedEntries
    | some entry =>
      selectRounds sortedEntries rounds (selectedEntries ++ [entry])
        (remainingWeight - entry.weight)

def LAB_DEFAULT_BLOCK_WEIGHT_UNITS : Int := 4000

variable (mempool : List (MempoolEntry Txid))

/-- `none` is a limit that is not finite. A negative limit leaves no weight. -/
def selectMempoolTxsForBlock (blockWeightLimit : Option Int) : List (MempoolEntry Txid) :=
  let limit := blockWeightLimit.getD LAB_DEFAULT_BLOCK_WEIGHT_UNITS
  selectRounds (mempool.mergeSort standsBefore) mempool.length [] limit.toNat

/-- The mempool without what the first block includes and what spends the same. -/
def mempoolAfterBlock (selectedEntries : List (MempoolEntry Txid)) : List (MempoolEntry Txid) :=
  mempool.filter fun entry =>
    !(selectedEntries.any fun selected => selected.txid = entry.txid) &&
      !(selectedEntries.any (overlaps entry))

/-! ## Mining -/

def nextHeight : Nat :=
  match state.blocks.getLast? with
  | none => 0
  | some tip => tip.height + 1

/-- The next block with the transactions, and their fees in the coinbase beside the subsidy. -/
def nextBlock (coinbaseOutput : Option String) (txsForBlock : List (SignedLabTransaction Txid))
    (feesForBlock : Nat) : LabBlock Txid where
  height := nextHeight state
  transactions :=
    .coinbase (nextHeight state) {
      address := coinbaseOutput
      amountSats := state.minerSubsidySats + feesForBlock } ::
      txsForBlock.map SignedLabTransaction.transaction
  subsidySats := state.minerSubsidySats

/-- The blocks after the first one hold no transactions of the mempool. -/
def mineEmptyBlocks (coinbaseOutput : Option String) :
    Nat → LabState Txid → Except String (LabState Txid)
  | 0, state => .ok state
  | blocks + 1, state => do
      let next ← applyBlockEffects env state (nextBlock state coinbaseOutput [] 0)
      mineEmptyBlocks coinbaseOutput blocks next

structure MineOptions where
  ownerName : Option String
  ownerLabEntityId : Option Nat
  ownerWalletId : Option Nat

/-- The address that the coinbase pays to, its owner if it is an entity, and the entities, among
them a new one if the name is new or there is no target. The entity address is the one that the
wallet of the entity gives. -/
def coinbaseTarget (targetAddress : String) (options : MineOptions)
    (entityAddress : WalletAddress env) :
    Except String (String × Option LabOwner × List LabEntityRecord) :=
  let newEntity (entityName : Option String) :=
    let labEntityId := nextLabEntityId state.entities
    (entityAddress.1, some (LabOwner.labEntity labEntityId),
      state.entities ++ [{ labEntityId, entityName, isDead := false }])
  let withoutEntity :=
    let trimmed := String.ofList (trim targetAddress.toList)
    if trimmed = "" then newEntity none else (trimmed, none, state.entities)
  match options.ownerWalletId with
  | some _ => .ok withoutEntity
  | none =>
    match options.ownerLabEntityId with
    | some labEntityId =>
      match findLabEntityById state.entities labEntityId with
      | none => .error ("Unknown lab entity id " ++ toString labEntityId)
      | some entity =>
        if entity.isDead then .error "Cannot mine to a dead lab entity"
        else .ok (entityAddress.1, some (.labEntity entity.labEntityId), state.entities)
    | none =>
      let entityNameOpt := String.ofList (trim (options.ownerName.getD "").toList)
      if entityNameOpt = "" then .ok withoutEntity
      else
        match state.entities.find? fun entity => entity.entityName = some entityNameOpt with
        | some entity =>
          .ok (entityAddress.1, some (.labEntity entity.labEntityId), state.entities)
        | none => .ok (newEntity (some entityNameOpt))

def LAB_MIN_BLOCKS_PER_MINE : Nat := 1

def LAB_MAX_BLOCKS_PER_MINE : Nat := 100

def coinbaseOutputOf (coinbaseAddress : String) : Except String (Option String) :=
  match env.parseAddress coinbaseAddress with
  | some (some address) => .ok (some address)
  | some none => .error "Address must be P2WPKH (bcrt1q...) or P2TR (bcrt1p...)"
  | none => .error "invalid address"

/-- The state that the blocks of a mining run are applied to: the target is entered with its
owner, which is the wallet if one is given. -/
def stateForCoinbase (coinbaseAddress : String) (owner : Option LabOwner)
    (entities : List LabEntityRecord) : LabState Txid :=
  { state with
    entities
    addressToOwner :=
      match owner with
      | none => state.addressToOwner
      | some owner => setLabOwner state.addressToOwner coinbaseAddress owner }

/-- The first block with the picked transactions, then the empty ones. -/
def mineWithMempool (coinbaseOutput : Option String) (blockCountToMine : Nat) :
    Except String (LabState Txid) := do
  let selectedEntries := selectMempoolTxsForBlock state.mempool (some state.blockWeightLimit)
  let totalFeesSats := (selectedEntries.map MempoolEntry.feeSats).sum
  let first ← applyBlockEffects env state (nextBlock state coinbaseOutput
    (selectedEntries.map MempoolEntry.signedTx) totalFeesSats)
  mineEmptyBlocks env coinbaseOutput (blockCountToMine - 1)
    { first with mempool := mempoolAfterBlock first.mempool selectedEntries }

def executeMineBlocks (blockCountToMine : Nat) (targetAddress : String) (options : MineOptions)
    (entityAddress : WalletAddress env) : Except String (LabState Txid) :=
  if blockCountToMine < LAB_MIN_BLOCKS_PER_MINE ∨ LAB_MAX_BLOCKS_PER_MINE < blockCountToMine then
    .error "Block count must be an integer from 1 to 100 (inclusive)"
  else do
    let (coinbaseAddress, ownerForCoinbase, entities) ←
      coinbaseTarget env state targetAddress options entityAddress
    let coinbaseOutput ← coinbaseOutputOf env coinbaseAddress
    let owner := (options.ownerWalletId.map LabOwner.wallet).or ownerForCoinbase
    mineWithMempool env (stateForCoinbase state coinbaseAddress owner entities)
      coinbaseOutput blockCountToMine

/-- The entity address is the first address of the new entity. -/
def createLabEntity (ownerName : Option String) (entityAddress : WalletAddress env) :
    Except String (LabState Txid) :=
  let labEntityId := nextLabEntityId state.entities
  let entityNameOpt := String.ofList (trim (ownerName.getD "").toList)
  let register (entityName : Option String) : LabState Txid := { state with
    entities := state.entities ++ [{ labEntityId, entityName, isDead := false }]
    addressToOwner :=
      setLabOwner state.addressToOwner entityAddress.1 (.labEntity labEntityId) }
  if entityNameOpt = "" then .ok (register none)
  else
    match validateLabEntityRenameName entityNameOpt state.entities none with
    | .error message => .error message
    | .ok () => .ok (register (some entityNameOpt))

variable (labEntityId : Nat)

def updateLabEntity (update : LabEntityRecord → LabEntityRecord) : Except String (LabState Txid) :=
  match findLabEntityById state.entities labEntityId with
  | none => .error ("Unknown lab entity id " ++ toString labEntityId)
  | some _ =>
    .ok { state with
      entities := state.entities.map fun entity =>
        if entity.labEntityId = labEntityId then update entity else entity }

def renameLabEntity (newName : String) : Except String (LabState Txid) :=
  let trimmed := String.ofList (trim newName.toList)
  match validateLabEntityRenameName trimmed state.entities (some labEntityId) with
  | .error message => .error message
  | .ok () =>
    updateLabEntity state labEntityId fun entity => { entity with entityName := some trimmed }

def setLabEntityDead (dead : Bool) : Except String (LabState Txid) :=
  updateLabEntity state labEntityId fun entity => { entity with isDead := dead }

def touchesTx (owner : LabOwner) (sender receiver : Option LabOwner) : Bool :=
  sender = some owner || receiver = some owner

def deleteLabEntity : Except String (LabState Txid) :=
  let owner := LabOwner.labEntity labEntityId
  match findLabEntityById state.entities labEntityId with
  | none => .error ("Unknown lab entity id " ++ toString labEntityId)
  | some _ =>
    if (state.transactions.any fun record => touchesTx owner record.sender record.receiver) ||
        state.mempool.any fun entry => touchesTx owner entry.sender entry.receiver then
      .error ("Cannot delete: this entity has transactions. Use kill instead, or remove " ++
        "transactions from the lab chain first.")
    else
      .ok { state with
        entities := state.entities.filter fun entity => entity.labEntityId ≠ labEntityId
        addressToOwner := state.addressToOwner.filter fun entry => entry.2 ≠ owner }

/-- The part of `prepareRandomLabEntityTransaction` that is stored with its batch: the address
that it has drawn for the recipient. -/
def assignRandomRecipient (entityAddress : WalletAddress env) : Except String (LabState Txid) :=
  match findLabEntityById state.entities labEntityId with
  | none => .error ("Unknown lab entity id " ++ toString labEntityId)
  | some _ =>
    .ok { state with
      addressToOwner :=
        setLabOwner state.addressToOwner entityAddress.1 (.labEntity labEntityId) }

def LAB_MIN_BLOCK_WEIGHT_UNITS : Nat := 1000

def setBlockWeightLimit (blockWeightLimit : Nat) : Except String (LabState Txid) :=
  if blockWeightLimit < LAB_MIN_BLOCK_WEIGHT_UNITS then
    .error "blockWeightLimit must be at least 1000 weight units"
  else .ok { state with blockWeightLimit }

def setMinerSubsidySats (minerSubsidySats : Nat) : Except String (LabState Txid) :=
  .ok { state with minerSubsidySats := min minerSubsidySats MAX_SAFE_INTEGER }

/-- The stored state, and the prepared transactions by name. -/
structure LabSystem where
  state : LabState Txid
  prepared : Nat → Option (PreparedLabTransaction env)

inductive LabOp where
  | prepareEntity (id labEntityId : Nat) (fromAddress toAddress : String) (amountSats : Nat)
      (active : Option (WalletAddress env × Nat))
  | prepareWallet (id walletId : Nat) (toAddress : String) (amountSats : Nat)
      (currentAddress : Option (WalletAddress env))
      (walletChangeAddress : WalletAddress env)
      (selectedOutpoints : Option (List (LabOutpoint Txid)))
  /-- A prepared transaction of an entity has been signed, with the change going to the next
  address of the entity. -/
  | finalize (id : Nat) (changeAddress : WalletAddress env) (signing : LabSigning)
  /-- A prepared transaction of a wallet has been signed. -/
  | addSigned (id : Nat) (signing : LabSigning)
  | assignRandomRecipient (labEntityId : Nat) (entityAddress : WalletAddress env)
  | mineBlocks (blockCountToMine : Nat) (targetAddress : String) (options : MineOptions)
      (entityAddress : WalletAddress env)
  | createEntity (ownerName : Option String) (entityAddress : WalletAddress env)
  | renameEntity (labEntityId : Nat) (newName : String)
  | setEntityDead (labEntityId : Nat) (dead : Bool)
  | deleteEntity (labEntityId : Nat)
  | setBlockWeightLimit (blockWeightLimit : Nat)
  | setMinerSubsidySats (minerSubsidySats : Nat)

variable {env}

/-- What an operation makes of the stored state is stored, unless it fails. -/
def LabSystem.store (system : LabSystem env) (outcome : Except String (LabState Txid)) :
    LabSystem env :=
  match outcome with
  | .error _ => system
  | .ok state => { system with state }

def LabSystem.keep (system : LabSystem env) (id : Nat)
    (outcome : Except String (PreparedLabTransaction env)) : LabSystem env :=
  match outcome with
  | .error _ => system
  | .ok prepared => { system with prepared := Function.update system.prepared id (some prepared) }

/-- The signed form of a prepared transaction, with the metadata and what its operation makes of
the state. Entities name the change address when they sign. -/
def putIntoMempool (prepared : PreparedLabTransaction env)
    (entityChangeAddress : Option (WalletAddress env)) (signing : LabSigning) :
    Option (SignedLabTransaction Txid × LabMempoolMetadata Txid ×
      Except String (LabState Txid)) :=
  match prepared.spender, entityChangeAddress with
  | .entity labEntityId, some changeAddress =>
    (buildAndSignLabTransaction env prepared changeAddress signing).map
      fun (signedTx, mempoolMetadata) => (signedTx, mempoolMetadata,
        finalizeLabEntityMempoolTransaction env state signedTx mempoolMetadata
          labEntityId)
  | .wallet changeAddress, none =>
    (buildAndSignLabTransaction env prepared changeAddress signing).map
      fun (signedTx, mempoolMetadata) => (signedTx, mempoolMetadata,
        addSignedTransactionToMempool env state signedTx mempoolMetadata)
  | _, _ => none

/-- A prepared transaction is put into the mempool once. -/
def LabSystem.submit (system : LabSystem env) (id : Nat)
    (entityChangeAddress : Option (WalletAddress env)) (signing : LabSigning) :
    LabSystem env :=
  match system.prepared id with
  | none => system
  | some prepared =>
    match putIntoMempool system.state prepared entityChangeAddress signing with
    | none => system
    | some (_, _, outcome) =>
      { system with prepared := Function.update system.prepared id none }.store outcome

def labStep (system : LabSystem env) : LabOp env → LabSystem env
  | .prepareEntity id labEntityId fromAddress toAddress amountSats active =>
    system.keep id (prepareLabEntityTransaction env system.state labEntityId
      fromAddress toAddress amountSats (knownRecipientOwner env toAddress active))
  | .prepareWallet id walletId toAddress amountSats currentAddress walletChangeAddress
      selectedOutpoints =>
    system.keep id (prepareLabWalletTransaction env system.state walletId toAddress
      amountSats walletChangeAddress
      (knownRecipientOwner env toAddress (currentAddress.map fun address =>
        (address, walletId)))
      selectedOutpoints)
  | .finalize id changeAddress signing => system.submit id (some changeAddress) signing
  | .addSigned id signing => system.submit id none signing
  | .assignRandomRecipient labEntityId entityAddress =>
    system.store (assignRandomRecipient env system.state labEntityId entityAddress)
  | .mineBlocks blockCountToMine targetAddress options entityAddress =>
    system.store (executeMineBlocks env system.state blockCountToMine targetAddress
      options entityAddress)
  | .createEntity ownerName entityAddress =>
    system.store (createLabEntity env system.state ownerName entityAddress)
  | .renameEntity labEntityId newName =>
    system.store (renameLabEntity system.state labEntityId newName)
  | .setEntityDead labEntityId dead =>
    system.store (setLabEntityDead system.state labEntityId dead)
  | .deleteEntity labEntityId => system.store (deleteLabEntity system.state labEntityId)
  | .setBlockWeightLimit blockWeightLimit =>
    system.store (setBlockWeightLimit system.state blockWeightLimit)
  | .setMinerSubsidySats minerSubsidySats =>
    system.store (setMinerSubsidySats system.state minerSubsidySats)

variable (env)

/-- The default subsidy and weight limit, and nothing else. -/
def initialLabSystem : LabSystem env where
  state := {
    blocks := []
    utxos := []
    entities := []
    addressToOwner := []
    mempool := []
    transactions := []
    txDetails := []
    txOperations := []
    blockWeightLimit := 4000
    minerSubsidySats := 312500000 }
  prepared := fun _ => none

def labRun (ops : List (LabOp env)) : LabSystem env :=
  run labStep (initialLabSystem env) ops

end Mining

end Bitboard.Frontend
