/-
# Operations on the Bark accounts of a payload

Nine functions change the Bark account of one network. Each of them reads the account,
builds a row anew out of the kept fields and writes the row back in its place. The kept
fields pass through the readers of unknown values on the way: a malformed claim is left
out, only an explicit true stays of the automatic proceeding, and the seized outputs
come out in their normal form.

The functions follow `bark-rail-metadata.ts`.
-/

import Bitboard.Lib.KeyedRows
import Bitboard.Wallet.ExitNodeSweepItems

namespace Bitboard.Wallet

open Lib

/-- What the build and the engine decide: the URL of the regtest server, the strings that
`Date.parse` reads as a time, and `toLowerCase`. -/
structure BarkEnvironment where
  regtestServerUrl : String
  dateParses : String → Bool
  toLowerCase : String → String

def barkSignetServerUrl : String := "https://ark.signet.2nd.dev"

def barkMainnetServerUrl : String := "https://ark.second.tech"

def BarkEnvironment.barkServerUrl (env : BarkEnvironment) : BarkRailNetwork → String
  | .signet => barkSignetServerUrl
  | .regtest => env.regtestServerUrl
  | .mainnet => barkMainnetServerUrl

def isBarkReceiveKeyIndex (value : JsNumber) : Bool :=
  value.isIntegerBetween 0 0xffffffff

def isPendingEmergencyClaim (claim : PendingEmergencyClaim) : Bool :=
  !claim.txid.isEmpty && !claim.vtxoIds.isEmpty &&
    claim.vtxoIds.all fun vtxoId => !vtxoId.isEmpty

def pendingEmergencyClaimFromUnknown (claim : PendingEmergencyClaim) :
    Option PendingEmergencyClaim :=
  if isPendingEmergencyClaim claim then some claim else none

def proceedAutomaticallyFromUnknown (value : Bool) : Option Bool :=
  if value then some true else none

def emergencyExitFeePresetFromUnknown (value : String) : Option BarkEmergencyExitFeePreset :=
  if value = "Low" then some .low
  else if value = "Medium" then some .medium
  else if value = "High" then some .high
  else none

def emergencyExitMaxFeeRateFromUnknown (value : JsNumber) : Option JsNumber :=
  if value.isPositiveFinite then some value else none

def barkRecordEnvelopeMaxBytes : Nat := 10 * 1024 * 1024

def assertBarkRecordEnvelopeWithinSizeLimit (recordEnvelope : String) : Except String Unit :=
  if barkRecordEnvelopeMaxBytes < recordEnvelope.utf8ByteSize then
    .error s!"Bark record envelope exceeds {barkRecordEnvelopeMaxBytes} bytes"
  else .ok ()

def findBarkAccount (payload : WalletSecretsPayload) (network : BarkRailNetwork) :
    Option StoredBarkAccount :=
  getRow StoredBarkAccount.networkMode network payload.barkAccounts

def requireBarkAccount (payload : WalletSecretsPayload) (network : BarkRailNetwork) :
    Except String StoredBarkAccount :=
  match findBarkAccount payload network with
  | none => .error "Bark account is missing"
  | some account => .ok account

def upsertBarkAccountInPayload (payload : WalletSecretsPayload) (account : StoredBarkAccount) :
    WalletSecretsPayload :=
  { payload with
    barkAccounts := putRow StoredBarkAccount.networkMode account payload.barkAccounts }

section Operations

variable (env : BarkEnvironment)

/-- `accountWithPreservedFields`; `freshId` is the `crypto.randomUUID()` of a new account. -/
def accountWithPreservedFields (freshId : String) (network : BarkRailNetwork)
    (existingAccount : Option StoredBarkAccount) (fingerprint : String)
    (receiveKeyIndex : Option JsNumber) (recordEnvelope : Option String) : StoredBarkAccount where
  id := (existingAccount.map StoredBarkAccount.id).getD freshId
  networkMode := network
  serverUrl := env.barkServerUrl network
  fingerprint := fingerprint
  lastSuccessfulSyncAt := existingAccount.bind StoredBarkAccount.lastSuccessfulSyncAt
  receiveKeyIndex :=
    receiveKeyIndex.or (existingAccount.bind StoredBarkAccount.receiveKeyIndex)
  recordEnvelope := recordEnvelope.or (existingAccount.bind StoredBarkAccount.recordEnvelope)
  pendingEmergencyClaim :=
    (existingAccount.bind StoredBarkAccount.pendingEmergencyClaim).bind
      pendingEmergencyClaimFromUnknown
  proceedAutomatically :=
    (existingAccount.bind StoredBarkAccount.proceedAutomatically).bind
      proceedAutomaticallyFromUnknown
  emergencyExitFeePreset := existingAccount.bind StoredBarkAccount.emergencyExitFeePreset
  emergencyExitMaxFeeRateSatPerVb :=
    (existingAccount.bind StoredBarkAccount.emergencyExitMaxFeeRateSatPerVb).bind
      emergencyExitMaxFeeRateFromUnknown
  exitNodeSweepVtxoItems :=
    ((existingAccount.bind StoredBarkAccount.exitNodeSweepVtxoItems).bind
      exitNodeSweepVtxoItemsFromItems).filter fun items => !items.isEmpty

/-- The row that is built for an account of which nothing is replaced. -/
def preservedAccount (existing : StoredBarkAccount) : StoredBarkAccount :=
  accountWithPreservedFields env "" existing.networkMode (some existing)
    existing.fingerprint none none

def checkRecordEnvelope : Option String → Except String Unit
  | none => .ok ()
  | some recordEnvelope =>
    if recordEnvelope.isEmpty then .error "Bark record envelope is empty"
    else assertBarkRecordEnvelopeWithinSizeLimit recordEnvelope

/-- A receive key index that an operation was given. -/
def checkReceiveKeyIndex : Option JsNumber → Except String Unit
  | none => .ok ()
  | some receiveKeyIndex =>
    if isBarkReceiveKeyIndex receiveKeyIndex then .ok ()
    else .error "Bark receive key index is invalid"

def checkSyncedAt : Option String → Except String Unit
  | none => .ok ()
  | some syncedAt =>
    if env.dateParses syncedAt then .ok ()
    else .error "Bark sync timestamp must be a parseable ISO-8601 string"

variable (payload : WalletSecretsPayload)

def applyOpenedBarkAccount (freshId : String) (network : BarkRailNetwork) (fingerprint : String)
    (receiveKeyIndex : Option JsNumber) (recordEnvelope : Option String) :
    Except String WalletSecretsPayload := do
  checkReceiveKeyIndex receiveKeyIndex
  checkRecordEnvelope recordEnvelope
  match findBarkAccount payload network with
  | none =>
    return upsertBarkAccountInPayload payload
      (accountWithPreservedFields env freshId network none fingerprint
        receiveKeyIndex recordEnvelope)
  | some existing =>
    if env.toLowerCase existing.fingerprint ≠ env.toLowerCase fingerprint then
      .error "Bark fingerprint does not match the stored account"
    else
      return upsertBarkAccountInPayload payload
        (accountWithPreservedFields env freshId network (some existing) fingerprint
          receiveKeyIndex recordEnvelope)

def applySuccessfulBarkSync (network : BarkRailNetwork) (syncedAt : String)
    (recordEnvelope : Option String) :
    Except String WalletSecretsPayload := do
  checkSyncedAt env (some syncedAt)
  checkRecordEnvelope recordEnvelope
  let existing ← requireBarkAccount payload network
  return upsertBarkAccountInPayload payload
    { accountWithPreservedFields env "" network (some existing) existing.fingerprint
        none recordEnvelope with
      lastSuccessfulSyncAt := some syncedAt }

def applyBarkRecordEnvelope (network : BarkRailNetwork) (recordEnvelope : String)
    (receiveKeyIndex : Option JsNumber) (lastSuccessfulSyncAt : Option String) :
    Except String WalletSecretsPayload := do
  checkRecordEnvelope (some recordEnvelope)
  checkReceiveKeyIndex receiveKeyIndex
  checkSyncedAt env lastSuccessfulSyncAt
  let existing ← requireBarkAccount payload network
  let account := accountWithPreservedFields env "" network (some existing)
    existing.fingerprint receiveKeyIndex (some recordEnvelope)
  return upsertBarkAccountInPayload payload
    { account with
      lastSuccessfulSyncAt := lastSuccessfulSyncAt.or account.lastSuccessfulSyncAt }

def applyPendingEmergencyClaim (network : BarkRailNetwork)
    (pending : Option PendingEmergencyClaim) : Except String WalletSecretsPayload := do
  if pending.any fun claim => !isPendingEmergencyClaim claim then
    .error "Bark pending emergency claim is invalid"
  else
    let existing ← requireBarkAccount payload network
    return upsertBarkAccountInPayload payload
      { accountWithPreservedFields env "" network (some existing) existing.fingerprint
          none none with
        pendingEmergencyClaim := pending }

def applyProceedAutomatically (network : BarkRailNetwork) (enabled : Bool) :
    Except String WalletSecretsPayload := do
  let existing ← requireBarkAccount payload network
  return upsertBarkAccountInPayload payload
    { accountWithPreservedFields env "" network (some existing) existing.fingerprint
        none none with
      proceedAutomatically := if enabled then some true else none }

def applyEmergencyExitFeePreset (network : BarkRailNetwork) (feePreset : String) :
    Except String WalletSecretsPayload :=
  match emergencyExitFeePresetFromUnknown feePreset with
  | none => .error "Emergency exit fee preset must be Low, Medium, or High"
  | some preset => do
      let existing ← requireBarkAccount payload network
      return upsertBarkAccountInPayload payload
        { accountWithPreservedFields env "" network (some existing)
            existing.fingerprint none none with
          emergencyExitFeePreset := some preset }

def applyEmergencyExitMaxFeeRate (network : BarkRailNetwork) (maxFeeRateSatPerVb : JsNumber) :
    Except String WalletSecretsPayload :=
  match emergencyExitMaxFeeRateFromUnknown maxFeeRateSatPerVb with
  | none => .error "Max fee rate must be a positive number of sat/vB"
  | some maxFeeRate => do
      let existing ← requireBarkAccount payload network
      return upsertBarkAccountInPayload payload
        { accountWithPreservedFields env "" network (some existing)
            existing.fingerprint none none with
          emergencyExitMaxFeeRateSatPerVb := some maxFeeRate }

def applyMergedExitChainNotice (network : BarkRailNetwork)
    (items : List BarkExitNodeSweepVtxoItem) : Except String WalletSecretsPayload :=
  if items.isEmpty then .ok payload
  else do
    let existing ← requireBarkAccount payload network
    let account := accountWithPreservedFields env "" network (some existing)
      existing.fingerprint none none
    let merged := mergeExitNodeSweepVtxoItems (account.exitNodeSweepVtxoItems.getD []) items
    if merged.isEmpty then return payload
    else
      return upsertBarkAccountInPayload payload
        { account with exitNodeSweepVtxoItems := some merged }

def applyClearedExitChainNotice (network : BarkRailNetwork) (kind : BarkExitNodeSweepKind) :
    Except String WalletSecretsPayload := do
  let existing ← requireBarkAccount payload network
  let account := accountWithPreservedFields env "" network (some existing)
    existing.fingerprint none none
  let remaining :=
    exitNodeSweepVtxoItemsWithoutKind (account.exitNodeSweepVtxoItems.getD []) kind
  return upsertBarkAccountInPayload payload
    { account with
      exitNodeSweepVtxoItems := if remaining.isEmpty then none else some remaining }

inductive BarkAccountChange where
  | opened (freshId fingerprint : String) (receiveKeyIndex : Option JsNumber)
      (recordEnvelope : Option String)
  | successfulSync (syncedAt : String) (recordEnvelope : Option String)
  | recordEnvelope (recordEnvelope : String) (receiveKeyIndex : Option JsNumber)
      (lastSuccessfulSyncAt : Option String)
  | pendingEmergencyClaim (pending : Option PendingEmergencyClaim)
  | proceedAutomatically (enabled : Bool)
  | feePreset (feePreset : String)
  | maxFeeRate (maxFeeRateSatPerVb : JsNumber)
  | mergedNotices (items : List BarkExitNodeSweepVtxoItem)
  | clearedNotices (kind : BarkExitNodeSweepKind)

structure BarkAccountOp where
  network : BarkRailNetwork
  change : BarkAccountChange

def BarkAccountOp.apply (op : BarkAccountOp) (payload : WalletSecretsPayload) :
    Except String WalletSecretsPayload :=
  match op.change with
  | .opened freshId fingerprint receiveKeyIndex recordEnvelope =>
    applyOpenedBarkAccount env payload freshId op.network fingerprint receiveKeyIndex
      recordEnvelope
  | .successfulSync syncedAt recordEnvelope =>
    applySuccessfulBarkSync env payload op.network syncedAt recordEnvelope
  | .recordEnvelope recordEnvelope receiveKeyIndex lastSuccessfulSyncAt =>
    applyBarkRecordEnvelope env payload op.network recordEnvelope receiveKeyIndex
      lastSuccessfulSyncAt
  | .pendingEmergencyClaim pending =>
    applyPendingEmergencyClaim env payload op.network pending
  | .proceedAutomatically enabled =>
    applyProceedAutomatically env payload op.network enabled
  | .feePreset feePreset => applyEmergencyExitFeePreset env payload op.network feePreset
  | .maxFeeRate maxFeeRateSatPerVb =>
    applyEmergencyExitMaxFeeRate env payload op.network maxFeeRateSatPerVb
  | .mergedNotices items => applyMergedExitChainNotice env payload op.network items
  | .clearedNotices kind => applyClearedExitChainNotice env payload op.network kind

/-- The stored payload after an operation; one that throws writes nothing. -/
def barkAccountStep (op : BarkAccountOp) : WalletSecretsPayload :=
  match op.apply env payload with
  | .ok next => next
  | .error _ => payload

end Operations

end Bitboard.Wallet
