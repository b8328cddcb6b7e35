/-
# Operations on the Arkade accounts of a payload

An account is the wallet's partition for one operator. Opening a session ensures that the
account exists and makes it the active one of its network; a flush merges the state the
SDK exported, and keeps the state with the higher receive cursor; a sync stamps its time.
Accounts are found by the active id, by the operator's signer key, or by their id.

The functions follow `arkade-payload-merge.ts` and `arkade-sdk-persistence-types.ts`.
-/

import Bitboard.Wallet.Json

namespace Bitboard.Wallet

/-- What the engine decides: `JSON.parse`, and the path and host name of a `URL`. -/
structure ArkadeEnvironment where
  parseJson : String → Option JsonValue
  parseUrl : String → Option (String × String)

def arkadeSdkPersistenceJsonMaxBytes : Nat := 10 * 1024 * 1024

def parseNonNegativeIntegerField (value : JsonValue) (fieldLabel : String) : Except String Nat :=
  match value with
  | .number (.finite number) =>
    if number.den = 1 ∧ 0 ≤ number then .ok number.num.toNat
    else .error s!"{fieldLabel} must be a non-negative integer"
  | _ => .error s!"{fieldLabel} must be a non-negative integer"

def parseOptionalIntegerField (value : Option JsonValue) (fieldLabel : String) :
    Except String (Option Nat) :=
  match value with
  | none => .ok none
  | some value => do return some (← parseNonNegativeIntegerField value fieldLabel)

/-- The part of the exported state that is read, `ArkadeSdkPersistenceEnvelope`. -/
structure ArkadeSdkPersistenceEnvelope where
  version : Option Nat
  /-- The index in `walletDb`; none also where `walletDb` is missing. -/
  offchainNextDerivationIndex : Option Nat

section Operations

variable (env : ArkadeEnvironment)

def parseArkadeSdkPersistenceJson (sdkPersistenceJson : String) :
    Except String ArkadeSdkPersistenceEnvelope :=
  match env.parseJson sdkPersistenceJson with
  | none => .error "Arkade SDK persistence is not valid JSON"
  | some root =>
    if !root.isPlainObject then .error "Arkade SDK persistence must be a JSON object"
    else do
      let version ← parseOptionalIntegerField (root.get? "version")
        "Arkade SDK persistence version"
      match root.get? "wallet_db" with
      | none => return { version := version, offchainNextDerivationIndex := none }
      | some walletDb =>
        if !walletDb.isPlainObject then
          .error "Arkade SDK persistence wallet_db must be an object"
        else
          let index ← parseOptionalIntegerField
            (walletDb.get? "offchain_next_derivation_index")
            "Arkade SDK persistence wallet_db.offchain_next_derivation_index"
          return { version := version, offchainNextDerivationIndex := index }

/-- `readOffchainNextDerivationIndex`: the receive cursor. -/
def readOffchainNextDerivationIndex : Option String → Except String Nat
  | none => .ok 0
  | some sdkPersistenceJson => do
      let parsed ← parseArkadeSdkPersistenceJson env sdkPersistenceJson
      return parsed.offchainNextDerivationIndex.getD 0

def mergeSdkPersistenceJsonMonotonic (existingJson : Option String) (incomingJson : String) :
    Except String String :=
  match existingJson with
  | none => .ok incomingJson
  | some existing => do
      let existingIndex ← readOffchainNextDerivationIndex env (some existing)
      let incomingIndex ← readOffchainNextDerivationIndex env (some incomingJson)
      return if existingIndex ≤ incomingIndex then incomingJson else existing

def assertSdkPersistenceJsonWithinSizeLimit (sdkPersistenceJson : String) : Except String Unit :=
  if arkadeSdkPersistenceJsonMaxBytes < sdkPersistenceJson.utf8ByteSize then
    .error s!"Arkade SDK persistence exceeds {arkadeSdkPersistenceJsonMaxBytes} bytes"
  else .ok ()

variable (payload : WalletSecretsPayload)

def findArkadeAccount (arkadeAccountId : String) : Option StoredArkadeAccount :=
  payload.arkadeAccounts.find? fun row => row.id = arkadeAccountId

def findActiveArkadeAccount (networkMode : ArkadeSupportedNetworkMode) :
    Option StoredArkadeAccount :=
  (payload.activeArkadeAccountIdByNetwork networkMode).bind (findArkadeAccount payload)

def upsertArkadeAccountInPayload (account : StoredArkadeAccount) (setActiveForNetwork : Bool) :
    WalletSecretsPayload :=
  { payload with
    arkadeAccounts :=
      payload.arkadeAccounts.filter (fun row => row.id ≠ account.id) ++ [account]
    activeArkadeAccountIdByNetwork :=
      if setActiveForNetwork then
        Function.update payload.activeArkadeAccountIdByNetwork account.networkMode
          (some account.id)
      else payload.activeArkadeAccountIdByNetwork }

/-- `ArkadeSignerMigrationHint`: the key that the operator's present key replaced. -/
structure ArkadeSignerMigrationHint where
  previousSignerPkHex : String

/-- The account's signer is the operator's, or the one that the hint says it replaced. -/
def operatorSignerMatches (account : StoredArkadeAccount) (operatorSignerPkHex : String)
    (signerMigrationHint : Option ArkadeSignerMigrationHint) : Bool :=
  account.operatorSignerPkHex = operatorSignerPkHex ||
    signerMigrationHint.any fun hint => account.operatorSignerPkHex = hint.previousSignerPkHex

def assertOperatorSignerMatchesOrMigration (account : StoredArkadeAccount)
    (operatorSignerPkHex : String) (signerMigrationHint : Option ArkadeSignerMigrationHint) :
    Except String Unit :=
  if operatorSignerMatches account operatorSignerPkHex signerMigrationHint then .ok ()
  else
    .error "Arkade persistence belongs to a different operator (signer public key mismatch)"

/-- `defaultArkadeOperatorLabel`: the last part of the path, or the host name. -/
def defaultArkadeOperatorLabel (operatorUrl : String) : String :=
  match env.parseUrl operatorUrl with
  | none => "Arkade operator"
  | some (pathname, hostname) =>
    ((pathname.splitOn "/").filter fun segment => !segment.isEmpty).getLast?.getD hostname

/-- The parameters of an ensure, with the id and the time that it takes from the engine. -/
structure EnsureArkadeAccountParams where
  networkMode : ArkadeSupportedNetworkMode
  operatorSignerPkHex : String
  operatorUrl : String
  delegatorUrl : String
  sdkPersistenceJson : Option String
  arkadeAccountId : Option String
  signerMigrationHint : Option ArkadeSignerMigrationHint
  /-- `crypto.randomUUID()`. -/
  freshId : String
  /-- `new Date().toISOString()`. -/
  now : String

variable (params : EnsureArkadeAccountParams)

def EnsureArkadeAccountParams.delegator : Option String :=
  if params.delegatorUrl.isEmpty then none else some params.delegatorUrl

def EnsureArkadeAccountParams.newId : String :=
  params.arkadeAccountId.getD params.freshId

/-- `buildDefaultArkadeAccount`, with the id that the caller chose. -/
def buildDefaultArkadeAccount : StoredArkadeAccount where
  id := params.newId
  label := defaultArkadeOperatorLabel env params.operatorUrl
  networkMode := params.networkMode
  operatorUrl := params.operatorUrl
  delegatorUrl := params.delegator
  operatorSignerPkHex := params.operatorSignerPkHex
  createdAt := params.now
  lastSessionOpenedAt := none
  lastSuccessfulOperatorSyncAt := none
  sdkPersistenceJson := params.sdkPersistenceJson

/-- The account of the network whose signer matches. -/
def findMatchingArkadeAccount (params : EnsureArkadeAccountParams) : Option StoredArkadeAccount :=
  payload.arkadeAccounts.find? fun row =>
    row.networkMode = params.networkMode &&
      operatorSignerMatches row params.operatorSignerPkHex params.signerMigrationHint

/-- `ensureArkadeAccountInPayload`: the payload and the ensured account. -/
def ensureArkadeAccountInPayload (params : EnsureArkadeAccountParams) :
    Except String (WalletSecretsPayload × StoredArkadeAccount) :=
  match findActiveArkadeAccount payload params.networkMode with
  | some existingActive => do
      assertOperatorSignerMatchesOrMigration existingActive params.operatorSignerPkHex
        params.signerMigrationHint
      let account := { existingActive with
        operatorUrl := params.operatorUrl
        delegatorUrl := params.delegator
        operatorSignerPkHex := params.operatorSignerPkHex
        sdkPersistenceJson := existingActive.sdkPersistenceJson.or params.sdkPersistenceJson
        lastSessionOpenedAt := some params.now }
      return (upsertArkadeAccountInPayload payload account true, account)
  | none =>
    match findMatchingArkadeAccount payload params with
    | some matchingAccount =>
      let account := { matchingAccount with
        operatorSignerPkHex := params.operatorSignerPkHex
        sdkPersistenceJson :=
          matchingAccount.sdkPersistenceJson.or params.sdkPersistenceJson
        lastSessionOpenedAt := some params.now }
      .ok (upsertArkadeAccountInPayload payload account true, account)
    | none =>
      let account := buildDefaultArkadeAccount env params
      .ok (upsertArkadeAccountInPayload payload account true, account)

def mergeSdkPersistenceIntoPayload (arkadeAccountId : String) (sdkPersistenceJson : String)
    (lastSuccessfulOperatorSyncAt : Option String) :
    Except String WalletSecretsPayload := do
  assertSdkPersistenceJsonWithinSizeLimit sdkPersistenceJson
  match findArkadeAccount payload arkadeAccountId with
  | none => .error s!"Unknown Arkade account: {arkadeAccountId}"
  | some existing =>
    let merged ← mergeSdkPersistenceJsonMonotonic env existing.sdkPersistenceJson
      sdkPersistenceJson
    return upsertArkadeAccountInPayload payload
      { existing with
        sdkPersistenceJson := some merged
        lastSuccessfulOperatorSyncAt :=
          lastSuccessfulOperatorSyncAt.or existing.lastSuccessfulOperatorSyncAt } false

def updateOperatorSyncAtInPayload (arkadeAccountId : String)
    (lastSuccessfulOperatorSyncAt : String) : Except String WalletSecretsPayload :=
  match findArkadeAccount payload arkadeAccountId with
  | none => .error s!"Unknown Arkade account: {arkadeAccountId}"
  | some existing =>
    .ok (upsertArkadeAccountInPayload payload
      { existing with lastSuccessfulOperatorSyncAt := some lastSuccessfulOperatorSyncAt } false)

inductive ArkadeAccountOp where
  | ensure (params : EnsureArkadeAccountParams)
  | mergeSdkPersistence (arkadeAccountId sdkPersistenceJson : String)
      (lastSuccessfulOperatorSyncAt : Option String)
  | updateOperatorSyncAt (arkadeAccountId lastSuccessfulOperatorSyncAt : String)

def ArkadeAccountOp.apply : ArkadeAccountOp → Except String WalletSecretsPayload
  | .ensure params => (ensureArkadeAccountInPayload env payload params).map Prod.fst
  | .mergeSdkPersistence arkadeAccountId sdkPersistenceJson lastSuccessfulOperatorSyncAt =>
    mergeSdkPersistenceIntoPayload env payload arkadeAccountId sdkPersistenceJson
      lastSuccessfulOperatorSyncAt
  | .updateOperatorSyncAt arkadeAccountId lastSuccessfulOperatorSyncAt =>
    updateOperatorSyncAtInPayload payload arkadeAccountId lastSuccessfulOperatorSyncAt

/-- The stored payload after an operation; one that throws writes nothing. -/
def arkadeAccountStep (op : ArkadeAccountOp) : WalletSecretsPayload :=
  match op.apply env payload with
  | .ok next => next
  | .error _ => payload

end Operations

end Bitboard.Wallet
