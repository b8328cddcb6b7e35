/-
# Reading the wallet payload

The payload is stored as JSON text. Reading it drops what older versions wrote under other
names, drops rows that are not valid and cannot be made so, keeps one Bark account for
each network, and then checks the whole. What is read is written back at the next save, so
a row that is dropped here is lost.

The functions follow `wallet-domain-types.ts` and `lightning-snapshot-payload.ts`. They work
on the values that `JSON.parse` returned: properties that no check knows are kept.
-/

import Bitboard.Wallet.BarkAccounts
import Bitboard.Wallet.Json

namespace Bitboard.Wallet.PayloadJson

open Lib
open JsonValue

/-- What the build and the engine decide beside `BarkEnvironment`: whether the regtest
network is switched on, and the text of the error for a loop over no list. -/
structure Environment extends BarkEnvironment where
  regtestEnabled : Bool
  notIterableMessage : String

/-- The characters that `trim` takes away. -/
def isJsWhitespace (c : Char) : Bool :=
  c.val ∈ [0x9, 0xa, 0xb, 0xc, 0xd, 0x20, 0xa0, 0x1680, 0x2028, 0x2029, 0x202f, 0x205f, 0x3000,
    0xfeff] || (0x2000 ≤ c.val && c.val ≤ 0x200a)

def isNonBlank (s : String) : Bool := s.toList.any fun c => !isJsWhitespace c

def isNonEmptyString : Option JsonValue → Bool
  | some (.string s) => isNonBlank s
  | _ => false

def isStringWithText : Option JsonValue → Bool
  | some (.string s) => !s.isEmpty
  | _ => false

def isStringUpTo (length : Nat) : Option JsonValue → Bool
  | some (.string s) => decide ((utf16 s).length ≤ length)
  | _ => false

def isOneOf (names : List String) : Option JsonValue → Bool
  | some (.string s) => decide (s ∈ names)
  | _ => false

/-- A check that only a property with a value has to pass. -/
def absentOr (check : JsonValue → Bool) : Option JsonValue → Bool
  | none => true
  | some value => check value

def isNonNegativeInteger : Option JsonValue → Bool
  | some (.number (.finite q)) => q.den = 1 && decide (0 ≤ q)
  | _ => false

def isFiniteNumber : Option JsonValue → Bool
  | some (.number (.finite _)) => true
  | _ => false

def supportedBitcoinNetworks : List String :=
  ["bitcoin", "testnet", "signet", "mutinynet", "regtest"]

def supportedAddressTypes : List String := ["segwit", "taproot"]

def lightningNetworkModes : List String := ["mainnet", "testnet", "signet", "mutinynet"]

def arkadeSupportedNetworkModes : List String := ["mainnet", "signet", "mutinynet", "regtest"]

def barkEmergencyExitFeePresets : List String := ["Low", "Medium", "High"]

def maxLightningWalletLabelLength : Nat := 128

def maxNwcConnectionStringLength : Nat := 8192

def arkadeSdkPersistenceJsonMaxBytes : Nat := 10 * 1024 * 1024

/-- `isBarkFingerprint`: eight hexadecimal digits in either case. -/
def isBarkFingerprint : Option JsonValue → Bool
  | some (.string s) =>
    s.toList.length = 8 && s.toList.all fun c =>
      c.isDigit || ('a' ≤ c && c ≤ 'f') || ('A' ≤ c && c ≤ 'F')
  | _ => false

def isPendingEmergencyClaim (value : JsonValue) : Bool :=
  isStringWithText (value.get? "txid") &&
    match value.get? "vtxoIds" with
    | some (.array vtxoIds) =>
      !vtxoIds.isEmpty && vtxoIds.all fun vtxoId => isStringWithText (some vtxoId)
    | _ => false

/-- `pendingEmergencyClaimFromUnknown`: a copy of the two fields. -/
def pendingEmergencyClaimFromUnknown (value : JsonValue) : Option JsonValue :=
  if isPendingEmergencyClaim value then
    match value.get? "txid", value.get? "vtxoIds" with
    | some txid, some vtxoIds => some (.object [("txid", txid), ("vtxoIds", vtxoIds)])
    | _, _ => none
  else none

def proceedAutomaticallyFromUnknown : JsonValue → Option JsonValue
  | .boolean true => some (.boolean true)
  | _ => none

def emergencyExitFeePresetFromUnknown (value : JsonValue) : Option JsonValue :=
  if isOneOf barkEmergencyExitFeePresets (some value) then some value else none

def emergencyExitMaxFeeRateFromUnknown : JsonValue → Option JsonValue
  | .number rate => if rate.isPositiveFinite then some (.number rate) else none
  | _ => none

def nodeKindNames : List (String × BarkExitNodeSweepKind) :=
  [("anchor", .anchor), ("internal", .internal), ("leaf", .leaf), ("checkpoint", .checkpoint)]

def nodeKindFromUnknown : Option JsonValue → Option BarkExitNodeSweepKind
  | some (.string s) => nodeKindNames.lookup s
  | _ => none

def nodeKindName : BarkExitNodeSweepKind → String
  | .anchor => "anchor"
  | .internal => "internal"
  | .leaf => "leaf"
  | .checkpoint => "checkpoint"

def sweepItemFromUnknown (entry : JsonValue) : Option BarkExitNodeSweepVtxoItem :=
  match entry.get? "vtxoId", nodeKindFromUnknown (entry.get? "nodeKind") with
  | some (.string vtxoId), some nodeKind =>
    if vtxoId.isEmpty then none else some { vtxoId := vtxoId, nodeKind := nodeKind }
  | _, _ => none

def exitNodeSweepVtxoItemsFromUnknown : JsonValue → Option (List BarkExitNodeSweepVtxoItem)
  | .array entries =>
    (entries.mapM sweepItemFromUnknown).map normalizeExitNodeSweepVtxoItems
  | _ => none

def sweepItemValue (item : BarkExitNodeSweepVtxoItem) : JsonValue :=
  .object [("vtxoId", .string item.vtxoId), ("nodeKind", .string (nodeKindName item.nodeKind))]

/-- The list as it stands in a cleaned row; an empty one is left out. -/
def keptExitNodeSweepVtxoItems (value : JsonValue) : Option JsonValue :=
  match exitNodeSweepVtxoItemsFromUnknown value with
  | some items => if items.isEmpty then none else some (.array (items.map sweepItemValue))
  | none => none

variable (raw : List (String × JsonValue))

section Rows

variable (env : Environment)

def isIso8601Timestamp : Option JsonValue → Bool
  | some (.string s) => isNonBlank s && env.dateParses s
  | _ => false

def allowedBarkNetworks : List (String × BarkRailNetwork) :=
  if env.regtestEnabled then
    [("signet", .signet), ("mainnet", .mainnet), ("regtest", .regtest)]
  else [("signet", .signet), ("mainnet", .mainnet)]

variable (row : JsonValue)

/-- The `networkMode` of a row, if it is allowed. -/
def barkNetwork? : Option BarkRailNetwork :=
  match row.get? "networkMode" with
  | some (.string name) => (allowedBarkNetworks env).lookup name
  | _ => none

/-- The checks of `isStoredBarkAccount` on the fields that say whose records a row has. -/
def isBarkRowIdentity : Bool :=
  isNonEmptyString (row.get? "id") &&
    (match barkNetwork? env row with
      | none => false
      | some network =>
        isOneOf [env.barkServerUrl network] (row.get? "serverUrl")) &&
    isBarkFingerprint (row.get? "fingerprint")

def isBarkReceiveKeyIndex : JsonValue → Bool
  | .number index => Wallet.isBarkReceiveKeyIndex index
  | _ => false

/-- The checks of `isStoredBarkAccount` on the sync time and the receive key index. -/
def isBarkRowProgress : Bool :=
  absentOr (fun value => isIso8601Timestamp env (some value))
      (row.get? "lastSuccessfulSyncAt") &&
    absentOr isBarkReceiveKeyIndex (row.get? "receiveKeyIndex")

def isStoredBarkAccount : Bool :=
  row.isRecord && isBarkRowIdentity env row && isBarkRowProgress env row &&
    absentOr isString (row.get? "recordEnvelope") &&
    absentOr isPendingEmergencyClaim (row.get? "pendingEmergencyClaim") &&
    absentOr isBoolean (row.get? "proceedAutomatically") &&
    absentOr (fun value => (emergencyExitFeePresetFromUnknown value).isSome)
      (row.get? "emergencyExitFeePreset") &&
    absentOr (fun value => (emergencyExitMaxFeeRateFromUnknown value).isSome)
      (row.get? "emergencyExitMaxFeeRateSatPerVb") &&
    absentOr (fun value => (exitNodeSweepVtxoItemsFromUnknown value).isSome)
      (row.get? "exitNodeSweepVtxoItems")

def migrateLegacyBarkRecordDumpField : List (String × JsonValue) :=
  let cleaned := row.spread
  let cleaned :=
    match (object cleaned).get? "recordEnvelope", (object cleaned).get? "recordDump" with
    | none, some (.string legacyRecordDump) =>
      setProperty "recordEnvelope" (.string legacyRecordDump) cleaned
    | _, _ => cleaned
  deleteProperty "recordDump" cleaned

/-- A field of a cleaned row is what its reader kept, or it is deleted. -/
def cleanField (name : String) (reader : JsonValue → Option JsonValue)
    (record : List (String × JsonValue)) : List (String × JsonValue) :=
  match ((object record).get? name).bind reader with
  | some value => setProperty name value record
  | none => deleteProperty name record

/-- The row after its malformed optional fields are left out. -/
def cleanBarkRow (migrated : List (String × JsonValue)) : List (String × JsonValue) :=
  let cleaned := cleanField "pendingEmergencyClaim" pendingEmergencyClaimFromUnknown migrated
  let cleaned := cleanField "proceedAutomatically" proceedAutomaticallyFromUnknown cleaned
  let cleaned := cleanField "emergencyExitFeePreset" emergencyExitFeePresetFromUnknown cleaned
  let cleaned :=
    cleanField "emergencyExitMaxFeeRateSatPerVb" emergencyExitMaxFeeRateFromUnknown cleaned
  cleanField "exitNodeSweepVtxoItems" keptExitNodeSweepVtxoItems cleaned

def sanitizeStoredBarkAccountRow : Option JsonValue :=
  if !row.isRecord then none
  else
    let migrated := migrateLegacyBarkRecordDumpField row
    if isStoredBarkAccount env (.object migrated) then some (.object migrated)
    else
      let cleaned := cleanBarkRow migrated
      if isStoredBarkAccount env (.object cleaned) then some (.object cleaned) else none

/-- `account.networkMode`, as it is compared between rows. -/
def networkName : Option String :=
  (row.get? "networkMode").bind string?

/-- `deduplicateBarkAccountsByNetwork`, after the networks that were seen. -/
def deduplicateBarkAccountsByNetwork (seenNetworks : List (Option String)) :
    List JsonValue → List JsonValue
  | [] => []
  | account :: accounts =>
    if networkName account ∈ seenNetworks then
      deduplicateBarkAccountsByNetwork seenNetworks accounts
    else
      account :: deduplicateBarkAccountsByNetwork (networkName account :: seenNetworks) accounts

/-! ## Rows of the other kinds -/

/-- `hasLightningPaymentCoreFields`, with which `isLightningPaymentPayload` agrees. -/
def isLightningPaymentPayload : Bool :=
  row.isRecord && (row.get? "paymentHash").any isString &&
    ((row.get? "isPending").any isBoolean ||
      (row.get? "pending").any isBoolean) &&
    (row.get? "amountSats").any isNumber && (row.get? "memo").any isString &&
    (row.get? "timestamp").any isNumber && (row.get? "bolt11").any isString &&
    isOneOf ["incoming", "outgoing"] (row.get? "direction") &&
    (row.get? "feesPaidSats").any isNumber

variable (value : JsonValue)

def isNwcConnectionSnapshot : Bool :=
  value.isRecord && isFiniteNumber (value.get? "balanceSats") &&
    isStringWithText (value.get? "balanceUpdatedAt") &&
    (match value.get? "payments" with
      | some (.array payments) => payments.all isLightningPaymentPayload
      | _ => false) &&
    isStringWithText (value.get? "paymentsUpdatedAt")

def isStoredNwcLightningConnection : Bool :=
  value.isRecord && isNonEmptyString (value.get? "id") &&
    isStringUpTo maxLightningWalletLabelLength (value.get? "label") &&
    isOneOf lightningNetworkModes (value.get? "networkMode") &&
    isStringWithText (value.get? "connectionString") &&
    isStringUpTo maxNwcConnectionStringLength (value.get? "connectionString") &&
    (value.get? "createdAt").any isString &&
    absentOr isNwcConnectionSnapshot (value.get? "nwcSnapshot")

def isDescriptorWalletData : Bool :=
  value.isRecord && isOneOf supportedBitcoinNetworks (value.get? "network") &&
    isOneOf supportedAddressTypes (value.get? "addressType") &&
    isNonNegativeInteger (value.get? "accountId") &&
    isNonEmptyString (value.get? "externalDescriptor") &&
    isNonEmptyString (value.get? "internalDescriptor") &&
    isNonEmptyString (value.get? "changeSet") &&
    (value.get? "fullScanDone").any isBoolean &&
    absentOr (fun time => isIso8601Timestamp env (some time))
      (value.get? "lastSuccessfulEsploraSyncAt")

/-- The size check on `sdkPersistenceJson`. -/
def isSdkPersistenceJson : JsonValue → Bool
  | .string s => decide (s.utf8ByteSize ≤ arkadeSdkPersistenceJsonMaxBytes)
  | _ => false

def isStoredArkadeAccount : Bool :=
  value.isRecord && isOneOf arkadeSupportedNetworkModes (value.get? "networkMode") &&
    isNonEmptyString (value.get? "id") && (value.get? "label").any isString &&
    isNonEmptyString (value.get? "operatorUrl") &&
    isNonEmptyString (value.get? "operatorSignerPkHex") &&
    isIso8601Timestamp env (value.get? "createdAt") &&
    absentOr isString (value.get? "delegatorUrl") &&
    absentOr (fun time => isIso8601Timestamp env (some time))
      (value.get? "lastSessionOpenedAt") &&
    absentOr (fun time => isIso8601Timestamp env (some time))
      (value.get? "lastSuccessfulOperatorSyncAt") &&
    absentOr isSdkPersistenceJson (value.get? "sdkPersistenceJson")

def stripOversizedSdkPersistenceJson : JsonValue :=
  match row.get? "sdkPersistenceJson" with
  | some (.string s) =>
    if s.utf8ByteSize ≤ arkadeSdkPersistenceJsonMaxBytes then row
    else .object (deleteProperty "sdkPersistenceJson" row.spread)
  | _ => row

def sanitizeStoredArkadeAccountRow : Option JsonValue :=
  if !row.isRecord then none
  else if isStoredArkadeAccount env row then some row
  else
    let stripped := stripOversizedSdkPersistenceJson row
    if isStoredArkadeAccount env stripped then some stripped else none

def coalesceNullishArrayField : Option JsonValue → JsonValue
  | none => .array []
  | some .null => .array []
  | some value => value

def sanitizeOptionalObjectArray (value : Option JsonValue)
    (sanitizeRow : JsonValue → Option JsonValue) : JsonValue :=
  match coalesceNullishArrayField value with
  | .array rows => .array (rows.filterMap sanitizeRow)
  | coalesced => coalesced

/-- The values that a loop over the value visits; an object, a number or a boolean is no list. -/
def iterate : JsonValue → Except String (List JsonValue)
  | .array items => .ok items
  | .string s => .ok (s.toList.map fun c => .string (String.singleton c))
  | _ => .error env.notIterableMessage

/-- An entry of the active ids is kept if it names a valid account under a known network. -/
def isKeptActiveEntry (validAccountIds : List String) (entry : String × JsonValue) : Bool :=
  decide (entry.1 ∈ arkadeSupportedNetworkModes) && isNonEmptyString (some entry.2) &&
    entry.2.string?.any fun id => decide (id ∈ validAccountIds)

def sanitizeActiveArkadeAccountIdByNetwork (value : Option JsonValue)
    (validAccountIds : List String) : JsonValue :=
  match value with
  | some (.object entries) => .object (entries.filter (isKeptActiveEntry validAccountIds))
  | _ => .object []

def pickArkadeAccountsField : Option JsonValue :=
  match (object raw).get? "arkadeAccounts" with
  | some value => some value
  | none => (object raw).get? "arkadeOperatorConnections"

def pickActiveArkadeAccountIdByNetworkField : Option JsonValue :=
  match (object raw).get? "activeArkadeAccountIdByNetwork" with
  | some value => some value
  | none => (object raw).get? "activeArkadeConnectionIdByNetwork"

def accountIds : JsonValue → List String
  | .array rows => rows.filterMap fun row => (row.get? "id").bind string?
  | _ => []

def withoutBuiltProperties : List (String × JsonValue) :=
  ["arkadeWallets", "arkadeOperatorConnections", "activeArkadeConnectionIdByNetwork",
    "arkadeAccounts", "activeArkadeAccountIdByNetwork", "barkRails", "barkAccounts"].foldl
    (fun record name => deleteProperty name record) raw

def normalizeWalletSecretsPayload (raw : JsonValue) : Except String JsonValue :=
  if !raw.isRecord then .ok raw
  else do
    let record := raw.spread
    let arkadeAccounts := sanitizeOptionalObjectArray (pickArkadeAccountsField record)
      (sanitizeStoredArkadeAccountRow env)
    let barkRows ← iterate env
      (sanitizeOptionalObjectArray ((object record).get? "barkAccounts")
        (sanitizeStoredBarkAccountRow env))
    let kept := withoutBuiltProperties record
    let active := sanitizeActiveArkadeAccountIdByNetwork
      (pickActiveArkadeAccountIdByNetworkField record) (accountIds arkadeAccounts)
    return .object
      (setProperty "barkAccounts" (.array (deduplicateBarkAccountsByNetwork [] barkRows))
        (setProperty "activeArkadeAccountIdByNetwork" active
          (setProperty "arkadeAccounts" arkadeAccounts
            (setProperty "lightningNwcConnections"
              (coalesceNullishArrayField ((object kept).get? "lightningNwcConnections"))
              kept))))

/-- The property is a list of rows that each pass the check. -/
def isArrayOf (check : JsonValue → Bool) : Option JsonValue → Bool
  | some (.array rows) => rows.all check
  | _ => false

def barkNetworksDiffer : Option JsonValue → Bool
  | some (.array rows) => decide (rows.map networkName).Nodup
  | _ => false

def isWalletSecretsPayload : Bool :=
  value.isRecord && (value.get? "mnemonic").isNone &&
    isArrayOf (isDescriptorWalletData env) (value.get? "descriptorWallets") &&
    isArrayOf isStoredNwcLightningConnection (value.get? "lightningNwcConnections") &&
    isArrayOf (isStoredArkadeAccount env) (value.get? "arkadeAccounts") &&
    absentOr isRecord (value.get? "activeArkadeAccountIdByNetwork") &&
    isArrayOf (isStoredBarkAccount env) (value.get? "barkAccounts") &&
    barkNetworksDiffer (value.get? "barkAccounts")

/-- One list of rows in `describeWalletSecretsPayloadValidationIssues`. -/
def describeRows (name : String) (invalid : String) (check : JsonValue → Bool)
    (value : JsonValue) : List String :=
  match value.get? name with
  | some (.array rows) => if rows.all check then [] else [invalid]
  | _ => [s!"{name} must be an array"]

def firstDuplicateNetwork (seen : List (Option String)) : List JsonValue → Option String
  | [] => none
  | row :: rows =>
    if networkName row ∈ seen then some ((networkName row).getD "undefined")
    else firstDuplicateNetwork (networkName row :: seen) rows

/-- The Bark rows in `describeWalletSecretsPayloadValidationIssues`. -/
def describeBarkRows : List String :=
  match describeRows "barkAccounts" "barkAccounts contains an invalid row"
      (isStoredBarkAccount env) value, value.get? "barkAccounts" with
  | [], some (.array rows) =>
    match firstDuplicateNetwork [] rows with
    | some network => [s!"barkAccounts has duplicate account for network {network}"]
    | none => []
  | issues, _ => issues

def describeWalletSecretsPayloadValidationIssues : List String :=
  if !value.isRecord then ["root is not an object"]
  else
    (if (value.get? "mnemonic").isSome then
        ["mnemonic must not appear in payload-only secrets"]
      else []) ++
    describeRows "descriptorWallets" "descriptorWallets contains an invalid row"
      (isDescriptorWalletData env) value ++
    describeRows "lightningNwcConnections" "lightningNwcConnections contains an invalid row"
      isStoredNwcLightningConnection value ++
    describeRows "arkadeAccounts" "arkadeAccounts contains an invalid row"
      (isStoredArkadeAccount env) value ++
    (if absentOr isRecord (value.get? "activeArkadeAccountIdByNetwork") then []
      else ["activeArkadeAccountIdByNetwork must be an object"]) ++
    describeBarkRows env value

def parseWalletPayloadJson {Text : Type} (engine : JsonEngine Text) (walletSecretsJson : Text) :
    Except String JsonValue :=
  match engine.parse walletSecretsJson with
  | none => .error "Invalid wallet secrets payload: not valid JSON"
  | some raw => do
      let parsed ← normalizeWalletSecretsPayload env raw
      if isWalletSecretsPayload env parsed then return parsed
      else
        let issues := describeWalletSecretsPayloadValidationIssues env parsed
        let detail := if issues.isEmpty then "" else ": " ++ "; ".intercalate issues
        .error s!"Invalid wallet secrets payload: schema validation failed{detail}"

end Rows

end Bitboard.Wallet.PayloadJson
