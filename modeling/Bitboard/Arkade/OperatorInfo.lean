/-
# The stored form of the operator's terms

The wallet keeps what the operator announced, its `Info`, as a record of texts and numbers,
and turns the record back into an `Info` when it works without the operator. This module
models the two conversions. How keys, addresses and scripts are printed and read is the
bitcoin crate's work: keys and addresses enter with their codec, and scripts are bytes in
hexadecimal.

A map is given by its entries in the order in which it iterates.
-/

import Bitboard.Arkade.OffchainSnapshot
import Bitboard.Arkade.OperatorTrust

namespace Bitboard.Arkade

open CachedFeeInfoRecord CachedScheduledSessionRecord

def hexDigitValue (c : Char) : Option UInt8 :=
  if hexDigits.contains c then some (UInt8.ofNat (lowerHexDigits.idxOf c.toLower)) else none

def fromHexDigits : List Char → Option (List UInt8)
  | [] => some []
  | [_] => none
  | high :: low :: digits => do
      let high ← hexDigitValue high
      let low ← hexDigitValue low
      let bytes ← fromHexDigits digits
      return (high * 16 + low) :: bytes

/-- `FromHex::from_hex`: digits in either letter case, two for each byte. -/
def fromHex (text : String) : Option (List UInt8) := fromHexDigits text.toList

theorem hexDigitValue_lowerHexDigit :
    ∀ nibble < 16, hexDigitValue (lowerHexDigit (UInt8.ofNat nibble)) =
      some (UInt8.ofNat nibble) := by
  decide

theorem hexDigitValue_high (byte : UInt8) :
    hexDigitValue (lowerHexDigit (byte / 16)) = some (byte / 16) := by
  have hlt := byte.toNat_lt
  have h := hexDigitValue_lowerHexDigit (byte / 16).toNat (by
    rw [UInt8.toNat_div]
    exact Nat.div_lt_of_lt_mul hlt)
  rwa [UInt8.ofNat_toNat] at h

theorem hexDigitValue_low (byte : UInt8) :
    hexDigitValue (lowerHexDigit (byte % 16)) = some (byte % 16) := by
  have h := hexDigitValue_lowerHexDigit (byte % 16).toNat (by
    rw [UInt8.toNat_mod]
    exact Nat.mod_lt _ (by decide))
  rwa [UInt8.ofNat_toNat] at h

theorem fromHex_toLowerHexString (bytes : List UInt8) :
    fromHex (toLowerHexString bytes) = some bytes := by
  rw [fromHex, toLowerHexString, String.toList_ofList]
  induction bytes with
  | nil => rfl
  | cons byte bytes ih =>
    have hbyte : byte / 16 * 16 + byte % 16 = byte := by
      apply UInt8.toNat_inj.mp
      rw [UInt8.toNat_add, UInt8.toNat_mul, UInt8.toNat_div, UInt8.toNat_mod]
      have hlt := byte.toNat_lt
      have hsixteen : (16 : UInt8).toNat = 16 := rfl
      rw [hsixteen]
      omega
    rw [List.flatMap_cons, List.cons_append, List.cons_append, List.nil_append, fromHexDigits,
      hexDigitValue_high, hexDigitValue_low, ih]
    simp [hbyte]

inductive Network where
  | bitcoin
  | testnet
  | testnet4
  | signet
  | regtest
  deriving DecidableEq

structure Sequence where
  consensus : UInt32

structure IntentFeeInfo where
  offchainInput : Option String
  offchainOutput : Option String
  onchainInput : Option String
  onchainOutput : Option String

structure FeeInfo where
  intentFee : IntentFeeInfo
  txFeeRate : String

structure ScheduledSession where
  nextStartTime : Int
  nextEndTime : Int
  period : Int
  duration : Int
  fees : Option FeeInfo

structure DeprecatedSigner (PublicKey : Type) where
  pk : PublicKey
  cutoffDate : Int

/-- The operator's `getInfo`. -/
structure Info (PublicKey Address : Type) where
  version : String
  signerPk : PublicKey
  forfeitPk : PublicKey
  forfeitAddress : Address
  checkpointTapscript : List UInt8
  network : Network
  sessionDuration : Nat
  unilateralExitDelay : Sequence
  boardingExitDelay : Sequence
  utxoMinAmount : Option Nat
  utxoMaxAmount : Option Nat
  vtxoMinAmount : Option Nat
  vtxoMaxAmount : Option Nat
  dust : Nat
  fees : Option FeeInfo
  scheduledSession : Option ScheduledSession
  deprecatedSigners : List (DeprecatedSigner PublicKey)
  serviceStatus : List (String × String)
  digest : String
  maxTxWeight : Int
  maxOpReturnOutputs : Int

inductive DeprecatedSignerStatus where
  | migratable
  | dueNow
  | expired
  deriving DecidableEq

def DeprecatedSignerStatus.fromCutoff (cutoffDate nowUnixSecs : Int) : DeprecatedSignerStatus :=
  if cutoffDate = 0 then .dueNow
  else if nowUnixSecs < cutoffDate then .migratable
  else .expired

inductive ServerSignerStatus where
  | current
  | deprecated (status : DeprecatedSignerStatus)
  | unknown
  deriving DecidableEq

def ServerSignerStatus.requiresRecovery (status : ServerSignerStatus) : Bool :=
  status = .deprecated .expired

section Signers

variable {PublicKey Address : Type} (xOnly : PublicKey → String)

/-- `signer_status_at`. X-only keys are given by their texts. -/
def Info.signerStatusAt (info : Info PublicKey Address) (serverPk : String) (nowUnixSecs : Int) :
    ServerSignerStatus :=
  if xOnly info.signerPk = serverPk then .current
  else
    match info.deprecatedSigners.find? fun deprecated => xOnly deprecated.pk = serverPk with
    | some deprecated => .deprecated (.fromCutoff deprecated.cutoffDate nowUnixSecs)
    | none => .unknown

def Info.signerRequiresRecoveryAt (info : Info PublicKey Address) (serverPk : String)
    (nowUnixSecs : Int) : Bool :=
  (info.signerStatusAt xOnly serverPk nowUnixSecs).requiresRecovery

end Signers

/-- What the conversions take from the bitcoin crate. An address that was read is not yet
checked against a network. -/
structure OperatorCodec (PublicKey Address : Type) where
  publicKeyText : PublicKey → String
  publicKeyFromStr : String → Except String PublicKey
  addressText : Address → String
  addressFromStr : String → Except String Address
  isValidForNetwork : Address → Network → Bool
  networkError : Address → Network → String
  scriptError : String → String

structure OperatorCodec.RoundTrips {PublicKey Address : Type}
    (codec : OperatorCodec PublicKey Address) : Prop where
  publicKey : ∀ pk, codec.publicKeyFromStr (codec.publicKeyText pk) = .ok pk
  address : ∀ address, codec.addressFromStr (codec.addressText address) = .ok address

def networkLabel : Network → String
  | .bitcoin => "bitcoin"
  | .testnet => "testnet"
  | .signet => "signet"
  | .regtest => "regtest"
  | .testnet4 => "unknown"

def parseBitcoinNetwork (label : String) : ArkResult Network :=
  if label = "bitcoin" then .ok .bitcoin
  else if label = "testnet" then .ok .testnet
  else if label = "signet" then .ok .signet
  else if label = "regtest" then .ok .regtest
  else .error (.snapshot ("unsupported network: " ++ label))

theorem parseBitcoinNetwork_networkLabel {network : Network} (hnetwork : network ≠ .testnet4) :
    parseBitcoinNetwork (networkLabel network) = .ok network := by
  cases network with
  | testnet4 => exact absurd rfl hnetwork
  | bitcoin => rfl
  | testnet | signet | regtest => rfl

def CachedFeeInfoRecord.fromFeeInfo (fees : FeeInfo) : CachedFeeInfoRecord where
  intentFee := {
    offchainInput := fees.intentFee.offchainInput
    offchainOutput := fees.intentFee.offchainOutput
    onchainInput := fees.intentFee.onchainInput
    onchainOutput := fees.intentFee.onchainOutput }
  txFeeRate := fees.txFeeRate

def CachedFeeInfoRecord.toFeeInfo (fees : CachedFeeInfoRecord) : FeeInfo where
  intentFee := {
    offchainInput := fees.intentFee.offchainInput
    offchainOutput := fees.intentFee.offchainOutput
    onchainInput := fees.intentFee.onchainInput
    onchainOutput := fees.intentFee.onchainOutput }
  txFeeRate := fees.txFeeRate

def CachedScheduledSessionRecord.fromScheduledSession (session : ScheduledSession) :
    CachedScheduledSessionRecord where
  nextStartTime := session.nextStartTime
  nextEndTime := session.nextEndTime
  period := session.period
  duration := session.duration
  fees := session.fees.map fromFeeInfo

def CachedScheduledSessionRecord.toScheduledSession (session : CachedScheduledSessionRecord) :
    ScheduledSession where
  nextStartTime := session.nextStartTime
  nextEndTime := session.nextEndTime
  period := session.period
  duration := session.duration
  fees := session.fees.map toFeeInfo

section Conversions

variable {PublicKey Address : Type} (codec : OperatorCodec PublicKey Address)

def CachedOperatorInfoRecord.fromServerInfo (info : Info PublicKey Address) :
    CachedOperatorInfoRecord where
  version := info.version
  signerPkHex := codec.publicKeyText info.signerPk
  forfeitPkHex := codec.publicKeyText info.forfeitPk
  forfeitAddress := codec.addressText info.forfeitAddress
  checkpointTapscriptHex := toLowerHexString info.checkpointTapscript
  network := networkLabel info.network
  sessionDuration := info.sessionDuration
  unilateralExitDelayConsensus := info.unilateralExitDelay.consensus.toNat
  boardingExitDelayConsensus := info.boardingExitDelay.consensus.toNat
  utxoMinAmountSats := info.utxoMinAmount
  utxoMaxAmountSats := info.utxoMaxAmount
  vtxoMinAmountSats := info.vtxoMinAmount
  vtxoMaxAmountSats := info.vtxoMaxAmount
  dustSats := info.dust
  fees := info.fees.map fromFeeInfo
  scheduledSession :=
    info.scheduledSession.map fromScheduledSession
  deprecatedSigners := info.deprecatedSigners.map fun deprecated => {
    signerPkHex := codec.publicKeyText deprecated.pk
    cutoffDate := deprecated.cutoffDate }
  serviceStatus := info.serviceStatus
  digest := info.digest
  maxTxWeight := info.maxTxWeight
  maxOpReturnOutputs := info.maxOpReturnOutputs

def parsePublicKey (hex field : String) : ArkResult PublicKey :=
  (codec.publicKeyFromStr hex).mapError fun error =>
    .snapshot ("invalid " ++ field ++ ": " ++ error)

/-- `ScriptBuf::from_hex`, with the error of the stored tapscript. -/
def parseCheckpointTapscript (hex : String) : ArkResult (List UInt8) :=
  match fromHex hex with
  | some script => .ok script
  | none => .error (.snapshot ("invalid checkpoint tapscript: " ++ codec.scriptError hex))

/-- The address as it reads, and only on the given network. -/
def parseForfeitAddress (text : String) (network : Network) : ArkResult Address :=
  match codec.addressFromStr text with
  | .error error => .error (.snapshot ("invalid forfeit address: " ++ error))
  | .ok address =>
    if codec.isValidForNetwork address network then .ok address
    else .error (.snapshot ("forfeit address network: " ++ codec.networkError address network))

def parseDeprecatedSigner (deprecated : CachedDeprecatedSignerRecord) :
    ArkResult (DeprecatedSigner PublicKey) := do
  let pk ← parsePublicKey codec deprecated.signerPkHex "deprecated signer"
  return { pk, cutoffDate := deprecated.cutoffDate }

def CachedOperatorInfoRecord.toServerInfo (record : CachedOperatorInfoRecord) :
    ArkResult (Info PublicKey Address) := do
  let network ← parseBitcoinNetwork record.network
  let signerPk ← parsePublicKey codec record.signerPkHex "signer_pk"
  let forfeitPk ← parsePublicKey codec record.forfeitPkHex "forfeit_pk"
  let checkpointTapscript ← parseCheckpointTapscript codec record.checkpointTapscriptHex
  let forfeitAddress ← parseForfeitAddress codec record.forfeitAddress network
  let deprecatedSigners ← record.deprecatedSigners.mapM (parseDeprecatedSigner codec)
  return {
    version := record.version
    signerPk
    forfeitPk
    forfeitAddress
    checkpointTapscript
    network
    sessionDuration := record.sessionDuration
    unilateralExitDelay := ⟨UInt32.ofNat record.unilateralExitDelayConsensus⟩
    boardingExitDelay := ⟨UInt32.ofNat record.boardingExitDelayConsensus⟩
    utxoMinAmount := record.utxoMinAmountSats
    utxoMaxAmount := record.utxoMaxAmountSats
    vtxoMinAmount := record.vtxoMinAmountSats
    vtxoMaxAmount := record.vtxoMaxAmountSats
    dust := record.dustSats
    fees := record.fees.map toFeeInfo
    scheduledSession :=
      record.scheduledSession.map toScheduledSession
    deprecatedSigners
    serviceStatus := record.serviceStatus
    digest := record.digest
    maxTxWeight := record.maxTxWeight
    maxOpReturnOutputs := record.maxOpReturnOutputs }

variable {codec}

theorem parsePublicKey_publicKeyText (hcodec : codec.RoundTrips) (pk : PublicKey)
    (field : String) : parsePublicKey codec (codec.publicKeyText pk) field = .ok pk := by
  rw [parsePublicKey, hcodec.publicKey]
  rfl

theorem mapM_parseDeprecatedSigner (hcodec : codec.RoundTrips)
    (signers : List (DeprecatedSigner PublicKey)) :
    (signers.map fun deprecated => ({
      signerPkHex := codec.publicKeyText deprecated.pk
      cutoffDate := deprecated.cutoffDate } : CachedDeprecatedSignerRecord)).mapM
        (parseDeprecatedSigner codec) = .ok signers := by
  induction signers with
  | nil => rfl
  | cons signer signers ih =>
    rw [List.map_cons, List.mapM_cons, ih, parseDeprecatedSigner,
      parsePublicKey_publicKeyText hcodec]
    rfl

theorem toFeeInfo_fromFeeInfo (fees : FeeInfo) : (fromFeeInfo fees).toFeeInfo = fees := rfl

theorem map_toFeeInfo (fees : Option FeeInfo) : (fees.map fromFeeInfo).map toFeeInfo = fees := by
  cases fees with
  | none => rfl
  | some fees => exact congrArg some (toFeeInfo_fromFeeInfo fees)

theorem toScheduledSession_fromScheduledSession (session : ScheduledSession) :
    (fromScheduledSession session).toScheduledSession = session := by
  cases session with
  | mk nextStartTime nextEndTime period duration fees =>
    simp only [fromScheduledSession, toScheduledSession, map_toFeeInfo]

/-- The terms of a supported network come back from their stored form. -/
theorem toServerInfo_fromServerInfo (hcodec : codec.RoundTrips) (info : Info PublicKey Address)
    (hnetwork : info.network ≠ .testnet4)
    (haddress : codec.isValidForNetwork info.forfeitAddress info.network = true) :
    (CachedOperatorInfoRecord.fromServerInfo codec info).toServerInfo codec = .ok info := by
  have hscript : parseCheckpointTapscript codec (toLowerHexString info.checkpointTapscript) =
      .ok info.checkpointTapscript := by
    rw [parseCheckpointTapscript, fromHex_toLowerHexString]
  have hforfeit : parseForfeitAddress codec (codec.addressText info.forfeitAddress)
      info.network = .ok info.forfeitAddress := by
    rw [parseForfeitAddress, hcodec.address]
    exact if_pos haddress
  have hsession : (info.scheduledSession.map
      fromScheduledSession).map
        toScheduledSession = info.scheduledSession := by
    cases info.scheduledSession with
    | none => rfl
    | some session => exact congrArg some (toScheduledSession_fromScheduledSession session)
  simp only [CachedOperatorInfoRecord.toServerInfo, CachedOperatorInfoRecord.fromServerInfo,
    parseBitcoinNetwork_networkLabel hnetwork, parsePublicKey_publicKeyText hcodec, hscript,
    hforfeit, mapM_parseDeprecatedSigner hcodec, map_toFeeInfo, hsession, UInt32.ofNat_toNat,
    bind, Except.bind, pure, Except.pure]

end Conversions

end Bitboard.Arkade
