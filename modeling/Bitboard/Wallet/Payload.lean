/-
# The wallet secrets payload

The encrypted payload of a wallet holds its descriptor wallets, its Lightning
connections, its Arkade accounts with the active one for each network, and its Bark
accounts. The types follow `wallet-domain-types.ts`, field by field.

A JavaScript number is a rational number here, or one of the values that are no number.
That it is rounded to a double plays no part in what is proved about payloads.
-/

import Mathlib.Data.Rat.Cast.Order

namespace Bitboard.Wallet

inductive JsNumber where
  | finite (value : ℚ)
  | infinite (negative : Bool)
  | nan
  deriving DecidableEq

/-- `Number.isInteger`, together with the bounds of the caller. -/
def JsNumber.isIntegerBetween (lower upper : ℚ) : JsNumber → Bool
  | .finite value => value.den = 1 && decide (lower ≤ value) && decide (value ≤ upper)
  | .infinite _ => false
  | .nan => false

def JsNumber.isPositiveFinite : JsNumber → Bool
  | .finite value => decide (0 < value)
  | .infinite _ => false
  | .nan => false

def utf16Units (c : Char) : List Nat :=
  if c.val.toNat < 0x10000 then [c.val.toNat]
  else
    let offset := c.val.toNat - 0x10000
    [0xd800 + offset / 0x400, 0xdc00 + offset % 0x400]

/-- The string as JavaScript compares and measures it. -/
def utf16 (s : String) : List Nat := s.toList.flatMap utf16Units

inductive BitcoinNetwork where
  | bitcoin
  | testnet
  | signet
  | mutinynet
  | regtest
  deriving DecidableEq

inductive AddressType where
  | segwit
  | taproot
  deriving DecidableEq

structure DescriptorWalletData where
  network : BitcoinNetwork
  addressType : AddressType
  accountId : JsNumber
  externalDescriptor : String
  internalDescriptor : String
  changeSet : String
  fullScanDone : Bool
  lastSuccessfulEsploraSyncAt : Option String

inductive LightningNetworkMode where
  | mainnet
  | testnet
  | signet
  | mutinynet
  deriving DecidableEq

inductive LightningPaymentDirection where
  | incoming
  | outgoing

structure LightningPayment where
  paymentHash : String
  isPending : Bool
  amountSats : JsNumber
  memo : String
  timestamp : JsNumber
  bolt11 : String
  direction : LightningPaymentDirection
  feesPaidSats : JsNumber

structure NwcConnectionSnapshot where
  balanceSats : JsNumber
  balanceUpdatedAt : String
  payments : List LightningPayment
  paymentsUpdatedAt : String

structure StoredNwcLightningConnection where
  id : String
  label : String
  networkMode : LightningNetworkMode
  connectionString : String
  createdAt : String
  nwcSnapshot : Option NwcConnectionSnapshot

inductive ArkadeSupportedNetworkMode where
  | mainnet
  | signet
  | mutinynet
  | regtest
  deriving DecidableEq

/-- One Arkade account: the wallet's partition for one operator on one network. -/
structure StoredArkadeAccount where
  id : String
  label : String
  networkMode : ArkadeSupportedNetworkMode
  operatorUrl : String
  delegatorUrl : Option String
  operatorSignerPkHex : String
  createdAt : String
  lastSessionOpenedAt : Option String
  lastSuccessfulOperatorSyncAt : Option String
  sdkPersistenceJson : Option String
  deriving DecidableEq

inductive BarkRailNetwork where
  | signet
  | mainnet
  | regtest
  deriving DecidableEq

inductive BarkEmergencyExitFeePreset where
  | low
  | medium
  | high
  deriving DecidableEq

/-- A claim transaction already broadcast, and the VTXOs it spends. -/
structure PendingEmergencyClaim where
  txid : String
  vtxoIds : List String
  deriving DecidableEq

inductive BarkExitNodeSweepKind where
  | anchor
  | internal
  | leaf
  | checkpoint
  deriving DecidableEq

structure BarkExitNodeSweepVtxoItem where
  vtxoId : String
  nodeKind : BarkExitNodeSweepKind
  deriving DecidableEq

/-- One Bark account. Its protocol records are in the envelope. -/
structure StoredBarkAccount where
  id : String
  networkMode : BarkRailNetwork
  serverUrl : String
  fingerprint : String
  lastSuccessfulSyncAt : Option String
  receiveKeyIndex : Option JsNumber
  recordEnvelope : Option String
  pendingEmergencyClaim : Option PendingEmergencyClaim
  proceedAutomatically : Option Bool
  emergencyExitFeePreset : Option BarkEmergencyExitFeePreset
  emergencyExitMaxFeeRateSatPerVb : Option JsNumber
  exitNodeSweepVtxoItems : Option (List BarkExitNodeSweepVtxoItem)
  deriving DecidableEq

/-- `WalletSecretsPayload`. The active Arkade accounts are a map from networks to ids. -/
structure WalletSecretsPayload where
  descriptorWallets : List DescriptorWalletData
  lightningNwcConnections : List StoredNwcLightningConnection
  arkadeAccounts : List StoredArkadeAccount
  activeArkadeAccountIdByNetwork : ArkadeSupportedNetworkMode → Option String
  barkAccounts : List StoredBarkAccount

def emptyPayload : WalletSecretsPayload where
  descriptorWallets := []
  lightningNwcConnections := []
  arkadeAccounts := []
  activeArkadeAccountIdByNetwork := fun _ => none
  barkAccounts := []

end Bitboard.Wallet
