/-
# The split of Signet and Mutinynet

Payloads from before the split call Mutinynet `signet`. The migration relabels the Arkade
rows, and the descriptors and Lightning connections too if the wallet was used on Mutinynet.
It does not look at what a row holds: a row of the public Signet that a later build has
written would be relabelled in the same way. A payload that a pre-release build has split
already only loses its flag.
-/

import Bitboard.Wallet.Json

namespace Bitboard.Wallet

inductive HistoricalSignetOnchainChain
  | mutinynet
  | publicSignet
  | customHost

def parseHistoricalSignetOnchainChain : Option String → Option HistoricalSignetOnchainChain
  | some "mutinynet" => some .mutinynet
  | some "public-signet" => some .publicSignet
  | some "custom-host" => some .customHost
  | _ => none

def HistoricalSignetOnchainChain.toString : HistoricalSignetOnchainChain → String
  | .mutinynet => "mutinynet"
  | .publicSignet => "public-signet"
  | .customHost => "custom-host"

def moveSignetFieldToMutinynet (field : String) (row : JsonValue) : Option JsonValue :=
  match row with
  | .null => none
  | row =>
    if (row.get? field).bind JsonValue.string? = some "signet" then
      some (.object (setProperty field (.string "mutinynet") row.spread))
    else some row

def moveSignetNetworkToMutinynet : JsonValue → Option JsonValue :=
  moveSignetFieldToMutinynet "network"

def moveSignetNetworkModeToMutinynet : JsonValue → Option JsonValue :=
  moveSignetFieldToMutinynet "networkMode"

def mapRows (move : JsonValue → Option JsonValue) : Option JsonValue → Option JsonValue
  | some (.array rows) => (rows.mapM move).map .array
  | _ => none

def renameSignetMapKeyToMutinynet (record : List (String × JsonValue)) :
    List (String × JsonValue) :=
  match (JsonValue.object record).get? "signet", (JsonValue.object record).get? "mutinynet" with
  | some (.string id), none =>
    deleteProperty "signet" (setProperty "mutinynet" (.string id) record)
  | _, _ => deleteProperty "signet" record

def copyWithSignetKeyRenamedToMutinynet : Option JsonValue → JsonValue
  | none => .object []
  | some value => .object (renameSignetMapKeyToMutinynet value.spread)

def legacySignetNetworkSplitAppliedField : String := "signetNetworkSplitApplied"

def hasLegacySignetNetworkSplitAppliedFlag (payload : JsonValue) : Bool :=
  match payload.get? legacySignetNetworkSplitAppliedField with
  | some (.boolean true) => true
  | _ => false

def setIfDefined (name : String) (given : Option JsonValue)
    (record : List (String × JsonValue)) : List (String × JsonValue) :=
  match given with
  | none => record
  | some value => setProperty name value record

def mapRowsIfMutinynet (chain : HistoricalSignetOnchainChain)
    (move : JsonValue → Option JsonValue) (rows : Option JsonValue) : Option (Option JsonValue) :=
  match chain with
  | .mutinynet => (mapRows move rows).map some
  | _ => some rows

def applySignetNetworkSplitToPayload (payload : JsonValue)
    (chain : HistoricalSignetOnchainChain) : Option JsonValue :=
  if hasLegacySignetNetworkSplitAppliedFlag payload then
    some (.object (deleteProperty legacySignetNetworkSplitAppliedField payload.spread))
  else do
    let descriptorWallets ←
      mapRowsIfMutinynet chain moveSignetNetworkToMutinynet (payload.get? "descriptorWallets")
    let lightningNwcConnections ←
      mapRowsIfMutinynet chain moveSignetNetworkModeToMutinynet
        (payload.get? "lightningNwcConnections")
    let arkadeAccounts ← mapRows moveSignetNetworkModeToMutinynet (payload.get? "arkadeAccounts")
    return .object (setProperty "activeArkadeAccountIdByNetwork"
      (copyWithSignetKeyRenamedToMutinynet (payload.get? "activeArkadeAccountIdByNetwork"))
      (setProperty "arkadeAccounts" arkadeAccounts
        (setIfDefined "lightningNwcConnections" lightningNwcConnections
          (setIfDefined "descriptorWallets" descriptorWallets payload.spread))))

end Bitboard.Wallet
