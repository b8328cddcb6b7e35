/-
# Extending the local chain to the anchors Esplora reports

A transaction that Esplora reports as confirmed stays unconfirmed in the wallet
until the block it is anchored to is in the wallet's local chain. The reconcile
walks the local chain down to a checkpoint that Esplora knows too, and then
rebuilds the chain from a map of heights: the local checkpoints, Esplora's blocks
over them, and the anchors over both.

The module follows `build_local_chain_extension` and the functions it calls.
Esplora's answers are arguments: `walk` answers the lookups made on the way to the
point of agreement, `cover` those made while the map is filled, so that the two
rounds may see different chains. `CheckPoint` is `bdk`'s.
-/

import Bitboard.Crypto.CheckPoint
import Bitboard.Arkade.Outpoint
import Bitboard.Lib.FallibleLoop

namespace Bitboard.Crypto

open Bitboard.Lib
open Bitboard.Arkade (Txid)

structure ConfirmationBlockTime where
  blockId : BlockId
  confirmationTime : Nat

/-- An error of the Esplora client: a missing block, or anything else with its text. -/
inductive EsploraError where
  | notFound
  | other (message : String)

/-- How the extension can fail. The panic is that of an `expect`. -/
inductive ExtensionError where
  | blockchain (message : String)
  | panic (message : String)

/-- What `get_block_hash` answers for each height. -/
abbrev BlockHashLookup := Nat → Except EsploraError BlockHash

def fetchBlockHashAtHeight (lookup : BlockHashLookup) (latestBlocks : BTreeMap Nat BlockHash)
    (height : Nat) : Except ExtensionError (Option BlockHash) :=
  match latestBlocks[height]? with
  | some blockHash => .ok (some blockHash)
  | none =>
    match latestBlocks.maxKey? with
    | none => .ok none
    | some tipHeight =>
      if tipHeight < height then .ok none
      else
        match lookup height with
        | .ok blockHash => .ok (some blockHash)
        | .error .notFound => .ok none
        | .error (.other message) => .error (.blockchain message)

variable (anchors : List (ConfirmationBlockTime × Txid))

section Extension

variable {CheckPoint : Type} (api : CheckPointApi CheckPoint)

def checkpointEntries (tip : CheckPoint) : List (Nat × BlockHash) :=
  (api.iter tip).map fun checkpoint => (api.height checkpoint, api.hash checkpoint)

def lockedAnchorHeights : List Nat :=
  anchors.map fun anchor => anchor.1.blockId.height

def anchorEntries : List (Nat × BlockHash) :=
  anchors.map fun anchor => (anchor.1.blockId.height, anchor.1.blockId.hash)

variable (cover : BlockHashLookup)

/-- One round of the loop that asks Esplora for the blocks above the lowest anchor. -/
def coverHeight (latestBlocks : BTreeMap Nat BlockHash) (locked : List Nat)
    (desiredBlocks : BTreeMap Nat BlockHash) (height : Nat) :
    Except ExtensionError (BTreeMap Nat BlockHash) :=
  if height ∈ locked then .ok desiredBlocks
  else do
    match ← fetchBlockHashAtHeight cover latestBlocks height with
    | none => pure desiredBlocks
    | some esploraHash => pure (desiredBlocks.insert height esploraHash)

/-- The map of heights that `ensure_esplora_blocks_covering_anchors` fills. -/
def desiredBlocks (latestBlocks : BTreeMap Nat BlockHash) (localTip tip : CheckPoint)
    (anchors : List (ConfirmationBlockTime × Txid)) :
    Except ExtensionError (BTreeMap Nat BlockHash) := do
  let checkpoints :=
    ((∅ : BTreeMap Nat BlockHash).insertMany (checkpointEntries api localTip)).insertMany
      (checkpointEntries api tip)
  let locked := lockedAnchorHeights anchors
  let minAnchorHeight := locked.min?.getD 0
  let maxHeight := max (latestBlocks.maxKey?.getD (api.height tip)) (api.height tip)
  let covered ← (List.range' minAnchorHeight (maxHeight + 1 - minAnchorHeight)).foldlM
    (coverHeight cover latestBlocks locked) checkpoints
  let latest := covered.insertMany
    (latestBlocks.toList.filter fun entry => entry.1 ∉ locked)
  return latest.insertMany (anchorEntries anchors)

/-- The entries of a map of heights above a height, in ascending order. -/
def blocksAbove (height : Nat) (blocks : BTreeMap Nat BlockHash) : List BlockId :=
  (blocks.toList.filter fun entry => height + 1 ≤ entry.1).map fun entry =>
    { height := entry.1, hash := entry.2 }

def ensureEsploraBlocksCoveringAnchors (latestBlocks : BTreeMap Nat BlockHash)
    (localTip tip : CheckPoint) (anchors : List (ConfirmationBlockTime × Txid)) :
    Except ExtensionError CheckPoint := do
  let desired ← desiredBlocks api cover latestBlocks localTip tip anchors
  let oldestCheckpoint := (api.iter localTip).getLast?.getD localTip
  match api.extend oldestCheckpoint (blocksAbove (api.height oldestCheckpoint) desired) with
  | some extended => .ok extended
  | none => .error (.blockchain "failed to rebuild Esplora checkpoints in height order")

/-- A block on top of a chain that may not have begun. -/
def pushBlock (tip : Option CheckPoint) (block : BlockId) : CheckPoint :=
  match tip with
  | none => api.new block
  | some existingTip => api.insert existingTip block

def bootstrapCheckpointsFromLatestBlocksOnly (latestBlocks : BTreeMap Nat BlockHash) :
    Except ExtensionError CheckPoint :=
  let tip := latestBlocks.toList.foldl
    (fun tip entry => some (pushBlock api tip { height := entry.1, hash := entry.2 })) none
  match tip with
  | some tip => .ok tip
  | none => .error (.blockchain "Esplora returned no blocks for chain bootstrap")

variable (walk : BlockHashLookup)

def bootstrapHeight (latestBlocks : BTreeMap Nat BlockHash) (tip : Option CheckPoint)
    (height : Nat) : Except ExtensionError (Option CheckPoint) := do
  match ← fetchBlockHashAtHeight walk latestBlocks height with
  | none => pure tip
  | some hash => pure (some (pushBlock api tip { height, hash }))

/-- `bootstrap_checkpoints_from_esplora`. Its own look into the latest blocks is the first
thing the lookup does, too. -/
def bootstrapCheckpointsFromEsplora (latestBlocks : BTreeMap Nat BlockHash) :
    Except ExtensionError CheckPoint := do
  let maxHeight := latestBlocks.maxKey?.getD 0
  match ← (List.range (maxHeight + 1)).foldlM (bootstrapHeight api walk latestBlocks) none with
  | some bootstrappedTip => .ok bootstrappedTip
  | none => bootstrapCheckpointsFromLatestBlocksOnly api latestBlocks

/-- The walk down the local chain: the first checkpoint whose hash Esplora confirms, and the
blocks Esplora has in place of those above it, the highest first. -/
def findPointOfAgreement (walk : BlockHashLookup) (latestBlocks : BTreeMap Nat BlockHash) :
    List CheckPoint → List BlockId → Except ExtensionError (Option (CheckPoint × List BlockId))
  | [], _ => .ok none
  | localCheckpoint :: rest, conflicts => do
      match ← fetchBlockHashAtHeight walk latestBlocks (api.height localCheckpoint) with
      | none => findPointOfAgreement walk latestBlocks rest conflicts
      | some remoteHash =>
        if remoteHash = api.hash localCheckpoint then
          .ok (some (localCheckpoint, conflicts))
        else
          findPointOfAgreement walk latestBlocks rest
            (conflicts ++ [{ height := api.height localCheckpoint, hash := remoteHash }])

/-- The tip the walk arrives at: the point of agreement with Esplora's blocks on it. -/
def connectToEsplora (latestBlocks : BTreeMap Nat BlockHash) (localTip : CheckPoint) :
    Except ExtensionError CheckPoint := do
  match ← findPointOfAgreement api walk latestBlocks (api.iter localTip) [] with
  | none =>
    .error (.blockchain
      ("Esplora chain cannot connect to local tip hash " ++ (api.hash localTip).text))
  | some (checkpoint, conflicts) =>
    match api.extend checkpoint conflicts.reverse with
    | some connected => .ok connected
    | none => .error (.panic "conflict heights are ascending")

/-- The tip the rebuild starts from. A local chain that has only its first block is
bootstrapped from Esplora. -/
def esploraTip (latestBlocks : BTreeMap Nat BlockHash) (localTip : CheckPoint) :
    Except ExtensionError CheckPoint :=
  if api.height localTip = 0 then bootstrapCheckpointsFromEsplora api walk latestBlocks
  else connectToEsplora api walk latestBlocks localTip

def buildLocalChainExtension (cover : BlockHashLookup) (latestBlocks : BTreeMap Nat BlockHash)
    (localTip : CheckPoint) (anchors : List (ConfirmationBlockTime × Txid)) :
    Except ExtensionError CheckPoint :=
  if latestBlocks.isEmpty then
    .error (.blockchain "Esplora returned no blocks for chain extension")
  else do
    let tip ← esploraTip api walk latestBlocks localTip
    ensureEsploraBlocksCoveringAnchors api cover latestBlocks localTip tip anchors

end Extension

end Bitboard.Crypto
