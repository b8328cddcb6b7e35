/-
# The Bark record store

The records of one open Bark wallet live in memory, by partition and primary key. After
a change in one of the durable partitions the store exports all records into one encoded
envelope and hands it to the flush hook of the host; the change has returned only when
the hook has. This is the store of the WASM build, which refuses a durable change while
no hook is installed. The native build, which only tests use, skips the flush then.
-/

import Bitboard.Lib.OrderedMap
import Bitboard.Lib.Run

namespace Bitboard.Bark

open Bitboard.Lib

section RecordStore

/-- A record of the wallet library; this module does not look into its data. -/
structure Record (SortKey : Type) where
  partition : UInt8
  pk : List UInt8
  sortKey : Option SortKey
  data : List UInt8
  deriving DecidableEq

variable {SortKey : Type}

abbrev PartitionRecords (SortKey : Type) := BTreeMap (List UInt8) (Record SortKey)

structure RecordMap (SortKey : Type) where
  partitions : BTreeMap UInt8 (PartitionRecords SortKey)

namespace RecordMap

def empty : RecordMap SortKey where
  partitions := ∅

variable (records : RecordMap SortKey)
variable (partition : UInt8)

/-- The records of a partition; there are none in one that was never written. -/
def recordsOf : PartitionRecords SortKey :=
  records.partitions[partition]?.getD ∅

def insert (record : Record SortKey) : RecordMap SortKey where
  partitions := records.partitions.insert record.partition
    ((records.recordsOf record.partition).insert record.pk record)

/-- Removes a record; a partition that was never written is not created. -/
def remove (pk : List UInt8) : Option (Record SortKey) × RecordMap SortKey :=
  match records.partitions[partition]? with
  | some partitionRecords =>
    (partitionRecords[pk]?,
      { partitions := records.partitions.insert partition (partitionRecords.erase pk) })
  | none => (none, records)

def get (pk : List UInt8) : Option (Record SortKey) :=
  match records.partitions[partition]? with
  | some partitionRecords => partitionRecords[pk]?
  | none => none

def getAll : List (Record SortKey) :=
  match records.partitions[partition]? with
  | some partitionRecords => partitionRecords.vals
  | none => []

end RecordMap

/-- The order in which a hash map lists its keys at some time: any order, each key once. -/
structure HashOrder where
  list : List UInt8 → List UInt8
  perm : ∀ keys, (list keys).Perm keys

def collectRecords (order : HashOrder) (records : RecordMap SortKey) : List (Record SortKey) :=
  (order.list records.partitions.keys).flatMap fun partition =>
    (records.recordsOf partition).vals

structure BarkRecordEnvelope (SortKey : Type) where
  version : UInt32
  records : List (Record SortKey)
  deriving DecidableEq

def barkRecordEnvelopeVersion : UInt32 := 1

/-- The postcard bytes of an envelope and their base64 text. -/
structure EnvelopeCodec (SortKey : Type) where
  toAllocvec : BarkRecordEnvelope SortKey → Option (List UInt8)
  fromBytes : List UInt8 → Option (BarkRecordEnvelope SortKey)
  encode : List UInt8 → String
  decode : String → Option (List UInt8)

/-- Both codecs give back what they were given, for the bytes of every envelope, and the
text of an envelope is not empty. -/
structure EnvelopeCodec.RoundTrips (codec : EnvelopeCodec SortKey) : Prop where
  fromBytes : ∀ envelope bytes, codec.toAllocvec envelope = some bytes →
    codec.fromBytes bytes = some envelope
  decode : ∀ envelope bytes, codec.toAllocvec envelope = some bytes →
    codec.decode (codec.encode bytes) = some bytes
  encode_ne_empty : ∀ envelope bytes, codec.toAllocvec envelope = some bytes →
    codec.encode bytes ≠ ""

def exportEncodedEnvelope (codec : EnvelopeCodec SortKey) (order : HashOrder)
    (records : RecordMap SortKey) : Except String String :=
  match codec.toAllocvec
      { version := barkRecordEnvelopeVersion, records := collectRecords order records } with
  | some bytes => .ok (codec.encode bytes)
  | none => .error "Bark record envelope could not be encoded"

def fromEncodedEnvelope (codec : EnvelopeCodec SortKey) (encoded : String) :
    Except String (RecordMap SortKey) :=
  if encoded = "" then .error "Bark record envelope is empty"
  else
    match codec.decode encoded with
    | none => .error "Bark record envelope is not valid base64"
    | some bytes =>
      match codec.fromBytes bytes with
      | none => .error "Bark record envelope is corrupt"
      | some envelope =>
        if envelope.version ≠ barkRecordEnvelopeVersion then
          .error s!"Bark record envelope version {envelope.version} is not supported"
        else .ok (envelope.records.foldl RecordMap.insert RecordMap.empty)

/-- The partitions of the wallet library that have to survive a crash. -/
structure DurablePartitions where
  walletActionCheckpoint : UInt8
  exitVtxo : UInt8
  exitChildTx : UInt8

def isDurablePartition (durable : DurablePartitions) (partition : UInt8) : Bool :=
  partition == durable.walletActionCheckpoint || partition == durable.exitVtxo ||
    partition == durable.exitChildTx

/-- The records in memory, whether a flush hook is installed, and the envelope that a hook
has last taken. -/
structure RecordStore (SortKey : Type) where
  records : RecordMap SortKey
  flushHook : Bool
  flushed : Option String

/-- What is known from outside while an operation flushes: the order of the hash map, and
what the hook's promise settles with. -/
structure FlushWorld where
  order : HashOrder
  flush : Except String Unit

/-- Flushes the records after a change in a durable partition. -/
def flushIfDurable (codec : EnvelopeCodec SortKey) (durable : DurablePartitions)
    (store : RecordStore SortKey) (partition : UInt8) (world : FlushWorld) :
    Except String Unit × RecordStore SortKey :=
  if isDurablePartition durable partition then
    if store.flushHook then
      match exportEncodedEnvelope codec world.order store.records with
      | .error message => (.error message, store)
      | .ok envelope =>
        match world.flush with
        | .error message => (.error message, store)
        | .ok () => (.ok (), { store with flushed := some envelope })
    else (.error "Bark durable record flush hook is not installed", store)
  else (.ok (), store)

def put (codec : EnvelopeCodec SortKey) (durable : DurablePartitions)
    (store : RecordStore SortKey) (record : Record SortKey) (world : FlushWorld) :
    Except String Unit × RecordStore SortKey :=
  flushIfDurable codec durable { store with records := store.records.insert record }
    record.partition world

def delete (codec : EnvelopeCodec SortKey) (durable : DurablePartitions)
    (store : RecordStore SortKey) (partition : UInt8) (pk : List UInt8) (world : FlushWorld) :
    Except String (Option (Record SortKey)) × RecordStore SortKey :=
  let removed := store.records.remove partition pk
  match flushIfDurable codec durable { store with records := removed.2 } partition world with
  | (.ok (), flushed) => (.ok removed.1, flushed)
  | (.error message, unflushed) => (.error message, unflushed)

inductive Bound (SortKey : Type)
  | included (key : SortKey)
  | excluded (key : SortKey)
  | unbounded

structure Query (SortKey : Type) where
  partition : UInt8
  start : Bound SortKey
  stop : Bound SortKey
  limit : Option Nat

section Sorted

variable [LinearOrder SortKey]

def Query.contains (query : Query SortKey) (key : SortKey) : Bool :=
  (match query.start with
    | .included first => decide (first ≤ key)
    | .excluded first => decide (first < key)
    | .unbounded => true) &&
  (match query.stop with
    | .included last => decide (key ≤ last)
    | .excluded last => decide (key < last)
    | .unbounded => true)

def recordMatchesSortRange (query : Query SortKey) (record : Record SortKey) : Bool :=
  match record.sortKey with
  | some sortKey => query.contains sortKey
  | none => false

def sortKeyLe (left right : Option SortKey) : Bool :=
  match left, right with
  | none, _ => true
  | some _, none => false
  | some left, some right => decide (left ≤ right)

def querySorted (records : RecordMap SortKey) (query : Query SortKey) : List (Record SortKey) :=
  match records.partitions[query.partition]? with
  | none => []
  | some partitionRecords =>
    let matching := (partitionRecords.vals.filter (recordMatchesSortRange query)).mergeSort
      fun left right => sortKeyLe left.sortKey right.sortKey
    match query.limit with
    | some limit => matching.take limit
    | none => matching

end Sorted

/-- The operations on the store; the reads among them change nothing. -/
inductive RecordOp (SortKey : Type)
  | installHook
  | put (record : Record SortKey) (world : FlushWorld)
  | delete (partition : UInt8) (pk : List UInt8) (world : FlushWorld)
  | get (partition : UInt8) (pk : List UInt8)
  | getAll (partition : UInt8)
  | querySorted (query : Query SortKey)

def RecordOp.changes : RecordOp SortKey → Option UInt8
  | .put record _ => some record.partition
  | .delete partition _ _ => some partition
  | _ => none

/-- One operation: whether it returns `Ok`, and the store after it. -/
def recordStep (codec : EnvelopeCodec SortKey) (durable : DurablePartitions)
    (store : RecordStore SortKey) : RecordOp SortKey → Except String Unit × RecordStore SortKey
  | .installHook => (.ok (), { store with flushHook := true })
  | .put record world => put codec durable store record world
  | .delete partition pk world =>
    let result := delete codec durable store partition pk world
    (result.1.map fun _ => (), result.2)
  | .get _ _ | .getAll _ | .querySorted _ => (.ok (), store)

def recordRun (codec : EnvelopeCodec SortKey) (durable : DurablePartitions)
    (store : RecordStore SortKey) (ops : List (RecordOp SortKey)) : RecordStore SortKey :=
  run (fun store op => (recordStep codec durable store op).2) store ops

/-- Opens the store of a wallet: an empty text stands for a wallet without an envelope. -/
def openRecordStore (codec : EnvelopeCodec SortKey) (flushHook : Bool) (encoded : String) :
    Except String (RecordStore SortKey) :=
  if encoded = "" then
    .ok { records := .empty, flushHook := flushHook, flushed := none }
  else
    (fromEncodedEnvelope codec encoded).map fun records =>
      { records := records, flushHook := flushHook, flushed := none }

end RecordStore

end Bitboard.Bark
