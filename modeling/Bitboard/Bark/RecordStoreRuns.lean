/-
# What a flushed record store keeps

Whenever an operation on a durable partition returns `Ok`, a store opened from the
envelope flushed last has, partition by partition, the records in memory. This holds
whatever flushes have failed before, since every flush takes all records. It rests on
one invariant: a record is always kept under its own partition and key, so a list of all
records is enough to enter them again, in any order.
-/

import Bitboard.Bark.RecordStore

namespace Bitboard.Bark

open Bitboard.Lib

variable (world : FlushWorld)

section Runs

variable {SortKey : Type} {records : RecordMap SortKey} {record : Record SortKey}
  {partition : UInt8} {pk : List UInt8}

namespace RecordMap

@[simp]
theorem recordsOf_empty (partition : UInt8) :
    (empty : RecordMap SortKey).recordsOf partition = ∅ := by
  simp [recordsOf, empty]

@[simp]
theorem recordsOf_insert (records : RecordMap SortKey) (record : Record SortKey)
    (partition : UInt8) :
    (records.insert record).recordsOf partition =
      if record.partition = partition then
        (records.recordsOf partition).insert record.pk record
      else records.recordsOf partition := by
  by_cases hpartition : record.partition = partition
  · subst hpartition
    simp [recordsOf, insert]
  · simp [recordsOf, insert, hpartition]

@[simp]
theorem recordsOf_remove (records : RecordMap SortKey) (removed : UInt8) (pk : List UInt8)
    (partition : UInt8) :
    (records.remove removed pk).2.recordsOf partition =
      if removed = partition then (records.recordsOf partition).erase pk
      else records.recordsOf partition := by
  unfold remove
  cases hremoved : records.partitions[removed]? with
  | none =>
    by_cases hpartition : removed = partition
    · subst hpartition
      simp [recordsOf, hremoved]
    · simp [hpartition]
  | some partitionRecords =>
    by_cases hpartition : removed = partition
    · subst hpartition
      simp [recordsOf, hremoved]
    · simp [recordsOf, hpartition]

theorem get_eq_getElem? (records : RecordMap SortKey) (partition : UInt8) (pk : List UInt8) :
    records.get partition pk = (records.recordsOf partition)[pk]? := by
  unfold get recordsOf
  cases records.partitions[partition]? with
  | none | some => simp

end RecordMap

/-- Every record is kept under its own partition and primary key. -/
def RecordMap.WellKeyed (records : RecordMap SortKey) : Prop :=
  ∀ partition pk record, records.get partition pk = some record →
    record.partition = partition ∧ record.pk = pk

theorem wellKeyed_empty : (RecordMap.empty : RecordMap SortKey).WellKeyed := by
  intro partition pk record hget
  simp [RecordMap.get_eq_getElem?] at hget

theorem get_insert (records : RecordMap SortKey) (record : Record SortKey) (partition : UInt8)
    (pk : List UInt8) :
    (records.insert record).get partition pk =
      if record.partition = partition ∧ record.pk = pk then some record
      else records.get partition pk := by
  rw [RecordMap.get_eq_getElem?, RecordMap.get_eq_getElem?, RecordMap.recordsOf_insert]
  by_cases hpartition : record.partition = partition
  · simp [hpartition]
  · simp [hpartition]

theorem get_remove (records : RecordMap SortKey) (removed : UInt8) (key : List UInt8)
    (partition : UInt8) (pk : List UInt8) :
    (records.remove removed key).2.get partition pk =
      if removed = partition ∧ key = pk then none else records.get partition pk := by
  rw [RecordMap.get_eq_getElem?, RecordMap.get_eq_getElem?, RecordMap.recordsOf_remove]
  by_cases hpartition : removed = partition
  · simp [hpartition]
  · simp [hpartition]

theorem RecordMap.WellKeyed.insert (h : records.WellKeyed) (record : Record SortKey) :
    (records.insert record).WellKeyed := by
  intro partition pk found hget
  rw [get_insert] at hget
  split at hget
  · rename_i hkey
    cases hget
    exact hkey
  · exact h partition pk found hget

theorem RecordMap.WellKeyed.remove (h : records.WellKeyed) (removed : UInt8)
    (key : List UInt8) : (records.remove removed key).2.WellKeyed := by
  intro partition pk found hget
  rw [get_remove] at hget
  split at hget
  · cases hget
  · exact h partition pk found hget

theorem RecordMap.WellKeyed.foldl_insert (h : records.WellKeyed)
    (entered : List (Record SortKey)) : (entered.foldl RecordMap.insert records).WellKeyed := by
  induction entered generalizing records with
  | nil => exact h
  | cons record entered ih => exact ih (h.insert record)

theorem mem_collectRecords (order : HashOrder) (h : records.WellKeyed) :
    record ∈ collectRecords order records ↔
      records.get record.partition record.pk = some record := by
  simp only [collectRecords, List.mem_flatMap, (order.perm _).mem_iff, BTreeMap.mem_vals_iff]
  constructor
  · rintro ⟨partition, -, pk, hget⟩
    rw [← RecordMap.get_eq_getElem?] at hget
    obtain ⟨rfl, rfl⟩ := h partition pk record hget
    exact hget
  · intro hget
    rw [RecordMap.get_eq_getElem?] at hget
    refine ⟨record.partition, ?_, record.pk, hget⟩
    rw [Std.ExtTreeMap.mem_keys]
    by_contra hmissing
    have hnone : records.partitions[record.partition]? = none :=
      Std.ExtTreeMap.getElem?_eq_none hmissing
    simp [RecordMap.recordsOf, hnone] at hget

theorem get_foldl_insert_of_forall_ne {entered : List (Record SortKey)}
    (hnone : ∀ other ∈ entered, ¬ (other.partition = partition ∧ other.pk = pk)) :
    (entered.foldl RecordMap.insert records).get partition pk = records.get partition pk := by
  induction entered generalizing records with
  | nil => rfl
  | cons other entered ih =>
    rw [List.foldl_cons, ih fun later hlater => hnone later (List.mem_cons_of_mem other hlater),
      get_insert, if_neg (hnone other List.mem_cons_self)]

theorem get_foldl_insert_of_mem {entered : List (Record SortKey)} (hmem : record ∈ entered)
    (hagree : ∀ other ∈ entered, other.partition = record.partition → other.pk = record.pk →
      other = record) :
    (entered.foldl RecordMap.insert records).get record.partition record.pk = some record := by
  induction entered generalizing records with
  | nil => cases hmem
  | cons other entered ih =>
    by_cases hlater : record ∈ entered
    · exact ih hlater fun later hin => hagree later (List.mem_cons_of_mem other hin)
    · -- nothing later has the key, so the record itself is the one that counts
      have hhead : record = other := (List.mem_cons.mp hmem).resolve_right hlater
      subst hhead
      rw [List.foldl_cons, get_foldl_insert_of_forall_ne, get_insert]
      · simp
      · intro later hin hkey
        have hsame := hagree later (List.mem_cons_of_mem record hin) hkey.1 hkey.2
        exact hlater (hsame ▸ hin)

theorem get_foldl_collectRecords (order : HashOrder) (h : records.WellKeyed) (partition : UInt8)
    (pk : List UInt8) :
    ((collectRecords order records).foldl RecordMap.insert RecordMap.empty).get partition pk =
      records.get partition pk := by
  cases hget : records.get partition pk with
  | some record =>
    obtain ⟨rfl, rfl⟩ := h partition pk record hget
    apply get_foldl_insert_of_mem ((mem_collectRecords order h).mpr hget)
    intro other hother hpartition hpk
    have hsame := (mem_collectRecords order h).mp hother
    rw [hpartition, hpk, hget] at hsame
    exact (Option.some.inj hsame).symm
  | none =>
    rw [get_foldl_insert_of_forall_ne]
    · simp [RecordMap.get_eq_getElem?]
    · intro other hother hkey
      have hsame := (mem_collectRecords order h).mp hother
      rw [hkey.1, hkey.2, hget] at hsame
      cases hsame

/-- An exported envelope opens, with the records it was made of. -/
theorem fromEncodedEnvelope_export {codec : EnvelopeCodec SortKey} (hcodec : codec.RoundTrips)
    {order : HashOrder} (h : records.WellKeyed) {encoded : String}
    (hexport : exportEncodedEnvelope codec order records = .ok encoded) :
    ∃ reopened, fromEncodedEnvelope codec encoded = .ok reopened ∧
      ∀ partition, reopened.recordsOf partition = records.recordsOf partition := by
  unfold exportEncodedEnvelope at hexport
  cases hbytes : codec.toAllocvec
      { version := barkRecordEnvelopeVersion, records := collectRecords order records } with
  | none =>
    rw [hbytes] at hexport
    cases hexport
  | some bytes =>
    rw [hbytes] at hexport
    cases hexport
    have hnonempty := hcodec.encode_ne_empty _ bytes hbytes
    refine ⟨(collectRecords order records).foldl RecordMap.insert RecordMap.empty, ?_, ?_⟩
    · simp [fromEncodedEnvelope, hnonempty, hcodec.decode _ bytes hbytes,
        hcodec.fromBytes _ bytes hbytes]
    · intro partition
      apply Std.ExtTreeMap.ext_getElem?
      intro pk
      rw [← RecordMap.get_eq_getElem?, ← RecordMap.get_eq_getElem?]
      exact get_foldl_collectRecords order h partition pk

variable {codec : EnvelopeCodec SortKey} {durable : DurablePartitions}
  {store : RecordStore SortKey}

@[simp]
theorem flushIfDurable_records :
    (flushIfDurable codec durable store partition world).2.records = store.records := by
  unfold flushIfDurable
  split
  · split
    · split
      · rfl
      · split
        · rfl
        · rfl
    · rfl
  · rfl

/-- A flush of a durable partition that returns `Ok` has handed out an export. -/
theorem flushed_of_flushIfDurable {world : FlushWorld}
    (hdurable : isDurablePartition durable partition = true)
    (hok : (flushIfDurable codec durable store partition world).1 = .ok ()) :
    ∃ encoded, (flushIfDurable codec durable store partition world).2.flushed = some encoded ∧
      exportEncodedEnvelope codec world.order store.records = .ok encoded := by
  simp only [flushIfDurable, hdurable, if_true] at hok ⊢
  cases hhook : store.flushHook with
  | false =>
    rw [hhook] at hok
    cases hok
  | true =>
    simp only [hhook, if_true] at hok ⊢
    cases hexport : exportEncodedEnvelope codec world.order store.records with
    | error message =>
      rw [hexport] at hok
      cases hok
    | ok encoded =>
      cases hflush : world.flush with
      | error message =>
        simp only [hexport, hflush] at hok
        cases hok
      | ok result => exact ⟨encoded, rfl, rfl⟩

theorem delete_eq :
    delete codec durable store partition pk world =
      ((flushIfDurable codec durable
          { store with records := (store.records.remove partition pk).2 } partition world).1.map
        fun _ => (store.records.remove partition pk).1,
      (flushIfDurable codec durable
        { store with records := (store.records.remove partition pk).2 } partition world).2) := by
  simp only [delete]
  generalize flushIfDurable codec durable
    { store with records := (store.records.remove partition pk).2 } partition world = result
  obtain ⟨flushed, next⟩ := result
  cases flushed with
  | error | ok => rfl

theorem map_eq_ok {α β : Type} {result : Except String α} {f : α → β} {b : β}
    (h : result.map f = .ok b) : ∃ a, result = .ok a := by
  cases result with
  | error message => cases h
  | ok a => exact ⟨a, rfl⟩

/-- The records before the flush of an operation, and the flush. -/
theorem recordStep_eq_flush (codec : EnvelopeCodec SortKey) (durable : DurablePartitions)
    {op : RecordOp SortKey} (hchanges : op.changes = some partition)
    (h : store.records.WellKeyed) :
    ∃ changed world, (changed : RecordMap SortKey).WellKeyed ∧
      (recordStep codec durable store op).2 =
        (flushIfDurable codec durable { store with records := changed } partition world).2 ∧
      ((recordStep codec durable store op).1 = .ok () →
        (flushIfDurable codec durable { store with records := changed } partition world).1 =
          .ok ()) := by
  cases op with
  | installHook | get | getAll | querySorted => cases hchanges
  | put record world =>
    cases hchanges
    exact ⟨store.records.insert record, world, h.insert record, rfl, id⟩
  | delete removed pk world =>
    cases hchanges
    refine ⟨(store.records.remove partition pk).2, world, h.remove partition pk, ?_, ?_⟩
    · simp only [recordStep, delete_eq]
    · intro hok
      simp only [recordStep, delete_eq] at hok
      obtain ⟨removed, hremoved⟩ := map_eq_ok hok
      obtain ⟨done, hdone⟩ := map_eq_ok hremoved
      rw [hdone]

theorem wellKeyed_recordStep (store : RecordStore SortKey) (op : RecordOp SortKey)
    (h : store.records.WellKeyed) : (recordStep codec durable store op).2.records.WellKeyed := by
  cases hchanges : op.changes with
  | some partition =>
    obtain ⟨changed, world, hchanged, hnext, -⟩ :=
      recordStep_eq_flush codec durable hchanges h
    rw [hnext, flushIfDurable_records]
    exact hchanged
  | none =>
    cases op with
    | put | delete => cases hchanges
    | installHook | get | getAll | querySorted => exact h

theorem wellKeyed_openRecordStore {flushHook : Bool} {encoded : String}
    (hopen : openRecordStore codec flushHook encoded = .ok store) :
    store.records.WellKeyed := by
  unfold openRecordStore at hopen
  split at hopen
  · cases hopen
    exact wellKeyed_empty
  · unfold fromEncodedEnvelope at hopen
    split at hopen
    · cases hopen
    · cases hbytes : codec.decode encoded with
      | none =>
        rw [hbytes] at hopen
        cases hopen
      | some bytes =>
        simp only [hbytes] at hopen
        cases henvelope : codec.fromBytes bytes with
        | none =>
          rw [henvelope] at hopen
          cases hopen
        | some envelope =>
          simp only [henvelope] at hopen
          split at hopen
          · cases hopen
          · cases hopen
            exact wellKeyed_empty.foldl_insert envelope.records

/-! ## Sorted queries -/

/-- The answer to a query is the beginning of a list that has exactly the records of the
partition in the range, each once, by increasing sort key. -/
structure AnswersQuery [LinearOrder SortKey] (records : RecordMap SortKey)
    (query : Query SortKey) (ordered answer : List (Record SortKey)) : Prop where
  mem : ∀ record, record ∈ ordered ↔
    records.get query.partition record.pk = some record ∧
      ∃ key, record.sortKey = some key ∧ query.contains key = true
  once : ordered.Nodup
  sorted : ordered.Pairwise fun earlier later =>
    sortKeyLe earlier.sortKey later.sortKey = true
  limited : answer = (match query.limit with
    | some limit => ordered.take limit
    | none => ordered)

section Queries

variable [LinearOrder SortKey]

theorem sortKeyLe_trans (first second third : Option SortKey)
    (hfirst : sortKeyLe first second = true) (hsecond : sortKeyLe second third = true) :
    sortKeyLe first third = true := by
  cases first with
  | none => rfl
  | some first =>
    cases second with
    | none => cases hfirst
    | some second =>
      cases third with
      | none => cases hsecond
      | some third =>
        simp only [sortKeyLe, decide_eq_true_eq] at hfirst hsecond ⊢
        exact le_trans hfirst hsecond

theorem sortKeyLe_total (first second : Option SortKey) :
    (sortKeyLe first second || sortKeyLe second first) = true := by
  cases first with
  | none => rfl
  | some first =>
    cases second with
    | none => rfl
    | some second => simpa [sortKeyLe] using le_total first second

theorem recordMatchesSortRange_iff {query : Query SortKey} :
    recordMatchesSortRange query record = true ↔
      ∃ key, record.sortKey = some key ∧ query.contains key = true := by
  unfold recordMatchesSortRange
  cases record.sortKey with
  | none | some => simp

omit [LinearOrder SortKey] in
/-- The records of a partition do not repeat. -/
theorem nodup_vals (h : records.WellKeyed) (partition : UInt8) :
    (records.recordsOf partition).vals.Nodup := by
  have hkeys : (records.recordsOf partition).vals.map Record.pk =
      (records.recordsOf partition).toList.map Prod.fst := by
    rw [BTreeMap.vals, List.map_map]
    apply List.map_congr_left
    intro entry hentry
    obtain ⟨pk, record⟩ := entry
    have hget := BTreeMap.mem_toList_iff.mp hentry
    rw [← RecordMap.get_eq_getElem?] at hget
    exact (h partition pk record hget).2
  apply List.Nodup.of_map Record.pk
  rw [hkeys]
  exact BTreeMap.nodup_map_fst_toList _

theorem answersQuery_querySorted (h : records.WellKeyed) (query : Query SortKey) :
    ∃ ordered, AnswersQuery records query ordered (querySorted records query) := by
  refine ⟨((records.recordsOf query.partition).vals.filter
    (recordMatchesSortRange query)).mergeSort
      fun left right => sortKeyLe left.sortKey right.sortKey, ?_, ?_, ?_, ?_⟩
  · intro record
    rw [(List.mergeSort_perm _ _).mem_iff, List.mem_filter, BTreeMap.mem_vals_iff,
      recordMatchesSortRange_iff, RecordMap.get_eq_getElem?]
    apply and_congr_left
    intro _
    constructor
    · intro hmem
      obtain ⟨pk, hget⟩ := hmem
      rw [← RecordMap.get_eq_getElem?] at hget
      obtain ⟨-, rfl⟩ := h query.partition pk record hget
      rw [← RecordMap.get_eq_getElem?]
      exact hget
    · intro hget
      exact ⟨record.pk, hget⟩
  · rw [(List.mergeSort_perm _ _).nodup_iff]
    exact (nodup_vals h query.partition).filter _
  · apply List.pairwise_mergeSort
    · intro first second third
      exact sortKeyLe_trans first.sortKey second.sortKey third.sortKey
    · intro first second
      exact sortKeyLe_total first.sortKey second.sortKey
  · unfold querySorted RecordMap.recordsOf
    cases records.partitions[query.partition]? with
    | none =>
      have hnothing : BTreeMap.vals (∅ : PartitionRecords SortKey) = [] := rfl
      cases query.limit with
      | none | some => simp [hnothing]
    | some partitionRecords => rfl

end Queries

/-- The envelope flushed last opens, and its records are those in memory. -/
def Reopens (codec : EnvelopeCodec SortKey) (store : RecordStore SortKey) : Prop :=
  ∃ encoded reopened, store.flushed = some encoded ∧
    fromEncodedEnvelope codec encoded = .ok reopened ∧
      ∀ partition, reopened.recordsOf partition = store.records.recordsOf partition

/-- After any run, an operation on a durable partition that returns `Ok` leaves a flushed
envelope that opens with the records in memory, and every sorted query returns the first
records of its range in the order of their sort keys. -/
theorem reopens_recordRun [LinearOrder SortKey] (codec : EnvelopeCodec SortKey)
    (hcodec : codec.RoundTrips) (durable : DurablePartitions) (flushHook : Bool)
    (encoded : String) (opened : RecordStore SortKey)
    (hopen : openRecordStore codec flushHook encoded = .ok opened)
    (ops : List (RecordOp SortKey)) :
    (∀ op partition, op.changes = some partition →
        isDurablePartition durable partition = true →
        (recordStep codec durable (recordRun codec durable opened ops) op).1 = .ok () →
        Reopens codec (recordStep codec durable (recordRun codec durable opened ops) op).2) ∧
      ∀ query, ∃ ordered, AnswersQuery (recordRun codec durable opened ops).records query ordered
        (querySorted (recordRun codec durable opened ops).records query) := by
  have hkeyed : (recordRun codec durable opened ops).records.WellKeyed :=
    run_invariant (fun store : RecordStore SortKey => store.records.WellKeyed)
      wellKeyed_recordStep
      (wellKeyed_openRecordStore hopen) ops
  constructor
  · intro op partition hchanges hdurable hok
    obtain ⟨changed, world, hchanged, hnext, hflush⟩ :=
      recordStep_eq_flush codec durable hchanges hkeyed
    obtain ⟨envelope, hflushed, hexport⟩ := flushed_of_flushIfDurable hdurable (hflush hok)
    obtain ⟨reopened, hreopened, hsame⟩ := fromEncodedEnvelope_export hcodec hchanged hexport
    rw [hnext]
    refine ⟨envelope, reopened, hflushed, hreopened, ?_⟩
    intro other
    rw [flushIfDurable_records]
    exact hsame other
  · intro query
    exact answersQuery_querySorted hkeyed query

end Runs

def sampleCheckpoint : Record Nat where
  partition := 6
  pk := [107]
  sortKey := none
  data := [7]

def sampleEnvelope : BarkRecordEnvelope Nat where
  version := 1
  records := [sampleCheckpoint]

def sampleBytes : List UInt8 := [1, 1, 6, 1, 107, 0, 1, 7]

def sampleCodec : EnvelopeCodec Nat where
  toAllocvec := fun envelope => if envelope = sampleEnvelope then some sampleBytes else none
  fromBytes := fun bytes => if bytes = sampleBytes then some sampleEnvelope else none
  encode := fun bytes => if bytes = sampleBytes then "AQEGAWsAAQc=" else ""
  decode := fun encoded => if encoded = "AQEGAWsAAQc=" then some sampleBytes else none

theorem sampleCodec_toAllocvec {envelope : BarkRecordEnvelope Nat} {bytes : List UInt8}
    (h : sampleCodec.toAllocvec envelope = some bytes) :
    envelope = sampleEnvelope ∧ bytes = sampleBytes := by
  simp only [sampleCodec] at h
  split at h
  · rename_i henvelope
    cases h
    exact ⟨henvelope, rfl⟩
  · cases h

theorem sampleCodec_roundTrips : sampleCodec.RoundTrips where
  fromBytes := by
    intro envelope bytes h
    obtain ⟨rfl, rfl⟩ := sampleCodec_toAllocvec h
    rfl
  decode := by
    intro envelope bytes h
    obtain ⟨rfl, rfl⟩ := sampleCodec_toAllocvec h
    decide
  encode_ne_empty := by
    intro envelope bytes h
    obtain ⟨rfl, rfl⟩ := sampleCodec_toAllocvec h
    decide

def sampleDurable : DurablePartitions where
  walletActionCheckpoint := 6
  exitVtxo := 7
  exitChildTx := 8

def keyOrder : HashOrder where
  list := id
  perm := fun keys => List.Perm.refl keys

def sampleOpened : RecordStore Nat where
  records := .empty
  flushHook := true
  flushed := none

def failedPut : List (RecordOp Nat) :=
  [.put sampleCheckpoint { order := keyOrder, flush := .error "disk full" }]

def repeatedPut : RecordOp Nat :=
  .put sampleCheckpoint { order := keyOrder, flush := .ok () }

theorem reopens_repeatedPut :
    Reopens sampleCodec (recordStep sampleCodec sampleDurable
      (recordRun sampleCodec sampleDurable sampleOpened failedPut) repeatedPut).2 := by
  have hopen : openRecordStore sampleCodec true "" = .ok sampleOpened := rfl
  have hok : (recordStep sampleCodec sampleDurable
      (recordRun sampleCodec sampleDurable sampleOpened failedPut) repeatedPut).1 = .ok () := by
    decide +kernel
  exact (reopens_recordRun sampleCodec sampleCodec_roundTrips sampleDurable true "" sampleOpened
    hopen failedPut).1 repeatedPut 6 rfl (by decide) hok

end Bitboard.Bark
