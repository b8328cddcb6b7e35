/-
# What the balance buckets count

The balance shows five amounts for the virtual outputs of a wallet, and the list of outputs
shows a class for each. An output that is live and not exiting is counted in one bucket, and
the list names that bucket, as long as the dust limit of the snapshot and that of the operator
agree about its amount. The two spendable buckets are gross: they also count outputs whose
exit has begun as long as the snapshot does not show it.
-/

import Bitboard.Arkade.OffchainBalance
import Bitboard.Arkade.OperatorConfigDiff

namespace Bitboard.Arkade

open Bitboard.Lib
open VirtualTxOutPoint VtxoList

inductive BalanceBucket where
  | preConfirmed
  | confirmed
  | recoverableSettleable
  | recoverablePendingOperatorSweep
  | pendingRecoveryDueToExpiredSigner
  deriving DecidableEq

/-- The class that stands for a bucket in the list of outputs. -/
def BalanceBucket.classification : BalanceBucket → VtxoClassification
  | .preConfirmed => .preConfirmed
  | .confirmed => .confirmed
  | .recoverableSettleable => .recoverableSettleable
  | .recoverablePendingOperatorSweep => .recoverablePendingOperatorSweep
  | .pendingRecoveryDueToExpiredSigner => .pendingRecoveryDueToExpiredSigner

variable {test : VirtualTxOutPoint → Bool}

section Buckets

variable {PublicKey Address : Type} (xOnly : PublicKey → String) (info : Info PublicKey Address)
variable (now : Int) (codec : SnapshotCodec) (snapshot : OffchainVtxoSnapshot)
variable (legacySignerPkFallback : Option String) (records : VtxoExitRecords)

/-- The amounts that `balance` reads for the virtual outputs of a stored snapshot. -/
def balanceBuckets : ArkResult (BalanceBucket → Nat) := do
  let offchain ← offchainBalanceBucketsFromSnapshot xOnly info now codec snapshot
    legacySignerPkFallback records
  let recoverable ← recoverableVtxoBuckets info now codec snapshot records
  return fun
    | .preConfirmed => offchain.preConfirmedSats
    | .confirmed => offchain.confirmedSats
    | .recoverableSettleable => recoverable.settleable.totalSats
    | .recoverablePendingOperatorSweep => recoverable.pendingOperatorSweep.totalSats
    | .pendingRecoveryDueToExpiredSigner => offchain.pendingRecoveryDueToExpiredSignerSats

def sumOfBuckets (totals : BalanceBucket → Nat) : Nat :=
  totals .preConfirmed + totals .confirmed + totals .recoverableSettleable +
    totals .recoverablePendingOperatorSweep + totals .pendingRecoveryDueToExpiredSigner

def bucketOf (lookup : List UInt8 → Option String) (point : VirtualTxOutPoint) :
    Option BalanceBucket :=
  match vtxoListPart now snapshot.dustSats point with
  | .preConfirmed =>
    if isPastCutoff xOnly info now lookup point then
      if point.outpoint ∈ unilateralExitPipelineOutpoints records then none
      else some .pendingRecoveryDueToExpiredSigner
    else some .preConfirmed
  | .confirmed =>
    if isPastCutoff xOnly info now lookup point then
      if point.outpoint ∈ unilateralExitPipelineOutpoints records then none
      else some .pendingRecoveryDueToExpiredSigner
    else some .confirmed
  | .recoverable =>
    if point.outpoint ∈ unilateralExitPipelineOutpoints records then none
    else if isSettleableRecoverableVtxo point info.dust then some .recoverableSettleable
    else if isPendingOperatorSweepRecoverableVtxo now point info.dust then
      some .recoverablePendingOperatorSweep
    else none
  | _ => none

/-- When an output counts for a bucket. -/
def CountsFor (lookup : List UInt8 → Option String) (point : VirtualTxOutPoint) :
    BalanceBucket → Prop
  | .preConfirmed => vtxoListPart now snapshot.dustSats point = .preConfirmed ∧
      isPastCutoff xOnly info now lookup point = false
  | .confirmed => vtxoListPart now snapshot.dustSats point = .confirmed ∧
      isPastCutoff xOnly info now lookup point = false
  | .recoverableSettleable => vtxoListPart now snapshot.dustSats point = .recoverable ∧
      point.outpoint ∉ unilateralExitPipelineOutpoints records ∧
      isSettleableRecoverableVtxo point info.dust = true
  | .recoverablePendingOperatorSweep => vtxoListPart now snapshot.dustSats point = .recoverable ∧
      point.outpoint ∉ unilateralExitPipelineOutpoints records ∧
      isPendingOperatorSweepRecoverableVtxo now point info.dust = true
  | .pendingRecoveryDueToExpiredSigner =>
      (vtxoListPart now snapshot.dustSats point = .preConfirmed ∨
        vtxoListPart now snapshot.dustSats point = .confirmed) ∧
        isPastCutoff xOnly info now lookup point = true ∧
        point.outpoint ∉ unilateralExitPipelineOutpoints records

def amountWhere (test : VirtualTxOutPoint → Bool) (points : List VirtualTxOutPoint) : Nat :=
  ((points.filter test).map amount).sum

theorem totalAmount_eq_sum (points : List VirtualTxOutPoint) :
    totalAmount points = (points.map amount).sum := by
  have hfold : ∀ start, points.foldl (fun total point => total + point.amount) start =
      start + (points.map amount).sum := by
    induction points with
    | nil => exact fun start => rfl
    | cons point points ih =>
      intro start
      rw [List.foldl_cons, ih, List.map_cons, List.sum_cons, Nat.add_assoc]
  rw [totalAmount, hfold, Nat.zero_add]

theorem amountWhere_cons (test : VirtualTxOutPoint → Bool) (point : VirtualTxOutPoint)
    (points : List VirtualTxOutPoint) :
    amountWhere test (point :: points) =
      (if test point then point.amount else 0) + amountWhere test points := by
  unfold amountWhere
  by_cases htest : test point = true
  · rw [List.filter_cons_of_pos htest, List.map_cons, List.sum_cons, if_pos htest]
  · rw [List.filter_cons_of_neg htest, if_neg htest, Nat.zero_add]

theorem amountWhere_congr {other : VirtualTxOutPoint → Bool} {points : List VirtualTxOutPoint}
    (h : ∀ point ∈ points, test point = other point) :
    amountWhere test points = amountWhere other points := by
  unfold amountWhere
  rw [List.filter_congr h]

/-- Tests that never hold together add up. -/
theorem amountWhere_add {first second : VirtualTxOutPoint → Bool} {points : List VirtualTxOutPoint}
    (h : ∀ point ∈ points, test point = (first point || second point) ∧
      (first point && second point) = false) :
    amountWhere test points = amountWhere first points + amountWhere second points := by
  induction points with
  | nil => rfl
  | cons point points ih =>
    have hpoint := h point List.mem_cons_self
    rw [amountWhere_cons, amountWhere_cons, amountWhere_cons,
      ih fun other hother => h other (List.mem_cons_of_mem _ hother), hpoint.1]
    cases hfirst : first point with
    | false =>
      cases second point with
      | false => simp
      | true =>
        simp
        omega
    | true =>
      have hsecond : second point = false := by
        rw [hfirst] at hpoint
        exact hpoint.2
      simp [hsecond]
      omega

theorem sumOfBuckets_amountWhere (bucket : VirtualTxOutPoint → Option BalanceBucket)
    (points : List VirtualTxOutPoint) :
    sumOfBuckets (fun target => amountWhere (fun point => bucket point = some target) points) =
      amountWhere (fun point => (bucket point).isSome) points := by
  induction points with
  | nil => rfl
  | cons point points ih =>
    rw [amountWhere_cons, ← ih]
    unfold sumOfBuckets
    simp only [amountWhere_cons]
    cases bucket point with
    | none => simp
    | some target =>
      cases target <;> simp <;> omega

variable {codec snapshot} {points : List VirtualTxOutPoint}
variable {point : VirtualTxOutPoint}

theorem contains_outpoint_iff (hnodup : (points.map outpoint).Nodup)
    {some : List VirtualTxOutPoint} (hsubset : ∀ other ∈ some, other ∈ points)
    (hpoint : point ∈ points) :
    (some.map outpoint).contains point.outpoint = true ↔ point ∈ some := by
  rw [List.contains_iff_mem, List.mem_map]
  constructor
  · intro hother
    obtain ⟨other, hmem, heq⟩ := hother
    rwa [List.inj_on_of_nodup_map hnodup (hsubset other hmem) hpoint heq] at hmem
  · intro hmem
    exact ⟨point, hmem, rfl⟩

theorem vtxoListFromSnapshot_of_readsAs (hreads : ReadsAs codec snapshot points) :
    vtxoListFromSnapshot codec now snapshot = .ok (new now snapshot.dustSats points) := by
  unfold ReadsAs at hreads
  rw [vtxoListFromSnapshot, hreads]
  rfl

variable {now xOnly info records} {lookup : List UInt8 → Option String}

theorem bucketOf_eq_some_iff {bucket : BalanceBucket} :
    bucketOf xOnly info now snapshot records lookup point = some bucket ↔
      CountsFor xOnly info now snapshot records lookup point bucket := by
  unfold bucketOf
  cases bucket <;> unfold CountsFor <;> cases vtxoListPart now snapshot.dustSats point <;>
    grind [isPendingOperatorSweepRecoverableVtxo]

theorem mem_spendableOffchainAt_iff :
    point ∈ spendableOffchainAt xOnly info now (new now snapshot.dustSats points) lookup ↔
      point ∈ points ∧ (vtxoListPart now snapshot.dustSats point = .preConfirmed ∨
        vtxoListPart now snapshot.dustSats point = .confirmed) ∧
        isPastCutoff xOnly info now lookup point = false := by
  simp only [spendableOffchainAt, spendableOffchain, new, List.mem_filter,
    List.mem_append, decide_eq_true_eq, Bool.not_eq_true']
  tauto

/-- The buckets are worth what the outputs are that they count. -/
theorem balanceBuckets_eq_amountWhere (hreads : ReadsAs codec snapshot points)
    (hlookup : scriptToServerPkLookup codec snapshot legacySignerPkFallback = .ok lookup)
    (hnodup : (points.map outpoint).Nodup) {totals : BalanceBucket → Nat}
    (htotals : balanceBuckets xOnly info now codec snapshot legacySignerPkFallback records =
      .ok totals) (bucket : BalanceBucket) :
    totals bucket = amountWhere (fun point =>
      bucketOf xOnly info now snapshot records lookup point = some bucket) points := by
  unfold balanceBuckets offchainBalanceBucketsFromSnapshot recoverableVtxoBuckets at htotals
  rw [vtxoListFromSnapshot_of_readsAs now hreads, hlookup] at htotals
  obtain ⟨offchain, hoffchain, htotals⟩ := bind_eq_ok.mp htotals
  obtain ⟨recoverable, hrecoverable, htotals⟩ := bind_eq_ok.mp htotals
  obtain ⟨list, hlist, hoffchain⟩ := bind_eq_ok.mp hoffchain
  obtain ⟨found, hfound, hoffchain⟩ := bind_eq_ok.mp hoffchain
  cases hlist
  cases hfound
  obtain ⟨balance, hbalance, hoffchain⟩ := bind_eq_ok.mp hoffchain
  unfold computeOffchainBalance at hbalance
  obtain ⟨assetBalances, _, hbalance⟩ := bind_eq_ok.mp hbalance
  cases hbalance
  cases hoffchain
  cases hrecoverable
  cases htotals
  have hspendable : ∀ point ∈ points,
      ((spendableOffchainAt xOnly info now (new now snapshot.dustSats points) lookup).map
        outpoint).contains point.outpoint = true ↔
      (vtxoListPart now snapshot.dustSats point = .preConfirmed ∨
        vtxoListPart now snapshot.dustSats point = .confirmed) ∧
        isPastCutoff xOnly info now lookup point = false := by
    intro point hpoint
    rw [contains_outpoint_iff hnodup _ hpoint, mem_spendableOffchainAt_iff]
    · simp only [hpoint, true_and]
    · intro other hother
      exact (mem_spendableOffchainAt_iff.mp hother).1
  have hcounted : ∀ test, (∀ point ∈ points, test point = true ↔
      CountsFor xOnly info now snapshot records lookup point bucket) →
      ((points.filter test).map amount).sum = amountWhere (fun point =>
        bucketOf xOnly info now snapshot records lookup point = some bucket) points := by
    intro test htest
    apply amountWhere_congr
    intro point hpoint
    rw [Bool.eq_iff_iff, htest point hpoint, decide_eq_true_eq, bucketOf_eq_some_iff]
  cases bucket with
  | preConfirmed | confirmed =>
    simp only [OffchainBalanceBuckets.fromLive, new_preConfirmed,
      new_confirmed, totalAmount_eq_sum, List.filter_filter]
    apply hcounted
    intro point hpoint
    rw [Bool.and_eq_true, hspendable point hpoint, decide_eq_true_eq, CountsFor]
    tauto
  | recoverableSettleable | recoverablePendingOperatorSweep =>
    simp only [recoverableVtxoBucketsFromList, recoverableVtxoSummaryFromFiltered,
      new_recoverable, totalAmount_eq_sum, List.filter_filter]
    apply hcounted
    intro point hpoint
    simp only [Bool.and_eq_true, decide_eq_true_eq, CountsFor]
    tauto
  | pendingRecoveryDueToExpiredSigner =>
    simp only [pendingRecoveryDueToSignerAt, spendableOffchain,
      new_preConfirmed, new_confirmed, totalAmount_eq_sum, List.filter_append,
      List.filter_filter, List.map_append, List.sum_append]
    symm
    apply amountWhere_add
    intro point hpoint
    constructor
    · rw [Bool.eq_iff_iff]
      simp only [Bool.or_eq_true, Bool.and_eq_true, decide_eq_true_eq, bucketOf_eq_some_iff,
        CountsFor]
      tauto
    · cases vtxoListPart now snapshot.dustSats point <;> simp

/-! ## The list of outputs -/

theorem mem_all_new_iff : point ∈ (new now snapshot.dustSats points).all ↔ point ∈ points := by
  simp only [all, allUnspent, unspendable, new, List.mem_append, List.mem_filter, decide_eq_true_eq]
  cases vtxoListPart now snapshot.dustSats point <;> simp

theorem displayVtxo_eq_self (hunique : UniqueReadOutpoints snapshot)
    (hreads : ReadsAs codec snapshot points) (hpoint : point ∈ points) :
    displayVtxo snapshot point = point := by
  obtain ⟨row, hrow, hrowReads⟩ := exists_row_of_mem (forall₂_rowReadsAs hreads) hpoint
  unfold displayVtxo
  cases hrecord : snapshotRecord snapshot point.outpoint.txid.text point.outpoint.vout with
  | none => rfl
  | some record =>
    have hmem := mem_of_snapshotRecord hrecord
    have hat := VirtualTxOutPointRecord.isAt_iff.mp hmem.2
    have hsame : record = row := by
      apply List.inj_on_of_nodup_map hunique hmem.1 hrow
      rw [hat.1, hat.2, Txid.fromStr_text, hrowReads.txid, hrowReads.vout]
    show applyLocalSnapshotFlagsToVtxo point record = point
    rw [hsame, applyLocalSnapshotFlagsToVtxo, hrowReads.isUnrolled, hrowReads.isSpent,
      hrowReads.spentBy]
    simp

/-- The rows of the list are the rows of the outputs, in some order. -/
theorem mem_listVtxos_iff (hunique : UniqueReadOutpoints snapshot)
    (hreads : ReadsAs codec snapshot points)
    (hlookup : scriptToServerPkLookup codec snapshot legacySignerPkFallback = .ok lookup)
    {isUnilateralExitPrepared : VirtualTxOutPoint → Bool} {rows : List VtxoRow}
    (hrows : listVtxos xOnly info now codec snapshot legacySignerPkFallback
      isUnilateralExitPrepared = .ok rows) (row : VtxoRow) :
    row ∈ rows ↔ ∃ point ∈ points, mapVtxoRow xOnly info now point info.dust lookup
      (isUnilateralExitPrepared point) = row := by
  unfold listVtxos at hrows
  rw [vtxoListFromSnapshot_of_readsAs now hreads, hlookup] at hrows
  cases hrows
  rw [mapVtxoRowsFromList, List.mem_mergeSort, List.mem_map]
  constructor
  · intro hrow
    obtain ⟨point, hpoint, heq⟩ := hrow
    have hmem := mem_all_new_iff.mp hpoint
    rw [displayVtxo_eq_self hunique hreads hmem] at heq
    exact ⟨point, hmem, heq⟩
  · intro hrow
    obtain ⟨point, hpoint, heq⟩ := hrow
    apply Exists.intro point
    apply And.intro (mem_all_new_iff.mpr hpoint)
    rw [displayVtxo_eq_self hunique hreads hpoint]
    exact heq

end Buckets

/-- The output is neither spent nor unrolled, and none of the outputs that are exiting. -/
def IsFree (pipeline : Finset OutPoint) (point : VirtualTxOutPoint) : Prop :=
  point.isSpent = false ∧ point.isUnrolled = false ∧ point.outpoint ∉ pipeline

instance (pipeline : Finset OutPoint) (point : VirtualTxOutPoint) :
    Decidable (IsFree pipeline point) :=
  inferInstanceAs (Decidable (_ ∧ _))

/-- The amount lies between the two dust limits and alone decides whether the output is
recoverable. -/
def InDustGap (now : Int) (snapshotDust operatorDust : Nat) (point : VirtualTxOutPoint) : Prop :=
  point.isSwept = false ∧ point.isExpired now = false ∧
    min snapshotDust operatorDust ≤ point.amount ∧ point.amount < max snapshotDust operatorDust

section Free

variable {PublicKey Address : Type} {xOnly : PublicKey → String} {info : Info PublicKey Address}
variable {now : Int} {snapshot : OffchainVtxoSnapshot} {records : VtxoExitRecords}
variable {lookup : List UInt8 → Option String} {point : VirtualTxOutPoint}
variable (xOnly lookup) in
/-- A free output outside the gap is in the bucket that the list names. -/
theorem exists_bucketOf_of_isFree (hfree : IsFree (unilateralExitPipelineOutpoints records) point)
    (hgap : ¬ InDustGap now snapshot.dustSats info.dust point) :
    ∃ bucket, bucketOf xOnly info now snapshot records lookup point = some bucket ∧
      classifyVtxo xOnly info now point info.dust lookup = bucket.classification := by
  obtain ⟨hspent, hunrolled, hpipeline⟩ := hfree
  unfold bucketOf vtxoListPart classifyVtxo isPendingOperatorSweepRecoverableVtxo
    isSettleableRecoverableVtxo isRecoverable
  unfold InDustGap at hgap
  simp only [hspent, hunrolled, Bool.or_false, Bool.false_and, Bool.false_eq_true, if_false,
    Bool.false_or]
  by_cases hrecoverable : point.isSwept = true ∨ point.isExpired now = true
  · -- The dust limits do not matter.
    have hother : (point.isSwept || point.isExpired now) = true := by simpa using hrecoverable
    simp only [Bool.or_assoc, hother, Bool.or_true, if_true, if_neg hpipeline]
    by_cases hsettleable : (point.isSwept || decide (point.amount < info.dust)) = true
    · simp only [hsettleable, if_true]
      exact ⟨_, rfl, rfl⟩
    · simp only [hsettleable, Bool.false_eq_true, if_false, Bool.not_false, Bool.and_true, if_true]
      exact ⟨_, rfl, rfl⟩
  · have hswept : point.isSwept = false := by grind
    have hexpired : point.isExpired now = false := by grind
    have hdust : point.amount < snapshot.dustSats ↔ point.amount < info.dust := by grind
    simp only [hswept, hexpired, Bool.or_false, Bool.false_or, decide_eq_true_eq, hdust]
    by_cases hsub : point.amount < info.dust
    · simp only [hsub, if_true, if_neg hpipeline]
      exact ⟨_, rfl, rfl⟩
    · simp only [hsub, if_false, Bool.false_eq_true]
      by_cases hpreconfirmed : point.isPreconfirmed = true
      · simp only [hpreconfirmed, if_true]
        by_cases hpast : isPastCutoff xOnly info now lookup point = true
        · simp only [hpast, if_true, if_neg hpipeline]
          exact ⟨_, rfl, rfl⟩
        · simp only [hpast]
          exact ⟨_, rfl, rfl⟩
      · simp only [hpreconfirmed]
        by_cases hpast : isPastCutoff xOnly info now lookup point = true
        · simp only [hpast, if_true, if_neg hpipeline]
          exact ⟨_, rfl, rfl⟩
        · simp only [hpast]
          exact ⟨_, rfl, rfl⟩

/-- What a bucket counts is free, or is exiting and still spendable by the snapshot. -/
theorem isFree_or_of_bucketOf {bucket : BalanceBucket}
    (hbucket : bucketOf xOnly info now snapshot records lookup point = some bucket) :
    IsFree (unilateralExitPipelineOutpoints records) point ∨
      point.outpoint ∈ unilateralExitPipelineOutpoints records ∧
        (bucket = .preConfirmed ∨ bucket = .confirmed) := by
  have hlive : point.isSpent = false ∧ point.isUnrolled = false := by
    have hpart : vtxoListPart now snapshot.dustSats point = .preConfirmed ∨
        vtxoListPart now snapshot.dustSats point = .confirmed ∨
        vtxoListPart now snapshot.dustSats point = .recoverable := by
      unfold bucketOf at hbucket
      cases hpart : vtxoListPart now snapshot.dustSats point <;> simp_all
    unfold vtxoListPart isRecoverable at hpart
    cases hspent : point.isSpent with
    | true => simp [hspent] at hpart
    | false =>
      cases hunrolled : point.isUnrolled with
      | true => simp [hspent, hunrolled] at hpart
      | false => exact ⟨rfl, rfl⟩
  by_cases hpipeline : point.outpoint ∈ unilateralExitPipelineOutpoints records
  · apply Or.inr
    apply And.intro hpipeline
    unfold bucketOf at hbucket
    cases hpart : vtxoListPart now snapshot.dustSats point <;> simp_all
  · exact .inl ⟨hlive.1, hlive.2, hpipeline⟩

end Free

/-- The amount of the outputs that satisfy a condition. -/
def amountOf (condition : VirtualTxOutPoint → Prop) [DecidablePred condition]
    (points : List VirtualTxOutPoint) : Nat :=
  amountWhere (fun point => condition point) points

/-- The list has a row for the output, and every row for it shows this class. -/
def ListedAs (rows : List VtxoRow) (point : VirtualTxOutPoint)
    (classification : VtxoClassification) : Prop :=
  (∃ row ∈ rows, row.outpoint = point.outpoint) ∧
    ∀ row ∈ rows, row.outpoint = point.outpoint → row.classification = classification

/-- What the buckets say about the outputs of a snapshot. `counted` are the outputs that each
bucket counts; `gap` are those that the two dust limits do not agree about. -/
structure BucketsCountOnce (points : List VirtualTxOutPoint) (pipeline : Finset OutPoint)
    (gap : VirtualTxOutPoint → Prop) (totals : BalanceBucket → Nat) (rows : List VtxoRow)
    (counted : BalanceBucket → List VirtualTxOutPoint) : Prop where
  worth : ∀ bucket, totals bucket = ((counted bucket).map amount).sum
  sublist : ∀ bucket, (counted bucket).Sublist points
  once : ∀ point ∈ points, IsFree pipeline point → ¬ gap point →
    ∃ bucket, (∀ other, point ∈ counted other ↔ other = bucket) ∧
      ListedAs rows point bucket.classification
  nothingElse : ∀ bucket, ∀ point ∈ counted bucket, IsFree pipeline point ∨
    point.outpoint ∈ pipeline ∧ (bucket = .preConfirmed ∨ bucket = .confirmed)
  sum : (∀ point ∈ points, IsFree pipeline point → ¬ gap point) →
    sumOfBuckets totals = amountOf (IsFree pipeline) points +
      amountOf (fun point => point.outpoint ∈ pipeline)
        (counted .preConfirmed ++ counted .confirmed)

section Partition

variable {PublicKey Address : Type} (xOnly : PublicKey → String) (info : Info PublicKey Address)
variable (now : Int) (codec : SnapshotCodec) (snapshot : OffchainVtxoSnapshot)
variable (legacySignerPkFallback : Option String) (records : VtxoExitRecords)

/-- Free outputs and those that are exiting make up what is counted. -/
theorem amountWhere_bucketOf {lookup : List UInt8 → Option String} {points : List VirtualTxOutPoint}
    (hgap : ∀ point ∈ points, IsFree (unilateralExitPipelineOutpoints records) point →
      ¬ InDustGap now snapshot.dustSats info.dust point) :
    amountWhere (fun point =>
        (bucketOf xOnly info now snapshot records lookup point).isSome) points =
      amountOf (IsFree (unilateralExitPipelineOutpoints records)) points +
        (amountWhere (fun point =>
            point.outpoint ∈ unilateralExitPipelineOutpoints records ∧
              bucketOf xOnly info now snapshot records lookup point = some .preConfirmed) points +
          amountWhere (fun point =>
            point.outpoint ∈ unilateralExitPipelineOutpoints records ∧
              bucketOf xOnly info now snapshot records lookup point = some .confirmed)
            points) := by
  have hexiting : amountWhere (fun point =>
        point.outpoint ∈ unilateralExitPipelineOutpoints records ∧
          (bucketOf xOnly info now snapshot records lookup point).isSome = true) points =
      amountWhere (fun point =>
          point.outpoint ∈ unilateralExitPipelineOutpoints records ∧
            bucketOf xOnly info now snapshot records lookup point = some .preConfirmed) points +
        amountWhere (fun point =>
          point.outpoint ∈ unilateralExitPipelineOutpoints records ∧
            bucketOf xOnly info now snapshot records lookup point = some .confirmed) points := by
    apply amountWhere_add
    intro point hpoint
    cases hbucket : bucketOf xOnly info now snapshot records lookup point with
    | none => simp
    | some bucket =>
      cases isFree_or_of_bucketOf hbucket with
      | inl hfree => simp [hfree.2.2]
      | inr hpipeline =>
        cases hpipeline.2 with
        | inl heq => simp [heq]
        | inr heq => simp [heq]
  rw [← hexiting]
  apply amountWhere_add
  intro point hpoint
  by_cases hfree : IsFree (unilateralExitPipelineOutpoints records) point
  · obtain ⟨bucket, hbucket, _⟩ := exists_bucketOf_of_isFree xOnly lookup hfree
      (hgap point hpoint hfree)
    simp [hfree, hbucket, hfree.2.2]
  · cases hbucket : bucketOf xOnly info now snapshot records lookup point with
    | none => simp [hfree]
    | some bucket =>
      have hpipeline := (isFree_or_of_bucketOf hbucket).resolve_left hfree
      simp [hfree, hpipeline.1]

/-- Every free output outside the dust gap is counted in one bucket, which the list of outputs
names, and the buckets count nothing else but exiting outputs that are still spendable. -/
theorem balance_buckets_count_once (isUnilateralExitPrepared : VirtualTxOutPoint → Bool)
    (points : List VirtualTxOutPoint) (totals : BalanceBucket → Nat) (rows : List VtxoRow)
    (hunique : UniqueReadOutpoints snapshot) (hreads : ReadsAs codec snapshot points)
    (htotals : balanceBuckets xOnly info now codec snapshot legacySignerPkFallback records =
      .ok totals)
    (hrows : listVtxos xOnly info now codec snapshot legacySignerPkFallback
      isUnilateralExitPrepared = .ok rows) :
    ∃ counted, BucketsCountOnce points (unilateralExitPipelineOutpoints records)
      (InDustGap now snapshot.dustSats info.dust) totals rows counted := by
  have hnodup := nodup_outpoints hunique hreads
  obtain ⟨lookup, hlookup⟩ : ∃ lookup,
      scriptToServerPkLookup codec snapshot legacySignerPkFallback = .ok lookup := by
    unfold listVtxos at hrows
    obtain ⟨list, _, hrows⟩ := bind_eq_ok.mp hrows
    obtain ⟨lookup, hlookup, _⟩ := bind_eq_ok.mp hrows
    exact ⟨lookup, hlookup⟩
  have hworth := balanceBuckets_eq_amountWhere legacySignerPkFallback hreads hlookup hnodup htotals
  have hlisted := mem_listVtxos_iff legacySignerPkFallback hunique hreads hlookup hrows
  apply Exists.intro fun bucket => points.filter fun point =>
    bucketOf xOnly info now snapshot records lookup point = some bucket
  exact {
    worth := hworth
    sublist := fun bucket => List.filter_sublist
    once := by
      intro point hpoint hfree hgap
      obtain ⟨bucket, hbucket, hclass⟩ := exists_bucketOf_of_isFree xOnly lookup hfree hgap
      apply Exists.intro bucket
      apply And.intro
      · intro other
        rw [List.mem_filter, decide_eq_true_eq, hbucket, Option.some.injEq]
        exact ⟨fun h => h.2.symm, fun h => ⟨hpoint, h.symm⟩⟩
      · apply And.intro
        · exact ⟨_, (hlisted _).mpr ⟨point, hpoint, rfl⟩, rfl⟩
        · intro row hrow houtpoint
          obtain ⟨other, hother, heq⟩ := (hlisted row).mp hrow
          have hsame : other = point := by
            apply List.inj_on_of_nodup_map hnodup hother hpoint
            rw [← houtpoint, ← heq]
            rfl
          rw [← heq, hsame]
          exact hclass
    nothingElse := by
      intro bucket point hpoint
      have hbucket := of_decide_eq_true (List.mem_filter.mp hpoint).2
      exact isFree_or_of_bucketOf hbucket
    sum := by
      intro hgap
      have hsum : sumOfBuckets totals = sumOfBuckets fun target => amountWhere (fun point =>
          bucketOf xOnly info now snapshot records lookup point = some target) points := by
        congr 1
        funext bucket
        exact hworth bucket
      rw [hsum, sumOfBuckets_amountWhere, amountWhere_bucketOf xOnly info now snapshot records hgap]
      congr 1
      simp [amountOf, amountWhere, List.filter_append, List.filter_filter] }

end Partition

def sampleSnapshotCodec : SnapshotCodec where
  txidError _ := "bad hex string"
  hexError _ := "odd length"
  xOnlyPublicKeyFromStr text := .ok text

def sampleXOnly (_ : Bool) : String :=
  "4f355bdcb7cc0af728ef3cceb9615d90684bb5b2ca5f859ab0f0b704075871aa"

def samplePoint : VirtualTxOutPoint where
  outpoint := { txid := sampleHost, vout := 0 }
  createdAt := 0
  expiresAt := 0
  amount := 1000
  script := []
  isPreconfirmed := false
  isSwept := false
  isUnrolled := false
  isSpent := false
  spentBy := none
  commitmentTxids := []
  settledBy := none
  arkTxid := none
  assets := []

theorem readsAs_sampleSnapshot : ReadsAs sampleSnapshotCodec sampleSnapshot [samplePoint] := by
  have hscript : fromHex "" = some [] := rfl
  have hrow : virtualTxOutpointFromRecord sampleSnapshotCodec (sampleRow sampleHost.text 0) =
      .ok samplePoint := by
    simp [virtualTxOutpointFromRecord, parseSnapshotTxid, parseSnapshotScript,
      parseOptionalSnapshotTxid, sampleRow, Txid.fromStr_text, hscript, samplePoint, bind,
      Except.bind, pure, Except.pure]
  show [sampleRow sampleHost.text 0].mapM _ = _
  rw [List.mapM_cons, hrow]
  rfl

theorem exists_sampleBuckets (records : VtxoExitRecords) : ∃ totals,
    balanceBuckets sampleXOnly (sampleServerInfo []) 0 sampleSnapshotCodec sampleSnapshot none
      records = .ok totals := by
  unfold balanceBuckets offchainBalanceBucketsFromSnapshot recoverableVtxoBuckets
  rw [vtxoListFromSnapshot_of_readsAs 0 readsAs_sampleSnapshot]
  exact ⟨_, rfl⟩

theorem balance_buckets_count_once_sample : ∃ totals rows counted,
    BucketsCountOnce [samplePoint] (unilateralExitPipelineOutpoints ∅)
      (InDustGap 0 330 330) totals rows counted := by
  obtain ⟨totals, htotals⟩ := exists_sampleBuckets ∅
  have hrows : ∃ rows, listVtxos sampleXOnly (sampleServerInfo []) 0 sampleSnapshotCodec
      sampleSnapshot none (fun _ => false) = .ok rows := by
    unfold listVtxos
    rw [vtxoListFromSnapshot_of_readsAs 0 readsAs_sampleSnapshot]
    exact ⟨_, rfl⟩
  obtain ⟨rows, hrows⟩ := hrows
  have hunique : UniqueReadOutpoints sampleSnapshot := List.nodup_singleton _
  exact ⟨totals, rows, balance_buckets_count_once sampleXOnly (sampleServerInfo []) 0
    sampleSnapshotCodec sampleSnapshot none ∅ (fun _ => false) [samplePoint] totals rows hunique
    readsAs_sampleSnapshot htotals hrows⟩

/-- The buckets are worth more than the free outputs when an output has just been tagged. -/
theorem tagged_output_counts_as_confirmed :
    ¬ ∀ (records : VtxoExitRecords) (totals : BalanceBucket → Nat),
      balanceBuckets sampleXOnly (sampleServerInfo []) 0 sampleSnapshotCodec sampleSnapshot none
        records = .ok totals →
      sumOfBuckets totals =
        amountOf (IsFree (unilateralExitPipelineOutpoints records)) [samplePoint] := by
  intro hall
  let records : VtxoExitRecords := (∅ : VtxoExitRecords).insert
    (vtxoExitRecordKey sampleHost.text 0)
    { phase := .tagged, taggedAt := 0, hostTxid := sampleHost.text, amountSats := 1000 }
  have hpipeline : samplePoint.outpoint ∈ unilateralExitPipelineOutpoints records := by
    unfold unilateralExitPipelineOutpoints recordOutpointKeysWhere
    rw [List.mem_toFinset, List.mem_filterMap]
    refine ⟨(vtxoExitRecordKey sampleHost.text 0,
      { phase := .tagged, taggedAt := 0, hostTxid := sampleHost.text, amountSats := 1000 }),
      List.mem_filter.mpr
        ⟨BTreeMap.mem_toList_iff.mpr Std.ExtTreeMap.getElem?_insert_self, rfl⟩, ?_⟩
    simp [exitOutpointKeyFromStr, samplePoint]
  obtain ⟨totals, htotals⟩ := exists_sampleBuckets records
  have hsum := hall records totals htotals
  have hnone : amountOf (IsFree (unilateralExitPipelineOutpoints records)) [samplePoint] = 0 := by
    simp [amountOf, amountWhere, IsFree, hpipeline]
  have hworth := balanceBuckets_eq_amountWhere none readsAs_sampleSnapshot rfl
    (List.nodup_singleton _) htotals .confirmed
  have hconfirmed : totals .confirmed = 1000 := by
    rw [hworth]
    rfl
  unfold sumOfBuckets at hsum
  omega

end Bitboard.Arkade
