/-
# Picking transactions for a block

The mempool is ordered by fee rates, and by ids where the rates are equal. The picked transactions
are those of one greedy pass in that order: they fit the weight limit, spend nothing in common,
and no other transaction of the mempool could be added. Since ids are distinct, the order of the
mempool does not matter.
-/

import Bitboard.Frontend.LabMining
import Bitboard.Lib.GreedySelection
import Mathlib.Data.List.Sort

namespace Bitboard.Frontend

open Bitboard.Lib
open MempoolEntry

section Template

variable {Txid : Type} [LinearOrder Txid]
variable {second first : MempoolEntry Txid}

theorem standsBefore_iff :
    standsBefore first second = true ↔ feeSatPerVbyte second < feeSatPerVbyte first ∨
      (feeSatPerVbyte first = feeSatPerVbyte second ∧ first.txid ≤ second.txid) := by
  unfold standsBefore
  by_cases heq : feeSatPerVbyte first = feeSatPerVbyte second
  · rw [if_neg (not_not.mpr heq), decide_eq_true_eq, heq]
    simp
  · rw [if_pos heq, decide_eq_true_eq]
    simp [heq]

theorem standsBefore_trans (first second third : MempoolEntry Txid)
    (h : standsBefore first second = true) (hnext : standsBefore second third = true) :
    standsBefore first third = true := by
  rw [standsBefore_iff] at h hnext ⊢
  cases h with
  | inl hrate =>
    cases hnext with
    | inl hnextRate => exact .inl (hnextRate.trans hrate)
    | inr hsame =>
      rw [hsame.1] at hrate
      exact .inl hrate
  | inr hsame =>
    rw [hsame.1]
    cases hnext with
    | inl hnextRate => exact .inl hnextRate
    | inr hnextSame => exact .inr ⟨hnextSame.1, hsame.2.trans hnextSame.2⟩

theorem standsBefore_total (first second : MempoolEntry Txid) :
    (standsBefore first second || standsBefore second first) = true := by
  rw [Bool.or_eq_true, standsBefore_iff, standsBefore_iff]
  cases lt_trichotomy (feeSatPerVbyte first) (feeSatPerVbyte second) with
  | inl hlt => exact .inr (.inl hlt)
  | inr hother =>
    cases hother with
    | inr hgt => exact .inl (.inl hgt)
    | inl heq =>
      cases le_total first.txid second.txid with
      | inl hle => exact .inl (.inr ⟨heq, hle⟩)
      | inr hge => exact .inr (.inr ⟨heq.symm, hge⟩)

theorem txid_eq_of_standsBefore (h : standsBefore first second = true)
    (hback : standsBefore second first = true) : first.txid = second.txid := by
  rw [standsBefore_iff] at h hback
  cases h with
  | inl hrate =>
    cases hback with
    | inl hbackRate => exact absurd hrate (lt_asymm hbackRate)
    | inr hsame => exact absurd hsame.1.symm hrate.ne'
  | inr hsame =>
    cases hback with
    | inl hbackRate => exact absurd hsame.1 hbackRate.ne
    | inr hbackSame => exact le_antisymm hsame.2 hbackSame.2

/-- The mempool as it is sorted before the selection. -/
def sortedMempool (mempool : List (MempoolEntry Txid)) : List (MempoolEntry Txid) :=
  mempool.mergeSort standsBefore

variable {mempool : List (MempoolEntry Txid)}

omit [LinearOrder Txid] in
theorem eq_of_txid_eq (hdistinct : (mempool.map MempoolEntry.txid).Nodup) (hfirst : first ∈ mempool)
    (hsecond : second ∈ mempool) (h : first.txid = second.txid) : first = second :=
  List.inj_on_of_nodup_map hdistinct hfirst hsecond h

theorem sortedMempool_eq_of_perm {other : List (MempoolEntry Txid)}
    (hdistinct : (mempool.map MempoolEntry.txid).Nodup) (hperm : mempool.Perm other) :
    sortedMempool other = sortedMempool mempool := by
  have hsorted : (sortedMempool other).Perm (sortedMempool mempool) :=
    (List.mergeSort_perm other _).trans (hperm.symm.trans (List.mergeSort_perm mempool _).symm)
  apply hsorted.eq_of_pairwise _ (List.pairwise_mergeSort standsBefore_trans standsBefore_total _)
    (List.pairwise_mergeSort standsBefore_trans standsBefore_total _)
  intro first second hfirst hsecond h hback
  apply eq_of_txid_eq hdistinct
  · exact hperm.mem_iff.mpr (List.mem_mergeSort.mp hfirst)
  · exact List.mem_mergeSort.mp hsecond
  · exact txid_eq_of_standsBefore h hback

/-- A selected entry rules out itself and what spends an output in common with it. -/
def rulesOutEntry (selected entry : MempoolEntry Txid) : Bool :=
  decide (selected.txid = entry.txid) || overlaps entry selected

theorem isSelectable_eq_canSelect (selectedEntries : List (MempoolEntry Txid))
    (remainingWeight : Nat) :
    isSelectable selectedEntries remainingWeight =
      canSelect weight rulesOutEntry selectedEntries remainingWeight := by
  funext entry
  rw [Bool.eq_iff_iff, canSelect_eq_true_iff]
  simp only [isSelectable, rulesOutEntry, Bool.and_eq_true, Bool.not_eq_true', List.any_eq_false,
    decide_eq_true_eq, Bool.or_eq_false_iff, decide_eq_false_iff_not, Bool.not_eq_true]
  constructor
  · intro h
    exact ⟨h.1.2, fun selected hselected => ⟨h.1.1 selected hselected, h.2 selected hselected⟩⟩
  · intro h
    exact ⟨⟨fun selected hselected => (h.2 selected hselected).1, h.1⟩,
      fun selected hselected => (h.2 selected hselected).2⟩

theorem selectRounds_eq_selectInRounds (sortedEntries : List (MempoolEntry Txid)) (rounds : Nat)
    (selectedEntries : List (MempoolEntry Txid)) (remainingWeight : Nat) :
    selectRounds sortedEntries rounds selectedEntries remainingWeight =
      selectInRounds weight rulesOutEntry sortedEntries rounds selectedEntries
        remainingWeight := by
  induction rounds generalizing selectedEntries remainingWeight with
  | zero => rfl
  | succ rounds ih =>
    rw [selectRounds, selectInRounds, isSelectable_eq_canSelect]
    cases sortedEntries.find? (canSelect weight rulesOutEntry selectedEntries
        remainingWeight) with
    | none => rfl
    | some entry => exact ih _ _

def weightBudget (blockWeightLimit : Option Int) : Nat :=
  (blockWeightLimit.getD LAB_DEFAULT_BLOCK_WEIGHT_UNITS).toNat

theorem selectMempoolTxsForBlock_eq_onePass (mempool : List (MempoolEntry Txid))
    (blockWeightLimit : Option Int) :
    selectMempoolTxsForBlock mempool blockWeightLimit =
      selectInOnePass weight rulesOutEntry (sortedMempool mempool) []
        (weightBudget blockWeightLimit) := by
  have hself : ∀ entry : MempoolEntry Txid, rulesOutEntry entry entry = true := by
    intro entry
    simp [rulesOutEntry]
  have hpass : selectInRounds weight rulesOutEntry ([] ++ sortedMempool mempool)
      mempool.length [] (weightBudget blockWeightLimit) =
        selectInOnePass weight rulesOutEntry (sortedMempool mempool) []
          (weightBudget blockWeightLimit) :=
    selectInRounds_eq_selectInOnePass hself (by simp) (List.length_mergeSort mempool).le
  rw [← hpass]
  exact selectRounds_eq_selectInRounds _ _ _ _

/-- What a selection of transactions for a block is. -/
structure IsBlockSelection (mempool : List (MempoolEntry Txid)) (blockWeightLimit : Option Int)
    (selectedEntries : List (MempoolEntry Txid)) : Prop where
  subset : ∀ entry ∈ selectedEntries, entry ∈ mempool
  conflictFree : selectedEntries.Pairwise fun first second => overlaps second first = false
  withinLimit : (selectedEntries.map weight).sum ≤ weightBudget blockWeightLimit
  maximal : ∀ entry ∈ mempool, entry ∉ selectedEntries →
    weightBudget blockWeightLimit < (selectedEntries.map weight).sum + entry.weight ∨
      ∃ selected ∈ selectedEntries, overlaps entry selected = true
  ordered : selectedEntries.Pairwise fun first second =>
    feeSatPerVbyte second < feeSatPerVbyte first ∨
      (feeSatPerVbyte first = feeSatPerVbyte second ∧ first.txid < second.txid)
  onePass : selectedEntries = selectInOnePass weight rulesOutEntry
    (sortedMempool mempool) [] (weightBudget blockWeightLimit)

/-- From a mempool with distinct ids, a selection is picked that does not depend on the order of
the mempool. -/
theorem selectMempoolTxsForBlock_isBlockSelection (mempool : List (MempoolEntry Txid))
    (blockWeightLimit : Option Int) (hdistinct : (mempool.map MempoolEntry.txid).Nodup) :
    IsBlockSelection mempool blockWeightLimit
        (selectMempoolTxsForBlock mempool blockWeightLimit) ∧
      ∀ other, mempool.Perm other →
        selectMempoolTxsForBlock other blockWeightLimit =
          selectMempoolTxsForBlock mempool blockWeightLimit := by
  have hself : ∀ entry : MempoolEntry Txid, rulesOutEntry entry entry = true := by
    intro entry
    simp [rulesOutEntry]
  obtain ⟨selectedEntries, heq, hselected⟩ : ∃ added, selectInOnePass weight
      rulesOutEntry (sortedMempool mempool) [] (weightBudget blockWeightLimit) = [] ++ added ∧
        SelectsMaximally weight rulesOutEntry (sortedMempool mempool) []
          (weightBudget blockWeightLimit) added :=
    selectInOnePass_spec hself _ _ _
  rw [List.nil_append] at heq
  have hsubset : ∀ entry ∈ selectedEntries, entry ∈ mempool := by
    intro entry hentry
    exact List.mem_mergeSort.mp (hselected.sublist.subset hentry)
  constructor
  · rw [selectMempoolTxsForBlock_eq_onePass, heq]
    constructor
    · exact hsubset
    · apply hselected.free.imp
      intro first second h
      exact (Bool.or_eq_false_iff.mp h).2
    · exact hselected.fits
    · intro entry hentry hnot
      have hfalse := hselected.maximal entry (List.mem_mergeSort.mpr hentry)
      by_contra hcontra
      rw [not_or, not_lt] at hcontra
      rw [Bool.eq_false_iff] at hfalse
      apply hfalse
      apply canSelect_eq_true_iff.mpr
      constructor
      · have hfits := hselected.fits
        omega
      · intro selected hmem
        rw [List.nil_append] at hmem
        rw [rulesOutEntry, Bool.or_eq_false_iff, decide_eq_false_iff_not]
        constructor
        · intro hsame
          apply hnot
          rw [← eq_of_txid_eq hdistinct (hsubset selected hmem) hentry hsame]
          exact hmem
        · rw [Bool.eq_false_iff]
          intro hoverlap
          exact hcontra.2 ⟨selected, hmem, hoverlap⟩
    · have hsorted : selectedEntries.Pairwise fun first second =>
          standsBefore first second = true :=
        (List.pairwise_mergeSort standsBefore_trans standsBefore_total mempool).sublist
          hselected.sublist
      apply (hsorted.and hselected.free).imp
      intro first second h
      have hids := (Bool.or_eq_false_iff.mp h.2).1
      rw [decide_eq_false_iff_not] at hids
      cases standsBefore_iff.mp h.1 with
      | inl hrate => exact .inl hrate
      | inr hsame => exact .inr ⟨hsame.1, lt_of_le_of_ne hsame.2 hids⟩
    · exact heq.symm
  · intro other hperm
    rw [selectMempoolTxsForBlock_eq_onePass, selectMempoolTxsForBlock_eq_onePass,
      sortedMempool_eq_of_perm hdistinct hperm]

def rivalEntry (txid vsize : Nat) : MempoolEntry Nat where
  signedTx := { inputs := [⟨1, 0⟩], outputs := [], weight := 400 }
  txid := txid
  sender := none
  receiver := none
  feeSats := 200
  weight := 400
  vsize := vsize
  inputs := [⟨1, 0⟩]
  outputsDetail := []

theorem selectMempoolTxsForBlock_isBlockSelection_rivals :
    IsBlockSelection [rivalEntry 7 100, rivalEntry 8 50] (some 4000)
        (selectMempoolTxsForBlock [rivalEntry 7 100, rivalEntry 8 50] (some 4000)) ∧
      ∀ other, [rivalEntry 7 100, rivalEntry 8 50].Perm other →
        selectMempoolTxsForBlock other (some 4000) =
          selectMempoolTxsForBlock [rivalEntry 7 100, rivalEntry 8 50] (some 4000) :=
  selectMempoolTxsForBlock_isBlockSelection _ _ (by decide)

theorem sortedMempool_append {late : List (MempoolEntry Txid)}
    (hdistinct : ((mempool ++ late).map MempoolEntry.txid).Nodup)
    (hlate : ∀ entry ∈ mempool, ∀ other ∈ late, standsBefore other entry = false) :
    sortedMempool (mempool ++ late) = sortedMempool mempool ++ sortedMempool late := by
  have hsorted : ∀ entries : List (MempoolEntry Txid), (sortedMempool entries).Pairwise
      fun first second => standsBefore first second = true :=
    List.pairwise_mergeSort standsBefore_trans standsBefore_total
  have hperm : (sortedMempool (mempool ++ late)).Perm
      (sortedMempool mempool ++ sortedMempool late) :=
    (List.mergeSort_perm _ _).trans
      ((List.mergeSort_perm _ _).append (List.mergeSort_perm _ _)).symm
  apply hperm.eq_of_pairwise _ (hsorted _)
  · rw [List.pairwise_append]
    refine ⟨hsorted _, hsorted _, ?_⟩
    intro entry hentry other hother
    have htotal := standsBefore_total entry other
    rw [hlate entry (List.mem_mergeSort.mp hentry) other (List.mem_mergeSort.mp hother),
      Bool.or_false] at htotal
    exact htotal
  · intro first second hfirst hsecond h hback
    apply eq_of_txid_eq hdistinct (List.mem_mergeSort.mp hfirst)
    · exact List.mem_mergeSort.mp (hperm.mem_iff.mpr hsecond)
    · exact txid_eq_of_standsBefore h hback

/-- Entries that stand behind the whole mempool push nothing out of the block. -/
theorem selectMempoolTxsForBlock_append (mempool late : List (MempoolEntry Txid))
    (blockWeightLimit : Option Int) (hdistinct : ((mempool ++ late).map MempoolEntry.txid).Nodup)
    (hlate : ∀ entry ∈ mempool, ∀ other ∈ late, standsBefore other entry = false) :
    ∃ taken, taken.Sublist (sortedMempool late) ∧
      selectMempoolTxsForBlock (mempool ++ late) blockWeightLimit =
        selectMempoolTxsForBlock mempool blockWeightLimit ++ taken := by
  rw [selectMempoolTxsForBlock_eq_onePass, selectMempoolTxsForBlock_eq_onePass,
    sortedMempool_append hdistinct hlate]
  exact exists_selectInOnePass_append _ _ _ _

/-- A rival with a lower fee rate does not push the transaction out. -/
theorem selectMempoolTxsForBlock_append_rival :
    ∃ taken, taken.Sublist (sortedMempool [rivalEntry 7 100]) ∧
      selectMempoolTxsForBlock ([rivalEntry 8 50] ++ [rivalEntry 7 100]) (some 4000) =
        selectMempoolTxsForBlock [rivalEntry 8 50] (some 4000) ++ taken :=
  selectMempoolTxsForBlock_append _ _ _ (by decide) (by decide +kernel)

end Template

end Bitboard.Frontend
