/-
# Drafts of the exit graph

While chains are merged, the draft of a transaction is made of two lists: the entries of the
chains that have been entered, and the marks that have been noted. This module says which draft
the lists make, and that the merge keeps to it.
-/

import Bitboard.Bark.ExitGraph

namespace Bitboard.Bark

open Bitboard.Lib

abbrev ChainEntry := ExitGraphChain × ExitGraphTransaction

/-- The entry makes its transaction the leaf of the coin of its chain. -/
def IsLeafEntry (entry : ChainEntry) : Prop :=
  entry.1.transactions.getLast?.map ExitGraphTransaction.txid = some entry.2.txid ∧
    entry.2.txType ≠ .commitment

/-- The type that the entries of a transaction give it: a checkpoint if one of them is one, else
an anchor if one of them is one. -/
def enteredTxType (entered : List ChainEntry) (txid : String) : ExitGraphTxType :=
  if ∃ entry ∈ entered, entry.2.txid = txid ∧ entry.2.txType = .checkpoint then .checkpoint
  else if ∃ entry ∈ entered, entry.2.txid = txid ∧ entry.2.txType = .commitment then .commitment
  else .tree

/-- The highest rank that the marks of a transaction give it. -/
def notedRank (noted : List ExitGraphTransactionStatus) (txid : String) : Nat :=
  ((noted.filter fun mark => mark.txid = txid).map fun mark => exitGraphRank mark.kind).foldl max 0

/-- A mark says that the transaction waits for the other one. -/
def NotesWaiting (noted : List ExitGraphTransactionStatus) (txid other : String) : Prop :=
  ∃ mark ∈ noted, mark.txid = txid ∧ mark.kind = .waitingOnInputs ∧ other ∈ mark.waitingOnTxids

/-- The draft that the entries and marks of a transaction make. -/
structure Describes (entered : List ChainEntry) (noted : List ExitGraphTransactionStatus)
    (txid : String) (draft : ExitGraphDraft) : Prop where
  inputs : ∃ entry, entered.find? (fun entry => entry.2.txid = txid) = some entry ∧
    draft.inputTxids = entry.2.inputTxids
  txType : draft.txType = enteredTxType entered txid
  leafs : ∀ vtxoId, vtxoId ∈ draft.leafVtxoIds ↔
    ∃ entry ∈ entered, entry.2.txid = txid ∧ IsLeafEntry entry ∧ entry.1.vtxoId = vtxoId
  leafs_nodup : draft.leafVtxoIds.Nodup
  rank : draft.rank = notedRank noted txid
  waits : ∀ other, other ∈ draft.waitingOnTxids ↔
    notedRank noted txid = EXIT_GRAPH_RANK_PENDING ∧ NotesWaiting noted txid other

/-- The map has the drafts that the entries and marks make. -/
structure DraftsOf (entered : List ChainEntry) (noted : List ExitGraphTransactionStatus)
    (drafts : BTreeMap String ExitGraphDraft) : Prop where
  entered_iff : ∀ txid : String, (∃ entry ∈ entered, entry.2.txid = txid) ↔ drafts[txid]? ≠ none
  noted_entered : ∀ mark ∈ noted, ∃ entry ∈ entered, entry.2.txid = mark.txid
  describes : ∀ (txid : String) draft, drafts[txid]? = some draft →
    Describes entered noted txid draft

section Entries

variable {entered : List ChainEntry} {noted : List ExitGraphTransactionStatus} {txid : String}
  {chain : ExitGraphChain} {transaction : ExitGraphTransaction}

theorem exists_mem_concat {p : ChainEntry → Prop} {entry : ChainEntry} :
    (∃ other ∈ entered ++ [entry], p other) ↔ (∃ other ∈ entered, p other) ∨ p entry := by
  simp only [List.mem_append, List.mem_singleton, or_and_right, exists_or, exists_eq_left]

theorem enteredTxType_concat_self :
    enteredTxType (entered ++ [(chain, transaction)]) transaction.txid =
      mergedTxType (enteredTxType entered transaction.txid) transaction.txType := by
  simp only [enteredTxType, exists_mem_concat, true_and]
  cases htype : transaction.txType <;>
    by_cases hcheckpoint : ∃ entry ∈ entered,
      entry.2.txid = transaction.txid ∧ entry.2.txType = .checkpoint <;>
    by_cases hcommitment : ∃ entry ∈ entered,
      entry.2.txid = transaction.txid ∧ entry.2.txType = .commitment <;>
    simp [hcheckpoint, hcommitment, mergedTxType]

theorem enteredTxType_concat_of_ne (hne : transaction.txid ≠ txid) :
    enteredTxType (entered ++ [(chain, transaction)]) txid = enteredTxType entered txid := by
  simp only [enteredTxType, exists_mem_concat, hne, false_and, or_false]

theorem mem_pushUnique {values : List String} {value other : String} :
    other ∈ pushUnique values value ↔ other ∈ values ∨ other = value := by
  unfold pushUnique
  split
  · rename_i hmem
    constructor
    · exact .inl
    · intro h
      cases h with
      | inl hold => exact hold
      | inr heq =>
        rw [heq]
        exact hmem
  · simp

theorem nodup_pushUnique {values : List String} (h : values.Nodup) (value : String) :
    (pushUnique values value).Nodup := by
  unfold pushUnique
  split
  · exact h
  · rename_i hmem
    apply h.append (List.nodup_singleton value)
    intro other hother hvalue
    rw [List.mem_singleton.mp hvalue] at hother
    exact hmem hother

theorem Describes.concat_of_ne {draft : ExitGraphDraft}
    (h : Describes entered noted txid draft) (hne : transaction.txid ≠ txid) :
    Describes (entered ++ [(chain, transaction)]) noted txid draft := { h with
  inputs := by
    obtain ⟨entry, hentry, hinputs⟩ := h.inputs
    exact ⟨entry, by rw [List.find?_append, hentry, Option.some_or], hinputs⟩
  txType := by
    rw [enteredTxType_concat_of_ne hne]
    exact h.txType
  leafs := by
    intro vtxoId
    rw [exists_mem_concat, h.leafs vtxoId]
    simp [hne] }

/-- The entry of a transaction that has been entered before is merged into its draft. -/
theorem Describes.concat_self {draft : ExitGraphDraft}
    (h : Describes entered noted transaction.txid draft) :
    Describes (entered ++ [(chain, transaction)]) noted transaction.txid { draft with
      txType := mergedTxType draft.txType transaction.txType
      leafVtxoIds :=
        if chain.transactions.getLast?.map ExitGraphTransaction.txid = some transaction.txid ∧
            transaction.txType ≠ .commitment then
          pushUnique draft.leafVtxoIds chain.vtxoId
        else draft.leafVtxoIds } where
  inputs := by
    obtain ⟨entry, hentry, hinputs⟩ := h.inputs
    exact ⟨entry, by rw [List.find?_append, hentry, Option.some_or], hinputs⟩
  txType := by
    rw [enteredTxType_concat_self, ← h.txType]
  leafs := by
    intro vtxoId
    rw [exists_mem_concat, ← h.leafs vtxoId]
    dsimp only
    split
    · rename_i hleaf
      rw [mem_pushUnique]
      simp [IsLeafEntry, hleaf, eq_comm]
    · rename_i hleaf
      have hnot : ¬ IsLeafEntry (chain, transaction) := hleaf
      simp [hnot]
  leafs_nodup := by
    dsimp only
    split
    · exact nodup_pushUnique h.leafs_nodup _
    · exact h.leafs_nodup
  rank := h.rank
  waits := h.waits

/-- Where nothing has been entered or noted, the first entry makes the draft. -/
theorem describes_first (hentered : ∀ entry ∈ entered, entry.2.txid ≠ transaction.txid)
    (hnoted : ∀ mark ∈ noted, mark.txid ≠ transaction.txid) :
    Describes (entered ++ [(chain, transaction)]) noted transaction.txid {
      inputTxids := transaction.inputTxids
      leafVtxoIds :=
        if chain.transactions.getLast?.map ExitGraphTransaction.txid = some transaction.txid ∧
            transaction.txType ≠ .commitment then
          pushUnique [] chain.vtxoId
        else []
      rank := EXIT_GRAPH_RANK_PENDING
      waitingOnTxids := []
      txType := mergedTxType .tree transaction.txType } where
  inputs := by
    refine ⟨(chain, transaction), ?_, rfl⟩
    rw [List.find?_append, List.find?_eq_none.mpr, Option.none_or]
    · simp
    · intro entry hentry
      simpa using hentered entry hentry
  txType := by
    have htree : enteredTxType entered transaction.txid = .tree := by
      rw [enteredTxType, if_neg, if_neg]
      · intro h
        obtain ⟨entry, hentry, htxid, _⟩ := h
        exact hentered entry hentry htxid
      · intro h
        obtain ⟨entry, hentry, htxid, _⟩ := h
        exact hentered entry hentry htxid
    rw [enteredTxType_concat_self, htree]
  leafs := by
    intro vtxoId
    have hnone : ¬ ∃ entry ∈ entered, entry.2.txid = transaction.txid ∧ IsLeafEntry entry ∧
        entry.1.vtxoId = vtxoId := by
      intro h
      obtain ⟨entry, hentry, htxid, _⟩ := h
      exact hentered entry hentry htxid
    rw [exists_mem_concat]
    dsimp only
    split
    · rename_i hleaf
      rw [mem_pushUnique, or_iff_right hnone]
      simp [IsLeafEntry, hleaf, eq_comm]
    · rename_i hleaf
      have hnot : ¬ IsLeafEntry (chain, transaction) := hleaf
      rw [or_iff_right hnone]
      simp [hnot]
  leafs_nodup := by
    dsimp only
    split
    · exact nodup_pushUnique List.nodup_nil _
    · exact List.nodup_nil
  rank := by
    have hempty : noted.filter (fun mark => mark.txid = transaction.txid) = [] := by
      rw [List.filter_eq_nil_iff]
      intro mark hmark
      simpa using hnoted mark hmark
    rw [notedRank, hempty]
    rfl
  waits := by
    intro other
    have hnone : ¬ NotesWaiting noted transaction.txid other := by
      intro h
      obtain ⟨mark, hmark, htxid, _⟩ := h
      exact hnoted mark hmark htxid
    simp [hnone]

variable {drafts : BTreeMap String ExitGraphDraft}

theorem DraftsOf.enterTransaction (h : DraftsOf entered noted drafts) (chain : ExitGraphChain)
    (transaction : ExitGraphTransaction) :
    DraftsOf (entered ++ [(chain, transaction)]) noted
      (enterTransaction chain drafts transaction) where
  entered_iff := by
    intro txid
    rw [exists_mem_concat, h.entered_iff, Bark.enterTransaction, BTreeMap.getElem?_insert_eq_ite]
    by_cases heq : transaction.txid = txid
    · simp [heq]
    · simp [heq]
  noted_entered := by
    intro mark hmark
    exact exists_mem_concat.mpr (.inl (h.noted_entered mark hmark))
  describes := by
    intro txid draft hdraft
    rw [Bark.enterTransaction, BTreeMap.getElem?_insert_eq_ite] at hdraft
    by_cases heq : transaction.txid = txid
    · subst heq
      rw [if_pos rfl] at hdraft
      cases hbefore : drafts[transaction.txid]? with
      | none =>
        rw [hbefore] at hdraft
        cases hdraft
        apply describes_first
        · intro entry hentry htxid
          exact (h.entered_iff transaction.txid).mp ⟨entry, hentry, htxid⟩ hbefore
        · intro mark hmark htxid
          obtain ⟨entry, hentry, hentryTxid⟩ := h.noted_entered mark hmark
          rw [htxid] at hentryTxid
          exact (h.entered_iff transaction.txid).mp ⟨entry, hentry, hentryTxid⟩ hbefore
      | some before =>
        rw [hbefore] at hdraft
        cases hdraft
        exact (h.describes transaction.txid before hbefore).concat_self
    · rw [if_neg heq] at hdraft
      exact (h.describes txid draft hdraft).concat_of_ne heq

theorem DraftsOf.enterAll (h : DraftsOf entered noted drafts) (chain : ExitGraphChain)
    (transactions : List ExitGraphTransaction) :
    DraftsOf (entered ++ transactions.map fun transaction => (chain, transaction)) noted
      (transactions.foldl (Bark.enterTransaction chain) drafts) := by
  induction transactions generalizing entered drafts with
  | nil =>
    rw [List.map_nil, List.append_nil]
    exact h
  | cons transaction transactions ih =>
    have hrest := ih (h.enterTransaction chain transaction)
    rw [List.append_assoc] at hrest
    exact hrest

end Entries

/-! ## One mark more -/

section Marks

variable {entered : List ChainEntry} {noted : List ExitGraphTransactionStatus} {txid : String}
  {mark : ExitGraphTransactionStatus} {draft : ExitGraphDraft}

theorem notedRank_concat_self (noted : List ExitGraphTransactionStatus)
    (mark : ExitGraphTransactionStatus) :
    notedRank (noted ++ [mark]) mark.txid =
      max (notedRank noted mark.txid) (exitGraphRank mark.kind) := by
  simp [notedRank, List.filter_append, List.foldl_append]

theorem notedRank_concat_of_ne (hne : mark.txid ≠ txid) :
    notedRank (noted ++ [mark]) txid = notedRank noted txid := by
  simp [notedRank, List.filter_append, hne]

theorem notesWaiting_concat {other : String} :
    NotesWaiting (noted ++ [mark]) txid other ↔ NotesWaiting noted txid other ∨
      (mark.txid = txid ∧ mark.kind = .waitingOnInputs ∧ other ∈ mark.waitingOnTxids) := by
  simp only [NotesWaiting, List.mem_append, List.mem_singleton, or_and_right, exists_or,
    exists_eq_left]

theorem Describes.note_of_ne (h : Describes entered noted txid draft) (hne : mark.txid ≠ txid) :
    Describes entered (noted ++ [mark]) txid draft := { h with
  rank := by
    rw [notedRank_concat_of_ne hne]
    exact h.rank
  waits := by
    intro other
    rw [notedRank_concat_of_ne hne, notesWaiting_concat, h.waits other]
    simp [hne] }

/-- A mark raises the rank, or adds what is waited for while there is no higher rank. -/
theorem Describes.note_self (h : Describes entered noted mark.txid draft) :
    Describes entered (noted ++ [mark]) mark.txid (notedDraft mark draft) := by
  have hrank := h.rank
  have hwaits := h.waits
  have hconcat := notedRank_concat_self noted mark
  unfold notedDraft
  dsimp only
  split
  · rename_i hlt
    have hkind : mark.kind ≠ .waitingOnInputs := by
      intro hkind
      rw [hkind] at hlt
      exact absurd hlt (Nat.not_lt_zero _)
    have hmax : notedRank (noted ++ [mark]) mark.txid = exitGraphRank mark.kind := by
      rw [hconcat]
      omega
    constructor
    · exact h.inputs
    · exact h.txType
    · exact h.leafs
    · exact h.leafs_nodup
    · exact hmax.symm
    · intro other
      rw [if_neg hkind, hmax]
      have hpositive : exitGraphRank mark.kind ≠ EXIT_GRAPH_RANK_PENDING :=
        Nat.ne_of_gt (Nat.zero_lt_of_lt hlt)
      simp [hpositive]
  · rename_i hnotLt
    have hmax : notedRank (noted ++ [mark]) mark.txid = notedRank noted mark.txid := by
      rw [hconcat]
      omega
    split
    · rename_i hsame
      have hzero : notedRank noted mark.txid = EXIT_GRAPH_RANK_PENDING := by
        rw [← hrank, ← hsame.1, hsame.2]
        rfl
      constructor
      · exact h.inputs
      · exact h.txType
      · exact h.leafs
      · exact h.leafs_nodup
      · exact hrank.trans hmax.symm
      · intro other
        rw [List.mem_append, hwaits other, hmax, notesWaiting_concat]
        simp [hzero, hsame.2]
    · rename_i hother
      constructor
      · exact h.inputs
      · exact h.txType
      · exact h.leafs
      · exact h.leafs_nodup
      · exact hrank.trans hmax.symm
      · intro other
        rw [hwaits other, hmax, notesWaiting_concat]
        constructor
        · intro hold
          exact ⟨hold.1, .inl hold.2⟩
        · intro hnew
          refine ⟨hnew.1, ?_⟩
          cases hnew.2 with
          | inl hold => exact hold
          | inr hmark =>
            apply absurd _ hother
            rw [hrank, hnew.1, hmark.2.1]
            exact ⟨rfl, rfl⟩

variable {drafts : BTreeMap String ExitGraphDraft}

theorem DraftsOf.noteTransactionStatus
    (h : DraftsOf entered noted drafts) (hmark : ∃ entry ∈ entered, entry.2.txid = mark.txid) :
    DraftsOf entered (noted ++ [mark]) (noteTransactionStatus drafts mark) := by
  obtain ⟨draft, hdraft⟩ := Option.ne_none_iff_exists'.mp ((h.entered_iff mark.txid).mp hmark)
  unfold Bark.noteTransactionStatus
  rw [hdraft]
  constructor
  · intro txid
    rw [h.entered_iff, BTreeMap.getElem?_insert_eq_ite]
    by_cases heq : mark.txid = txid
    · rw [← heq, hdraft]
      simp
    · simp [heq]
  · intro other hother
    cases List.mem_append.mp hother with
    | inl hold => exact h.noted_entered other hold
    | inr hnew =>
      rw [List.mem_singleton.mp hnew]
      exact hmark
  · intro txid other hother
    rw [BTreeMap.getElem?_insert_eq_ite] at hother
    by_cases heq : mark.txid = txid
    · subst heq
      rw [if_pos rfl] at hother
      cases hother
      exact (h.describes mark.txid draft hdraft).note_self
    · rw [if_neg heq] at hother
      exact (h.describes txid other hother).note_of_ne heq

theorem DraftsOf.noteAll
    (h : DraftsOf entered noted drafts) (marks : List ExitGraphTransactionStatus)
    (hmarks : ∀ mark ∈ marks, ∃ entry ∈ entered, entry.2.txid = mark.txid) :
    DraftsOf entered (noted ++ marks) (marks.foldl Bark.noteTransactionStatus drafts) := by
  induction marks generalizing noted drafts with
  | nil =>
    rw [List.append_nil]
    exact h
  | cons mark marks ih =>
    have hrest := ih (h.noteTransactionStatus (hmarks mark List.mem_cons_self))
      fun other hother => hmarks other (List.mem_cons_of_mem _ hother)
    rw [List.append_assoc] at hrest
    exact hrest

end Marks

def entriesOf (chains : List ExitGraphChain) : List ChainEntry :=
  chains.flatMap fun chain => chain.transactions.map fun transaction => (chain, transaction)

def marksOf (chains : List ExitGraphChain) : List ExitGraphTransactionStatus :=
  chains.flatMap chainMarks

theorem mem_entriesOf {chains : List ExitGraphChain} {entry : ChainEntry} :
    entry ∈ entriesOf chains ↔ entry.1 ∈ chains ∧ entry.2 ∈ entry.1.transactions := by
  unfold entriesOf
  rw [List.mem_flatMap]
  constructor
  · intro h
    obtain ⟨chain, hchain, hentry⟩ := h
    obtain ⟨transaction, htransaction, rfl⟩ := List.mem_map.mp hentry
    exact ⟨hchain, htransaction⟩
  · intro h
    exact ⟨entry.1, h.1, List.mem_map_of_mem h.2⟩

theorem IsBarkExitChain.mem_transactions {chain : ExitGraphChain} (h : IsBarkExitChain chain)
    {mark : ExitGraphTransactionStatus} (hmark : mark ∈ chainMarks chain) :
    ∃ transaction ∈ chain.transactions, transaction.txid = mark.txid := by
  unfold chainMarks at hmark
  cases hstatus : chain.status with
  | pending | confirmed =>
    rw [hstatus] at hmark
    obtain ⟨transaction, htransaction, rfl⟩ := List.mem_map.mp hmark
    exact ⟨transaction, htransaction, rfl⟩
  | transactions marks =>
    rw [hstatus] at hmark
    obtain ⟨transaction, htransaction, htxid⟩ := h.marked marks hstatus mark hmark
    exact ⟨transaction, List.mem_of_mem_tail htransaction, htxid⟩

theorem draftsOf_mergeChains {chains : List ExitGraphChain}
    (hchains : ∀ chain ∈ chains, IsBarkExitChain chain) :
    DraftsOf (entriesOf chains) (marksOf chains) (chains.foldl mergeChain ∅) := by
  have hfrom : ∀ (chains : List ExitGraphChain), (∀ chain ∈ chains, IsBarkExitChain chain) →
      ∀ (entered : List ChainEntry) (noted : List ExitGraphTransactionStatus)
        (drafts : BTreeMap String ExitGraphDraft), DraftsOf entered noted drafts →
          DraftsOf (entered ++ entriesOf chains) (noted ++ marksOf chains)
            (chains.foldl mergeChain drafts) := by
    intro chains
    induction chains with
    | nil =>
      intro _ entered noted drafts h
      simpa [entriesOf, marksOf] using h
    | cons chain chains ih =>
      intro hchains entered noted drafts h
      have hentered := h.enterAll chain chain.transactions
      have hnoted := hentered.noteAll (chainMarks chain) (by
        intro mark hmark
        obtain ⟨transaction, htransaction, htxid⟩ :=
          (hchains chain List.mem_cons_self).mem_transactions hmark
        refine ⟨(chain, transaction), List.mem_append_right _ ?_, htxid⟩
        exact List.mem_map_of_mem htransaction)
      have hrest := ih (fun other hother => hchains other (List.mem_cons_of_mem _ hother)) _ _ _
        hnoted
      rw [List.append_assoc, List.append_assoc] at hrest
      exact hrest
  have hempty : DraftsOf [] [] (∅ : BTreeMap String ExitGraphDraft) := by
    constructor
    · intro txid
      simp
    · intro mark hmark
      cases hmark
    · intro txid draft hdraft
      simp at hdraft
  have hall := hfrom chains hchains [] [] ∅ hempty
  rw [List.nil_append, List.nil_append] at hall
  exact hall

end Bitboard.Bark
