/-
# The merged exit graph

The merge makes the graph of its chains whatever the order of the chains, unless the anchor of one
chain is an exit transaction of another one. The anchor has been entered without inputs, and the
first chain that has a transaction decides on its inputs, so that the edges of such a transaction
depend on the order.
-/

import Bitboard.Bark.ExitGraphDrafts
import Mathlib.Data.List.Sort

namespace Bitboard.Bark

open Bitboard.Lib

/-- The transaction is the anchor of one of the chains. -/
def IsAnchor (chains : List ExitGraphChain) (txid : String) : Prop :=
  ∃ chain ∈ chains, chain.transactions.head?.map ExitGraphTransaction.txid = some txid

/-- The transaction is an exit transaction of one of the chains. -/
def IsExit (chains : List ExitGraphChain) (txid : String) : Prop :=
  ∃ chain ∈ chains, ∃ transaction ∈ chain.transactions.tail, transaction.txid = txid

/-- The transaction is the last exit transaction of a chain. -/
def IsLastExit (chain : ExitGraphChain) (txid : String) : Prop :=
  chain.transactions.tail.getLast?.map ExitGraphTransaction.txid = some txid

structure IsExitGraph (chains : List ExitGraphChain) (nodes : List ExitGraphNode) : Prop where
  txids : ∀ txid, (∃ node ∈ nodes, node.txid = txid) ↔
    ∃ chain ∈ chains, ∃ transaction ∈ chain.transactions, transaction.txid = txid
  txids_nodup : (nodes.map ExitGraphNode.txid).Nodup
  spends_sorted : ∀ node ∈ nodes, node.spends.Pairwise (· < ·)
  spends_nodes : ∀ node ∈ nodes, ∀ txid ∈ node.spends, ∃ other ∈ nodes, other.txid = txid
  status : ∀ node ∈ nodes, ¬ IsAnchor chains node.txid →
    node.status = exitGraphStatusLabel (notedRank (marksOf chains) node.txid)
  anchor_pending : ∀ node ∈ nodes, IsAnchor chains node.txid →
    (∃ other ∈ nodes, other.status = .pending ∧ node.txid ∈ other.waitingOnTxids) →
      node.status = .pending
  anchor_confirmed : ∀ node ∈ nodes, IsAnchor chains node.txid →
    (¬ ∃ other ∈ nodes, other.status = .pending ∧ node.txid ∈ other.waitingOnTxids) →
      node.status = .confirmed
  leafs : ∀ node ∈ nodes, ∀ vtxoId, vtxoId ∈ node.leafVtxoIds ↔
    ∃ chain ∈ chains, chain.vtxoId = vtxoId ∧ IsLastExit chain node.txid
  leafs_nodup : ∀ node ∈ nodes, node.leafVtxoIds.Nodup
  order : ∀ other, chains.Perm other → mergeExitGraph other = nodes

section SortedLists

variable {values others : List String}

theorem sortedUnique_eq_dedup (values : List String) :
    sortedUnique values = (values.mergeSort (· ≤ ·)).dedup :=
  (List.pairwise_mergeSort' _ values).destutter_eq_dedup

@[simp]
theorem mem_sortedUnique {value : String} : value ∈ sortedUnique values ↔ value ∈ values := by
  rw [sortedUnique_eq_dedup, List.mem_dedup, List.mem_mergeSort]

theorem pairwise_sortedUnique (values : List String) : (sortedUnique values).Pairwise (· < ·) := by
  have hnodup : (sortedUnique values).Nodup := by
    rw [sortedUnique_eq_dedup]
    exact List.nodup_dedup _
  have hsorted : (sortedUnique values).Pairwise (· ≤ ·) :=
    (List.pairwise_mergeSort' _ values).sublist (List.destutter_sublist _ _)
  exact hsorted.imp₂ (fun _ _ hle hne => lt_of_le_of_ne hle hne) hnodup

theorem sortedUnique_eq (h : ∀ value, value ∈ values ↔ value ∈ others) :
    sortedUnique values = sortedUnique others := by
  have hvalues := pairwise_sortedUnique values
  have hothers := pairwise_sortedUnique others
  have hperm : (sortedUnique values).Perm (sortedUnique others) := by
    apply (List.perm_ext_iff_of_nodup hvalues.nodup hothers.nodup).mpr
    intro value
    rw [mem_sortedUnique, mem_sortedUnique]
    exact h value
  exact hperm.eq_of_pairwise' hvalues hothers

theorem mergeSort_eq (hvalues : values.Nodup) (hothers : others.Nodup)
    (h : ∀ value, value ∈ values ↔ value ∈ others) :
    values.mergeSort (· ≤ ·) = others.mergeSort (· ≤ ·) := by
  have hperm : values.Perm others := (List.perm_ext_iff_of_nodup hvalues hothers).mpr h
  apply List.Perm.eq_of_pairwise' (List.pairwise_mergeSort' _ _) (List.pairwise_mergeSort' _ _)
  exact (List.mergeSort_perm _ _).trans (hperm.trans (List.mergeSort_perm _ _).symm)

end SortedLists

section Nodes

variable {chains : List ExitGraphChain} {node : ExitGraphNode} {txid other : String}

def mergedDrafts (chains : List ExitGraphChain) : BTreeMap String ExitGraphDraft :=
  chains.foldl mergeChain ∅

def mergedNode (chains : List ExitGraphChain) (txid : String) (draft : ExitGraphDraft) :
    ExitGraphNode :=
  exitGraphNode (fun txid => (mergedDrafts chains).contains txid) txid
    (anchorDraft (waitedOnTxids (mergedDrafts chains)) txid draft)

theorem mergeExitGraph_eq_vals (chains : List ExitGraphChain) :
    mergeExitGraph chains = BTreeMap.vals ((mergedDrafts chains).map (mergedNode chains)) := by
  simp only [mergeExitGraph, confirmChainAnchors, BTreeMap.vals, Std.ExtTreeMap.toList_map,
    Std.ExtTreeMap.contains_map, List.map_map]
  rfl

theorem mem_mergeExitGraph : node ∈ mergeExitGraph chains ↔
    ∃ txid draft, (mergedDrafts chains)[txid]? = some draft ∧
      mergedNode chains txid draft = node := by
  simp only [mergeExitGraph_eq_vals, BTreeMap.mem_vals_iff, Std.ExtTreeMap.getElem?_map,
    Option.map_eq_some_iff]

theorem map_txid_mergeExitGraph (chains : List ExitGraphChain) :
    (mergeExitGraph chains).map ExitGraphNode.txid = (mergedDrafts chains).toList.map Prod.fst := by
  rw [mergeExitGraph_eq_vals, BTreeMap.vals, Std.ExtTreeMap.toList_map]
  simp only [List.map_map]
  rfl

theorem AreBarkExitChains.exists_draft (h : AreBarkExitChains chains)
    (hnode : node ∈ mergeExitGraph chains) : ∃ draft,
      Describes (entriesOf chains) (marksOf chains) node.txid draft ∧
        mergedNode chains node.txid draft = node := by
  obtain ⟨txid, draft, hdraft, rfl⟩ := mem_mergeExitGraph.mp hnode
  exact ⟨draft, (draftsOf_mergeChains h.each).describes txid draft hdraft, rfl⟩

theorem exists_entriesOf_iff : (∃ entry ∈ entriesOf chains, entry.2.txid = txid) ↔
    ∃ chain ∈ chains, ∃ transaction ∈ chain.transactions, transaction.txid = txid := by
  simp only [mem_entriesOf, Prod.exists, and_assoc, exists_and_left]

section

variable (h : AreBarkExitChains chains)
include h

theorem AreBarkExitChains.exists_node_iff :
    (∃ node ∈ mergeExitGraph chains, node.txid = txid) ↔
      ∃ chain ∈ chains, ∃ transaction ∈ chain.transactions, transaction.txid = txid := by
  have hdrafts := draftsOf_mergeChains h.each
  rw [← exists_entriesOf_iff, hdrafts.entered_iff txid, Option.ne_none_iff_exists']
  constructor
  · intro hnode
    obtain ⟨node, hnode, rfl⟩ := hnode
    obtain ⟨txid, draft, hdraft, rfl⟩ := mem_mergeExitGraph.mp hnode
    exact ⟨draft, hdraft⟩
  · intro hdraft
    obtain ⟨draft, hdraft⟩ := hdraft
    exact ⟨_, mem_mergeExitGraph.mpr ⟨txid, draft, hdraft, rfl⟩, rfl⟩

theorem AreBarkExitChains.contains_iff :
    (mergedDrafts chains).contains txid ↔ ∃ node ∈ mergeExitGraph chains, node.txid = txid := by
  rw [h.exists_node_iff, ← exists_entriesOf_iff, (draftsOf_mergeChains h.each).entered_iff txid,
    Std.ExtTreeMap.contains_eq_isSome_getElem?, Option.isSome_iff_ne_none]
  rfl

theorem AreBarkExitChains.mem_spends_iff (hnode : node ∈ mergeExitGraph chains) {entry : ChainEntry}
    (hentry : (entriesOf chains).find? (fun entry => entry.2.txid = node.txid) = some entry) :
    txid ∈ node.spends ↔ txid ∈ entry.2.inputTxids ∧
      ∃ other ∈ mergeExitGraph chains, other.txid = txid := by
  obtain ⟨draft, hdraft, hmerged⟩ := h.exists_draft hnode
  obtain ⟨first, hfirst, hinputs⟩ := hdraft.inputs
  rw [hentry] at hfirst
  cases hfirst
  rw [← h.contains_iff, ← hinputs, ← hmerged]
  simp only [mergedNode, exitGraphNode, mem_sortedUnique, List.mem_filter]
  unfold anchorDraft
  split <;> rfl

/-- A transaction is waited for when a transaction with pending marks only has a mark that waits
for it. -/
theorem AreBarkExitChains.mem_waitedOnTxids :
    txid ∈ waitedOnTxids (mergedDrafts chains) ↔
      ∃ other, notedRank (marksOf chains) other = EXIT_GRAPH_RANK_PENDING ∧
        NotesWaiting (marksOf chains) other txid := by
  have hdrafts := draftsOf_mergeChains h.each
  simp only [waitedOnTxids, List.mem_flatMap, List.mem_filter, BTreeMap.mem_vals_iff,
    decide_eq_true_eq]
  constructor
  · intro hwaited
    obtain ⟨draft, hdraft, hmem⟩ := hwaited
    obtain ⟨other, hother⟩ := hdraft.1
    exact ⟨other, ((hdrafts.describes other draft hother).waits txid).mp hmem⟩
  · intro hwaited
    obtain ⟨other, hrank, hnotes⟩ := hwaited
    obtain ⟨mark, hmark, htxid, _⟩ := id hnotes
    have hentered := hdrafts.noted_entered mark hmark
    rw [htxid] at hentered
    obtain ⟨draft, hdraft⟩ :=
      Option.ne_none_iff_exists'.mp ((hdrafts.entered_iff other).mp hentered)
    have hdescribes := hdrafts.describes other draft hdraft
    exact ⟨draft, ⟨⟨other, hdraft⟩, hdescribes.rank.trans hrank⟩,
      (hdescribes.waits txid).mpr ⟨hrank, hnotes⟩⟩

end

theorem Describes.pending_waits_iff {draft : ExitGraphDraft}
    (h : Describes (entriesOf chains) (marksOf chains) txid draft) :
    (mergedNode chains txid draft).status = .pending ∧
        other ∈ (mergedNode chains txid draft).waitingOnTxids ↔
      enteredTxType (entriesOf chains) txid ≠ .commitment ∧
        notedRank (marksOf chains) txid = EXIT_GRAPH_RANK_PENDING ∧
        NotesWaiting (marksOf chains) txid other := by
  rw [← h.txType, ← h.waits other]
  simp only [mergedNode, exitGraphNode, anchorDraft]
  by_cases htype : draft.txType = .commitment
  · simp [htype, sortedUnique]
  · by_cases hrank : draft.rank = EXIT_GRAPH_RANK_PENDING
    · simp [htype, hrank, exitGraphStatusLabel, EXIT_GRAPH_RANK_PENDING,
        EXIT_GRAPH_RANK_CONFIRMED, EXIT_GRAPH_RANK_NEEDS_CHILD, EXIT_GRAPH_RANK_IN_PROGRESS]
    · have hnoted : notedRank (marksOf chains) txid ≠ EXIT_GRAPH_RANK_PENDING := by
        rw [← h.rank]
        exact hrank
      simp [htype, hrank, h.waits other, hnoted]

end Nodes

section Anchors

variable {chains : List ExitGraphChain} {chain : ExitGraphChain} {txid other : String}
  {transaction : ExitGraphTransaction}

section

variable (h : IsBarkExitChain chain)
include h

theorem IsBarkExitChain.anchor_or_exit (hmem : transaction ∈ chain.transactions) :
    (chain.transactions.head? = some transaction ∧ transaction.inputTxids = [] ∧
      transaction.txType = .commitment) ∨ transaction ∈ chain.transactions.tail := by
  obtain ⟨anchorTxid, hhead⟩ := h.anchored
  obtain ⟨exits, htransactions⟩ := List.head?_eq_some_iff.mp hhead
  rw [htransactions] at hmem ⊢
  cases List.mem_cons.mp hmem with
  | inl heq =>
    left
    rw [heq]
    exact ⟨rfl, rfl, rfl⟩
  | inr hexit =>
    right
    exact hexit

theorem IsBarkExitChain.exists_spent (hexit : transaction ∈ chain.transactions.tail) :
    ∃ previous ∈ chain.transactions, previous.txid ∈ transaction.inputTxids := by
  have hlinked := h.linked
  generalize chain.transactions = transactions at hlinked hexit
  induction transactions with
  | nil => cases hexit
  | cons first rest ih =>
    cases rest with
    | nil => cases hexit
    | cons second rest =>
      rw [List.isChain_cons_cons] at hlinked
      cases List.mem_cons.mp hexit with
      | inl heq =>
        rw [heq]
        exact ⟨first, List.mem_cons_self, hlinked.1⟩
      | inr hlater =>
        obtain ⟨previous, hprevious, hspent⟩ := ih hlinked.2 hlater
        exact ⟨previous, List.mem_cons_of_mem _ hprevious, hspent⟩

theorem IsBarkExitChain.eq_of_txid {same : ExitGraphTransaction}
    (hmem : transaction ∈ chain.transactions) (hsame : same ∈ chain.transactions)
    (htxid : transaction.txid = same.txid) : transaction = same :=
  List.inj_on_of_nodup_map h.nodup hmem hsame htxid

theorem IsBarkExitChain.anchor_ne_exit
    (hanchor : chain.transactions.head?.map ExitGraphTransaction.txid = some txid)
    (hexit : transaction ∈ chain.transactions.tail) : transaction.txid ≠ txid := by
  obtain ⟨anchor, hhead, rfl⟩ := Option.map_eq_some_iff.mp hanchor
  obtain ⟨exits, htransactions⟩ := List.head?_eq_some_iff.mp hhead
  have hnodup := h.nodup
  rw [htransactions, List.map_cons, List.nodup_cons] at hnodup
  rw [htransactions] at hexit
  intro htxid
  apply hnodup.1
  rw [← htxid]
  exact List.mem_map_of_mem hexit

/-- The last transaction is the leaf of the coin where it is not the anchor. -/
theorem IsBarkExitChain.isLastExit_iff :
    (∃ transaction ∈ chain.transactions, transaction.txid = txid ∧
      IsLeafEntry (chain, transaction)) ↔ IsLastExit chain txid := by
  obtain ⟨anchorTxid, hhead⟩ := h.anchored
  obtain ⟨exits, htransactions⟩ := List.head?_eq_some_iff.mp hhead
  unfold IsLastExit IsLeafEntry
  constructor
  · intro hleaf
    obtain ⟨transaction, hmem, rfl, hlast, htype⟩ := hleaf
    cases h.anchor_or_exit hmem with
    | inl hanchor => exact absurd hanchor.2.2 htype
    | inr hexit =>
      rw [← hlast]
      dsimp only
      rw [htransactions] at hexit ⊢
      cases exits with
      | nil => cases hexit
      | cons first rest => rfl
  · intro hleaf
    obtain ⟨last, hlast, rfl⟩ := Option.map_eq_some_iff.mp hleaf
    have hexit : last ∈ chain.transactions.tail := List.mem_of_getLast? hlast
    refine ⟨last, List.mem_of_mem_tail hexit, rfl, ?_, h.exits last hexit⟩
    dsimp only
    rw [htransactions] at hlast hexit ⊢
    cases exits with
    | nil => cases hexit
    | cons first rest =>
      rw [List.tail_cons] at hlast
      rw [List.getLast?_cons_cons, hlast, Option.map_some]

end

theorem AreBarkExitChains.isAnchor_of_commitment (h : AreBarkExitChains chains)
    (htype : enteredTxType (entriesOf chains) txid = .commitment) : IsAnchor chains txid := by
  unfold enteredTxType at htype
  split at htype
  · cases htype
  · split at htype
    · rename_i hcommitment
      obtain ⟨entry, hentry, rfl, hanchor⟩ := hcommitment
      obtain ⟨hchain, htransaction⟩ := mem_entriesOf.mp hentry
      cases (h.each entry.1 hchain).anchor_or_exit htransaction with
      | inl hhead => exact ⟨entry.1, hchain, by rw [hhead.1]; rfl⟩
      | inr hexit => exact absurd hanchor ((h.each entry.1 hchain).exits entry.2 hexit)
    · cases htype

theorem AreBarkExitChains.commitment_of_isAnchor (h : AreBarkExitChains chains)
    (hanchor : IsAnchor chains txid) (hexit : ¬ IsExit chains txid) :
    enteredTxType (entriesOf chains) txid = .commitment := by
  have hentries : ∀ entry ∈ entriesOf chains, entry.2.txid = txid →
      entry.2.txType = .commitment := by
    intro entry hentry htxid
    obtain ⟨hchain, htransaction⟩ := mem_entriesOf.mp hentry
    cases (h.each entry.1 hchain).anchor_or_exit htransaction with
    | inl hhead => exact hhead.2.2
    | inr htail => exact absurd ⟨entry.1, hchain, entry.2, htail, htxid⟩ hexit
  obtain ⟨chain, hchain, hhead⟩ := hanchor
  obtain ⟨anchor, hhead, htxid⟩ := Option.map_eq_some_iff.mp hhead
  have hentry : (chain, anchor) ∈ entriesOf chains :=
    mem_entriesOf.mpr ⟨hchain, List.mem_of_head? hhead⟩
  rw [enteredTxType, if_neg, if_pos]
  · exact ⟨(chain, anchor), hentry, htxid, hentries _ hentry htxid⟩
  · intro hcheckpoint
    obtain ⟨entry, hentry, htxid, htype⟩ := hcheckpoint
    rw [hentries entry hentry htxid] at htype
    cases htype

theorem AreBarkExitChains.isExit_of_notesWaiting (h : AreBarkExitChains chains)
    (hwaits : NotesWaiting (marksOf chains) txid other) : IsExit chains txid := by
  obtain ⟨mark, hmark, rfl, hkind, _⟩ := hwaits
  obtain ⟨chain, hchain, hmark⟩ := List.mem_flatMap.mp hmark
  unfold chainMarks at hmark
  cases hstatus : chain.status with
  | pending | confirmed =>
    rw [hstatus] at hmark
    obtain ⟨transaction, _, rfl⟩ := List.mem_map.mp hmark
    cases hkind
  | transactions marks =>
    rw [hstatus] at hmark
    exact ⟨chain, hchain, (h.each chain hchain).marked marks hstatus mark hmark⟩

end Anchors

/-! ## The order of the chains -/

section Order

variable {chains others : List ExitGraphChain} {txid : String}

theorem AreBarkExitChains.perm (h : AreBarkExitChains chains) (hperm : chains.Perm others) :
    AreBarkExitChains others where
  each := by
    intro chain hchain
    exact h.each chain (hperm.mem_iff.mpr hchain)
  hashed := by
    intro chain hchain other hother
    exact h.hashed chain (hperm.mem_iff.mpr hchain) other (hperm.mem_iff.mpr hother)

/-- Where no anchor is an exit transaction, the entries of a transaction list the same inputs. -/
theorem AreBarkExitChains.inputs_eq (h : AreBarkExitChains chains)
    (hseparate : ∀ txid, IsAnchor chains txid → ¬ IsExit chains txid) {first second : ChainEntry}
    (hfirst : first ∈ entriesOf chains) (hsecond : second ∈ entriesOf chains)
    (htxid : first.2.txid = second.2.txid) : first.2.inputTxids = second.2.inputTxids := by
  obtain ⟨hfirstChain, hfirst⟩ := mem_entriesOf.mp hfirst
  obtain ⟨hsecondChain, hsecond⟩ := mem_entriesOf.mp hsecond
  have hanchor : ∀ {chain : ExitGraphChain} {anchor : ExitGraphTransaction}, chain ∈ chains →
      chain.transactions.head? = some anchor → IsAnchor chains anchor.txid := by
    intro chain anchor hchain hhead
    exact ⟨chain, hchain, by rw [hhead, Option.map_some]⟩
  cases (h.each first.1 hfirstChain).anchor_or_exit hfirst with
  | inl hfirstHead =>
    cases (h.each second.1 hsecondChain).anchor_or_exit hsecond with
    | inl hsecondHead => rw [hfirstHead.2.1, hsecondHead.2.1]
    | inr hsecondTail =>
      exact absurd ⟨second.1, hsecondChain, second.2, hsecondTail, htxid.symm⟩
        (hseparate first.2.txid (hanchor hfirstChain hfirstHead.1))
  | inr hfirstTail =>
    cases (h.each second.1 hsecondChain).anchor_or_exit hsecond with
    | inl hsecondHead =>
      exact absurd ⟨first.1, hfirstChain, first.2, hfirstTail, htxid⟩
        (hseparate second.2.txid (hanchor hsecondChain hsecondHead.1))
    | inr hsecondTail =>
      exact h.hashed first.1 hfirstChain second.1 hsecondChain first.2 hfirstTail second.2
        hsecondTail htxid

variable {entered entered' : List ChainEntry}

theorem enteredTxType_perm (hperm : entered.Perm entered') :
    enteredTxType entered txid = enteredTxType entered' txid := by
  simp only [enteredTxType, hperm.mem_iff]

variable {noted noted' : List ExitGraphTransactionStatus}

theorem notedRank_perm
    (hperm : noted.Perm noted') : notedRank noted txid = notedRank noted' txid := by
  apply List.Perm.foldl_eq
  exact (hperm.filter _).map _

theorem notesWaiting_perm {other : String} (hperm : noted.Perm noted') :
    NotesWaiting noted txid other ↔ NotesWaiting noted' txid other := by
  simp only [NotesWaiting, hperm.mem_iff]

/-- Two drafts of the same entries and marks that list the same inputs make one node. -/
theorem Describes.exitGraphNode_eq {draft draft' : ExitGraphDraft}
    {waitedOn waitedOn' : List String}
    (h : Describes entered noted txid draft) (h' : Describes entered' noted' txid draft')
    (hentered : entered.Perm entered') (hnoted : noted.Perm noted')
    (hinputs : draft.inputTxids = draft'.inputTxids)
    (hwaitedOn : txid ∈ waitedOn ↔ txid ∈ waitedOn') (isNode : String → Bool) :
    exitGraphNode isNode txid (anchorDraft waitedOn txid draft) =
      exitGraphNode isNode txid (anchorDraft waitedOn' txid draft') := by
  have htype : draft.txType = draft'.txType := by
    rw [h.txType, h'.txType, enteredTxType_perm hentered]
  have hrank : draft.rank = draft'.rank := by
    rw [h.rank, h'.rank, notedRank_perm hnoted]
  have hleafs : draft.leafVtxoIds.mergeSort (· ≤ ·) = draft'.leafVtxoIds.mergeSort (· ≤ ·) := by
    apply mergeSort_eq h.leafs_nodup h'.leafs_nodup
    intro vtxoId
    rw [h.leafs, h'.leafs]
    simp only [hentered.mem_iff]
  have hwaits : sortedUnique draft.waitingOnTxids = sortedUnique draft'.waitingOnTxids := by
    apply sortedUnique_eq
    intro other
    rw [h.waits, h'.waits, notedRank_perm hnoted, notesWaiting_perm hnoted]
  unfold anchorDraft
  rw [htype]
  split
  · simp only [exitGraphNode, hinputs, hleafs, hrank, hwaits, htype]
  · simp only [exitGraphNode, hinputs, hleafs, hwaitedOn]

theorem AreBarkExitChains.mergeExitGraph_perm (h : AreBarkExitChains chains)
    (hseparate : ∀ txid, IsAnchor chains txid → ¬ IsExit chains txid)
    (hperm : chains.Perm others) : mergeExitGraph others = mergeExitGraph chains := by
  have hdrafts : DraftsOf (entriesOf chains) (marksOf chains) (mergedDrafts chains) :=
    draftsOf_mergeChains h.each
  have hdrafts' : DraftsOf (entriesOf others) (marksOf others) (mergedDrafts others) :=
    draftsOf_mergeChains (h.perm hperm).each
  have hentries : (entriesOf chains).Perm (entriesOf others) := hperm.flatMap_right _
  have hmarks : (marksOf chains).Perm (marksOf others) := hperm.flatMap_right _
  have hisNode : ∀ txid, (mergedDrafts others).contains txid =
      (mergedDrafts chains).contains txid := by
    intro txid
    rw [Bool.eq_iff_iff, (h.perm hperm).contains_iff, h.contains_iff,
      (h.perm hperm).exists_node_iff, h.exists_node_iff]
    simp only [hperm.mem_iff]
  have hwaited : ∀ txid, txid ∈ waitedOnTxids (mergedDrafts others) ↔
      txid ∈ waitedOnTxids (mergedDrafts chains) := by
    intro txid
    rw [(h.perm hperm).mem_waitedOnTxids, h.mem_waitedOnTxids]
    simp only [notedRank_perm hmarks, notesWaiting_perm hmarks]
  rw [mergeExitGraph_eq_vals, mergeExitGraph_eq_vals]
  congr 1
  apply Std.ExtTreeMap.ext_getElem?
  intro txid
  rw [Std.ExtTreeMap.getElem?_map, Std.ExtTreeMap.getElem?_map]
  have hentered : (mergedDrafts others)[txid]? ≠ none ↔ (mergedDrafts chains)[txid]? ≠ none := by
    rw [← hdrafts.entered_iff txid, ← hdrafts'.entered_iff txid]
    simp only [hentries.mem_iff]
  cases hdraft : (mergedDrafts chains)[txid]? with
  | none =>
    rw [hdraft] at hentered
    have hnone : (mergedDrafts others)[txid]? = none := by
      apply not_not.mp
      intro hsome
      exact hentered.mp hsome rfl
    rw [hnone, Option.map_none, Option.map_none]
  | some draft =>
    rw [hdraft] at hentered
    obtain ⟨draft', hdraft'⟩ := Option.ne_none_iff_exists'.mp (hentered.mpr (by simp))
    have hdescribes := hdrafts.describes txid draft hdraft
    have hdescribes' := hdrafts'.describes txid draft' hdraft'
    obtain ⟨entry, hentry, hinputs⟩ := hdescribes.inputs
    obtain ⟨entry', hentry', hinputs'⟩ := hdescribes'.inputs
    rw [hdraft', Option.map_some, Option.map_some]
    have hsame : draft'.inputTxids = draft.inputTxids := by
      rw [hinputs, hinputs']
      have htxid := List.find?_some hentry
      have htxid' := List.find?_some hentry'
      rw [decide_eq_true_eq] at htxid htxid'
      apply h.inputs_eq hseparate
      · exact hentries.mem_iff.mpr (List.mem_of_find?_eq_some hentry')
      · exact List.mem_of_find?_eq_some hentry
      · exact htxid'.trans htxid.symm
    have hnodes := hdescribes'.exitGraphNode_eq hdescribes hentries.symm hmarks.symm hsame
      (hwaited txid) fun txid => (mergedDrafts others).contains txid
    unfold mergedNode
    rw [hnodes, funext hisNode]

/-- The first chain decides on the entry of its transactions. -/
theorem find?_entriesOf_cons {chain : ExitGraphChain} {transaction : ExitGraphTransaction}
    (rest : List ExitGraphChain) (h : IsBarkExitChain chain)
    (hmem : transaction ∈ chain.transactions) (htxid : transaction.txid = txid) :
    (entriesOf (chain :: rest)).find? (fun entry => entry.2.txid = txid) =
      some (chain, transaction) := by
  unfold entriesOf
  rw [List.flatMap_cons, List.find?_append, List.find?_map]
  have hfound : (chain.transactions.find? fun transaction => transaction.txid = txid) =
      some transaction := by
    cases hfind : chain.transactions.find? fun transaction => transaction.txid = txid with
    | none =>
      have hnone := List.find?_eq_none.mp hfind transaction hmem
      simp [htxid] at hnone
    | some found =>
      have hfoundTxid := List.find?_some hfind
      rw [decide_eq_true_eq, ← htxid] at hfoundTxid
      rw [h.eq_of_txid (List.mem_of_find?_eq_some hfind) hmem hfoundTxid]
  have hcomp : ((fun entry : ChainEntry => decide (entry.2.txid = txid)) ∘
      fun transaction : ExitGraphTransaction => (chain, transaction)) =
        fun transaction => decide (transaction.txid = txid) := rfl
  rw [hcomp, hfound, Option.map_some, Option.some_or]

/-- Where the anchor of one chain is an exit transaction of another one, its edges depend on
which of the two comes first. -/
theorem AreBarkExitChains.exists_perm_ne (h : AreBarkExitChains chains)
    (hanchor : IsAnchor chains txid) (hexit : IsExit chains txid) :
    ∃ others, chains.Perm others ∧ mergeExitGraph others ≠ mergeExitGraph chains := by
  obtain ⟨anchored, hanchored, hhead⟩ := hanchor
  obtain ⟨exiting, hexiting, transaction, htail, htxid⟩ := hexit
  obtain ⟨anchor, hhead, hanchorTxid⟩ := Option.map_eq_some_iff.mp hhead
  have hne : exiting ≠ anchored := by
    intro heq
    rw [heq] at htail
    apply (h.each anchored hanchored).anchor_ne_exit _ htail htxid
    rw [hhead, Option.map_some, hanchorTxid]
  have hfirst : chains.Perm (anchored :: exiting :: (chains.erase anchored).erase exiting) :=
    (List.perm_cons_erase hanchored).trans
      ((List.perm_cons_erase ((List.mem_erase_of_ne hne).mpr hexiting)).cons _)
  have hsecond := hfirst.trans (List.Perm.swap exiting anchored _)
  apply by_contra
  intro hnone
  have hsame : ∀ others, chains.Perm others → mergeExitGraph others = mergeExitGraph chains := by
    intro others hperm
    apply by_contra
    intro hdiffer
    exact hnone ⟨others, hperm, hdiffer⟩
  have hmem := (List.mem_of_head? hhead)
  obtain ⟨node, hnode, hnodeTxid⟩ :=
    (h.perm hfirst).exists_node_iff.mpr ⟨anchored, List.mem_cons_self, anchor, hmem, hanchorTxid⟩
  rw [hsame _ hfirst] at hnode
  obtain ⟨previous, hprevious, hspent⟩ := (h.each exiting hexiting).exists_spent htail
  have hspends : previous.txid ∈ node.spends := by
    have hentry := find?_entriesOf_cons (anchored :: (chains.erase anchored).erase exiting)
      (h.each exiting hexiting) (List.mem_of_mem_tail htail) (htxid.trans hnodeTxid.symm)
    have hnodeSecond := hnode
    rw [← hsame _ hsecond] at hnodeSecond
    apply ((h.perm hsecond).mem_spends_iff hnodeSecond hentry).mpr
    refine ⟨hspent, ?_⟩
    exact (h.perm hsecond).exists_node_iff.mpr
      ⟨exiting, List.mem_cons_self, previous, hprevious, rfl⟩
  have hentry := find?_entriesOf_cons (exiting :: (chains.erase anchored).erase exiting)
    (h.each anchored hanchored) hmem (hanchorTxid.trans hnodeTxid.symm)
  have hnodeFirst := hnode
  rw [← hsame _ hfirst] at hnodeFirst
  have hinputs := ((h.perm hfirst).mem_spends_iff hnodeFirst hentry).mp hspends
  cases (h.each anchored hanchored).anchor_or_exit hmem with
  | inl hanchorEntry =>
    rw [hanchorEntry.2.1] at hinputs
    cases hinputs.1
  | inr hexitEntry =>
    apply (h.each anchored hanchored).anchor_ne_exit _ hexitEntry rfl
    rw [hhead, Option.map_some]

end Order

section Graph

variable {chains : List ExitGraphChain}
variable {node : ExitGraphNode}

/-- A coin is a leaf of the node of its last exit transaction. -/
theorem AreBarkExitChains.mem_leafVtxoIds_iff (h : AreBarkExitChains chains)
    (hnode : node ∈ mergeExitGraph chains) {vtxoId : String} :
    vtxoId ∈ node.leafVtxoIds ↔
      ∃ chain ∈ chains, chain.vtxoId = vtxoId ∧ IsLastExit chain node.txid := by
  obtain ⟨draft, hdraft, hmerged⟩ := h.exists_draft hnode
  have hleafs : node.leafVtxoIds = draft.leafVtxoIds.mergeSort (· ≤ ·) := by
    rw [← hmerged]
    unfold mergedNode exitGraphNode anchorDraft
    split <;> rfl
  rw [hleafs, List.mem_mergeSort, hdraft.leafs]
  constructor
  · intro hleaf
    obtain ⟨entry, hentry, htxid, hleaf, hvtxoId⟩ := hleaf
    obtain ⟨hchain, htransaction⟩ := mem_entriesOf.mp hentry
    exact ⟨entry.1, hchain, hvtxoId,
      (h.each entry.1 hchain).isLastExit_iff.mp ⟨entry.2, htransaction, htxid, hleaf⟩⟩
  · intro hlast
    obtain ⟨chain, hchain, hvtxoId, hlast⟩ := hlast
    obtain ⟨transaction, htransaction, htxid, hleaf⟩ :=
      (h.each chain hchain).isLastExit_iff.mpr hlast
    exact ⟨(chain, transaction), mem_entriesOf.mpr ⟨hchain, htransaction⟩, htxid, hleaf, hvtxoId⟩

theorem AreBarkExitChains.nodup_leafVtxoIds (h : AreBarkExitChains chains)
    (hnode : node ∈ mergeExitGraph chains) : node.leafVtxoIds.Nodup := by
  obtain ⟨draft, hdraft, hmerged⟩ := h.exists_draft hnode
  have hleafs : node.leafVtxoIds = draft.leafVtxoIds.mergeSort (· ≤ ·) := by
    rw [← hmerged]
    unfold mergedNode exitGraphNode anchorDraft
    split <;> rfl
  rw [hleafs, (List.mergeSort_perm _ _).nodup_iff]
  exact hdraft.leafs_nodup

theorem pairwise_spends (hnode : node ∈ mergeExitGraph chains) : node.spends.Pairwise (· < ·) := by
  obtain ⟨txid, draft, _, rfl⟩ := mem_mergeExitGraph.mp hnode
  exact pairwise_sortedUnique _

section

variable (h : AreBarkExitChains chains)
include h

theorem AreBarkExitChains.exists_of_mem_spends (hnode : node ∈ mergeExitGraph chains)
    {txid : String} (hspent : txid ∈ node.spends) :
    ∃ other ∈ mergeExitGraph chains, other.txid = txid := by
  obtain ⟨draft, hdraft, _⟩ := h.exists_draft hnode
  obtain ⟨entry, hentry, _⟩ := hdraft.inputs
  exact ((h.mem_spends_iff hnode hentry).mp hspent).2

theorem AreBarkExitChains.status_eq (hnode : node ∈ mergeExitGraph chains)
    (hanchor : ¬ IsAnchor chains node.txid) :
    node.status = exitGraphStatusLabel (notedRank (marksOf chains) node.txid) := by
  obtain ⟨draft, hdraft, hmerged⟩ := h.exists_draft hnode
  have htype : draft.txType ≠ .commitment := by
    rw [hdraft.txType]
    intro hcommitment
    exact hanchor (h.isAnchor_of_commitment hcommitment)
  have hstatus : (mergedNode chains node.txid draft).status = exitGraphStatusLabel draft.rank := by
    unfold mergedNode exitGraphNode anchorDraft
    rw [if_pos htype]
  rw [← hdraft.rank, ← hstatus, hmerged]

/-- Where no anchor is an exit transaction, a pending node waits for an anchor exactly when the
marks of a pending transaction do. -/
theorem AreBarkExitChains.exists_pending_iff
    (hseparate : ∀ txid, IsAnchor chains txid → ¬ IsExit chains txid) {txid : String} :
    (∃ other ∈ mergeExitGraph chains, other.status = .pending ∧ txid ∈ other.waitingOnTxids) ↔
      txid ∈ waitedOnTxids (mergedDrafts chains) := by
  rw [h.mem_waitedOnTxids]
  constructor
  · intro hpending
    obtain ⟨other, hother, hpending⟩ := hpending
    obtain ⟨draft, hdraft, hmerged⟩ := h.exists_draft hother
    rw [← hmerged] at hpending
    exact ⟨other.txid, (hdraft.pending_waits_iff.mp hpending).2⟩
  · intro hnoted
    obtain ⟨other, hrank, hwaits⟩ := hnoted
    have hexit := h.isExit_of_notesWaiting hwaits
    have hmem : ∃ chain ∈ chains, ∃ transaction ∈ chain.transactions, transaction.txid = other := by
      obtain ⟨chain, hchain, transaction, htail, htxid⟩ := id hexit
      exact ⟨chain, hchain, transaction, List.mem_of_mem_tail htail, htxid⟩
    obtain ⟨node, hnode, rfl⟩ := h.exists_node_iff.mpr hmem
    obtain ⟨draft, hdraft, hmerged⟩ := h.exists_draft hnode
    have hpending := hdraft.pending_waits_iff.mpr ⟨fun hcommitment =>
      hseparate node.txid (h.isAnchor_of_commitment hcommitment) hexit, hrank, hwaits⟩
    rw [hmerged] at hpending
    exact ⟨node, hnode, hpending⟩

theorem AreBarkExitChains.anchor_status_eq (hnode : node ∈ mergeExitGraph chains)
    (hanchor : IsAnchor chains node.txid) (hexit : ¬ IsExit chains node.txid) :
    node.status =
      if node.txid ∈ waitedOnTxids (mergedDrafts chains) then .pending else .confirmed := by
  obtain ⟨draft, hdraft, hmerged⟩ := h.exists_draft hnode
  have htype : draft.txType = .commitment := by
    rw [hdraft.txType]
    exact h.commitment_of_isAnchor hanchor hexit
  rw [← hmerged]
  unfold mergedNode exitGraphNode anchorDraft
  rw [if_neg (not_not.mpr htype)]
  dsimp only
  split <;> rfl

/-- The merge makes the graph of its chains exactly when no anchor of a chain is an exit
transaction of one. -/
theorem isExitGraph_mergeExitGraph_iff :
    IsExitGraph chains (mergeExitGraph chains) ↔
      ∀ txid, IsAnchor chains txid → ¬ IsExit chains txid := by
  constructor
  · intro hgraph txid hanchor hexit
    obtain ⟨others, hperm, hne⟩ := h.exists_perm_ne hanchor hexit
    exact hne (hgraph.order others hperm)
  · intro hseparate
    constructor
    · intro txid
      exact h.exists_node_iff
    · rw [map_txid_mergeExitGraph]
      exact BTreeMap.nodup_map_fst_toList _
    · intro node hnode
      exact pairwise_spends hnode
    · intro node hnode txid hspent
      exact h.exists_of_mem_spends hnode hspent
    · intro node hnode hanchor
      exact h.status_eq hnode hanchor
    · intro node hnode hanchor hwaited
      rw [h.exists_pending_iff hseparate] at hwaited
      rw [h.anchor_status_eq hnode hanchor (hseparate node.txid hanchor), if_pos hwaited]
    · intro node hnode hanchor hwaited
      rw [h.exists_pending_iff hseparate] at hwaited
      rw [h.anchor_status_eq hnode hanchor (hseparate node.txid hanchor), if_neg hwaited]
    · intro node hnode vtxoId
      exact h.mem_leafVtxoIds_iff hnode
    · intro node hnode
      exact h.nodup_leafVtxoIds hnode
    · intro others hperm
      exact h.mergeExitGraph_perm hseparate hperm

end

def overlappingChains : List ExitGraphChain := [
  { vtxoId := "a"
    transactions := [{ txid := "t", inputTxids := [], txType := .commitment }]
    status := .pending },
  { vtxoId := "b"
    transactions := [
      { txid := "p", inputTxids := [], txType := .commitment },
      { txid := "t", inputTxids := ["p"], txType := .tree }]
    status := .pending }]

theorem areBarkExitChains_overlappingChains : AreBarkExitChains overlappingChains where
  each := by
    intro chain hchain
    cases List.mem_pair.mp hchain with
    | inl heq =>
      subst heq
      constructor
      · exact ⟨"t", rfl⟩
      · simp
      · simp
      · simp
      · intro marks hmarks
        cases hmarks
    | inr heq =>
      subst heq
      constructor
      · exact ⟨"p", rfl⟩
      · simp
      · simp
      · simp
      · intro marks hmarks
        cases hmarks
  hashed := by
    simp [overlappingChains]

theorem isExitGraph_mergeExitGraph_iff_overlappingChains :
    AreBarkExitChains overlappingChains ∧
      (IsExitGraph overlappingChains (mergeExitGraph overlappingChains) ↔
        ∀ txid, IsAnchor overlappingChains txid → ¬ IsExit overlappingChains txid) :=
  ⟨areBarkExitChains_overlappingChains,
    isExitGraph_mergeExitGraph_iff areBarkExitChains_overlappingChains⟩

/-- The edge from "t" to "p" is in the graph in one order of the two chains only. -/
theorem mergeExitGraph_overlappingChains_depends_on_order :
    AreBarkExitChains overlappingChains ∧
      overlappingChains.Perm overlappingChains.reverse ∧
      mergeExitGraph overlappingChains.reverse ≠ mergeExitGraph overlappingChains ∧
      ¬ IsExitGraph overlappingChains (mergeExitGraph overlappingChains) := by
  have hdiffer : mergeExitGraph overlappingChains.reverse ≠ mergeExitGraph overlappingChains := by
    decide +kernel
  refine ⟨areBarkExitChains_overlappingChains, (List.reverse_perm _).symm, hdiffer, ?_⟩
  intro hgraph
  exact hdiffer (hgraph.order _ (List.reverse_perm _).symm)

end Graph

end Bitboard.Bark
