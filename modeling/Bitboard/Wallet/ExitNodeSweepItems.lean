/-
# Lists of seized exit outputs

A Bark account keeps a list of the VTXOs whose exit output was spent, with the kind of
the spent node. The list has each pair once and is ordered from the anchor toward the
checkpoint, and inside a kind by id. Normalizing a list that has this form changes
nothing, so lists that are merged, filtered and read again stay as they are.

The functions follow `bark-exit-seizure.ts`.
-/

import Bitboard.Wallet.Payload
import Mathlib.Data.List.Sort
import Mathlib.Data.List.Lex

namespace Bitboard.Wallet

variable {items : List BarkExitNodeSweepVtxoItem} {item : BarkExitNodeSweepVtxoItem}

def BarkExitNodeSweepKind.rank : BarkExitNodeSweepKind → Nat
  | .anchor => 0
  | .internal => 1
  | .leaf => 2
  | .checkpoint => 3

/-- `compareExitNodeSweepVtxoItems` does not put the right item first. -/
def exitNodeSweepVtxoItemLe (left right : BarkExitNodeSweepVtxoItem) : Bool :=
  if left.nodeKind.rank = right.nodeKind.rank then
    decide (utf16 left.vtxoId ≤ utf16 right.vtxoId)
  else decide (left.nodeKind.rank < right.nodeKind.rank)

/-- One round of the loop that drops pairs seen before. -/
def pushUniqueItem (unique : List BarkExitNodeSweepVtxoItem) (item : BarkExitNodeSweepVtxoItem) :
    List BarkExitNodeSweepVtxoItem :=
  if item.vtxoId.isEmpty then unique
  else if item ∈ unique then unique
  else unique ++ [item]

def normalizeExitNodeSweepVtxoItems (items : List BarkExitNodeSweepVtxoItem) :
    List BarkExitNodeSweepVtxoItem :=
  (items.foldl pushUniqueItem []).mergeSort exitNodeSweepVtxoItemLe

/-- `exitNodeSweepVtxoItemsFromUnknown` on a list of items. -/
def exitNodeSweepVtxoItemsFromItems (items : List BarkExitNodeSweepVtxoItem) :
    Option (List BarkExitNodeSweepVtxoItem) :=
  if items.any fun item => item.vtxoId.isEmpty then none
  else some (normalizeExitNodeSweepVtxoItems items)

def mergeExitNodeSweepVtxoItems (existing incoming : List BarkExitNodeSweepVtxoItem) :
    List BarkExitNodeSweepVtxoItem :=
  normalizeExitNodeSweepVtxoItems (existing ++ incoming)

def exitNodeSweepVtxoItemsWithoutKind (items : List BarkExitNodeSweepVtxoItem)
    (kind : BarkExitNodeSweepKind) : List BarkExitNodeSweepVtxoItem :=
  items.filter fun item => item.nodeKind ≠ kind

structure NormalSweepItems (items : List BarkExitNodeSweepVtxoItem) : Prop where
  named : ∀ item ∈ items, item.vtxoId.isEmpty = false
  nodup : items.Nodup
  sorted : items.Pairwise fun left right => exitNodeSweepVtxoItemLe left right = true

theorem exitNodeSweepVtxoItemLe_iff {left right : BarkExitNodeSweepVtxoItem} :
    exitNodeSweepVtxoItemLe left right = true ↔
      left.nodeKind.rank < right.nodeKind.rank ∨
        (left.nodeKind.rank = right.nodeKind.rank ∧
          utf16 left.vtxoId ≤ utf16 right.vtxoId) := by
  unfold exitNodeSweepVtxoItemLe
  split
  · rename_i heq
    simp [heq]
  · rename_i hne
    simp [hne]

theorem exitNodeSweepVtxoItemLe_trans (first second third : BarkExitNodeSweepVtxoItem)
    (hfirst : exitNodeSweepVtxoItemLe first second = true)
    (hsecond : exitNodeSweepVtxoItemLe second third = true) :
    exitNodeSweepVtxoItemLe first third = true := by
  rw [exitNodeSweepVtxoItemLe_iff] at hfirst hsecond ⊢
  cases hfirst with
  | inl hlt =>
    left
    cases hsecond with
    | inl hlt' => exact hlt.trans hlt'
    | inr heq' => exact hlt.trans_eq heq'.1
  | inr heq =>
    cases hsecond with
    | inl hlt' => exact .inl (heq.1.trans_lt hlt')
    | inr heq' => exact .inr ⟨heq.1.trans heq'.1, heq.2.trans heq'.2⟩

theorem exitNodeSweepVtxoItemLe_total (left right : BarkExitNodeSweepVtxoItem) :
    (exitNodeSweepVtxoItemLe left right || exitNodeSweepVtxoItemLe right left) = true := by
  rw [Bool.or_eq_true, exitNodeSweepVtxoItemLe_iff, exitNodeSweepVtxoItemLe_iff]
  cases lt_trichotomy left.nodeKind.rank right.nodeKind.rank with
  | inl hlt => exact .inl (.inl hlt)
  | inr hge =>
    cases hge with
    | inl heq =>
      cases le_total (utf16 left.vtxoId) (utf16 right.vtxoId) with
      | inl hle => exact .inl (.inr ⟨heq, hle⟩)
      | inr hle => exact .inr (.inr ⟨heq.symm, hle⟩)
    | inr hgt => exact .inr (.inl hgt)

variable {unique : List BarkExitNodeSweepVtxoItem}

/-- What the loop has pushed keeps its ids nonempty and different. -/
theorem named_nodup_foldl_pushUniqueItem
    (hnamed : ∀ item ∈ unique, item.vtxoId.isEmpty = false) (hnodup : unique.Nodup) :
    (∀ item ∈ items.foldl pushUniqueItem unique, item.vtxoId.isEmpty = false) ∧
      (items.foldl pushUniqueItem unique).Nodup := by
  induction items generalizing unique with
  | nil => exact ⟨hnamed, hnodup⟩
  | cons item items ih =>
    rw [List.foldl_cons, pushUniqueItem]
    split
    · exact ih hnamed hnodup
    · rename_i hname
      split
      · exact ih hnamed hnodup
      · rename_i hnew
        apply ih
        · intro other hother
          cases List.mem_append.mp hother with
          | inl hbefore => exact hnamed other hbefore
          | inr hlast =>
            rw [List.mem_singleton.mp hlast]
            simpa using hname
        · exact hnodup.append (List.nodup_singleton item)
            (by simpa [List.disjoint_singleton] using hnew)

theorem foldl_pushUniqueItem_of_named_nodup
    (hnamed : ∀ item ∈ items, item.vtxoId.isEmpty = false) (hnodup : (unique ++ items).Nodup) :
    items.foldl pushUniqueItem unique = unique ++ items := by
  induction items generalizing unique with
  | nil => simp
  | cons item items ih =>
    have hnew : item ∉ unique := by
      intro hmem
      exact (List.nodup_append.mp hnodup).2.2 item hmem item List.mem_cons_self rfl
    rw [List.foldl_cons, pushUniqueItem, if_neg (by simp [hnamed item List.mem_cons_self]),
      if_neg hnew, ih (fun other hother => hnamed other (List.mem_cons_of_mem item hother))]
    · simp
    · simpa using hnodup

theorem normalSweepItems_normalize (items : List BarkExitNodeSweepVtxoItem) :
    NormalSweepItems (normalizeExitNodeSweepVtxoItems items) := by
  have hunique : (∀ item ∈ items.foldl pushUniqueItem [], item.vtxoId.isEmpty = false) ∧
      (items.foldl pushUniqueItem []).Nodup :=
    named_nodup_foldl_pushUniqueItem (List.forall_mem_nil _) List.nodup_nil
  have hperm := List.mergeSort_perm (items.foldl pushUniqueItem []) exitNodeSweepVtxoItemLe
  exact {
    named := by
      intro item hitem
      exact hunique.1 item (hperm.mem_iff.mp hitem)
    nodup := hperm.nodup_iff.mpr hunique.2
    sorted := List.pairwise_mergeSort exitNodeSweepVtxoItemLe_trans
      exitNodeSweepVtxoItemLe_total _ }

theorem normalizeExitNodeSweepVtxoItems_of_normal (hnormal : NormalSweepItems items) :
    normalizeExitNodeSweepVtxoItems items = items := by
  rw [normalizeExitNodeSweepVtxoItems,
    foldl_pushUniqueItem_of_named_nodup hnormal.named (by simpa using hnormal.nodup),
    List.nil_append]
  exact List.mergeSort_of_pairwise hnormal.sorted

theorem exitNodeSweepVtxoItemsFromItems_of_normal (hnormal : NormalSweepItems items) :
    exitNodeSweepVtxoItemsFromItems items = some items := by
  have hnamed : (items.any fun item => item.vtxoId.isEmpty) = false := by
    rw [List.any_eq_false]
    intro item hitem
    simp [hnormal.named item hitem]
  rw [exitNodeSweepVtxoItemsFromItems, if_neg (by simp [hnamed]),
    normalizeExitNodeSweepVtxoItems_of_normal hnormal]

theorem normalSweepItems_of_fromItems {kept : List BarkExitNodeSweepVtxoItem}
    (hkept : exitNodeSweepVtxoItemsFromItems items = some kept) : NormalSweepItems kept := by
  rw [exitNodeSweepVtxoItemsFromItems] at hkept
  split at hkept
  · cases hkept
  · cases hkept
    exact normalSweepItems_normalize items

theorem NormalSweepItems.withoutKind (hnormal : NormalSweepItems items)
    (kind : BarkExitNodeSweepKind) :
    NormalSweepItems (exitNodeSweepVtxoItemsWithoutKind items kind) where
  named := by
    intro item hitem
    exact hnormal.named item (List.mem_of_mem_filter hitem)
  nodup := hnormal.nodup.filter _
  sorted := hnormal.sorted.filter _

end Bitboard.Wallet
