/-
# When the seizure scan is right

The scan has one watch for each outpoint, with one allowed spender, and matches
the outcome back to every history that contains the outpoint. Two histories that
continue differently from a shared output therefore get the same verdict, and
which one decides it depends on their order.

`SpendsAgree` says of one state of the chain that no two histories differ about a
spent output they share. `WatchesAgree` says of the histories alone that they
continue alike from every output they share, and that no output a history still
has to pass is an anchor. The scan is right for a chain that the histories agree
about, and it is right for every chain exactly when the watches agree.
-/

import Bitboard.Bark.ExitSeizureScan
import Bitboard.Arkade.ExitMaterials

namespace Bitboard.Bark

open Bitboard.Lib
open Bitboard.Arkade (Txid OutPoint sampleTxid)

variable {histories : List VtxoExitHistory} {confirmed : BTreeSet Txid}
variable {spends : BTreeMap OutPoint ExitOutputSpend}

/-- An id names one history. The wallet lists every VTXO once, under its outpoint. -/
def IdsNameHistories (histories : List VtxoExitHistory) : Prop :=
  ∀ first ∈ histories, ∀ second ∈ histories, first.vtxoId = second.vtxoId → first = second

/-- Every confirmed spend along the history is by the history's own next transaction. The
spend of its last output is not restricted. -/
def OwnExitOnly (spends : BTreeMap OutPoint ExitOutputSpend) (history : VtxoExitHistory) : Prop :=
  (∀ first spender, history.firstTxid = some first →
    spends[history.anchor]? = some (.confirmed spender) → spender = first) ∧
  ∀ (index : Nat) (hop nextHop : ExitHop) (spender : Txid),
    history.hops[index]? = some hop → history.hops[index + 1]? = some nextHop →
      spends[hop.outpoint]? = some (.confirmed spender) → spender = nextHop.txid

/-- The scan answers for every history by that history's own hops, whatever the order of
the histories. -/
structure ScanIsRight (histories : List VtxoExitHistory) (confirmed : BTreeSet Txid)
    (spends : BTreeMap OutPoint ExitOutputSpend) : Prop where
  anchorSwept : ∀ history ∈ histories,
    ReportedAnchorSwept histories confirmed spends history.vtxoId ↔ AnchorSwept spends history
  seized : ∀ history ∈ histories,
    ReportedSeized histories confirmed spends history.vtxoId ↔
      ¬ AnchorSwept spends history ∧ Seized confirmed spends history
  ownExit : ∀ history ∈ histories, OwnExitOnly spends history →
    ¬ ReportedAnchorSwept histories confirmed spends history.vtxoId ∧
      ¬ ReportedSeized histories confirmed spends history.vtxoId
  order : ∀ reordered : List VtxoExitHistory, reordered.Perm histories → ∀ vtxoId,
    (ReportedAnchorSwept reordered confirmed spends vtxoId ↔
      ReportedAnchorSwept histories confirmed spends vtxoId) ∧
    (ReportedSeized reordered confirmed spends vtxoId ↔
      ReportedSeized histories confirmed spends vtxoId)

/-- No two histories differ about a confirmed spend of an output they share, and no output
whose foreign spend would seize a history is watched as an anchor. -/
structure SpendsAgree (histories : List VtxoExitHistory) (confirmed : BTreeSet Txid)
    (spends : BTreeMap OutPoint ExitOutputSpend) : Prop where
  anchors : ∀ first ∈ histories, ∀ second ∈ histories, first.anchor = second.anchor →
    (AnchorSwept spends first ↔ AnchorSwept spends second)
  hops : ∀ first ∈ histories, ∀ second ∈ histories, ∀ output next spender,
    ¬ AnchorSwept spends first → ¬ AnchorSwept spends second →
      OpenHop confirmed first.hops output next → second.HasOutput output →
      spends[output]? = some (.confirmed spender) → output ∉ anchorOutpoints histories →
      (spender ≠ next ↔
        ∃ other, OpenHop confirmed second.hops output other ∧ spender ≠ other)
  clash : ∀ history ∈ histories, ¬ AnchorSwept spends history → ∀ output next spender,
    OpenHop confirmed history.hops output next →
      spends[output]? = some (.confirmed spender) → spender ≠ next →
      output ∉ anchorOutpoints histories

/-- Histories with one anchor have one first hop, histories that share an open output have
it open with one next hop, and an open output is not an anchor (a history's own anchor with
its own first hop as the next transaction apart). -/
structure WatchesAgree (histories : List VtxoExitHistory) (confirmed : BTreeSet Txid) :
    Prop where
  anchors : ∀ first ∈ histories, ∀ second ∈ histories, first.anchor = second.anchor →
    first.firstTxid = second.firstTxid
  hops : ∀ first ∈ histories, ∀ second ∈ histories, ∀ output next,
    OpenHop confirmed first.hops output next → second.HasOutput output →
      output ∉ anchorOutpoints histories →
      ∀ other, OpenHop confirmed second.hops output other ↔ other = next
  clash : ∀ history ∈ histories, ∀ output next, OpenHop confirmed history.hops output next →
    output ∈ anchorOutpoints histories →
      history.anchor = output ∧ history.firstTxid = some next

variable {history : VtxoExitHistory} {output : OutPoint}
variable {next : Txid}

theorem OpenHop.hasOutput (hopen : OpenHop confirmed history.hops output next) :
    history.HasOutput output := by
  obtain ⟨index, hop, nextHop, hhop, -, houtput, -⟩ := hopen
  exact ⟨hop, List.mem_of_getElem? hhop, houtput⟩

theorem reportedAnchorSwept_iff_of_mem (hids : IdsNameHistories histories)
    (hmem : history ∈ histories) :
    ReportedAnchorSwept histories confirmed spends history.vtxoId ↔
      ∃ watched, anchorWatch histories history.anchor = some watched ∧
        ForeignSpent spends watched := by
  rw [reportedAnchorSwept_iff, mem_anchorSweepVtxoIds_iff]
  constructor
  · intro h
    obtain ⟨other, hother, hwatch, hid⟩ := h
    rw [← hids other hother history hmem hid]
    exact hwatch
  · intro h
    exact ⟨history, hmem, h, rfl⟩

theorem reportedSeized_iff_of_mem (hids : IdsNameHistories histories) (hmem : history ∈ histories) :
    ReportedSeized histories confirmed spends history.vtxoId ↔
      ¬ ReportedAnchorSwept histories confirmed spends history.vtxoId ∧
        ∃ output watched, output ∉ anchorOutpoints histories ∧
          hopWatch confirmed (remainingHistories histories spends) output = some watched ∧
          ForeignSpent spends watched ∧ history.HasOutput output := by
  rw [reportedSeized_iff]
  constructor
  · intro h
    obtain ⟨other, hother, ⟨watched, houtside, hwatch, hforeign, houtput⟩, hid⟩ := h
    obtain ⟨hotherMem, hnotSwept⟩ :=
      (mem_remainingHistories_iff confirmed).mp hother
    rw [hids other hotherMem history hmem hid] at hnotSwept houtput
    exact ⟨hnotSwept, watched.outpoint, watched, houtside, hwatch, hforeign, houtput⟩
  · intro h
    obtain ⟨hnotSwept, output, watched, houtside, hwatch, hforeign, houtput⟩ := h
    obtain ⟨houtpoint, -⟩ := hopWatch_eq_some hwatch
    subst houtpoint
    exact ⟨history, (mem_remainingHistories_iff confirmed).mpr ⟨hmem, hnotSwept⟩,
      ⟨watched, houtside, hwatch, hforeign, houtput⟩, rfl⟩

variable {watched : WatchedExitOutput}

theorem foreignSpent_iff_anchorSwept (houtpoint : watched.outpoint = history.anchor)
    (hfirst : history.firstTxid = some watched.allowedSpend) :
    ForeignSpent spends watched ↔ AnchorSwept spends history := by
  unfold ForeignSpent AnchorSwept
  rw [houtpoint, hfirst]
  simp

section

variable (hagree : SpendsAgree histories confirmed spends)
include hagree

theorem SpendsAgree.reportedAnchorSwept_iff (hids : IdsNameHistories histories)
    (hmem : history ∈ histories) :
    ReportedAnchorSwept histories confirmed spends history.vtxoId ↔ AnchorSwept spends history := by
  rw [reportedAnchorSwept_iff_of_mem hids hmem]
  constructor
  · intro h
    obtain ⟨watched, hwatch, hforeign⟩ := h
    obtain ⟨houtpoint, -, other, hother, hanchor, hfirst⟩ := anchorWatch_eq_some hwatch
    rw [← hanchor] at houtpoint
    rw [← hagree.anchors other hother history hmem hanchor]
    exact (foreignSpent_iff_anchorSwept houtpoint hfirst).mp hforeign
  · intro h
    obtain ⟨first, -, hfirst, -⟩ := id h
    obtain ⟨watched, hwatch⟩ := exists_anchorWatch hmem hfirst
    obtain ⟨houtpoint, -, other, hother, hanchor, hotherFirst⟩ := anchorWatch_eq_some hwatch
    rw [← hagree.anchors other hother history hmem hanchor] at h
    rw [← hanchor] at houtpoint
    exact ⟨watched, hwatch, (foreignSpent_iff_anchorSwept houtpoint hotherFirst).mpr h⟩

theorem SpendsAgree.of_mem_remaining (hids : IdsNameHistories histories)
    (hmem : history ∈ remainingHistories histories spends) :
    history ∈ histories ∧ ¬ AnchorSwept spends history := by
  obtain ⟨hlisted, hkept⟩ := (mem_remainingHistories_iff confirmed).mp hmem
  rw [hagree.reportedAnchorSwept_iff hids hlisted] at hkept
  exact ⟨hlisted, hkept⟩

theorem SpendsAgree.reportedSeized_iff (hids : IdsNameHistories histories)
    (hmem : history ∈ histories) :
    ReportedSeized histories confirmed spends history.vtxoId ↔
      ¬ AnchorSwept spends history ∧ Seized confirmed spends history := by
  rw [reportedSeized_iff_of_mem hids hmem, hagree.reportedAnchorSwept_iff hids hmem]
  apply and_congr_right
  intro hnotSwept
  constructor
  · intro h
    obtain ⟨output, watched, houtside, hwatch, ⟨spender, hspender, hforeign⟩, houtput⟩ := h
    obtain ⟨houtpoint, -, other, hother, hopen⟩ := hopWatch_eq_some hwatch
    rw [houtpoint] at hspender
    obtain ⟨hotherMem, hotherKept⟩ := hagree.of_mem_remaining hids hother
    obtain ⟨next, hnext, hne⟩ := (hagree.hops other hotherMem history hmem output
      watched.allowedSpend spender hotherKept hnotSwept hopen houtput hspender
      houtside).mp hforeign
    exact ⟨output, next, spender, hnext, hspender, hne⟩
  · intro h
    obtain ⟨output, next, spender, hopen, hspender, hne⟩ := h
    have houtside := hagree.clash history hmem hnotSwept output next spender hopen hspender hne
    have hremaining : history ∈ remainingHistories histories spends := by
      rw [mem_remainingHistories_iff confirmed, hagree.reportedAnchorSwept_iff hids hmem]
      exact ⟨hmem, hnotSwept⟩
    obtain ⟨watched, hwatch⟩ := exists_hopWatch hremaining hopen
    obtain ⟨houtpoint, -, other, hother, hotherOpen⟩ := hopWatch_eq_some hwatch
    obtain ⟨hotherMem, hotherKept⟩ := hagree.of_mem_remaining hids hother
    have hforeign : spender ≠ watched.allowedSpend :=
      (hagree.hops other hotherMem history hmem output watched.allowedSpend spender hotherKept
        hnotSwept hotherOpen hopen.hasOutput hspender houtside).mpr ⟨next, hopen, hne⟩
    exact ⟨output, watched, houtside, hwatch, ⟨spender, by rw [houtpoint]; exact hspender,
      hforeign⟩, hopen.hasOutput⟩

end

theorem exists_mem_of_reported {vtxoId : String}
    (h : ReportedAnchorSwept histories confirmed spends vtxoId ∨
      ReportedSeized histories confirmed spends vtxoId) :
    ∃ history ∈ histories, history.vtxoId = vtxoId := by
  cases h with
  | inl hswept =>
    rw [reportedAnchorSwept_iff, mem_anchorSweepVtxoIds_iff] at hswept
    obtain ⟨history, hmem, -, hid⟩ := hswept
    exact ⟨history, hmem, hid⟩
  | inr hseized =>
    rw [reportedSeized_iff] at hseized
    obtain ⟨history, hmem, -, hid⟩ := hseized
    exact ⟨history, (List.mem_filter.mp hmem).1, hid⟩

theorem OwnExitOnly.not_anchorSwept
    (hown : OwnExitOnly spends history) : ¬ AnchorSwept spends history := by
  intro h
  obtain ⟨first, spender, hfirst, hspender, hne⟩ := h
  exact hne (hown.1 first spender hfirst hspender)

theorem OwnExitOnly.not_seized
    (hown : OwnExitOnly spends history) : ¬ Seized confirmed spends history := by
  intro h
  obtain ⟨output, next, spender, ⟨index, hop, nextHop, hhop, hnextHop, houtput, hnext, -⟩,
    hspender, hne⟩ := h
  rw [← houtput] at hspender
  rw [← hnext] at hne
  exact hne (hown.2 index hop nextHop spender hhop hnextHop hspender)

section Reordering

variable {reordered : List VtxoExitHistory} (hperm : reordered.Perm histories)

include hperm

theorem mem_anchorOutpoints_perm {output : OutPoint} :
    output ∈ anchorOutpoints reordered ↔ output ∈ anchorOutpoints histories := by
  simp only [mem_anchorOutpoints_iff, hperm.mem_iff]

theorem IdsNameHistories.perm (hids : IdsNameHistories histories) : IdsNameHistories reordered := by
  intro first hfirst second hsecond
  exact hids first (hperm.mem_iff.mp hfirst) second (hperm.mem_iff.mp hsecond)

theorem SpendsAgree.perm (hagree : SpendsAgree histories confirmed spends) :
    SpendsAgree reordered confirmed spends where
  anchors first hfirst second hsecond :=
    hagree.anchors first (hperm.mem_iff.mp hfirst) second (hperm.mem_iff.mp hsecond)
  hops first hfirst second hsecond := by
    simp only [mem_anchorOutpoints_perm hperm]
    exact hagree.hops first (hperm.mem_iff.mp hfirst) second (hperm.mem_iff.mp hsecond)
  clash history hmem := by
    simp only [mem_anchorOutpoints_perm hperm]
    exact hagree.clash history (hperm.mem_iff.mp hmem)

end Reordering

/-- For a chain that the histories agree about the scan is right. -/
theorem SpendsAgree.scanIsRight (hids : IdsNameHistories histories)
    (hagree : SpendsAgree histories confirmed spends) :
    ScanIsRight histories confirmed spends where
  anchorSwept _ hmem := hagree.reportedAnchorSwept_iff hids hmem
  seized _ hmem := hagree.reportedSeized_iff hids hmem
  ownExit history hmem hown := by
    rw [hagree.reportedAnchorSwept_iff hids hmem, hagree.reportedSeized_iff hids hmem]
    exact ⟨hown.not_anchorSwept, fun h => hown.not_seized h.2⟩
  order reordered hperm vtxoId := by
    -- An id that no history carries is reported in neither order.
    by_cases hlisted : ∃ history ∈ histories, history.vtxoId = vtxoId
    · obtain ⟨history, hmem, rfl⟩ := hlisted
      have hmem' : history ∈ reordered := hperm.mem_iff.mpr hmem
      rw [hagree.reportedAnchorSwept_iff hids hmem, hagree.reportedSeized_iff hids hmem,
        (hagree.perm hperm).reportedAnchorSwept_iff (hids.perm hperm) hmem',
        (hagree.perm hperm).reportedSeized_iff (hids.perm hperm) hmem']
      exact ⟨Iff.rfl, Iff.rfl⟩
    · have hunlisted : ∀ listed : List VtxoExitHistory, listed.Perm histories →
          ¬ (ReportedAnchorSwept listed confirmed spends vtxoId ∨
            ReportedSeized listed confirmed spends vtxoId) := by
        intro listed hlistedPerm hreported
        obtain ⟨history, hmem, hid⟩ := exists_mem_of_reported hreported
        exact hlisted ⟨history, hlistedPerm.mem_iff.mp hmem, hid⟩
      have hbefore := not_or.mp (hunlisted histories (List.Perm.refl _))
      have hafter := not_or.mp (hunlisted reordered hperm)
      exact ⟨iff_of_false hafter.1 hbefore.1, iff_of_false hafter.2 hbefore.2⟩

theorem WatchesAgree.spendsAgree (hagree : WatchesAgree histories confirmed)
    (spends : BTreeMap OutPoint ExitOutputSpend) : SpendsAgree histories confirmed spends where
  anchors first hfirst second hsecond hanchor := by
    unfold AnchorSwept
    rw [hagree.anchors first hfirst second hsecond hanchor, hanchor]
  hops first hfirst second hsecond output next spender _ _ hopen houtput _ houtside := by
    simp [hagree.hops first hfirst second hsecond output next hopen houtput houtside]
  clash history hmem hkept output next spender hopen hspender hne := by
    intro hanchor
    obtain ⟨hown, hfirst⟩ := hagree.clash history hmem output next hopen hanchor
    exact hkept ⟨next, spender, hfirst, hown ▸ hspender, hne⟩

/-! ## A chain with one spend

A single confirmed spend tells the histories apart: with it the verdict on a history
depends on one outpoint only.
-/

/-- The chain on which `spender` has confirmed on `output` and nothing else is spent. -/
def soleSpend (output : OutPoint) (spender : Txid) : BTreeMap OutPoint ExitOutputSpend :=
  BTreeMap.singleton output (.confirmed spender)

@[simp]
theorem soleSpend_eq_confirmed_iff {output other : OutPoint} {spender confirmedSpender : Txid} :
    (soleSpend output spender)[other]? = some (.confirmed confirmedSpender) ↔
      output = other ∧ spender = confirmedSpender := by
  simp [soleSpend]

variable {spender : Txid}

theorem anchorSwept_soleSpend_iff :
    AnchorSwept (soleSpend output spender) history ↔
      output = history.anchor ∧ ∃ first, history.firstTxid = some first ∧ spender ≠ first := by
  simp only [AnchorSwept, soleSpend_eq_confirmed_iff]
  grind

theorem seized_soleSpend_iff :
    Seized confirmed (soleSpend output spender) history ↔
      ∃ next, OpenHop confirmed history.hops output next ∧ spender ≠ next := by
  simp only [Seized, soleSpend_eq_confirmed_iff]
  grind

theorem foreignSpent_soleSpend_iff :
    ForeignSpent (soleSpend output spender) watched ↔
      output = watched.outpoint ∧ spender ≠ watched.allowedSpend := by
  simp only [ForeignSpent, soleSpend_eq_confirmed_iff]
  grind

theorem not_reportedAnchorSwept_soleSpend
    (houtside : output ∉ anchorOutpoints histories) (vtxoId : String) :
    ¬ ReportedAnchorSwept histories confirmed (soleSpend output spender) vtxoId := by
  rw [reportedAnchorSwept_iff, mem_anchorSweepVtxoIds_iff]
  intro h
  obtain ⟨history, -, ⟨watched, hwatch, hforeign⟩, -⟩ := h
  obtain ⟨houtpoint, -, other, hother, hanchor, hfirst⟩ := anchorWatch_eq_some hwatch
  have houtput : output = history.anchor :=
    (foreignSpent_soleSpend_iff.mp hforeign).1.trans houtpoint
  apply houtside
  rw [mem_anchorOutpoints_iff]
  exact ⟨other, hother, hanchor.trans houtput.symm, by simp [hfirst]⟩

theorem remainingHistories_soleSpend (houtside : output ∉ anchorOutpoints histories) :
    remainingHistories histories (soleSpend output spender) = histories := by
  rw [remainingHistories, List.filter_eq_self]
  intro history hmem
  have hkept : history ∈ remainingHistories histories (soleSpend output spender) :=
    (mem_remainingHistories_iff ∅).mpr
      ⟨hmem, not_reportedAnchorSwept_soleSpend houtside history.vtxoId⟩
  exact (List.mem_filter.mp hkept).2

theorem reportedSeized_soleSpend_iff (hids : IdsNameHistories histories)
    (houtside : output ∉ anchorOutpoints histories)
    (hwatch : hopWatch confirmed histories output = some watched) (hmem : history ∈ histories)
    (houtput : history.HasOutput output) :
    ReportedSeized histories confirmed (soleSpend output spender) history.vtxoId ↔
      spender ≠ watched.allowedSpend := by
  rw [reportedSeized_iff_of_mem hids hmem, remainingHistories_soleSpend houtside]
  constructor
  · intro h
    obtain ⟨-, other, otherWatched, -, hother, hforeign, -⟩ := h
    obtain ⟨houtpoint, hne⟩ := foreignSpent_soleSpend_iff.mp hforeign
    rw [← (hopWatch_eq_some hother).1, ← houtpoint, hwatch, Option.some.injEq] at hother
    rw [hother]
    exact hne
  · intro hne
    have hforeign : ForeignSpent (soleSpend output spender) watched :=
      foreignSpent_soleSpend_iff.mpr ⟨(hopWatch_eq_some hwatch).1.symm, hne⟩
    exact ⟨not_reportedAnchorSwept_soleSpend houtside _, output, watched, houtside, hwatch,
      hforeign, houtput⟩

/-! ## Right about every chain -/

theorem exists_txid_ne_ne (first second : Txid) :
    ∃ other : Txid, other ≠ first ∧ other ≠ second := by
  have hab : sampleTxid 'a' (by decide) ≠ sampleTxid 'b' (by decide) := by simp [sampleTxid]
  have hac : sampleTxid 'a' (by decide) ≠ sampleTxid 'c' (by decide) := by simp [sampleTxid]
  have hbc : sampleTxid 'b' (by decide) ≠ sampleTxid 'c' (by decide) := by simp [sampleTxid]
  by_contra hnone
  simp only [ne_eq, not_exists, not_and_or, not_not] at hnone
  have ha := hnone (sampleTxid 'a' (by decide))
  have hb := hnone (sampleTxid 'b' (by decide))
  have hc := hnone (sampleTxid 'c' (by decide))
  grind

/-- The first hop is known from the spenders that are foreign to it. -/
theorem firstTxid_eq_of_foreign_iff {first second : Option Txid}
    (h : ∀ spender : Txid, (∃ txid, first = some txid ∧ spender ≠ txid) ↔
      ∃ txid, second = some txid ∧ spender ≠ txid) : first = second := by
  cases first with
  | none =>
    cases second with
    | none => rfl
    | some txid =>
      obtain ⟨other, hother, -⟩ := exists_txid_ne_ne txid txid
      have := (h other).mpr ⟨txid, rfl, hother⟩
      simp at this
  | some txid =>
    cases second with
    | none =>
      obtain ⟨other, hother, -⟩ := exists_txid_ne_ne txid txid
      have := (h other).mp ⟨txid, rfl, hother⟩
      simp at this
    | some secondTxid =>
      have := h secondTxid
      simp only [Option.some.injEq, exists_eq_left', ne_eq, not_true, iff_false, not_not] at this
      rw [this]

variable {first : VtxoExitHistory}

section RightAboutEveryChain

variable (hids : IdsNameHistories histories)
variable (hright : ∀ spends, ScanIsRight histories confirmed spends)

include hids hright

theorem firstTxid_eq_of_scanIsRight {second : VtxoExitHistory} (hfirst : first ∈ histories)
    (hsecond : second ∈ histories) (hanchor : first.anchor = second.anchor) :
    first.firstTxid = second.firstTxid := by
  apply firstTxid_eq_of_foreign_iff
  intro spender
  have hright := hright (soleSpend first.anchor spender)
  have hreported : AnchorSwept (soleSpend first.anchor spender) first ↔
      AnchorSwept (soleSpend first.anchor spender) second := by
    rw [← hright.anchorSwept first hfirst, ← hright.anchorSwept second hsecond,
      reportedAnchorSwept_iff_of_mem hids hfirst, reportedAnchorSwept_iff_of_mem hids hsecond,
      hanchor]
  simpa [anchorSwept_soleSpend_iff, hanchor] using hreported

variable {output : OutPoint}

/-- With `first` in front, its own first watch on a shared output decides, so the spenders
that seize `second` through that output are those other than one transaction. -/
theorem exists_foreign_iff_of_scanIsRight (hfirst : first ∈ histories)
    (hopen : OpenHop confirmed first.hops output next)
    (houtside : output ∉ anchorOutpoints histories) :
    ∃ allowed, ∀ second ∈ histories, second.HasOutput output → ∀ spender : Txid,
      spender ≠ allowed ↔
        ∃ other, OpenHop confirmed second.hops output other ∧ spender ≠ other := by
  let reordered := first :: histories.erase first
  have hperm : reordered.Perm histories := (List.perm_cons_erase hfirst).symm
  have houtside' : output ∉ anchorOutpoints reordered := by
    rw [mem_anchorOutpoints_perm hperm]
    exact houtside
  have hreordered : first ∈ reordered := List.mem_cons_self
  obtain ⟨watched, hwatch⟩ := exists_hopWatch hreordered hopen
  use watched.allowedSpend
  intro second hsecond houtput spender
  have hright := hright (soleSpend output spender)
  have hkept : ¬ AnchorSwept (soleSpend output spender) second := by
    rw [← hright.anchorSwept second hsecond]
    exact not_reportedAnchorSwept_soleSpend houtside _
  rw [← reportedSeized_soleSpend_iff (hids.perm hperm) houtside' hwatch
    (hperm.mem_iff.mpr hsecond) houtput, (hright.order reordered hperm second.vtxoId).2,
    hright.seized second hsecond, seized_soleSpend_iff]
  exact and_iff_right hkept

theorem openHop_iff_of_scanIsRight {second : VtxoExitHistory} (hfirst : first ∈ histories)
    (hsecond : second ∈ histories) (hopen : OpenHop confirmed first.hops output next)
    (houtput : second.HasOutput output) (houtside : output ∉ anchorOutpoints histories)
    (other : Txid) : OpenHop confirmed second.hops output other ↔ other = next := by
  obtain ⟨allowed, hforeign⟩ :=
    exists_foreign_iff_of_scanIsRight hids hright hfirst hopen houtside
  -- The allowed transaction itself seizes nobody, so every next hop is that transaction.
  have hunique : ∀ history ∈ histories, ∀ txid,
      OpenHop confirmed history.hops output txid → txid = allowed := by
    intro history hmem txid htxid
    by_contra hne
    have := (hforeign history hmem htxid.hasOutput allowed).mpr ⟨txid, htxid, Ne.symm hne⟩
    exact this rfl
  have hnext : next = allowed := hunique first hfirst next hopen
  constructor
  · intro h
    rw [hunique second hsecond other h, hnext]
  · intro h
    -- A foreign spend seizes `second`, so it has the output open.
    obtain ⟨spender, hspender, -⟩ := exists_txid_ne_ne allowed allowed
    obtain ⟨txid, htxid, -⟩ := (hforeign second hsecond houtput spender).mp hspender
    rw [h, hnext, ← hunique second hsecond txid htxid]
    exact htxid

theorem not_seized_of_anchor {history : VtxoExitHistory} (hmem : history ∈ histories)
    (hanchor : output ∈ anchorOutpoints histories) {spender : Txid}
    (hkept : ¬ AnchorSwept (soleSpend output spender) history) :
    ¬ Seized confirmed (soleSpend output spender) history := by
  intro hseized
  have hright := hright (soleSpend output spender)
  have hreported := (hright.seized history hmem).mpr ⟨hkept, hseized⟩
  obtain ⟨-, other, watched, houtside, hwatch, hforeign, -⟩ :=
    (reportedSeized_iff_of_mem hids hmem).mp hreported
  have houtput : output = other :=
    (foreignSpent_soleSpend_iff.mp hforeign).1.trans (hopWatch_eq_some hwatch).1
  exact houtside (houtput ▸ hanchor)

theorem clash_of_scanIsRight {history : VtxoExitHistory} (hmem : history ∈ histories)
    (hopen : OpenHop confirmed history.hops output next)
    (hanchor : output ∈ anchorOutpoints histories) :
    history.anchor = output ∧ history.firstTxid = some next := by
  -- Whoever spends the output without sweeping the history's anchor must be `next`.
  have hspender : ∀ spender, ¬ AnchorSwept (soleSpend output spender) history →
      spender = next := by
    intro spender hkept
    by_contra hne
    exact not_seized_of_anchor hids hright hmem hanchor hkept
      (seized_soleSpend_iff.mpr ⟨next, hopen, hne⟩)
  have hown : history.anchor = output := by
    by_contra hne
    obtain ⟨spender, hforeign, -⟩ := exists_txid_ne_ne next next
    apply hforeign
    apply hspender
    rw [anchorSwept_soleSpend_iff]
    exact fun h => hne h.1.symm
  constructor
  · exact hown
  · cases hfirst : history.firstTxid with
    | none =>
      obtain ⟨spender, hforeign, -⟩ := exists_txid_ne_ne next next
      exact absurd (hspender spender (by simp [anchorSwept_soleSpend_iff, hfirst])) hforeign
    | some first =>
      rw [hspender first (by simp [anchorSwept_soleSpend_iff, hfirst])]

theorem watchesAgree_of_scanIsRight : WatchesAgree histories confirmed where
  anchors _ hfirst _ hsecond := firstTxid_eq_of_scanIsRight hids hright hfirst hsecond
  hops _ hfirst _ hsecond _ _ := openHop_iff_of_scanIsRight hids hright hfirst hsecond
  clash _ hmem _ _ := clash_of_scanIsRight hids hright hmem

end RightAboutEveryChain

/-- The scan is right about a chain that the histories agree about, and it is right about
every chain exactly when the histories continue alike from the outputs they share. -/
theorem scanIsRight_iff_watchesAgree (histories : List VtxoExitHistory)
    (confirmed : BTreeSet Txid) (hids : IdsNameHistories histories) :
    (∀ spends, SpendsAgree histories confirmed spends →
      ScanIsRight histories confirmed spends) ∧
    ((∀ spends, ScanIsRight histories confirmed spends) ↔ WatchesAgree histories confirmed) := by
  constructor
  · intro spends hagree
    exact hagree.scanIsRight hids
  · constructor
    · exact watchesAgree_of_scanIsRight hids
    · intro hagree spends
      exact (hagree.spendsAgree spends).scanIsRight hids

def foreignTxid : Txid := sampleTxid 'f' (by decide)

def sharedAnchor : OutPoint := { txid := sampleTxid '1' (by decide), vout := 0 }

def checkpointHistory : VtxoExitHistory where
  vtxoId := "probed"
  anchor := sharedAnchor
  hops := [
    { txid := sampleTxid '2' (by decide), outputIndex := 0, role := .internal },
    { txid := sampleTxid '3' (by decide), outputIndex := 1, role := .checkpoint },
    { txid := sampleTxid '4' (by decide), outputIndex := 0, role := .leaf }]

def checkpointOutput : OutPoint := { txid := sampleTxid '3' (by decide), vout := 1 }

theorem idsNameHistories_singleton (history : VtxoExitHistory) : IdsNameHistories [history] := by
  intro first hfirst second hsecond _
  rw [List.mem_singleton] at hfirst hsecond
  rw [hfirst, hsecond]

theorem spendsAgree_checkpointHistory :
    SpendsAgree [checkpointHistory] ∅ (soleSpend checkpointOutput foreignTxid) where
  anchors first hfirst second hsecond _ := by
    rw [List.mem_singleton] at hfirst hsecond
    rw [hfirst, hsecond]
  hops first hfirst second hsecond output next spender _ _ hopen _ hspender _ := by
    rw [List.mem_singleton] at hfirst hsecond
    subst hfirst hsecond
    obtain ⟨rfl, rfl⟩ := soleSpend_eq_confirmed_iff.mp hspender
    -- The foreign transaction is no hop of the history.
    have hne : foreignTxid ≠ next := by
      obtain ⟨index, hop, nextHop, -, hnextHop, -, rfl, -⟩ := hopen
      have hmem := List.mem_of_getElem? hnextHop
      simp only [checkpointHistory, List.mem_cons, List.not_mem_nil, or_false] at hmem
      rcases hmem with rfl | rfl | rfl <;> simp [foreignTxid, sampleTxid]
    exact ⟨fun _ => ⟨next, hopen, hne⟩, fun _ => hne⟩
  clash history hmem _ output next spender _ hspender _ := by
    obtain ⟨rfl, rfl⟩ := soleSpend_eq_confirmed_iff.mp hspender
    rw [mem_anchorOutpoints_iff]
    simp [checkpointHistory, sharedAnchor, checkpointOutput, sampleTxid]

/-- A foreign spend of the checkpoint output of a lone history is reported rightly. -/
theorem scanIsRight_checkpointHistory :
    IdsNameHistories [checkpointHistory] ∧
      ScanIsRight [checkpointHistory] ∅ (soleSpend checkpointOutput foreignTxid) :=
  ⟨idsNameHistories_singleton _,
    (scanIsRight_iff_watchesAgree _ _ (idsNameHistories_singleton _)).1 _
      spendsAgree_checkpointHistory⟩

def siblingHistory : VtxoExitHistory where
  vtxoId := "sibling"
  anchor := sharedAnchor
  hops := [{ txid := sampleTxid '5' (by decide), outputIndex := 0, role := .leaf }]

def siblingExit : BTreeMap OutPoint ExitOutputSpend :=
  soleSpend sharedAnchor (sampleTxid '5' (by decide))

/-- When the sibling's own first hop spends the shared anchor, the scan reports the sibling
as swept if the other history stands first, and does not if it stands last. -/
theorem not_scanIsRight_of_shared_anchor :
    IdsNameHistories [checkpointHistory, siblingHistory] ∧
      OwnExitOnly siblingExit siblingHistory ∧
      ReportedAnchorSwept [checkpointHistory, siblingHistory] ∅ siblingExit "sibling" ∧
      ¬ ReportedAnchorSwept [siblingHistory, checkpointHistory] ∅ siblingExit "sibling" ∧
      ¬ ScanIsRight [checkpointHistory, siblingHistory] ∅ siblingExit := by
  have hids : IdsNameHistories [checkpointHistory, siblingHistory] := by
    simp [IdsNameHistories, checkpointHistory, siblingHistory]
  have hown : OwnExitOnly siblingExit siblingHistory := by
    constructor
    · intro first spender hfirst hspender
      obtain ⟨-, rfl⟩ := soleSpend_eq_confirmed_iff.mp hspender
      simpa [VtxoExitHistory.firstTxid, siblingHistory] using hfirst
    · intro index hop nextHop spender _ hnextHop _
      simp [siblingHistory] at hnextHop
  have hreported :
      ReportedAnchorSwept [checkpointHistory, siblingHistory] ∅ siblingExit "sibling" := by
    rw [reportedAnchorSwept_iff, mem_anchorSweepVtxoIds_iff]
    refine ⟨siblingHistory, by simp, ⟨_, rfl, ?_⟩, rfl⟩
    simp [ForeignSpent, siblingExit, checkpointHistory, sampleTxid]
  have hkept :
      ¬ ReportedAnchorSwept [siblingHistory, checkpointHistory] ∅ siblingExit "sibling" := by
    rw [reportedAnchorSwept_iff, mem_anchorSweepVtxoIds_iff]
    simp [anchorWatch, anchorOutputOfOne, siblingHistory, checkpointHistory, ForeignSpent,
      siblingExit]
  refine ⟨hids, hown, hreported, hkept, ?_⟩
  intro hright
  exact (hright.ownExit siblingHistory (by simp) hown).1 hreported

end Bitboard.Bark
