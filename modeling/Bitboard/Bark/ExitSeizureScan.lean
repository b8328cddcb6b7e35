/-
# What the seizure scan reports

The scan is read here through the outputs it watches. Each history has its own
answers: its anchor is swept when the confirmed spender is not its first hop, and
it is seized when an output it still has to pass has a confirmed spender other
than its next hop. The scan keeps one watch for each outpoint and matches an
outcome back to every history that contains the outpoint, so its report is right
exactly as long as the histories that share an outpoint agree about it.
-/

import Bitboard.Bark.ExitSeizure

namespace Bitboard.Bark

open Bitboard.Lib
open Bitboard.Arkade (Txid OutPoint)

variable {histories : List VtxoExitHistory} {confirmed : BTreeSet Txid}
variable {spends : BTreeMap OutPoint ExitOutputSpend}

def VtxoExitHistory.firstTxid (history : VtxoExitHistory) : Option Txid :=
  history.hops.head?.map ExitHop.txid

/-- The history passes through the output, or ends in it. -/
def VtxoExitHistory.HasOutput (history : VtxoExitHistory) (output : OutPoint) : Prop :=
  ∃ hop ∈ history.hops, hop.outpoint = output

/-- Somewhere in the hops, `output` is followed by the unconfirmed transaction `next`. -/
def OpenHop (confirmed : BTreeSet Txid) (hops : List ExitHop) (output : OutPoint)
    (next : Txid) : Prop :=
  ∃ (index : Nat) (hop nextHop : ExitHop),
    hops[index]? = some hop ∧ hops[index + 1]? = some nextHop ∧
      hop.outpoint = output ∧ nextHop.txid = next ∧ next ∉ confirmed

/-- The confirmed spender of the history's chain anchor is not its first hop. -/
def AnchorSwept (spends : BTreeMap OutPoint ExitOutputSpend) (history : VtxoExitHistory) : Prop :=
  ∃ first spender, history.firstTxid = some first ∧
    spends[history.anchor]? = some (.confirmed spender) ∧ spender ≠ first

/-- Some output of the history whose next hop is unconfirmed has a confirmed spender other
than that next hop. -/
def Seized (confirmed : BTreeSet Txid) (spends : BTreeMap OutPoint ExitOutputSpend)
    (history : VtxoExitHistory) : Prop :=
  ∃ output next spender, OpenHop confirmed history.hops output next ∧
    spends[output]? = some (.confirmed spender) ∧ spender ≠ next

variable {output : OutPoint}

/-- An open hop of a longer list is its first pair or an open hop of the rest. -/
theorem openHop_cons_iff {hop : ExitHop} {rest : List ExitHop} {next : Txid} :
    OpenHop confirmed (hop :: rest) output next ↔
      (∃ nextHop, rest[0]? = some nextHop ∧ hop.outpoint = output ∧ nextHop.txid = next ∧
        next ∉ confirmed) ∨ OpenHop confirmed rest output next := by
  constructor
  · intro h
    obtain ⟨index, here, nextHop, hhere, hnext, hrest⟩ := h
    cases index with
    | zero =>
      simp only [List.getElem?_cons_zero, Option.some.injEq] at hhere
      subst hhere
      exact .inl ⟨nextHop, by simpa using hnext, hrest⟩
    | succ index =>
      exact .inr ⟨index, here, nextHop, by simpa using hhere, by simpa using hnext, hrest⟩
  · intro h
    cases h with
    | inl h =>
      obtain ⟨nextHop, hnext, hrest⟩ := h
      exact ⟨0, hop, nextHop, by simp, by simpa using hnext, hrest⟩
    | inr h =>
      obtain ⟨index, here, nextHop, hhere, hnext, hrest⟩ := h
      exact ⟨index + 1, here, nextHop, by simpa using hhere, by simpa using hnext, hrest⟩

/-- The loop over the hops watches exactly the open ones. -/
theorem exists_mem_hopOutputs_iff {hops : List ExitHop} {next : Txid} :
    (∃ watched ∈ hopOutputs confirmed hops,
      watched.outpoint = output ∧ watched.allowedSpend = next) ↔
      OpenHop confirmed hops output next := by
  induction hops with
  | nil => simp [hopOutputs, OpenHop]
  | cons hop rest ih =>
    rw [openHop_cons_iff]
    cases rest with
    | nil => simp [hopOutputs, OpenHop]
    | cons nextHop rest =>
      rw [← ih]
      by_cases hconfirmed : nextHop.txid ∈ confirmed
      · simp only [hopOutputs, Std.ExtTreeSet.contains_iff_mem, hconfirmed, if_true]
        constructor
        · exact .inr
        · intro h
          cases h with
          | inl h =>
            obtain ⟨other, hother, -, hnext, hopen⟩ := h
            simp only [List.getElem?_cons_zero, Option.some.injEq] at hother
            subst hother hnext
            exact absurd hconfirmed hopen
          | inr h => exact h
      · simp only [hopOutputs, Std.ExtTreeSet.contains_iff_mem, hconfirmed, if_false,
          List.mem_cons, exists_eq_or_imp, List.getElem?_cons_zero, Option.some.injEq,
          exists_eq_left']
        apply or_congr_left
        constructor
        · intro h
          exact ⟨h.1, h.2, h.2 ▸ hconfirmed⟩
        · intro h
          exact ⟨h.1, h.2.1⟩

variable {watched : WatchedExitOutput}

theorem outcome_of_mem_hopOutputs {hops : List ExitHop} (h : watched ∈ hopOutputs confirmed hops) :
    ∃ role, watched.outcome = seizureOutcome role watched.outpoint := by
  fun_induction hopOutputs confirmed hops with
  | case1 | case2 => simp at h
  | case3 hop nextHop rest outputs hconfirmed ih => exact ih h
  | case4 hop nextHop rest outputs hconfirmed ih =>
    cases List.mem_cons.mp h with
    | inl heq => exact ⟨hop.role, by rw [heq]⟩
    | inr hmem => exact ih hmem

variable {history : VtxoExitHistory}

@[simp]
theorem historyMatchesOutcome_seizureOutcome {role : ExitHopRole} :
    historyMatchesOutcome history (seizureOutcome role output) = true ↔
      history.HasOutput output := by
  cases role <;>
    simp [seizureOutcome, historyMatchesOutcome, VtxoExitHistory.HasOutput, List.any_eq_true]

@[simp]
theorem nodeKind_seizureOutcome_ne_anchor {role : ExitHopRole} :
    (seizureOutcome role output).nodeKind ≠ .anchor := by
  cases role <;> simp [seizureOutcome, ExitChainOutcome.nodeKind]

theorem anchorOutputOfOne_eq_some_iff :
    anchorOutputOfOne history = some watched ↔
      history.firstTxid = some watched.allowedSpend ∧ watched.outpoint = history.anchor ∧
        watched.outcome = .anchorSweep history.anchor := by
  unfold anchorOutputOfOne VtxoExitHistory.firstTxid
  cases history.hops.head? with
  | none => simp
  | some first =>
    cases watched
    simp only [Option.map_some, Option.some.injEq, WatchedExitOutput.mk.injEq]
    grind

/-- A confirmed spend of the watched output by another transaction than the allowed one. -/
def ForeignSpent (spends : BTreeMap OutPoint ExitOutputSpend) (watched : WatchedExitOutput) :
    Prop :=
  ∃ spender, spends[watched.outpoint]? = some (.confirmed spender) ∧
    spender ≠ watched.allowedSpend

theorem outcomeOfSpend_eq_some_iff {outcome : ExitChainOutcome} :
    outcomeOfSpend spends watched = some outcome ↔
      ForeignSpent spends watched ∧ watched.outcome = outcome := by
  unfold outcomeOfSpend ForeignSpent
  split
  · rename_i spender hspend
    simp [hspend]
  · rename_i hspend
    simp only [reduceCtorEq, false_iff, not_and]
    intro h
    obtain ⟨spender, hspender, -⟩ := h
    exact absurd hspender (hspend spender)

theorem mem_exitOutcomesFromSpends_iff {watched : List WatchedExitOutput}
    {outcome : ExitChainOutcome} :
    outcome ∈ exitOutcomesFromSpends watched spends ↔
      ∃ output ∈ watched, ForeignSpent spends output ∧ output.outcome = outcome := by
  simp only [exitOutcomesFromSpends, BTreeSet.mem_toList_ofList, List.mem_filterMap,
    outcomeOfSpend_eq_some_iff]

variable {vtxoId : String}

theorem mem_vtxoIdsWhere_iff {test : VtxoExitHistory → Bool} :
    vtxoId ∈ vtxoIdsWhere test histories ↔
      ∃ history ∈ histories, test history = true ∧ history.vtxoId = vtxoId := by
  simp [vtxoIdsWhere, and_assoc]

variable {kind : ExitNodeKind}

theorem nodeSpent_iff {outcomes : List ExitChainOutcome} :
    nodeSpent outcomes kind history = true ↔
      ∃ outcome ∈ outcomes,
        historyMatchesOutcome history outcome = true ∧ outcome.nodeKind = kind := by
  simp [nodeSpent]

/-! ## The anchor check -/

/-- The watch on an anchor: that of the first history with a hop and that anchor. -/
def anchorWatch (histories : List VtxoExitHistory) (output : OutPoint) : Option WatchedExitOutput :=
  (histories.filterMap anchorOutputOfOne).find? fun watched => watched.outpoint = output

theorem mem_watchedAnchorOutputs_iff :
    watched ∈ watchedAnchorOutputs histories ↔
      anchorWatch histories watched.outpoint = some watched :=
  BTreeMap.mem_vals_orInsertAll

theorem anchorWatch_eq_some (h : anchorWatch histories output = some watched) :
    watched.outpoint = output ∧ watched.outcome = .anchorSweep output ∧
      ∃ history ∈ histories,
        history.anchor = output ∧ history.firstTxid = some watched.allowedSpend := by
  have houtpoint : watched.outpoint = output := by simpa using List.find?_some h
  obtain ⟨history, hmem, hwatch⟩ := List.mem_filterMap.mp (List.mem_of_find?_eq_some h)
  obtain ⟨hfirst, hanchor, houtcome⟩ := anchorOutputOfOne_eq_some_iff.mp hwatch
  rw [houtpoint] at hanchor
  rw [← hanchor] at houtcome
  exact ⟨houtpoint, houtcome, history, hmem, hanchor.symm, hfirst⟩

theorem exists_anchorWatch (hmem : history ∈ histories)
    {first : Txid} (hfirst : history.firstTxid = some first) :
    ∃ watched, anchorWatch histories history.anchor = some watched := by
  rw [← Option.isSome_iff_exists]
  unfold anchorWatch
  rw [List.find?_isSome]
  let watched : WatchedExitOutput :=
    { outpoint := history.anchor, allowedSpend := first, outcome := .anchorSweep history.anchor }
  have hwatch : anchorOutputOfOne history = some watched :=
    anchorOutputOfOne_eq_some_iff.mpr ⟨hfirst, rfl, rfl⟩
  exact ⟨watched, List.mem_filterMap.mpr ⟨history, hmem, hwatch⟩, by simp [watched]⟩

theorem mem_anchorOutpoints_iff :
    output ∈ anchorOutpoints histories ↔
      ∃ history ∈ histories, history.anchor = output ∧ history.firstTxid ≠ none := by
  rw [anchorOutpoints, Std.ExtTreeSet.mem_ofList, List.contains_iff_mem, List.mem_map]
  constructor
  · intro h
    obtain ⟨watched, hmem, houtpoint⟩ := h
    rw [mem_watchedAnchorOutputs_iff, houtpoint] at hmem
    obtain ⟨-, -, history, hhistory, hanchor, hfirst⟩ := anchorWatch_eq_some hmem
    exact ⟨history, hhistory, hanchor, by simp [hfirst]⟩
  · intro h
    obtain ⟨history, hhistory, hanchor, hfirst⟩ := h
    obtain ⟨first, hfirst⟩ := Option.ne_none_iff_exists'.mp hfirst
    obtain ⟨watched, hwatch⟩ := exists_anchorWatch hhistory hfirst
    have houtpoint := (anchorWatch_eq_some hwatch).1
    rw [← houtpoint] at hwatch
    exact ⟨watched, mem_watchedAnchorOutputs_iff.mpr hwatch, houtpoint.trans hanchor⟩

/-- The anchor check reports a history by its anchor's watch. -/
theorem mem_anchorSweepVtxoIds_iff :
    vtxoId ∈ (anchorNotices histories spends).anchorSweepVtxoIds ↔
      ∃ history ∈ histories, (∃ watched, anchorWatch histories history.anchor = some watched ∧
        ForeignSpent spends watched) ∧ history.vtxoId = vtxoId := by
  simp only [anchorNotices, splitExitNotices, mem_vtxoIdsWhere_iff, nodeSpent_iff,
    mem_exitOutcomesFromSpends_iff, mem_watchedAnchorOutputs_iff]
  apply exists_congr
  intro history
  apply and_congr_right
  intro hmem
  apply and_congr_left
  intro hid
  constructor
  · intro h
    obtain ⟨outcome, ⟨watched, hwatch, hforeign, houtcome⟩, hmatches, -⟩ := h
    rw [(anchorWatch_eq_some hwatch).2.1] at houtcome
    subst houtcome
    have hanchor : history.anchor = watched.outpoint := by
      simpa [historyMatchesOutcome] using hmatches
    rw [hanchor]
    exact ⟨watched, hwatch, hforeign⟩
  · intro h
    obtain ⟨watched, hwatch, hforeign⟩ := h
    obtain ⟨houtpoint, houtcome, -⟩ := anchorWatch_eq_some hwatch
    rw [← houtpoint] at hwatch
    exact ⟨_, ⟨watched, hwatch, hforeign, houtcome⟩, by simp [historyMatchesOutcome], rfl⟩

/-- The watch on a hop output: that of the first open hop with that output. -/
def hopWatch (confirmed : BTreeSet Txid) (histories : List VtxoExitHistory)
    (output : OutPoint) : Option WatchedExitOutput :=
  (histories.flatMap (hopOutputsOfOne confirmed)).find? fun watched =>
    watched.outpoint = output

theorem hopWatch_eq_some (h : hopWatch confirmed histories output = some watched) :
    watched.outpoint = output ∧ (∃ role, watched.outcome = seizureOutcome role output) ∧
      ∃ history ∈ histories, OpenHop confirmed history.hops output watched.allowedSpend := by
  have houtpoint : watched.outpoint = output := by simpa using List.find?_some h
  obtain ⟨history, hmem, hwatched⟩ := List.mem_flatMap.mp (List.mem_of_find?_eq_some h)
  obtain ⟨role, hrole⟩ := outcome_of_mem_hopOutputs hwatched
  have hopen := exists_mem_hopOutputs_iff.mp ⟨watched, hwatched, houtpoint, rfl⟩
  exact ⟨houtpoint, ⟨role, houtpoint ▸ hrole⟩, history, hmem, hopen⟩

theorem exists_hopWatch (hmem : history ∈ histories) {next : Txid}
    (hopen : OpenHop confirmed history.hops output next) :
    ∃ watched, hopWatch confirmed histories output = some watched := by
  obtain ⟨watched, hwatched, houtpoint, -⟩ := exists_mem_hopOutputs_iff.mpr hopen
  rw [← Option.isSome_iff_exists]
  unfold hopWatch
  rw [List.find?_isSome]
  exact ⟨watched, List.mem_flatMap.mpr ⟨history, hmem, hwatched⟩, by simp [houtpoint]⟩

/-- Outside the anchors the hop check has the hop watches and nothing else. -/
theorem mem_hopOutputsAfterAnchorCheck_iff {remaining : List VtxoExitHistory}
    (hsubset : ∀ history ∈ remaining, history ∈ histories) :
    watched ∈ hopOutputsAfterAnchorCheck remaining confirmed (anchorOutpoints histories) ↔
      watched.outpoint ∉ anchorOutpoints histories ∧
        hopWatch confirmed remaining watched.outpoint = some watched := by
  have hlookup : ∀ output : OutPoint,
      (BTreeMap.orInsertAll WatchedExitOutput.outpoint
        (BTreeMap.orInsertAll WatchedExitOutput.outpoint ∅ (watchedAnchorOutputs remaining))
        (watchedHopOutputs remaining confirmed))[output]? =
      (anchorWatch remaining output).or (hopWatch confirmed remaining output) := by
    intro output
    simp [watchedAnchorOutputs, watchedHopOutputs, anchorWatch, hopWatch]
  have hanchor : ∀ output, output ∉ anchorOutpoints histories →
      anchorWatch remaining output = none := by
    intro output houtput
    rw [Option.eq_none_iff_forall_not_mem]
    intro anchor hanchor
    obtain ⟨-, -, history, hhistory, heq, hfirst⟩ := anchorWatch_eq_some hanchor
    exact houtput (mem_anchorOutpoints_iff.mpr
      ⟨history, hsubset history hhistory, heq, by simp [hfirst]⟩)
  rw [hopOutputsAfterAnchorCheck, List.mem_filter, watchedExitOutputs, BTreeMap.mem_vals_iff]
  simp only [hlookup, Bool.not_eq_true', ← Bool.not_eq_true, Std.ExtTreeSet.contains_iff_mem]
  constructor
  · intro h
    obtain ⟨⟨output, hwatch⟩, houtside⟩ := h
    have houtpoint : watched.outpoint = output := by
      cases Option.or_eq_some_iff.mp hwatch with
      | inl hanchorWatch => exact (anchorWatch_eq_some hanchorWatch).1
      | inr hhopWatch => exact (hopWatch_eq_some hhopWatch.2).1
    rw [houtpoint] at houtside ⊢
    rw [hanchor output houtside, Option.none_or] at hwatch
    exact ⟨houtside, hwatch⟩
  · intro h
    exact ⟨⟨watched.outpoint, by rw [hanchor _ h.1, Option.none_or]; exact h.2⟩, h.1⟩

/-- The scan lists the VTXO with the kind of a swept anchor. -/
def ReportedAnchorSwept (histories : List VtxoExitHistory) (confirmed : BTreeSet Txid)
    (spends : BTreeMap OutPoint ExitOutputSpend) (vtxoId : String) : Prop :=
  { vtxoId, nodeKind := .anchor } ∈ scanExitChainNotices histories confirmed spends

/-- The scan lists the VTXO with the kind of a seized hop. -/
def ReportedSeized (histories : List VtxoExitHistory) (confirmed : BTreeSet Txid)
    (spends : BTreeMap OutPoint ExitOutputSpend) (vtxoId : String) : Prop :=
  ∃ nodeKind, nodeKind ≠ .anchor ∧
    { vtxoId, nodeKind } ∈ scanExitChainNotices histories confirmed spends

@[simp]
theorem mem_recordedItemsOf {vtxoIds : List String} {item : RecordedExitNodeSweepVtxoItem} :
    item ∈ recordedItemsOf kind vtxoIds ↔ item.vtxoId ∈ vtxoIds ∧ item.nodeKind = kind := by
  cases item
  simp [recordedItemsOf, eq_comm]

theorem reportedAnchorSwept_iff :
    ReportedAnchorSwept histories confirmed spends vtxoId ↔
      vtxoId ∈ (anchorNotices histories spends).anchorSweepVtxoIds := by
  simp [ReportedAnchorSwept, scanExitChainNotices, recordedItems]

theorem mem_remainingHistories_iff (confirmed : BTreeSet Txid) :
    history ∈ remainingHistories histories spends ↔
      history ∈ histories ∧
        ¬ ReportedAnchorSwept histories confirmed spends history.vtxoId := by
  simp only [remainingHistories, List.mem_filter, reportedAnchorSwept_iff,
    Bool.not_eq_true', ← Bool.not_eq_true, List.any_eq_true, decide_eq_true_eq,
    exists_eq_right]

/-- The seizures of one kind, through the hop watches. -/
theorem mem_seizedIds_iff :
    vtxoId ∈ seizedIds
        (exitOutcomesFromSpends
          (hopOutputsAfterAnchorCheck (remainingHistories histories spends) confirmed
            (anchorOutpoints histories)) spends)
        kind (remainingHistories histories spends) ↔
      ∃ history ∈ remainingHistories histories spends,
        (∃ watched, watched.outpoint ∉ anchorOutpoints histories ∧
          hopWatch confirmed (remainingHistories histories spends) watched.outpoint = some watched ∧
          ForeignSpent spends watched ∧ history.HasOutput watched.outpoint ∧
          watched.outcome.nodeKind = kind) ∧ history.vtxoId = vtxoId := by
  have hsubset : ∀ history ∈ remainingHistories histories spends, history ∈ histories :=
    fun history hmem => (List.mem_filter.mp hmem).1
  simp only [seizedIds, mem_vtxoIdsWhere_iff, Bool.and_eq_true, Bool.not_eq_true',
    ← Bool.not_eq_true, nodeSpent_iff, mem_exitOutcomesFromSpends_iff,
    mem_hopOutputsAfterAnchorCheck_iff hsubset]
  apply exists_congr
  intro history
  apply and_congr_right
  intro hmem
  apply and_congr_left
  intro hid
  constructor
  · intro h
    obtain ⟨-, outcome, ⟨watched, ⟨houtside, hwatch⟩, hforeign, houtcome⟩, hmatches, hnode⟩ := h
    obtain ⟨-, ⟨role, hrole⟩, -⟩ := hopWatch_eq_some hwatch
    subst houtcome
    rw [hrole, historyMatchesOutcome_seizureOutcome] at hmatches
    exact ⟨watched, houtside, hwatch, hforeign, hmatches, hnode⟩
  · intro h
    obtain ⟨watched, houtside, hwatch, hforeign, houtput, hnode⟩ := h
    obtain ⟨-, ⟨role, hrole⟩, -⟩ := hopWatch_eq_some hwatch
    constructor
    · -- No outcome of the hop check is an anchor sweep.
      intro hswept
      obtain ⟨outcome, ⟨other, ⟨-, hother⟩, -, houtcome⟩, -, hanchor⟩ := hswept
      obtain ⟨-, ⟨otherRole, hotherRole⟩, -⟩ := hopWatch_eq_some hother
      rw [← houtcome, hotherRole] at hanchor
      exact nodeKind_seizureOutcome_ne_anchor hanchor
    · refine ⟨_, ⟨watched, ⟨houtside, hwatch⟩, hforeign, rfl⟩, ?_, hnode⟩
      rw [hrole, historyMatchesOutcome_seizureOutcome]
      exact houtput

/-- A VTXO is reported as seized when its anchor was not, and the watch on one of its
outputs was spent by another transaction than the one that watch allows. -/
theorem reportedSeized_iff :
    ReportedSeized histories confirmed spends vtxoId ↔
      ∃ history ∈ remainingHistories histories spends,
        (∃ watched, watched.outpoint ∉ anchorOutpoints histories ∧
          hopWatch confirmed (remainingHistories histories spends) watched.outpoint = some watched ∧
          ForeignSpent spends watched ∧ history.HasOutput watched.outpoint) ∧
        history.vtxoId = vtxoId := by
  have hkinds : ReportedSeized histories confirmed spends vtxoId ↔
      ∃ kind, kind ≠ .anchor ∧ vtxoId ∈ seizedIds
        (exitOutcomesFromSpends
          (hopOutputsAfterAnchorCheck (remainingHistories histories spends) confirmed
            (anchorOutpoints histories)) spends)
        kind (remainingHistories histories spends) := by
    apply exists_congr
    intro kind
    apply and_congr_right
    intro hkind
    cases kind <;>
      simp_all [scanExitChainNotices, recordedItems, hopNotices, splitExitNotices]
  rw [hkinds]
  constructor
  · intro h
    obtain ⟨kind, hkind, hmem⟩ := h
    obtain ⟨history, hhistory, ⟨watched, houtside, hwatch, hforeign, houtput, -⟩, hid⟩ :=
      mem_seizedIds_iff.mp hmem
    exact ⟨history, hhistory, ⟨watched, houtside, hwatch, hforeign, houtput⟩, hid⟩
  · intro h
    obtain ⟨history, hhistory, ⟨watched, houtside, hwatch, hforeign, houtput⟩, hid⟩ := h
    obtain ⟨-, ⟨role, hrole⟩, -⟩ := hopWatch_eq_some hwatch
    have hkind : watched.outcome.nodeKind ≠ .anchor := by
      rw [hrole]
      exact nodeKind_seizureOutcome_ne_anchor
    exact ⟨_, hkind, mem_seizedIds_iff.mpr
      ⟨history, hhistory, ⟨watched, houtside, hwatch, hforeign, houtput, rfl⟩, hid⟩⟩

end Bitboard.Bark
