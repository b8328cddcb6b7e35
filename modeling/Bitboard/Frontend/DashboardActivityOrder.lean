/-
# The order of the activity

Items of one sort time are in order only by their boardings. The comparator is a strict weak order
exactly where no unrelated item shares the sort time of a boarding. Otherwise such an item stands
between the two, and a sort may leave the credit below its funding.
-/

import Bitboard.Frontend.DashboardActivity

namespace Bitboard.Frontend.DashboardActivity

open Bitboard.Lib DashboardActivityItem

variable {x y z : DashboardActivityItem} {items : List DashboardActivityItem}
  {activity : ActivityLists}
variable {payment : ArkadePaymentRow}

section Comparator

theorem isBoardingFundToVtxoPair_directions {tx : TransactionDetails}
    (h : isBoardingFundToVtxoPair tx payment = true) :
    formatTxDirection tx = .sent ∧ payment.direction = .incoming := by
  unfold isBoardingFundToVtxoPair at h
  split at h
  · cases h
  · split at h
    · cases h
    · rename_i hdirections
      exact ⟨Decidable.not_not.mp fun hsent => hdirections (.inl hsent),
        Decidable.not_not.mp fun hincoming => hdirections (.inr hincoming)⟩

/-- A credit belongs before what funds it, and what funds it belongs behind. -/
theorem tieBreak_eq (x y : DashboardActivityItem) :
    boardingActivitySortTieBreak x y =
      if funds y x then -1 else if funds x y then 1 else 0 := by
  cases x with
  | chain tx label =>
    cases y with
    | arkade payment other =>
      show (if formatTxDirection tx = .sent ∧ payment.direction = .incoming ∧
        isBoardingFundToVtxoPair tx payment = true then (1 : Int) else 0) =
          if isBoardingFundToVtxoPair tx payment = true then 1 else 0
      by_cases hpair : isBoardingFundToVtxoPair tx payment = true
      · have hdirections := isBoardingFundToVtxoPair_directions hpair
        rw [if_pos ⟨hdirections.1, hdirections.2, hpair⟩, if_pos hpair]
      · rw [if_neg fun h => hpair h.2.2, if_neg hpair]
    | chain | lightning | bark => rfl
  | arkade payment label =>
    cases y with
    | chain tx other =>
      show (if payment.direction = .incoming ∧ formatTxDirection tx = .sent ∧
        isBoardingFundToVtxoPair tx payment = true then (-1 : Int) else 0) =
          if isBoardingFundToVtxoPair tx payment = true then -1 else 0
      by_cases hpair : isBoardingFundToVtxoPair tx payment = true
      · have hdirections := isBoardingFundToVtxoPair_directions hpair
        rw [if_pos ⟨hdirections.2, hdirections.1, hpair⟩, if_pos hpair]
      · rw [if_neg fun h => hpair h.2.2, if_neg hpair]
    | arkade | lightning | bark => rfl
  | lightning | bark =>
    cases y with
    | chain | arkade | lightning | bark => rfl

theorem not_funds_of_funds (h : funds x y = true) : funds z x = false := by
  cases x with
  | chain tx label =>
    cases z with
    | chain | lightning | arkade | bark => rfl
  | lightning | arkade | bark => cases h

theorem not_funds_of_funded (h : funds x y = true) : funds y z = false := by
  cases y with
  | arkade payment label => rfl
  | chain tx label =>
    cases x with
    | chain | lightning | arkade | bark => cases h
  | lightning | bark => rfl

theorem compare_of_same_time (htime : dashboardActivitySortTime x = dashboardActivitySortTime y) :
    compareDashboardActivityItems x y = boardingActivitySortTieBreak x y := by
  have hdelta : dashboardActivitySortTime y - dashboardActivitySortTime x = 0 := by omega
  simp only [compareDashboardActivityItems, hdelta, ne_eq, not_true_eq_false, if_false]

/-- What the comparator says: later items belong before earlier ones, and credits before what funds
them. -/
theorem compare_lt_iff : compareDashboardActivityItems x y < 0 ↔
    dashboardActivitySortTime y < dashboardActivitySortTime x ∨
      (dashboardActivitySortTime x = dashboardActivitySortTime y ∧ funds y x = true) := by
  by_cases htime : dashboardActivitySortTime x = dashboardActivitySortTime y
  · rw [compare_of_same_time htime, tieBreak_eq]
    by_cases hcredit : funds y x = true
    · rw [if_pos hcredit]
      exact ⟨fun _ => .inr ⟨htime, hcredit⟩, fun _ => by decide⟩
    · rw [if_neg hcredit]
      constructor
      · intro hlt
        split at hlt
        · omega
        · omega
      · intro h
        cases h with
        | inl hlater => omega
        | inr hboth => exact absurd hboth.2 hcredit
  · have hdelta : dashboardActivitySortTime y - dashboardActivitySortTime x ≠ 0 := by omega
    simp only [compareDashboardActivityItems, if_pos hdelta]
    constructor
    · intro hlt
      exact .inl (by omega)
    · intro h
      cases h with
      | inl hlater => omega
      | inr hboth => exact absurd hboth.1 htime

theorem compare_swap : compareDashboardActivityItems x y = -compareDashboardActivityItems y x := by
  by_cases htime : dashboardActivitySortTime x = dashboardActivitySortTime y
  · rw [compare_of_same_time htime, compare_of_same_time htime.symm, tieBreak_eq, tieBreak_eq]
    by_cases hcredit : funds y x = true
    · simp [hcredit, not_funds_of_funds hcredit]
    · by_cases hfunding : funds x y = true
      · simp [hcredit, hfunding]
      · simp [hcredit, hfunding]
  · unfold compareDashboardActivityItems
    rw [if_pos (by omega), if_pos (by omega)]
    omega

theorem compare_pos_iff : 0 < compareDashboardActivityItems x y ↔
    dashboardActivitySortTime x < dashboardActivitySortTime y ∨
      (dashboardActivitySortTime x = dashboardActivitySortTime y ∧ funds x y = true) := by
  rw [compare_swap, Int.neg_pos, compare_lt_iff, eq_comm]

/-- Items that belong nowhere before each other share a sort time and no boarding. -/
theorem compare_eq_zero_iff : compareDashboardActivityItems x y = 0 ↔
    dashboardActivitySortTime x = dashboardActivitySortTime y ∧ funds x y = false ∧
      funds y x = false := by
  have hlt := compare_lt_iff (x := x) (y := y)
  have hpos := compare_pos_iff (x := x) (y := y)
  constructor
  · intro hzero
    have hnotLt : ¬ compareDashboardActivityItems x y < 0 := by omega
    have hnotPos : ¬ 0 < compareDashboardActivityItems x y := by omega
    rw [hlt] at hnotLt
    rw [hpos] at hnotPos
    have htime : dashboardActivitySortTime x = dashboardActivitySortTime y := by omega
    refine ⟨htime, ?_, ?_⟩
    · exact Bool.eq_false_iff.mpr fun hfunds => hnotPos (.inr ⟨htime, hfunds⟩)
    · exact Bool.eq_false_iff.mpr fun hfunds => hnotLt (.inr ⟨htime, hfunds⟩)
  · intro h
    obtain ⟨htime, hfunding, hcredit⟩ := h
    have hnotLt : ¬ compareDashboardActivityItems x y < 0 := by
      rw [hlt, hcredit]
      simp [htime]
    have hnotPos : ¬ 0 < compareDashboardActivityItems x y := by
      rw [hpos, hfunding]
      simp [htime]
    omega

/-- The comparator is a strict weak order exactly where boardings are alone in their second. -/
theorem strictWeakOrderOn_iff :
    StrictWeakOrderOn compareDashboardActivityItems activity.items ↔
      BoardingsAreAlone activity := by
  constructor
  · intro h credit hcredit funding hfunding other hother hsame htime hfunds
    by_contra hnone
    rw [not_or, Bool.not_eq_true, Bool.not_eq_true] at hnone
    have hfirst : compareDashboardActivityItems credit other = 0 :=
      compare_eq_zero_iff.mpr ⟨hsame.trans htime.symm, not_funds_of_funded hfunds, hnone.1⟩
    have hsecond : compareDashboardActivityItems other funding = 0 :=
      compare_eq_zero_iff.mpr ⟨htime, not_funds_of_funds hfunds, hnone.2⟩
    have htie := compare_eq_zero_iff.mp
      (h.tie_trans credit hcredit other hother funding hfunding hfirst hsecond)
    rw [hfunds] at htie
    cases htie.2.2
  · intro h
    exact {
      self_eq := by
        intro x _
        rw [compare_eq_zero_iff]
        have hnone : funds x x = false := by
          cases x with
          | chain | lightning | arkade | bark => rfl
        exact ⟨rfl, hnone, hnone⟩
      pos_iff := by
        intro x _ y _
        rw [compare_pos_iff, compare_lt_iff, eq_comm]
      trans := by
        intro x _ y _ z _ hxy hyz
        rw [compare_lt_iff] at hxy hyz ⊢
        cases hxy with
        | inl hlater =>
          cases hyz with
          | inl | inr => exact .inl (by omega)
        | inr hfunded =>
          cases hyz with
          | inl hnext => exact .inl (by omega)
          | inr hboth =>
            -- What funds the first item is no credit itself.
            rw [not_funds_of_funds hfunded.2] at hboth
            cases hboth.2
      tie_trans := by
        intro x hx y hy z hz hxy hyz
        rw [compare_eq_zero_iff] at hxy hyz ⊢
        have htime := hxy.1.trans hyz.1
        refine ⟨htime, ?_, ?_⟩
        · rw [← Bool.not_eq_true]
          intro hfunds
          cases h z hz x hx y hy htime.symm hxy.1.symm hfunds with
          | inl hcredit =>
            rw [hyz.2.1] at hcredit
            cases hcredit
          | inr hfunding =>
            rw [hxy.2.1] at hfunding
            cases hfunding
        · rw [← Bool.not_eq_true]
          intro hfunds
          cases h x hx z hz y hy htime hyz.1 hfunds with
          | inl hcredit =>
            rw [hxy.2.2] at hcredit
            cases hcredit
          | inr hfunding =>
            rw [hyz.2.2] at hfunding
            cases hfunding }

end Comparator

/-! ## Labels -/

variable {chainIndex : Nat}
variable (marked : Nat → Bool)

section Labels

def labelIf (marked : Bool) : DashboardActivityItem → DashboardActivityItem
  | .chain tx _ =>
    .chain tx (if marked then some ONCHAIN_ARKADE_BOARDING_ACTIVITY_LABEL else none)
  | .lightning payment => .lightning payment
  | .arkade payment _ =>
    .arkade payment (if marked then some ARKADE_BOARDING_ACTIVITY_LABEL else none)
  | .bark movement => .bark movement

def labelMarked (items : List DashboardActivityItem) (marked : Nat → Bool) :
    List DashboardActivityItem :=
  items.mapIdx fun index item => labelIf (marked index) item

/-- The item at the first place funds the one at the second place. -/
def fundsAt (items : List DashboardActivityItem) (chainIndex arkIndex : Nat) : Bool :=
  match items[chainIndex]?, items[arkIndex]? with
  | some chainItem, some arkItem => funds chainItem arkItem
  | _, _ => false

theorem labelIf_false (item : DashboardActivityItem) : labelIf false item = item.withoutLabel := by
  cases item with
  | chain | lightning => rfl
  | arkade | bark => rfl

theorem getElem?_labelMarked (index : Nat) :
    (labelMarked items marked)[index]? = items[index]?.map (labelIf (marked index)) := by
  rw [labelMarked, List.getElem?_mapIdx]

theorem length_labelMarked : (labelMarked items marked).length = items.length := List.length_mapIdx

theorem labelMarked_congr {marked other : Nat → Bool} (h : ∀ index, marked index = other index) :
    labelMarked items marked = labelMarked items other := by
  rw [funext h]

variable {label : Option String} {tx : TransactionDetails}

/-- One round of the inner loop marks both items of a boarding. -/
theorem labelPair_labelMarked (hchain : items[chainIndex]? = some (.chain tx label))
    (marked : Nat → Bool) (arkIndex : Nat) :
    labelPair chainIndex tx (labelMarked items marked) arkIndex =
      labelMarked items fun index =>
        marked index || (fundsAt items chainIndex arkIndex &&
          (index == chainIndex || index == arkIndex)) := by
  unfold labelPair
  rw [getElem?_labelMarked]
  by_cases hpair : fundsAt items chainIndex arkIndex = true
  · cases hark : items[arkIndex]? with
    | none =>
      rw [fundsAt, hchain, hark] at hpair
      cases hpair
    | some item =>
      cases item with
      | arkade payment arkLabel =>
        have hfunds : isBoardingFundToVtxoPair tx payment = true := by
          rw [fundsAt, hchain, hark] at hpair
          exact hpair
        have hapart : chainIndex ≠ arkIndex := by
          intro heq
          rw [heq, hark] at hchain
          cases hchain
        simp only [Option.map_some, labelIf, if_pos hfunds, hpair, Bool.true_and]
        apply List.ext_getElem?
        intro index
        rw [List.getElem?_set, List.getElem?_set, getElem?_labelMarked, List.length_set,
          length_labelMarked]
        have harkLt : arkIndex < items.length := (List.getElem?_eq_some_iff.mp hark).1
        have hchainLt : chainIndex < items.length := (List.getElem?_eq_some_iff.mp hchain).1
        by_cases hisArk : arkIndex = index
        · subst hisArk
          rw [if_pos rfl, if_pos harkLt, getElem?_labelMarked, hark]
          simp [labelIf]
        · rw [if_neg hisArk]
          by_cases hisChain : chainIndex = index
          · subst hisChain
            rw [if_pos rfl, if_pos hchainLt, getElem?_labelMarked, hchain]
            simp [labelIf]
          · rw [if_neg hisChain, getElem?_labelMarked]
            have hnotChain : (index == chainIndex) = false := by
              simpa using Ne.symm hisChain
            have hnotArk : (index == arkIndex) = false := by
              simpa using Ne.symm hisArk
            rw [hnotChain, hnotArk, Bool.or_false, Bool.or_false]
      | chain | lightning | bark =>
        rw [fundsAt, hchain, hark] at hpair
        cases hpair
  · have hkept : labelMarked items (fun index => marked index ||
        (fundsAt items chainIndex arkIndex && (index == chainIndex || index == arkIndex))) =
          labelMarked items marked := by
      apply labelMarked_congr
      intro index
      rw [Bool.eq_false_iff.mpr hpair, Bool.false_and, Bool.or_false]
    rw [hkept]
    cases hark : items[arkIndex]? with
    | none => rfl
    | some item =>
      cases item with
      | arkade payment arkLabel =>
        have hfunds : ¬ isBoardingFundToVtxoPair tx payment = true := by
          rw [fundsAt, hchain, hark] at hpair
          exact hpair
        simp only [Option.map_some, labelIf, if_neg hfunds]
      | chain | lightning | bark => rfl

theorem foldl_labelPair (hchain : items[chainIndex]? = some (.chain tx label)) (marked : Nat → Bool)
    (arkIndices : List Nat) :
    arkIndices.foldl (labelPair chainIndex tx) (labelMarked items marked) =
      labelMarked items fun index => marked index || arkIndices.any fun arkIndex =>
        fundsAt items chainIndex arkIndex && (index == chainIndex || index == arkIndex) := by
  induction arkIndices generalizing marked with
  | nil =>
    rw [List.foldl_nil]
    apply labelMarked_congr
    intro index
    rw [List.any_nil, Bool.or_false]
  | cons arkIndex rest ih =>
    rw [List.foldl_cons, labelPair_labelMarked hchain, ih]
    apply labelMarked_congr
    intro index
    rw [List.any_cons, Bool.or_assoc]

/-- One round of the outer loop does so for any item. -/
theorem labelChainItem_labelMarked (chainIndex : Nat) :
    labelChainItem (labelMarked items marked) chainIndex =
      labelMarked items fun index => marked index ||
        (List.range items.length).any fun arkIndex =>
          fundsAt items chainIndex arkIndex && (index == chainIndex || index == arkIndex) := by
  unfold labelChainItem
  rw [getElem?_labelMarked, length_labelMarked]
  have hkept (hnone : ∀ arkIndex, fundsAt items chainIndex arkIndex = false) :
      labelMarked items marked = labelMarked items fun index => marked index ||
        (List.range items.length).any fun arkIndex =>
          fundsAt items chainIndex arkIndex && (index == chainIndex || index == arkIndex) := by
    apply labelMarked_congr
    intro index
    simp [hnone]
  cases hchain : items[chainIndex]? with
  | none =>
    apply hkept
    intro arkIndex
    rw [fundsAt, hchain]
  | some item =>
    cases item with
    | chain tx label =>
      exact foldl_labelPair hchain marked (List.range items.length)
    | lightning | arkade | bark =>
      apply hkept
      intro arkIndex
      rw [fundsAt, hchain]
      cases items[arkIndex]? with
      | none | some => rfl

theorem foldl_labelChainItem (items : List DashboardActivityItem) (marked : Nat → Bool)
    (chainIndices : List Nat) :
    chainIndices.foldl labelChainItem (labelMarked items marked) =
      labelMarked items fun index => marked index || chainIndices.any fun chainIndex =>
        (List.range items.length).any fun arkIndex =>
          fundsAt items chainIndex arkIndex && (index == chainIndex || index == arkIndex) := by
  induction chainIndices generalizing marked with
  | nil =>
    rw [List.foldl_nil]
    apply labelMarked_congr
    intro index
    rw [List.any_nil, Bool.or_false]
  | cons chainIndex rest ih =>
    rw [List.foldl_cons, labelChainItem_labelMarked, ih]
    apply labelMarked_congr
    intro index
    rw [List.any_cons, Bool.or_assoc]

def isBoarding (items : List DashboardActivityItem) (index : Nat) : Bool :=
  (List.range items.length).any fun other =>
    fundsAt items index other || fundsAt items other index

theorem fundsAt_lt {arkIndex : Nat} (h : fundsAt items chainIndex arkIndex = true) :
    chainIndex < items.length ∧ arkIndex < items.length := by
  unfold fundsAt at h
  split at h
  · rename_i hchain hark
    exact ⟨(List.getElem?_eq_some_iff.mp hchain).1, (List.getElem?_eq_some_iff.mp hark).1⟩
  · cases h

/-- Both loops label the items of the boardings. -/
theorem applyBoardingActivityLabels_eq (hplain : ∀ item ∈ items, item.withoutLabel = item) :
    applyBoardingActivityLabels items = labelMarked items (isBoarding items) := by
  have hstart : labelMarked items (fun _ => false) = items := by
    apply List.ext_getElem?
    intro index
    rw [getElem?_labelMarked]
    cases hitem : items[index]? with
    | none => rfl
    | some item =>
      rw [Option.map_some, labelIf_false, hplain item (List.mem_of_getElem? hitem)]
  have hloop := foldl_labelChainItem items (fun _ => false) (List.range items.length)
  rw [hstart] at hloop
  rw [applyBoardingActivityLabels, hloop]
  apply labelMarked_congr
  intro index
  rw [Bool.false_or, isBoarding, Bool.eq_iff_iff]
  simp only [List.any_eq_true, List.mem_range, Bool.and_eq_true, Bool.or_eq_true, beq_iff_eq]
  constructor
  · intro h
    obtain ⟨chainIndex, hchainLt, arkIndex, harkLt, hfunds, hindex⟩ := h
    cases hindex with
    | inl heq =>
      rw [heq]
      exact ⟨arkIndex, harkLt, .inl hfunds⟩
    | inr heq =>
      rw [heq]
      exact ⟨chainIndex, hchainLt, .inr hfunds⟩
  · intro h
    obtain ⟨other, hlt, hfunds⟩ := h
    cases hfunds with
    | inl hfunding => exact ⟨index, (fundsAt_lt hfunding).1, other, hlt, hfunding, .inl rfl⟩
    | inr hcredit => exact ⟨other, hlt, index, (fundsAt_lt hcredit).2, hcredit, .inr rfl⟩

theorem isBoarding_iff {index : Nat} (hitem : items[index]? = some x) :
    isBoarding items index = true ↔
      ∃ other ∈ items, funds x other = true ∨ funds other x = true := by
  rw [isBoarding]
  simp only [List.any_eq_true, List.mem_range, Bool.or_eq_true, fundsAt, hitem]
  constructor
  · intro h
    obtain ⟨place, hlt, hfunds⟩ := h
    rw [List.getElem?_eq_getElem hlt] at hfunds
    exact ⟨items[place], List.getElem_mem hlt, hfunds⟩
  · intro h
    obtain ⟨other, hmem, hfunds⟩ := h
    obtain ⟨place, hlt, heq⟩ := List.getElem_of_mem hmem
    apply Exists.intro place
    apply And.intro hlt
    rw [List.getElem?_eq_getElem hlt, heq]
    exact hfunds

theorem mem_labelMarked {marked : Nat → Bool} (hmem : x ∈ labelMarked items marked) :
    ∃ index item, items[index]? = some item ∧ x = labelIf (marked index) item := by
  obtain ⟨index, hindex⟩ := List.mem_iff_getElem?.mp hmem
  rw [getElem?_labelMarked] at hindex
  obtain ⟨item, hitem, heq⟩ := Option.map_eq_some_iff.mp hindex
  exact ⟨index, item, hitem, heq.symm⟩

/-- An on-chain item is labeled if it funds some credit. -/
theorem chain_label_iff (hmem : .chain tx label ∈ labelMarked items (isBoarding items)) :
    label.isSome = true ↔ ∃ payment otherLabel, .arkade payment otherLabel ∈ items ∧
      isBoardingFundToVtxoPair tx payment = true := by
  obtain ⟨index, item, hitem, heq⟩ := mem_labelMarked hmem
  cases item with
  | chain other otherLabel =>
    cases heq
    rw [Option.isSome_ite, isBoarding_iff hitem]
    constructor
    · rintro ⟨credit, hcredit, hfunds⟩
      cases credit with
      | arkade payment creditLabel =>
        exact ⟨payment, creditLabel, hcredit, by simpa [funds] using hfunds⟩
      | _ => simp [funds] at hfunds
    · rintro ⟨payment, creditLabel, hcredit, hpair⟩
      exact ⟨_, hcredit, .inl hpair⟩
  | _ => cases heq

/-- An Arkade item is labeled if some on-chain item funds it. -/
theorem arkade_label_iff (hmem : .arkade payment label ∈ labelMarked items (isBoarding items)) :
    label.isSome = true ↔ ∃ tx otherLabel, .chain tx otherLabel ∈ items ∧
      isBoardingFundToVtxoPair tx payment = true := by
  obtain ⟨index, item, hitem, heq⟩ := mem_labelMarked hmem
  cases item with
  | arkade other otherLabel =>
    cases heq
    rw [Option.isSome_ite, isBoarding_iff hitem]
    constructor
    · rintro ⟨funding, hfunding, hfunds⟩
      cases funding with
      | chain tx fundingLabel =>
        exact ⟨tx, fundingLabel, hfunding, by simpa [funds] using hfunds⟩
      | _ => simp [funds] at hfunds
    · rintro ⟨tx, fundingLabel, hfunding, hpair⟩
      exact ⟨_, hfunding, .inr hpair⟩
  | _ => cases heq

theorem map_withoutLabel_labelMarked (hplain : ∀ item ∈ items, item.withoutLabel = item) :
    (labelMarked items marked).map withoutLabel = items := by
  apply List.ext_getElem?
  intro index
  rw [List.getElem?_map, getElem?_labelMarked, Option.map_map]
  cases hitem : items[index]? with
  | none => rfl
  | some item =>
    have hsame := hplain item (List.mem_of_getElem? hitem)
    rw [Option.map_some]
    congr 1
    cases item with
    | chain | arkade => exact hsame
    | lightning | bark => rfl

end Labels

section Shown

theorem sortTime_withoutLabel (item : DashboardActivityItem) :
    dashboardActivitySortTime item.withoutLabel = dashboardActivitySortTime item := by
  cases item with
  | chain | lightning => rfl
  | arkade | bark => rfl

theorem funds_withoutLabel (funding credit : DashboardActivityItem) :
    funds funding.withoutLabel credit.withoutLabel = funds funding credit := by
  cases funding with
  | chain tx label =>
    cases credit with
    | chain | lightning | arkade | bark => rfl
  | lightning payment => rfl
  | arkade | bark => rfl

theorem withoutLabel_of_mem_items : ∀ item ∈ activity.items, item.withoutLabel = item := by
  intro item hitem
  simp only [ActivityLists.items, List.mem_append, List.mem_map] at hitem
  cases item with
  | lightning | bark => rfl
  | chain tx label =>
    simp only [chain.injEq, reduceCtorEq, and_false, exists_false, or_false] at hitem
    obtain ⟨_, _, _, hlabel⟩ := hitem
    rw [← hlabel]
    rfl
  | arkade payment label =>
    simp only [arkade.injEq, reduceCtorEq, and_false, exists_false, or_false, false_or] at hitem
    obtain ⟨_, _, _, hlabel⟩ := hitem
    rw [← hlabel]
    rfl

theorem chain_mem_items_iff {tx : TransactionDetails} :
    .chain tx none ∈ activity.items ↔ tx ∈ activity.onChain := by
  simp [ActivityLists.items]

theorem arkade_mem_items_iff :
    .arkade payment none ∈ activity.items ↔ payment ∈ activity.arkade := by
  simp [ActivityLists.items]

/-- With any stable sort, boardings that are alone in their second are shown right. -/
theorem BoardingsAreAlone.showsActivity (halone : BoardingsAreAlone activity)
    {sort : (DashboardActivityItem → DashboardActivityItem → Int) →
      List DashboardActivityItem → List DashboardActivityItem} (hsort : IsStableSort sort) :
    ShowsActivity activity (mergeAndSortDashboardActivity sort activity) := by
  have hperm := hsort.perm compareDashboardActivityItems activity.items
  have hsorted := hsort.sorted compareDashboardActivityItems activity.items
    (strictWeakOrderOn_iff.mpr halone)
  rw [mergeAndSortDashboardActivity]
  generalize sort compareDashboardActivityItems activity.items = sorted at hperm hsorted ⊢
  have hplain : ∀ item ∈ sorted, item.withoutLabel = item := by
    intro item hitem
    exact withoutLabel_of_mem_items item (hperm.mem_iff.mp hitem)
  rw [applyBoardingActivityLabels_eq hplain]
  have hstrip := map_withoutLabel_labelMarked (isBoarding sorted) hplain
  have hordered : (labelMarked sorted (isBoarding sorted)).Pairwise fun upper lower =>
      compareDashboardActivityItems upper.withoutLabel lower.withoutLabel ≤ 0 := by
    have hmapped : ((labelMarked sorted (isBoarding sorted)).map withoutLabel).Pairwise
        fun upper lower => compareDashboardActivityItems upper lower ≤ 0 := by
      rw [hstrip]
      exact hsorted
    exact List.pairwise_map.mp hmapped
  exact {
    every_item_once := by
      rw [hstrip]
      exact hperm
    newest_first := by
      apply hordered.imp
      intro upper lower hle
      have hnot : ¬ 0 < compareDashboardActivityItems upper.withoutLabel lower.withoutLabel := by
        omega
      rw [compare_pos_iff, sortTime_withoutLabel, sortTime_withoutLabel] at hnot
      omega
    credit_above := by
      apply hordered.imp
      intro upper lower hle hfunding
      have hpos : 0 < compareDashboardActivityItems upper.withoutLabel lower.withoutLabel := by
        rw [compare_pos_iff, sortTime_withoutLabel, sortTime_withoutLabel, funds_withoutLabel]
        exact .inr hfunding
      omega
    chain_label := by
      intro tx label hmem
      rw [chain_label_iff hmem]
      constructor
      · intro h
        obtain ⟨payment, otherLabel, hother, hfunds⟩ := h
        have hitem : .arkade payment none ∈ sorted := by
          rw [← hplain _ hother] at hother
          exact hother
        exact ⟨payment, arkade_mem_items_iff.mp (hperm.mem_iff.mp hitem), hfunds⟩
      · intro h
        obtain ⟨payment, hpayment, hfunds⟩ := h
        exact ⟨payment, none, hperm.mem_iff.mpr (arkade_mem_items_iff.mpr hpayment), hfunds⟩
    arkade_label := by
      intro payment label hmem
      rw [arkade_label_iff hmem]
      constructor
      · intro h
        obtain ⟨tx, otherLabel, hother, hfunds⟩ := h
        have hitem : .chain tx none ∈ sorted := by
          rw [← hplain _ hother] at hother
          exact hother
        exact ⟨tx, chain_mem_items_iff.mp (hperm.mem_iff.mp hitem), hfunds⟩
      · intro h
        obtain ⟨tx, htx, hfunds⟩ := h
        exact ⟨tx, none, hperm.mem_iff.mpr (chain_mem_items_iff.mpr htx), hfunds⟩ }

/-- Nothing of an earlier time stands above an unconfirmed on-chain item. -/
theorem ShowsActivity.unconfirmed_above {shown : List DashboardActivityItem}
    (h : ShowsActivity activity shown) :
    shown.Pairwise fun upper lower => ∀ tx label, lower = .chain tx label →
      tx.isConfirmed = false →
        UNCONFIRMED_CHAIN_SORT_PRIORITY ≤ dashboardActivitySortTime upper := by
  refine h.newest_first.imp ?_
  rintro upper lower hle tx label rfl hunconfirmed
  simpa [dashboardActivitySortTime, chainSortTime, hunconfirmed] using hle

/-- The activity is merged right exactly where boardings are alone in their second. -/
theorem mergesActivity_iff : MergesActivity activity ↔ BoardingsAreAlone activity := by
  constructor
  · intro h
    exact strictWeakOrderOn_iff.mp h.comparator
  · intro halone
    exact ⟨strictWeakOrderOn_iff.mpr halone, fun sort hsort => halone.showsActivity hsort⟩

end Shown

def boardingSend : TransactionDetails where
  txid := "f0"
  sentSats := 10000
  receivedSats := 0
  feeSats := none
  confirmationTime := some 1748836800
  isConfirmed := true
  isLabTx := false

def boardingCredit : ArkadePaymentRow where
  direction := .incoming
  amountSats := 10000
  timestamp := 1748836800
  txid := "f1"

def crowdedSecond : ActivityLists where
  onChain := [boardingSend]
  lightning := [{ paymentHash := "f2", timestamp := 1748836800, connectionId := "wallet" }]
  arkade := [boardingCredit]
  bark := []

/-- Insertion, which is a stable sort, leaves the credit below the send when a Lightning payment
of the same second stands between them. -/
theorem crowdedSecond_not_mergesActivity : ¬ MergesActivity crowdedSecond := by
  intro h
  have hshown := h.shown insertionSort insertionSort_isStableSort
  have hlist : mergeAndSortDashboardActivity insertionSort crowdedSecond =
      [.chain boardingSend (some ONCHAIN_ARKADE_BOARDING_ACTIVITY_LABEL),
        .lightning { paymentHash := "f2", timestamp := 1748836800, connectionId := "wallet" },
        .arkade boardingCredit (some ARKADE_BOARDING_ACTIVITY_LABEL)] := by
    decide +kernel
  have habove := hshown.credit_above
  rw [hlist, List.pairwise_cons] at habove
  have hcredit := habove.1 (.arkade boardingCredit (some ARKADE_BOARDING_ACTIVITY_LABEL)) (by simp)
  exact hcredit (by decide +kernel)

end Bitboard.Frontend.DashboardActivity
