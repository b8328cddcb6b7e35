/-
# Loops that can fail, and updates of a first match

A loop whose body may return an error is a left fold in `Except`. A property of the
loop's state that every successful round keeps holds when the whole loop succeeds.

`modifyFirst` updates the first element of a list that satisfies a test, as a loop
over mutable references that stops at its first hit does.
-/

import Mathlib.Data.List.Basic

namespace Bitboard.Lib

universe u v w

section Loops

variable {ε : Type u} {σ ι : Type v}

/-- A sequence succeeds if both of its parts do. -/
theorem bind_eq_ok {α β : Type v} {x : Except ε α} {f : α → Except ε β} {b : β} :
    (x >>= f) = .ok b ↔ ∃ a, x = .ok a ∧ f a = .ok b := by
  cases x with
  | error error =>
    constructor
    · intro h
      cases h
    · rintro ⟨a, ha, -⟩
      cases ha
  | ok a => exact ⟨fun h => ⟨a, rfl, h⟩, fun ⟨_, ha, hb⟩ => by cases ha; exact hb⟩

variable {step : σ → ι → Except ε σ} {start final : σ} {inputs : List ι}

/-- A loop succeeds if its first round and the rest do. -/
theorem foldlM_cons_eq_ok {input : ι} :
    (input :: inputs).foldlM step start = .ok final ↔
      ∃ next, step start input = .ok next ∧ inputs.foldlM step next = .ok final := by
  rw [List.foldlM_cons, bind_eq_ok]

/-- What every successful round keeps holds after a successful loop. -/
theorem foldlM_invariant (inv : σ → Prop)
    (hstep : ∀ state, ∀ input ∈ inputs, ∀ next, step state input = .ok next → inv state →
      inv next) (hstart : inv start) (h : inputs.foldlM step start = .ok final) :
    inv final := by
  induction inputs generalizing start with
  | nil =>
    cases h
    exact hstart
  | cons input inputs ih =>
    obtain ⟨next, hnext, hrest⟩ := foldlM_cons_eq_ok.mp h
    exact ih (fun state later hlater => hstep state later (List.mem_cons_of_mem input hlater))
      (hstep start input List.mem_cons_self next hnext hstart) hrest

/-- What one input establishes and every round keeps holds after a successful loop over it. -/
theorem foldlM_establishes (inv : σ → Prop)
    (hstep : ∀ state, ∀ input ∈ inputs, ∀ next, step state input = .ok next → inv state → inv next)
    {input : ι} (hmem : input ∈ inputs)
    (hinput : ∀ state next, step state input = .ok next → inv next)
    (h : inputs.foldlM step start = .ok final) : inv final := by
  induction inputs generalizing start with
  | nil => cases hmem
  | cons first inputs ih =>
    obtain ⟨next, hnext, hrest⟩ := foldlM_cons_eq_ok.mp h
    have hlater : ∀ state, ∀ later ∈ inputs, ∀ next, step state later = .ok next →
        inv state → inv next :=
      fun state later hlater => hstep state later (List.mem_cons_of_mem first hlater)
    rcases List.mem_cons.mp hmem with rfl | hmem
    · exact foldlM_invariant inv hlater (hinput start next hnext) hrest
    · exact ih hlater hmem hrest

/-- A loop whose rounds cannot fail succeeds. -/
theorem exists_foldlM_eq_ok
    (hstep : ∀ state input, ∃ next, step state input = .ok next) (inputs : List ι)
    (start : σ) : ∃ final, inputs.foldlM step start = .ok final := by
  induction inputs generalizing start with
  | nil => exact ⟨start, rfl⟩
  | cons input inputs ih =>
    obtain ⟨next, hnext⟩ := hstep start input
    obtain ⟨final, hfinal⟩ := ih next
    exact ⟨final, foldlM_cons_eq_ok.mpr ⟨next, hnext, hfinal⟩⟩

/-- A loop collects items. They are all good, and there is one, exactly if every input adds a
good item or is skipped, and some item was there or is added. -/
theorem exists_foldlM_all_good_iff {τ : Type v} {collect : List τ → ι → Except ε (List τ)}
    {good : τ → Prop} {skipped adds : ι → Prop}
    (hskipped : ∀ input before, skipped input → collect before input = .ok before)
    (hadds : ∀ input before, adds input →
      ∃ item, good item ∧ collect before input = .ok (before ++ [item]))
    (hother : ∀ input before after, ¬ skipped input → ¬ adds input →
      collect before input = .ok after → ¬ ∀ item ∈ after, good item)
    (hapart : ∀ input, skipped input → ¬ adds input) (inputs : List ι) (before : List τ) :
    (∃ after, inputs.foldlM collect before = .ok after ∧ (∀ item ∈ after, good item) ∧
      after ≠ []) ↔
    (∀ item ∈ before, good item) ∧ (∀ input ∈ inputs, skipped input ∨ adds input) ∧
      (before ≠ [] ∨ ∃ input ∈ inputs, adds input) := by
  induction inputs generalizing before with
  | nil =>
    constructor
    · rintro ⟨after, hfold, hall, hne⟩
      cases hfold
      exact ⟨hall, List.forall_mem_nil _, .inl hne⟩
    · intro hbefore
      exact ⟨before, rfl, hbefore.1, by simpa using hbefore.2.2⟩
  | cons input inputs ih =>
    simp only [foldlM_cons_eq_ok]
    by_cases hskip : skipped input
    · simp only [hskipped input before hskip, Except.ok.injEq, exists_eq_left', ih]
      simp [hskip, hapart input hskip]
    · by_cases hadd : adds input
      · obtain ⟨item, hgood, hround⟩ := hadds input before hadd
        simp only [hround, Except.ok.injEq, exists_eq_left', ih]
        simp [hadd, hgood, or_imp, forall_and]
      · apply iff_of_false
        · rintro ⟨after, ⟨middle, hround, hfold⟩, hrest⟩
          have hmiddle := ((ih middle).mp ⟨after, hfold, hrest⟩).1
          exact hother input before middle hskip hadd hround hmiddle
        · intro hinputs
          exact (hinputs.2.1 input List.mem_cons_self).elim hskip hadd

/-- A map over a list fails if one of its elements does, with the only error there is. -/
theorem mapM_eq_error {α β : Type v} {f : α → Except ε β} {items : List α} {error : ε}
    (honly : ∀ item ∈ items, ∀ other, f item = .error other → other = error)
    (hfails : ∃ item ∈ items, f item = .error error) : items.mapM f = .error error := by
  induction items with
  | nil =>
    obtain ⟨item, hmem, -⟩ := hfails
    cases hmem
  | cons item items ih =>
    rw [List.mapM_cons]
    cases hitem : f item with
    | error other =>
      obtain rfl := honly item List.mem_cons_self other hitem
      rfl
    | ok value =>
      have hlater : ∃ later ∈ items, f later = .error error := by
        obtain ⟨failing, hmem, hfailing⟩ := hfails
        rcases List.mem_cons.mp hmem with rfl | hin
        · rw [hitem] at hfailing
          cases hfailing
        · exact ⟨failing, hin, hfailing⟩
      rw [ih (fun later hin => honly later (List.mem_cons_of_mem item hin)) hlater]
      rfl

/-- A map over a list succeeds if it does for each element. -/
theorem mapM_eq_ok {α β : Type v} {f : α → Except ε β} {g : α → β} {items : List α}
    (h : ∀ item ∈ items, f item = .ok (g item)) : items.mapM f = .ok (items.map g) := by
  induction items with
  | nil => rfl
  | cons item items ih =>
    rw [List.mapM_cons, h item List.mem_cons_self,
      ih fun later hin => h later (List.mem_cons_of_mem item hin)]
    rfl

end Loops

section FirstMatch

variable {α : Type u} {β : Type w} (p : α → Bool) (f : α → α)

/-- The list with `f` applied to the first element that satisfies `p`. -/
def modifyFirst : List α → List α
  | [] => []
  | x :: xs => if p x then f x :: xs else x :: modifyFirst xs

variable {p f}

/-- A projection that the update keeps does not see it. -/
theorem map_modifyFirst {g : α → β} (h : ∀ x, p x = true → g (f x) = g x) (xs : List α) :
    (modifyFirst p f xs).map g = xs.map g := by
  induction xs with
  | nil => rfl
  | cons x xs ih =>
    by_cases hx : p x = true
    · simp [modifyFirst, hx, h x hx]
    · simp [modifyFirst, hx, ih]

/-- The first match after the update is the updated first match. -/
theorem find?_modifyFirst (h : ∀ x, p x = true → p (f x) = true) (xs : List α) :
    (modifyFirst p f xs).find? p = (xs.find? p).map f := by
  induction xs with
  | nil => rfl
  | cons x xs ih =>
    by_cases hx : p x = true
    · simp [modifyFirst, hx, h x hx]
    · simp [modifyFirst, hx, ih]

/-- A filter that lets no match through does not see the update. -/
theorem filter_modifyFirst {q : α → Bool}
    (h : ∀ x, p x = true → q x = false ∧ q (f x) = false) (xs : List α) :
    (modifyFirst p f xs).filter q = xs.filter q := by
  induction xs with
  | nil => rfl
  | cons x xs ih =>
    by_cases hx : p x = true
    · simp [modifyFirst, hx, h x hx]
    · simp [modifyFirst, hx, ih, List.filter_cons]

/-- Among the matches, the update is that of the head. -/
theorem filter_modifyFirst_self (h : ∀ x, p x = true → p (f x) = true) (xs : List α) :
    (modifyFirst p f xs).filter p =
      match xs.filter p with
      | [] => []
      | y :: ys => f y :: ys := by
  induction xs with
  | nil => rfl
  | cons x xs ih =>
    by_cases hx : p x = true
    · simp [modifyFirst, hx, h x hx]
    · simp [modifyFirst, hx, ih]

/-- Without a match nothing is updated. -/
theorem modifyFirst_of_find?_eq_none {xs : List α} (h : xs.find? p = none) :
    modifyFirst p f xs = xs := by
  induction xs with
  | nil => rfl
  | cons x xs ih =>
    rw [List.find?_eq_none] at h
    have hx : p x ≠ true := h x List.mem_cons_self
    have hrest : xs.find? p = none :=
      List.find?_eq_none.mpr fun y hy => h y (List.mem_cons_of_mem x hy)
    simp [modifyFirst, hx, ih hrest]

end FirstMatch

end Bitboard.Lib
