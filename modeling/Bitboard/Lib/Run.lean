/-
# Runs of a step function

A system is given by a total step function from a state and an input to the
next state; a refused input is a step that changes nothing. This module names
the state a list of inputs leads to and the two ways its invariants are used:
unconditionally, and along runs whose every step meets a guard evaluated in the
state that step starts from. Calls under way are often a function that a step
updates at one of them; two lemmas say what it holds afterwards.
-/

import Mathlib.Data.List.Basic

namespace Bitboard.Lib

universe u v

variable {σ : Type u} {ι : Type v}

/-- The state reached from `start` by feeding `inputs` in order. -/
def run (step : σ → ι → σ) (start : σ) (inputs : List ι) : σ :=
  inputs.foldl step start

@[simp]
theorem run_nil (step : σ → ι → σ) (start : σ) : run step start [] = start := rfl

@[simp]
theorem run_cons (step : σ → ι → σ) (start : σ) (input : ι) (inputs : List ι) :
    run step start (input :: inputs) = run step (step start input) inputs := rfl

/-- A run can be cut in two. -/
theorem run_append (step : σ → ι → σ) (start : σ) (first second : List ι) :
    run step start (first ++ second) = run step (run step start first) second :=
  List.foldl_append

variable {step : σ → ι → σ} {start : σ}
variable (inv : σ → Prop)

/-- What every step keeps holds after every run. -/
theorem run_invariant (hstep : ∀ state input, inv state → inv (step state input))
    (hstart : inv start) (inputs : List ι) : inv (run step start inputs) := by
  induction inputs generalizing start with
  | nil => exact hstart
  | cons input inputs ih => exact ih (hstep start input hstart)

/-- Every step of the run meets `guard` in the state it starts from. -/
def RunMeets (step : σ → ι → σ) (guard : σ → ι → Prop) : σ → List ι → Prop
  | _, [] => True
  | start, input :: inputs =>
    guard start input ∧ RunMeets step guard (step start input) inputs

instance decidableRunMeets {step : σ → ι → σ} {guard : σ → ι → Prop}
    [∀ state input, Decidable (guard state input)] :
    ∀ start inputs, Decidable (RunMeets step guard start inputs)
  | _, [] => .isTrue trivial
  | start, input :: inputs =>
    have : Decidable (RunMeets step guard (step start input) inputs) := decidableRunMeets _ _
    inferInstanceAs (Decidable (guard start input ∧ _))

variable {guard : σ → ι → Prop}

/-- A guard along a run can be checked in two parts. -/
theorem runMeets_append {first second : List ι} :
    RunMeets step guard start (first ++ second) ↔
      RunMeets step guard start first ∧
        RunMeets step guard (run step start first) second := by
  induction first generalizing start with
  | nil => simp [RunMeets]
  | cons input inputs ih =>
    simp only [List.cons_append, RunMeets, ih, run_cons, and_assoc]

variable {inputs : List ι}

theorem runMeets_of_forall_mem {guard : ι → Prop} (h : ∀ input ∈ inputs, guard input) :
    RunMeets step (fun _ input => guard input) start inputs := by
  induction inputs generalizing start with
  | nil => trivial
  | cons input inputs ih =>
    exact ⟨h input List.mem_cons_self,
      ih fun later hlater => h later (List.mem_cons_of_mem input hlater)⟩

variable {first second : σ → ι → Prop}

/-- Two guards along a run make one. -/
theorem runMeets_and (hfirst : RunMeets step first start inputs)
    (hsecond : RunMeets step second start inputs) :
    RunMeets step (fun state input => first state input ∧ second state input) start inputs := by
  induction inputs generalizing start with
  | nil => trivial
  | cons input inputs ih =>
    exact ⟨⟨hfirst.1, hsecond.1⟩, ih hfirst.2 hsecond.2⟩

/-- What every step under the guard keeps holds after a run that meets it. -/
theorem run_invariant_of_runMeets
    (hstep : ∀ state input, guard state input → inv state → inv (step state input))
    (hstart : inv start) (hmeets : RunMeets step guard start inputs) :
    inv (run step start inputs) := by
  induction inputs generalizing start with
  | nil => exact hstart
  | cons input inputs ih => exact ih (hstep start input hmeets.1 hstart) hmeets.2

/-- A guard that implies another under an invariant does so along a run. -/
theorem RunMeets.imp_of_invariant
    (himp : ∀ state input, inv state → first state input → second state input)
    (hstep : ∀ state input, first state input → inv state → inv (step state input))
    (hstart : inv start) (hmeets : RunMeets step first start inputs) :
    RunMeets step second start inputs := by
  induction inputs generalizing start with
  | nil => trivial
  | cons input inputs ih =>
    exact ⟨himp start input hstart hmeets.1, ih (hstep start input hmeets.1 hstart) hmeets.2⟩

/-- A run meets the guard exactly if all its states are good, when a step off the guard leaves the
good ones. -/
theorem runMeets_iff_forall_prefix (good : σ → Prop) (hgood : ∀ state, inv state → good state)
    (hstep : ∀ state input, guard state input → inv state → inv (step state input))
    (hoff : ∀ state input, inv state → ¬ guard state input → ¬ good (step state input))
    (hstart : inv start) (inputs : List ι) :
    RunMeets step guard start inputs ↔
      ∀ first, first <+: inputs → good (run step start first) := by
  constructor
  · intro hmeets first hfirst
    obtain ⟨rest, rfl⟩ := hfirst
    exact hgood _ (run_invariant_of_runMeets inv hstep hstart (runMeets_append.mp hmeets).1)
  · intro hlooks
    induction inputs generalizing start with
    | nil => trivial
    | cons input inputs ih =>
      have hguard : guard start input := by
        by_contra hguard
        exact hoff start input hstart hguard (hlooks [input] ⟨inputs, rfl⟩)
      refine ⟨hguard, ih (hstep start input hguard hstart) ?_⟩
      intro first hfirst
      exact hlooks (input :: first) (List.cons_prefix_cons.mpr ⟨rfl, hfirst⟩)

/-- Guards that agree under an invariant agree along a run. -/
theorem runMeets_iff_of_invariant
    (hiff : ∀ state input, inv state → (first state input ↔ second state input))
    (hstep : ∀ state input, second state input → inv state → inv (step state input))
    (hstart : inv start) (inputs : List ι) :
    RunMeets step first start inputs ↔ RunMeets step second start inputs := by
  induction inputs generalizing start with
  | nil => exact Iff.rfl
  | cons input inputs ih =>
    have hinput := hiff start input hstart
    constructor
    · intro hmeets
      have hsecond := hinput.mp hmeets.1
      exact ⟨hsecond, (ih (hstep start input hsecond hstart)).mp hmeets.2⟩
    · intro hmeets
      exact ⟨hinput.mpr hmeets.1, (ih (hstep start input hmeets.1 hstart)).mpr hmeets.2⟩

section PointUpdate

variable {κ : Type u} {α : Type v} [DecidableEq κ] {calls : κ → Option α} {key other : κ}
variable {value found : α}

/-- What is found after an update is the new value at its key, or was there before. -/
theorem update_some_cases (h : Function.update calls key (some value) other = some found) :
    other = key ∧ found = value ∨ other ≠ key ∧ calls other = some found := by
  by_cases hother : other = key
  · subst hother
    rw [Function.update_self] at h
    exact .inl ⟨rfl, (Option.some.inj h).symm⟩
  · rw [Function.update_of_ne hother] at h
    exact .inr ⟨hother, h⟩

/-- What is found after a removal was there before, at another key. -/
theorem of_update_none (h : Function.update calls key none other = some found) :
    other ≠ key ∧ calls other = some found := by
  by_cases hother : other = key
  · subst hother
    rw [Function.update_self] at h
    cases h
  · rw [Function.update_of_ne hother] at h
    exact ⟨hother, h⟩

end PointUpdate

end Bitboard.Lib
