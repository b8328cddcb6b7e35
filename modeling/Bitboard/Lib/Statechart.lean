/-
# Statecharts

A chart has a set of states, and a context that its guards read and its actions change.
An event takes the first transition of the present state whose guard holds. A transition
without a target runs its actions in place, and the actor of the state goes on. One with
a target stops that actor, runs its actions and the entry actions of its target, follows
the target's eventless transition, and starts the actor of the state it arrives at.

The input of an actor is computed from the context, which can throw; then the chart is at
an end. A state entered by an eventless transition has none of its own here.
-/

import Mathlib.Data.List.Basic

namespace Bitboard.Lib

universe u v w x

/-- A guarded transition. The event it is for is fixed, so that its guard and its actions
read the context alone. -/
structure Transition (σ : Type u) (κ : Type w) where
  guard : κ → Bool := fun _ => true
  target : Option σ := none
  actions : List (κ → κ) := []

/-- A chart over the states `σ`, the events `ε` and the contexts `κ`, with `ι` for the
inputs of its actors. -/
structure Statechart (σ : Type u) (ε : Type v) (κ : Type w) (ι : Type x) where
  on : σ → ε → List (Transition σ κ)
  entry : σ → ε → List (κ → κ)
  /-- The eventless transition of a state that is left as soon as it is entered. -/
  always : σ → Option (σ × List (κ → κ))
  invoke : σ → ε → κ → Except String (Option ι)

structure Config (σ : Type u) (κ : Type w) where
  value : σ
  context : κ

/-- Where an event takes a chart, and the state it enters on the way there, if it leaves
the one it was in. -/
structure Move (σ : Type u) (κ : Type w) where
  config : Config σ κ
  entered : Option σ

/-- The context after the actions have run in order. -/
def runActions {κ : Type w} (actions : List (κ → κ)) (context : κ) : κ :=
  actions.foldl (fun context action => action context) context

section Selection

variable {σ : Type u} {κ : Type w} {context : κ} {transition : Transition σ κ}
variable {transitions : List (Transition σ κ)}

/-- The transition is the first of the list whose guard holds. -/
def IsFirst (context : κ) : List (Transition σ κ) → Transition σ κ → Prop
  | [], _ => False
  | first :: rest, transition =>
    first.guard context = true ∧ transition = first ∨
      first.guard context = false ∧ IsFirst context rest transition

/-- A search by the guards finds the first transition that is allowed. -/
theorem isFirst_of_find?
    (h : transitions.find? (fun transition => transition.guard context) = some transition) :
    IsFirst context transitions transition := by
  induction transitions with
  | nil => cases h
  | cons first rest ih =>
    cases hguard : first.guard context with
    | true =>
      left
      simp only [List.find?_cons, hguard, Option.some.injEq] at h
      exact ⟨hguard, h.symm⟩
    | false =>
      right
      simp only [List.find?_cons, hguard] at h
      exact ⟨hguard, ih h⟩

theorem IsFirst.mem (h : IsFirst context transitions transition) : transition ∈ transitions := by
  induction transitions with
  | nil => exact h.elim
  | cons first rest ih =>
    rcases h with ⟨_, rfl⟩ | ⟨_, hrest⟩
    · exact List.mem_cons_self
    · exact List.mem_cons_of_mem first (ih hrest)

theorem IsFirst.guard (h : IsFirst context transitions transition) :
    transition.guard context = true := by
  induction transitions with
  | nil => exact h.elim
  | cons first rest ih =>
    rcases h with ⟨hguard, rfl⟩ | ⟨_, hrest⟩
    · exact hguard
    · exact ih hrest

/-- The first of two lists of transitions is the first of one of them. -/
theorem IsFirst.of_append {fallback : List (Transition σ κ)}
    (h : IsFirst context (transitions ++ fallback) transition) :
    IsFirst context transitions transition ∨ IsFirst context fallback transition := by
  induction transitions with
  | nil => exact .inr h
  | cons first rest ih =>
    rcases h with hfirst | ⟨hguard, hrest⟩
    · exact .inl (.inl hfirst)
    · rcases ih hrest with hmine | hfallback
      · exact .inl (.inr ⟨hguard, hmine⟩)
      · exact .inr hfallback

end Selection

namespace Statechart

variable {σ : Type u} {ε : Type v} {κ : Type w} {ι : Type x}
variable (chart : Statechart σ ε κ ι) (config : Config σ κ) (event : ε)

/-- The configuration in which a chart that enters `state` comes to rest. -/
def arrive (state : σ) (context : κ) : Config σ κ :=
  let context := runActions (chart.entry state event) context
  match chart.always state with
  | none => { value := state, context }
  | some (next, actions) =>
    { value := next
      context := runActions (chart.entry next event) (runActions actions context) }

/-- The move by a transition that has been selected. -/
def take (transition : Transition σ κ) : Move σ κ :=
  let context := runActions transition.actions config.context
  match transition.target with
  | none => { config := { config with context }, entered := none }
  | some state => { config := chart.arrive event state context, entered := some state }

def move : Move σ κ :=
  match (chart.on config.value event).find? (fun transition => transition.guard config.context)
    with
  | none => { config, entered := none }
  | some transition => chart.take config event transition

/-- The move, and the input of the actor that it starts. -/
def step : Except String (Move σ κ × Option ι) :=
  let move := chart.move config event
  match move.entered with
  | none => .ok (move, none)
  | some _ =>
    match chart.invoke move.config.value event move.config.context with
    | .error message => .error message
    | .ok started => .ok (move, started)

variable {chart config event}

/-- A property of all moves: of the ignored event and of each transition that is first. -/
theorem move_rule {motive : Move σ κ → Prop} (ignored : (∀ transition ∈ chart.on config.value event,
      transition.guard config.context = false) → motive { config, entered := none })
    (taken : ∀ transition, IsFirst config.context (chart.on config.value event) transition →
      motive (chart.take config event transition)) :
    motive (chart.move config event) := by
  unfold move
  split
  · rename_i hfind
    apply ignored
    simpa using List.find?_eq_none.mp hfind
  · rename_i transition hfind
    exact taken transition (isFirst_of_find? hfind)

/-- As the rule for moves, for each transition whose guard holds. -/
theorem move_rule_of_mem {motive : Move σ κ → Prop}
    (ignored : (∀ transition ∈ chart.on config.value event,
      transition.guard config.context = false) → motive { config, entered := none })
    (taken : ∀ transition ∈ chart.on config.value event,
      transition.guard config.context = true → motive (chart.take config event transition)) :
    motive (chart.move config event) := by
  apply move_rule ignored
  intro transition hfirst
  exact taken transition hfirst.mem hfirst.guard

/-- A step ignores the event or enters a state whose work starts. -/
theorem step_cases_of_invoke (hinvoke : (chart.move config event).entered.isSome → ∃ started,
      chart.invoke (chart.move config event).config.value event
        (chart.move config event).config.context = .ok started) :
    (chart.move config event).entered = none ∧
        chart.step config event = .ok (chart.move config event, none) ∨
      ∃ started, (chart.move config event).entered.isSome ∧
        chart.invoke (chart.move config event).config.value event
          (chart.move config event).config.context = .ok started ∧
        chart.step config event = .ok (chart.move config event, started) := by
  unfold step
  cases hentered : (chart.move config event).entered with
  | none =>
    left
    simp [hentered]
  | some state =>
    right
    obtain ⟨started, hstarted⟩ := hinvoke (by simp [hentered])
    exact ⟨started, by simp, hstarted, by simp [hentered, hstarted]⟩

end Statechart

end Bitboard.Lib
