/-
# Self-delimiting codes

A code is self-delimiting if what follows a code word can be told from it: two values whose code
words are followed by something, such that both together read the same, are equal, and so is
what follows. Self-delimiting codes can be put one behind the other. A list is coded by its length
and the codes of its elements.
-/

import Mathlib.Logic.Function.Basic

namespace Bitboard.Lib

universe u v

def SelfDelimiting {α : Type u} {β : Type v} (code : α → List β) : Prop :=
  ∀ first second rest other, code first ++ rest = code second ++ other →
    first = second ∧ rest = other

section Codes

variable {α : Type u} {code : α → List Nat}

/-- A code that shows its own end is injective. -/
theorem SelfDelimiting.injective (h : SelfDelimiting code) : Function.Injective code := by
  intro first second heq
  apply (h first second [] [] _).1
  rw [heq]

theorem selfDelimiting_singleton : SelfDelimiting fun number : Nat => [number] := by
  intro first second rest other h
  exact List.cons_eq_cons.mp h

/-- A self-delimiting code of a part that determines the value. -/
theorem SelfDelimiting.comp {γ : Type v} (h : SelfDelimiting code) {f : γ → α}
    (hf : Function.Injective f) : SelfDelimiting fun value => code (f value) := by
  intro first second rest other heq
  obtain ⟨hvalue, hrest⟩ := h _ _ _ _ heq
  exact ⟨hf hvalue, hrest⟩

def listCode (code : α → List Nat) (items : List α) : List Nat :=
  items.length :: items.flatMap code

/-- Lists coded by their length and entries are self-delimiting. -/
theorem SelfDelimiting.list (h : SelfDelimiting code) : SelfDelimiting (listCode code) := by
  intro first second rest other heq
  have hlength : first.length = second.length := (List.cons_eq_cons.mp heq).1
  have hitems : first.flatMap code ++ rest = second.flatMap code ++ other :=
    (List.cons_eq_cons.mp heq).2
  clear heq
  induction first generalizing second with
  | nil =>
    cases second with
    | nil => exact ⟨rfl, hitems⟩
    | cons item items => cases hlength
  | cons item items ih =>
    cases second with
    | nil => cases hlength
    | cons head tail =>
      rw [List.flatMap_cons, List.flatMap_cons, List.append_assoc, List.append_assoc] at hitems
      obtain ⟨hhead, htail⟩ := h _ _ _ _ hitems
      obtain ⟨hrest, hother⟩ := ih tail (Nat.succ.inj hlength) htail
      exact ⟨by rw [hhead, hrest], hother⟩

end Codes

end Bitboard.Lib
