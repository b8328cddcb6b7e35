/-
# Coins taken out of a store by their keys

A store is a list of coins, each with a key and an amount. Coins are taken out of it by a list
of keys; the others remain, and new coins are put beside them. Where the keys of a store are
distinct, what is taken and what remains make up the store, so that amounts add up.
-/

import Mathlib.Algebra.BigOperators.Group.List.Basic
import Mathlib.Algebra.GroupWithZero.Nat
import Mathlib.Data.List.Nodup

namespace Bitboard.Lib

universe u v

variable {Coin : Type u} {Key : Type v} [DecidableEq Key]
variable (key : Coin → Key) (amount : Coin → Nat)

def remainingCoins (coins : List Coin) (keys : List Key) : List Coin :=
  coins.filter fun coin => key coin ∉ keys

/-- The coins of the store with the listed keys, in their order. -/
structure TakesCoins (coins : List Coin) (keys : List Key) (taken : List Coin) : Prop where
  keys_eq : taken.map key = keys
  mem : ∀ coin ∈ taken, coin ∈ coins

variable {key amount} {coins taken new others : List Coin} {keys moreKeys : List Key}

/-- A coin remains if its key is not taken. -/
theorem mem_remainingCoins {coin : Coin} :
    coin ∈ remainingCoins key coins keys ↔ coin ∈ coins ∧ key coin ∉ keys := by
  simp only [remainingCoins, List.mem_filter, decide_eq_true_eq]

omit [DecidableEq Key] in
theorem TakesCoins.nil : TakesCoins key coins [] [] where
  keys_eq := rfl
  mem := by
    intro coin hmem
    cases hmem

section

variable (h : TakesCoins key coins keys taken)
include h

omit [DecidableEq Key] in
/-- Coins can be taken in two goes. -/
theorem TakesCoins.append (hmore : TakesCoins key coins moreKeys others) :
    TakesCoins key coins (keys ++ moreKeys) (taken ++ others) where
  keys_eq := by rw [List.map_append, h.keys_eq, hmore.keys_eq]
  mem := by
    intro coin hmem
    cases List.mem_append.mp hmem with
    | inl htaken => exact h.mem coin htaken
    | inr hothers => exact hmore.mem coin hothers

/-- Coins under other keys can be taken before or after. -/
theorem TakesCoins.of_remaining (hdisjoint : ∀ k ∈ keys, k ∉ moreKeys) :
    TakesCoins key (remainingCoins key coins moreKeys ++ new) keys taken where
  keys_eq := h.keys_eq
  mem := by
    intro coin hmem
    apply List.mem_append_left
    apply mem_remainingCoins.mpr
    refine ⟨h.mem coin hmem, hdisjoint (key coin) ?_⟩
    rw [← h.keys_eq]
    exact List.mem_map_of_mem hmem

/-- What is taken and what remains make up the store. -/
theorem TakesCoins.perm (hcoins : (coins.map key).Nodup) (hkeys : keys.Nodup) :
    coins.Perm (taken ++ remainingCoins key coins keys) := by
  have htaken : taken.Nodup := by
    apply List.Nodup.of_map key
    rw [h.keys_eq]
    exact hkeys
  have hremaining : (remainingCoins key coins keys).Nodup := (List.Nodup.of_map key hcoins).filter _
  have hdisjoint : List.Disjoint taken (remainingCoins key coins keys) := by
    intro coin hmem hleft
    apply (mem_remainingCoins.mp hleft).2
    rw [← h.keys_eq]
    exact List.mem_map_of_mem hmem
  apply (List.perm_ext_iff_of_nodup (List.Nodup.of_map key hcoins)
    (htaken.append hremaining hdisjoint)).mpr
  intro coin
  rw [List.mem_append, mem_remainingCoins]
  constructor
  · intro hmem
    by_cases hkey : key coin ∈ keys
    · apply Or.inl
      rw [← h.keys_eq] at hkey
      obtain ⟨found, hfound, hsame⟩ := List.mem_map.mp hkey
      rwa [← List.inj_on_of_nodup_map hcoins (h.mem found hfound) hmem hsame]
    · exact .inr ⟨hmem, hkey⟩
  · intro hmem
    cases hmem with
    | inl hfound => exact h.mem coin hfound
    | inr hleft => exact hleft.1

end

variable (amount) in
/-- The amounts that are taken and those that remain add up. -/
theorem TakesCoins.sum_eq (h : TakesCoins key coins keys taken)
    (hcoins : (coins.map key).Nodup) (hkeys : keys.Nodup) :
    (coins.map amount).sum =
      (taken.map amount).sum + ((remainingCoins key coins keys).map amount).sum := by
  rw [← List.sum_append, ← List.map_append]
  exact ((h.perm hcoins hkeys).map amount).sum_eq

/-- Keys stay distinct when new coins come in under fresh ones. -/
theorem nodup_remainingCoins_append (hcoins : (coins.map key).Nodup) (hnew : (new.map key).Nodup)
    (hfresh : ∀ coin ∈ new, key coin ∉ coins.map key) :
    ((remainingCoins key coins keys ++ new).map key).Nodup := by
  rw [List.map_append]
  apply List.Nodup.append _ hnew
  · intro k hleft hadded
    obtain ⟨coin, hmem, rfl⟩ := List.mem_map.mp hadded
    apply hfresh coin hmem
    obtain ⟨found, hfound, hsame⟩ := List.mem_map.mp hleft
    rw [← hsame]
    exact List.mem_map_of_mem (mem_remainingCoins.mp hfound).1
  · exact hcoins.sublist (List.filter_sublist.map key)

end Bitboard.Lib
