/-
# An environment for the lab

Transactions can be written as lists of numbers, so that the list itself can serve as the id of a
transaction. Together with a parser that accepts addresses in their usual form this makes an
environment in which runs of the lab can be evaluated.
-/

import Bitboard.Frontend.LabChain
import Bitboard.Lib.SelfDelimiting
import Mathlib.Data.List.Lex

namespace Bitboard.Frontend

open Bitboard.Lib

def textCode (text : String) : List Nat :=
  listCode (fun number => [number]) (text.toList.map Char.toNat)

def labOutpointCode (outpoint : LabOutpoint (List Nat)) : List Nat :=
  outpoint.vout :: listCode (fun number => [number]) outpoint.txid

def labOutputCode (output : LabTxOutput) : List Nat :=
  output.amountSats :: listCode textCode output.address.toList

def labTransactionCode : LabTransaction (List Nat) → List Nat
  | .coinbase height output => 0 :: height :: labOutputCode output
  | .spend inputs outputs => 1 :: (listCode labOutpointCode inputs ++
      listCode labOutputCode outputs)

theorem selfDelimiting_textCode : SelfDelimiting textCode := by
  apply selfDelimiting_singleton.list.comp
  intro first second h
  apply String.toList_injective
  exact List.map_injective_iff.mpr (fun _ _ => Char.toNat_inj.mp) h

theorem selfDelimiting_labOutpointCode : SelfDelimiting labOutpointCode := by
  intro first second rest other h
  obtain ⟨hvout, h⟩ := List.cons_eq_cons.mp h
  obtain ⟨htxid, hrest⟩ := selfDelimiting_singleton.list _ _ _ _ h
  cases first
  cases second
  cases hvout
  cases htxid
  exact ⟨rfl, hrest⟩

theorem optionToList_injective {α : Type} : Function.Injective (Option.toList : Option α → _) := by
  intro first second h
  have hhead := congrArg List.head? h
  rwa [Option.head?_toList, Option.head?_toList] at hhead

theorem selfDelimiting_labOutputCode : SelfDelimiting labOutputCode := by
  intro first second rest other h
  obtain ⟨hamount, h⟩ := List.cons_eq_cons.mp h
  obtain ⟨haddress, hrest⟩ := selfDelimiting_textCode.list _ _ _ _ h
  cases first
  cases second
  cases hamount
  cases optionToList_injective haddress
  exact ⟨rfl, hrest⟩

theorem labTransactionCode_injective : Function.Injective labTransactionCode := by
  intro first second h
  cases first with
  | coinbase height output =>
    cases second with
    | coinbase otherHeight other =>
      obtain ⟨hheight, houtput⟩ := List.cons_eq_cons.mp (List.cons_eq_cons.mp h).2
      cases hheight
      cases selfDelimiting_labOutputCode.injective houtput
      rfl
    | spend inputs outputs => cases (List.cons_eq_cons.mp h).1
  | spend inputs outputs =>
    cases second with
    | coinbase height output => cases (List.cons_eq_cons.mp h).1
    | spend otherInputs otherOutputs =>
      obtain ⟨hinputs, houtputs⟩ := selfDelimiting_labOutpointCode.list _ _ _ _
        (List.cons_eq_cons.mp h).2
      cases hinputs
      cases selfDelimiting_labOutputCode.list.injective houtputs
      rfl

def isUsualText (text : String) : Bool :=
  trim text.toList = text.toList && toLowerCase text.toList = text.toList && text ≠ ""

theorem eq_of_labAddressesEqual {first second : String} (hfirst : isUsualText first = true)
    (hsecond : isUsualText second = true) (h : labAddressesEqual first second = true) :
    first = second := by
  simp only [isUsualText, Bool.and_eq_true, decide_eq_true_eq] at hfirst hsecond
  simp only [labAddressesEqual, hfirst.1.1, hsecond.1.1, hfirst.1.2, hsecond.1.2,
    Bool.or_eq_true, Bool.and_eq_true, decide_eq_true_eq] at h
  apply String.toList_injective
  cases h with
  | inl hsame => exact hsame
  | inr hlower => exact hlower.2

def codedEnvironment : LabEnvironment (List Nat) where
  txid := labTransactionCode
  txid_injective := labTransactionCode_injective
  txidText := fun txid => toString txid
  parseAddress := fun text => if isUsualText text then some (some text) else none
  parseAddress_equal := by
    intro first second parsed other hsame hfirst hsecond
    split at hfirst
    · rename_i husual
      split at hsecond
      · rename_i hother
        cases hfirst
        cases hsecond
        rw [eq_of_labAddressesEqual husual hother hsame]
      · cases hsecond
    · cases hfirst
  parseAddress_text := by
    intro text address h
    split at h
    · rename_i husual
      cases h
      rw [if_pos husual]
      exact ⟨rfl, by simp [labAddressesEqual]⟩
    · cases h
  parseAddress_blank := by
    intro text hblank
    apply if_neg
    intro husual
    simp only [isUsualText, Bool.and_eq_true, decide_eq_true_eq] at husual
    apply husual.2
    apply String.toList_injective
    rw [← husual.1.1, hblank]
    rfl

end Bitboard.Frontend
