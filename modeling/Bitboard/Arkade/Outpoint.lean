/-
# Transaction ids, outpoints and exit-record keys

The session stores transaction ids as the texts `bitcoin::Txid` prints, and keys
its exit records by the text `"{txid}:{vout}"`. The bitcoin crate's `Txid` is
modelled by its printed form: 64 lower-case hexadecimal digits, read back from
either letter case.

The module ends with the round trip of the record key: whatever text stands for
the transaction id, `parse_vtxo_exit_record_key` recovers the pair that
`vtxo_exit_record_key` printed. Distinct outpoints therefore have distinct keys.
-/

import Bitboard.Lib.OrderedMap

namespace Bitboard.Arkade

/-- The digits `bitcoin` prints a hash with. -/
def lowerHexDigits : List Char := "0123456789abcdef".toList

/-- The digits `bitcoin` accepts when it reads a hash. -/
def hexDigits : List Char := "0123456789abcdefABCDEF".toList

/-- `bitcoin::Txid`, by the text it prints. -/
structure Txid where
  text : String
  length_text : text.toList.length = 64
  isLowerHex : ∀ c ∈ text.toList, c ∈ lowerHexDigits
  deriving DecidableEq

theorem toLower_mem_lowerHexDigits : ∀ c ∈ hexDigits, c.toLower ∈ lowerHexDigits := by
  rw [← List.forall_iff_forall_mem]
  decide

/-- `Txid::from_str`: 64 hexadecimal digits in either case. -/
def Txid.fromStr (s : String) : Option Txid :=
  if h : s.toList.length = 64 ∧ s.toList.all hexDigits.contains = true then
    some {
      text := String.ofList (s.toList.map Char.toLower)
      length_text := by simpa using h.1
      isLowerHex := by
        simp only [String.toList_ofList, List.mem_map]
        rintro _ ⟨c, hc, rfl⟩
        have hdigit : hexDigits.contains c = true := List.all_eq_true.mp h.2 c hc
        exact toLower_mem_lowerHexDigits c (List.contains_iff_mem.mp hdigit) }
  else none

theorem toLower_of_mem_lowerHexDigits :
    ∀ c ∈ lowerHexDigits, c.toLower = c ∧ c ∈ hexDigits := by
  rw [← List.forall_iff_forall_mem]
  decide

@[simp]
theorem Txid.fromStr_text (txid : Txid) : Txid.fromStr txid.text = some txid := by
  have hdigits : ∀ c ∈ txid.text.toList, c.toLower = c ∧ c ∈ hexDigits :=
    fun c hc => toLower_of_mem_lowerHexDigits c (txid.isLowerHex c hc)
  have hmap : txid.text.toList.map Char.toLower = txid.text.toList := by
    conv_rhs => rw [← List.map_id txid.text.toList]
    exact List.map_congr_left fun c hc => (hdigits c hc).1
  have hall : txid.text.toList.all hexDigits.contains = true :=
    List.all_eq_true.mpr fun c hc => List.contains_iff_mem.mpr (hdigits c hc).2
  unfold Txid.fromStr
  rw [dif_pos ⟨txid.length_text, hall⟩]
  cases txid
  simp only [Option.some.injEq, Txid.mk.injEq]
  rw [hmap, String.ofList_toList]

structure OutPoint where
  txid : Txid
  vout : UInt32
  deriving DecidableEq

/-- An output of a virtual transaction, as the RPC parameters name it. -/
structure VirtualOutPoint where
  txid : Txid
  vout : UInt32

def vtxoExitRecordKey (txid : String) (vout : UInt32) : String :=
  txid ++ ":" ++ toString vout.toNat

/-- `str::rsplit_once` on the characters of a text. -/
def rsplitOnce (separator : Char) : List Char → Option (List Char × List Char)
  | [] => none
  | c :: rest =>
    match rsplitOnce separator rest with
    | some (before, after) => some (c :: before, after)
    | none => if c = separator then some ([], rest) else none

/-- The digits of `u32::from_str`: at least one, all decimal, in range. -/
def parseDecimal (digits : List Char) : Option UInt32 :=
  if digits ≠ [] ∧ digits.all Char.isDigit = true then
    let n := Nat.ofDigitChars 10 digits 0
    if n < UInt32.size then some (UInt32.ofNat n) else none
  else none

/-- `u32::from_str`: decimal digits, with an optional leading plus sign. -/
def parseU32 : List Char → Option UInt32
  | '+' :: digits => parseDecimal digits
  | digits => parseDecimal digits

def parseVtxoExitRecordKey (key : String) : Option (String × UInt32) := do
  let (txid, voutText) ← rsplitOnce ':' key.toList
  let vout ← parseU32 voutText
  return (String.ofList txid, vout)

theorem rsplitOnce_eq_none {separator : Char} {text : List Char} (h : separator ∉ text) :
    rsplitOnce separator text = none := by
  induction text with
  | nil => rfl
  | cons c rest ih =>
    rw [List.mem_cons, not_or] at h
    simp [rsplitOnce, ih h.2, Ne.symm h.1]

theorem rsplitOnce_append {separator : Char} {before after : List Char} (h : separator ∉ after) :
    rsplitOnce separator (before ++ separator :: after) = some (before, after) := by
  induction before with
  | nil => simp [rsplitOnce, rsplitOnce_eq_none h]
  | cons c rest ih => simp [rsplitOnce, ih]

theorem isDigit_of_mem_repr {n : Nat} {c : Char} (h : c ∈ n.repr.toList) : c.isDigit = true := by
  rw [Nat.toList_repr] at h
  exact Nat.isDigit_of_mem_toDigits (by decide) (by decide) h

theorem parseDecimal_repr (vout : UInt32) : parseDecimal vout.toNat.repr.toList = some vout := by
  have hne : vout.toNat.repr.toList ≠ [] := by
    rw [Nat.toList_repr]
    exact Nat.toDigits_ne_nil
  have hdigits : vout.toNat.repr.toList.all Char.isDigit = true :=
    List.all_eq_true.mpr fun _ => isDigit_of_mem_repr
  have hvalue : Nat.ofDigitChars 10 vout.toNat.repr.toList 0 = vout.toNat := by
    rw [Nat.toList_repr, Nat.ofDigitChars_ten_toDigits]
  unfold parseDecimal
  rw [if_pos ⟨hne, hdigits⟩, hvalue, if_pos vout.toNat_lt, UInt32.ofNat_toNat]

theorem parseU32_repr (vout : UInt32) : parseU32 vout.toNat.repr.toList = some vout := by
  rw [← parseDecimal_repr vout]
  unfold parseU32
  split
  case h_1 digits heq =>
    -- A printed number has no sign, so the first branch is not taken.
    have : ('+' : Char).isDigit = true :=
      isDigit_of_mem_repr (n := vout.toNat) (by rw [heq]; exact List.mem_cons_self)
    exact absurd this (by decide)
  case h_2 => rfl

@[simp]
theorem parseVtxoExitRecordKey_vtxoExitRecordKey (txid : String) (vout : UInt32) :
    parseVtxoExitRecordKey (vtxoExitRecordKey txid vout) = some (txid, vout) := by
  have hcolon : ':' ∉ vout.toNat.repr.toList := fun h =>
    absurd (isDigit_of_mem_repr h) (by decide)
  have hlist : (vtxoExitRecordKey txid vout).toList =
      txid.toList ++ ':' :: vout.toNat.repr.toList := by
    simp [vtxoExitRecordKey]
  unfold parseVtxoExitRecordKey
  rw [hlist, rsplitOnce_append hcolon]
  simp only [Option.bind_eq_bind, Option.bind_some, parseU32_repr, Option.pure_def,
    String.ofList_toList]

@[simp]
theorem vtxoExitRecordKey_inj {txid txid' : String} {vout vout' : UInt32} :
    vtxoExitRecordKey txid vout = vtxoExitRecordKey txid' vout' ↔ txid = txid' ∧ vout = vout' := by
  constructor
  · intro h
    have := congrArg parseVtxoExitRecordKey h
    simpa using this
  · rintro ⟨rfl, rfl⟩
    rfl

end Bitboard.Arkade
