/-
# Hosts of URLs

A host is a name, an IPv4 address or an IPv6 address, and a URL writes it in one way only: names
in lower case, IPv4 addresses with four decimals, and IPv6 addresses in brackets with their longest
run of zero pieces compressed.
-/

import Mathlib.Data.Nat.Digits.Defs

namespace Bitboard.Lib.UrlHost

/-- A name is kept as it is, with a point at its end. -/
structure DomainName where
  text : List Char
  lower_case : ∀ c ∈ text, c.toLower = c
  no_bracket_or_colon : ∀ c ∈ text, c ≠ '[' ∧ c ≠ ':'

structure Ipv4Address where
  first : Fin 256
  second : Fin 256
  third : Fin 256
  fourth : Fin 256

structure Ipv6Address where
  pieces : List Nat
  length_eq : pieces.length = 8
  piece_lt : ∀ piece ∈ pieces, piece < 2 ^ 16

inductive Host where
  | domain (name : DomainName)
  | ipv4 (address : Ipv4Address)
  | ipv6 (address : Ipv6Address)

variable (address : Ipv4Address)

def Ipv4Address.octets : List Nat :=
  [address.first, address.second, address.third, address.fourth]

def serializeIpv4 : List Char :=
  ['.'].intercalate (address.octets.map (Nat.toDigits 10))

/-- The longest run of zeros so far and the one that is being read, with their sizes. -/
structure RunSearch where
  longestIndex : Option Nat
  longestSize : Nat
  foundIndex : Option Nat
  foundSize : Nat

def RunSearch.start : RunSearch := ⟨none, 1, none, 0⟩

def RunSearch.read (search : RunSearch) (pieceIndex piece : Nat) : RunSearch :=
  if piece = 0 then
    { search with
      foundIndex := if search.foundIndex = none then some pieceIndex else search.foundIndex
      foundSize := search.foundSize + 1 }
  else if search.longestSize < search.foundSize then
    { longestIndex := search.foundIndex, longestSize := search.foundSize
      foundIndex := none, foundSize := 0 }
  else { search with foundIndex := none, foundSize := 0 }

def RunSearch.readFrom (search : RunSearch) : Nat → List Nat → RunSearch
  | _, [] => search
  | pieceIndex, piece :: rest => (search.read pieceIndex piece).readFrom (pieceIndex + 1) rest

def RunSearch.result (search : RunSearch) : Option Nat :=
  if search.longestSize < search.foundSize then search.foundIndex else search.longestIndex

/-- Where the first longest run of at least two zeros starts. -/
def compressedPieceIndex (pieces : List Nat) : Option Nat :=
  (RunSearch.start.readFrom 0 pieces).result

def serializePieces (compress : Option Nat) : Nat → Bool → List Nat → List Char
  | _, _, [] => []
  | pieceIndex, ignore0, piece :: rest =>
    if ignore0 = true ∧ piece = 0 then serializePieces compress (pieceIndex + 1) true rest
    else if compress = some pieceIndex then
      (if pieceIndex = 0 then [':', ':'] else [':']) ++
        serializePieces compress (pieceIndex + 1) true rest
    else
      Nat.toDigits 16 piece ++ ((if pieceIndex ≠ 7 then [':'] else []) ++
        serializePieces compress (pieceIndex + 1) false rest)

def serializeIpv6 (pieces : List Nat) : List Char :=
  serializePieces (compressedPieceIndex pieces) 0 false pieces

def serialize : Host → List Char
  | .domain name => name.text
  | .ipv4 address => serializeIpv4 address
  | .ipv6 address => '[' :: (serializeIpv6 address.pieces ++ [']'])

section Digits

variable {base number : Nat} {c : Char}

/-- The digits of a number are digits of its base. -/
theorem exists_digitChar_of_mem_toDigits (hbase : 1 < base) (hc : c ∈ Nat.toDigits base number) :
    ∃ digit < base, c = Nat.digitChar digit := by
  induction number using Nat.strong_induction_on with
  | _ number ih =>
    rw [Nat.toDigits_eq_if hbase] at hc
    split at hc
    · rename_i hlt
      exact ⟨number, hlt, List.mem_singleton.mp hc⟩
    · rename_i hle
      cases List.mem_append.mp hc with
      | inl hfront => exact ih (number / base) (Nat.div_lt_self (by omega) hbase) hfront
      | inr hlast =>
        exact ⟨number % base, Nat.mod_lt _ (by omega), List.mem_singleton.mp hlast⟩

/-- Hexadecimal digits are printed in lower case. -/
theorem hexDigit_lower_case (hc : c ∈ Nat.toDigits 16 number) : c.toLower = c ∧ c ≠ ':' := by
  obtain ⟨digit, hlt, heq⟩ := exists_digitChar_of_mem_toDigits (by decide) hc
  have hall : ∀ digit < 16, (Nat.digitChar digit).toLower = Nat.digitChar digit ∧
      Nat.digitChar digit ≠ ':' := by decide
  rw [heq]
  exact hall digit hlt

end Digits

/-- A dotted address is split into its octets. -/
theorem splitOn_serializeIpv4 :
    (serializeIpv4 address).splitOn '.' = address.octets.map (Nat.toDigits 10) := by
  apply List.splitOn_intercalate
  · intro digits hdigits hpoint
    obtain ⟨octet, _, heq⟩ := List.mem_map.mp hdigits
    rw [← heq] at hpoint
    exact absurd (Nat.isDigit_of_mem_toDigits (by decide) (by decide) hpoint) (by decide)
  · exact List.cons_ne_nil _ _

section Ipv6

variable {pieces rest : List Nat} {first : Nat}

/-- No run that is read later starts at the first piece. -/
theorem readFrom_ne_zero (pieces : List Nat) (search : RunSearch)
    (hlongest : search.longestIndex ≠ some 0)
    (hfound : search.foundIndex ≠ some 0) (pieceIndex : Nat) :
    ((search.readFrom (pieceIndex + 1) pieces).longestIndex ≠ some 0 ∧
      (search.readFrom (pieceIndex + 1) pieces).foundIndex ≠ some 0) := by
  induction pieces generalizing search pieceIndex with
  | nil => exact ⟨hlongest, hfound⟩
  | cons piece others ih =>
    rw [RunSearch.readFrom]
    apply ih
    · unfold RunSearch.read
      split
      · exact hlongest
      · split
        · exact hfound
        · exact hlongest
    · unfold RunSearch.read
      split
      · dsimp only
        split
        · simp
        · exact hfound
      · split
        · simp
        · simp

/-- No run of zeros is compressed where the first piece is not zero. -/
theorem compressedPieceIndex_ne_zero (hfirst : first ≠ 0) :
    compressedPieceIndex (first :: rest) ≠ some 0 := by
  have hstart : RunSearch.start.read 0 first = ⟨none, 1, none, 0⟩ := by
    rw [RunSearch.read, if_neg hfirst]
    rfl
  have hkept := readFrom_ne_zero rest ⟨none, 1, none, 0⟩ (by simp) (by simp) 0
  rw [compressedPieceIndex, RunSearch.readFrom, hstart, RunSearch.result]
  split
  · exact hkept.2
  · exact hkept.1

/-- An address whose first piece is not zero begins with it. -/
theorem serializeIpv6_cons (hfirst : first ≠ 0) :
    ∃ tail, serializeIpv6 (first :: rest) = Nat.toDigits 16 first ++ ':' :: tail := by
  have hnot : ¬ compressedPieceIndex (first :: rest) = some 0 := compressedPieceIndex_ne_zero hfirst
  rw [serializeIpv6, serializePieces]
  simp only [Bool.false_eq_true, false_and, if_false, if_neg hnot, ne_eq, OfNat.zero_ne_ofNat,
    not_false_eq_true, if_true, List.cons_append, List.nil_append]
  exact ⟨_, rfl⟩

attribute [local simp] compressedPieceIndex RunSearch.readFrom RunSearch.start RunSearch.read
  RunSearch.result in
/-- A mapped address begins with its prefix. -/
theorem serializeIpv6_mapped (high low : Nat) :
    ∃ tail, serializeIpv6 [0, 0, 0, 0, 0, 0xffff, high, low] =
      [':', ':', 'f', 'f', 'f', 'f', ':'] ++ tail := by
  have hcompress : compressedPieceIndex [0, 0, 0, 0, 0, 0xffff, high, low] = some 0 := by
    by_cases hhigh : high = 0
    · by_cases hlow : low = 0
      · simp [hhigh, hlow]
      · simp [hhigh, hlow]
    · by_cases hlow : low = 0
      · simp [hhigh, hlow]
      · simp [hhigh, hlow]
  have hhex : Nat.toDigits 16 0xffff = ['f', 'f', 'f', 'f'] := by decide
  rw [serializeIpv6, hcompress]
  simp only [serializePieces, hhex, Bool.false_eq_true, false_and, if_false, true_and]
  simp

end Ipv6

end Bitboard.Lib.UrlHost
