/-
# Which internal hosts the guard knows

Internal IPv4 addresses, the loopback address, unique-local addresses, fe80::/16 and internal names
are refused. The other internal hosts are accepted.
-/

import Bitboard.Frontend.LnurlProxyGuard
import Bitboard.Frontend.DisplayAmountTexts

namespace Bitboard.Frontend.LnurlProxyGuard

open Bitboard.Lib.UrlHost DisplayAmount

section Refused

variable {text inner : List Char}

/-- The text of a host in brackets is read as an address of IPv6. -/
def inBrackets (lower : List Char) : Bool := ['['].isPrefixOf lower && [']'].isSuffixOf lower

theorem isBlockedHostname_iff : isBlockedHostname text = true ↔
    IsInternalName (toLowerCase text) ∨ isPrivateOrReservedIpv4 (toLowerCase text) = true ∨
      (inBrackets (toLowerCase text) = true ∧
        isPrivateOrReservedIpv6 ((toLowerCase text).drop 1).dropLast = true) ∨
      (inBrackets (toLowerCase text) = false ∧ (toLowerCase text).contains ':' = true ∧
        isPrivateOrReservedIpv6 (toLowerCase text) = true) := by
  unfold isBlockedHostname IsInternalName inBrackets
  dsimp only
  generalize toLowerCase text = lower
  rw [← List.isSuffixOf_iff_suffix, ← List.isSuffixOf_iff_suffix, ← List.isSuffixOf_iff_suffix]
  by_cases hlocalhost : lower = "localhost".toList
  · rw [if_pos hlocalhost]
    exact ⟨fun _ => .inl (.inl hlocalhost), fun _ => rfl⟩
  rw [if_neg hlocalhost]
  -- What is left are the branches of the other conditions.
  generalize ".localhost".toList.isSuffixOf lower = underLocalhost
  generalize ".local".toList.isSuffixOf lower = underLocal
  generalize ".internal".toList.isSuffixOf lower = underInternal
  generalize isPrivateOrReservedIpv4 lower = ipv4
  generalize (['['].isPrefixOf lower && [']'].isSuffixOf lower) = brackets
  generalize lower.contains ':' = colon
  grind

theorem last_eq_of_suffix {first last : Char} {front : List Char}
    (h : front ++ [first] <:+ text ++ [last]) : first = last := by
  obtain ⟨before, heq⟩ := h
  rw [← List.append_assoc] at heq
  exact List.singleton_inj.mp (List.append_inj_right' heq rfl)

/-- An internal name ends with a letter. -/
theorem not_isInternalName_of_last {last : Char} (hapart : last ≠ 't' ∧ last ≠ 'l') :
    ¬ IsInternalName (text ++ [last]) := by
  have hsplit : "localhost".toList = "localhos".toList ++ ['t'] := by decide
  intro h
  cases h with
  | inl heq =>
    rw [hsplit] at heq
    exact hapart.1 (List.singleton_inj.mp (List.append_inj_right' heq rfl))
  | inr hrest =>
    cases hrest with
    | inl hunder =>
      have hend : ".localhost".toList = ".localhos".toList ++ ['t'] := by decide
      rw [hend] at hunder
      exact hapart.1 (last_eq_of_suffix hunder).symm
    | inr hlast =>
      cases hlast with
      | inl hlocal =>
        have hend : ".local".toList = ".loca".toList ++ ['l'] := by decide
        rw [hend] at hlocal
        exact hapart.2 (last_eq_of_suffix hlocal).symm
      | inr hinternal =>
        have hend : ".internal".toList = ".interna".toList ++ ['l'] := by decide
        rw [hend] at hinternal
        exact hapart.2 (last_eq_of_suffix hinternal).symm

/-- Four numbers with points between them end with a digit. -/
theorem not_isPrivateOrReservedIpv4_of_last {last : Char} (hlast : last.isDigit = false) :
    isPrivateOrReservedIpv4 (text ++ [last]) = false := by
  have hnone : octetsOf (text ++ [last]) = none := by
    unfold octetsOf
    split
    · rename_i first second third fourth hparts
      split
      · rename_i hdigits
        have hjoined : ['.'].intercalate [first, second, third, fourth] = text ++ [last] := by
          rw [← hparts]
          exact List.intercalate_splitOn '.'
        simp only [List.all_cons, Bool.and_eq_true, List.all_nil, decide_eq_true_iff] at hdigits
        obtain ⟨_, _, _, hfourth, _⟩ := hdigits
        have hne : fourth ≠ [] := by
          intro hnil
          rw [hnil] at hfourth
          simp at hfourth
        obtain ⟨front, digit, heq⟩ := List.eq_nil_or_concat fourth |>.resolve_left hne
        have hend : (first ++ '.' :: (second ++ '.' :: (third ++ '.' :: front))) ++ [digit] =
            text ++ [last] := by
          rw [← hjoined, heq]
          simp [List.intercalate]
        have hsame : digit = last := List.singleton_inj.mp (List.append_inj_right' hend rfl)
        have hdigit : digit.isDigit = true := by
          apply List.all_eq_true.mp hfourth.1
          rw [heq]
          simp
        rw [hsame, hlast] at hdigit
        cases hdigit
      · rfl
    · rfl
  rw [isPrivateOrReservedIpv4, hnone]

theorem toLowerCase_eq_self (h : ∀ c ∈ text, c.toLower = c) : toLowerCase text = text := by
  rw [toLowerCase]
  conv_rhs => rw [← List.map_id text]
  exact List.map_congr_left h

/-- A host in brackets is refused exactly as an address of IPv6. -/
theorem isBlockedHostname_brackets :
    isBlockedHostname ('[' :: (inner ++ [']'])) = isPrivateOrReservedIpv6 (toLowerCase inner) := by
  have hlower : toLowerCase ('[' :: (inner ++ [']'])) = ('[' :: toLowerCase inner) ++ [']'] := by
    simp [toLowerCase]
  rw [Bool.eq_iff_iff, isBlockedHostname_iff, hlower]
  have hname : ¬ IsInternalName (('[' :: toLowerCase inner) ++ [']']) :=
    not_isInternalName_of_last (by decide)
  have hipv4 : isPrivateOrReservedIpv4 (('[' :: toLowerCase inner) ++ [']']) = false :=
    not_isPrivateOrReservedIpv4_of_last (by decide)
  have hbrackets : inBrackets (('[' :: toLowerCase inner) ++ [']']) = true := by
    have hsuffix : [']'].isSuffixOf (('[' :: toLowerCase inner) ++ [']']) = true := by
      rw [List.isSuffixOf_iff_suffix]
      exact List.suffix_append _ _
    rw [inBrackets, hsuffix, Bool.and_true]
    rfl
  have hinner : ((('[' :: toLowerCase inner) ++ [']']).drop 1).dropLast = toLowerCase inner := by
    simp
  rw [hinner, hipv4, hbrackets]
  constructor
  · intro h
    cases h with
    | inl hinternal => exact absurd hinternal hname
    | inr hrest =>
      cases hrest with
      | inl hfour => cases hfour
      | inr hsix =>
        cases hsix with
        | inl hinside => exact hinside.2
        | inr houtside => cases houtside.1
  · intro h
    exact .inr (.inr (.inl ⟨rfl, h⟩))

end Refused

section Ipv6

variable {first : Nat} {tail : List Char}

theorem toLowerCase_hex (first : Nat) (tail : List Char) :
    toLowerCase (Nat.toDigits 16 first ++ ':' :: tail) =
      Nat.toDigits 16 first ++ ':' :: toLowerCase tail := by
  have hhex : toLowerCase (Nat.toDigits 16 first) = Nat.toDigits 16 first :=
    toLowerCase_eq_self fun c hc => (hexDigit_lower_case hc).1
  rw [toLowerCase, List.map_append, List.map_cons]
  congr 1

theorem eq_of_prefix_append {front other rest : List Char} {c : Char}
    (hstart : front ++ [c] <+: other ++ rest) (hlength : front.length = other.length) :
    front = other := by
  obtain ⟨after, heq⟩ := hstart
  rw [List.append_assoc] at heq
  exact List.append_inj_left heq hlength

theorem isPrivateOrReservedIpv6_fe80 (tail : List Char) :
    isPrivateOrReservedIpv6 (toLowerCase (Nat.toDigits 16 0xfe80 ++ ':' :: tail)) = true := by
  have hhex : Nat.toDigits 16 0xfe80 = "fe80".toList := by decide
  have hprefix : "fe80:".toList.isPrefixOf
      ("fe80".toList ++ ':' :: toLowerCase (toLowerCase tail)) = true := by
    rw [List.isPrefixOf_iff_prefix]
    exact ⟨toLowerCase (toLowerCase tail), rfl⟩
  rw [isPrivateOrReservedIpv6]
  rw [toLowerCase_hex, toLowerCase_hex, hhex]
  split
  · rfl
  · rfl

/-- Unique-local addresses are refused. -/
theorem isPrivateOrReservedIpv6_uniqueLocal (hfirst : first / 2 ^ 9 = 0xfc00 / 2 ^ 9) :
    isPrivateOrReservedIpv6 (toLowerCase (Nat.toDigits 16 first ++ ':' :: tail)) = true := by
  have hall : ∀ offset < 512, ("fc".toList.isPrefixOf (Nat.toDigits 16 (0xfc00 + offset)) ||
      "fd".toList.isPrefixOf (Nat.toDigits 16 (0xfc00 + offset))) = true := by decide +kernel
  have hrange : first = 0xfc00 + (first - 0xfc00) ∧ first - 0xfc00 < 512 := by omega
  have hprefix := hall (first - 0xfc00) hrange.2
  rw [← hrange.1] at hprefix
  rw [isPrivateOrReservedIpv6]
  rw [toLowerCase_hex, toLowerCase_hex]
  have hlonger : ("fc".toList.isPrefixOf
        (Nat.toDigits 16 first ++ ':' :: toLowerCase (toLowerCase tail)) ||
      "fd".toList.isPrefixOf
        (Nat.toDigits 16 first ++ ':' :: toLowerCase (toLowerCase tail))) = true := by
    rw [Bool.or_eq_true, List.isPrefixOf_iff_prefix, List.isPrefixOf_iff_prefix] at hprefix ⊢
    cases hprefix with
    | inl hfc => exact .inl (hfc.trans (List.prefix_append _ _))
    | inr hfd => exact .inr (hfd.trans (List.prefix_append _ _))
  split
  · rfl
  · split
    · rfl
    · rfl

/-- The other link-local addresses are not. -/
theorem isPrivateOrReservedIpv6_linkLocal (hfirst : first / 2 ^ 6 = 0xfe80 / 2 ^ 6)
    (hapart : first ≠ 0xfe80) :
    isPrivateOrReservedIpv6 (toLowerCase (Nat.toDigits 16 first ++ ':' :: tail)) = false := by
  have hall : ∀ offset < 64, (Nat.toDigits 16 (0xfe80 + offset)).length = 4 ∧
      (Nat.toDigits 16 (0xfe80 + offset)).take 2 = ['f', 'e'] ∧
      (offset ≠ 0 → Nat.toDigits 16 (0xfe80 + offset) ≠ "fe80".toList) := by decide +kernel
  have hrange : first = 0xfe80 + (first - 0xfe80) ∧ first - 0xfe80 < 64 := by omega
  obtain ⟨hlength, hstart, hother⟩ := hall (first - 0xfe80) hrange.2
  rw [← hrange.1] at hlength hstart hother
  have hsplit : Nat.toDigits 16 first = 'f' :: 'e' :: (Nat.toDigits 16 first).drop 2 := by
    conv_lhs => rw [← List.take_append_drop 2 (Nat.toDigits 16 first), hstart]
    rfl
  have hnotFe80 : ¬ "fe80:".toList.isPrefixOf
      (Nat.toDigits 16 first ++ ':' :: toLowerCase (toLowerCase tail)) = true := by
    rw [List.isPrefixOf_iff_prefix]
    intro hprefix
    have hjoined : "fe80:".toList = "fe80".toList ++ [':'] := by decide
    rw [hjoined] at hprefix
    apply hother (by omega)
    exact (eq_of_prefix_append hprefix (by rw [hlength]; rfl)).symm
  rw [isPrivateOrReservedIpv6]
  rw [toLowerCase_hex, toLowerCase_hex, if_neg hnotFe80, hsplit]
  rfl

theorem isPrivateOrReservedIpv6_mapped (tail : List Char) :
    isPrivateOrReservedIpv6
      (toLowerCase ([':', ':', 'f', 'f', 'f', 'f', ':'] ++ tail)) = false := by
  rw [isPrivateOrReservedIpv6]
  have hlower : toLowerCase (toLowerCase ([':', ':', 'f', 'f', 'f', 'f', ':'] ++ tail)) =
      [':', ':', 'f', 'f', 'f', 'f', ':'] ++ toLowerCase (toLowerCase tail) := by
    simp [toLowerCase]
  rw [hlower]
  rfl

variable {address : Ipv6Address}

theorem serializeIpv6_of_head (hhead : address.pieces.head? = some first) (hfirst : first ≠ 0) :
    ∃ tail, serializeIpv6 address.pieces = Nat.toDigits 16 first ++ ':' :: tail := by
  obtain ⟨rest, hpieces⟩ := List.head?_eq_some_iff.mp hhead
  rw [hpieces]
  exact serializeIpv6_cons hfirst

/-- An internal address of IPv6 is refused exactly where the guard does not overlook it. -/
theorem isBlockedHostname_ipv6_iff (hinternal : IsInternal (.ipv6 address)) :
    isBlockedHostname (serialize (.ipv6 address)) = true ↔ ¬ IsOverlooked (.ipv6 address) := by
  rw [serialize, isBlockedHostname_brackets]
  have hoverlooked : IsOverlooked (.ipv6 address) →
      isPrivateOrReservedIpv6 (toLowerCase (serializeIpv6 address.pieces)) = false := by
    intro h
    cases h with
    | inl hunspecified =>
      rw [IsUnspecified] at hunspecified
      rw [hunspecified]
      decide
    | inr hrest =>
      cases hrest with
      | inl hlink =>
        obtain ⟨⟨first, hhead, hrange⟩, hother⟩ := hlink
        have hapart : first ≠ 0xfe80 := by
          intro heq
          rw [heq] at hhead
          exact hother hhead
        obtain ⟨tail, htext⟩ := serializeIpv6_of_head hhead (by omega)
        rw [htext]
        exact isPrivateOrReservedIpv6_linkLocal hrange hapart
      | inr hmapped =>
        obtain ⟨high, low, hpieces, _⟩ := hmapped
        obtain ⟨tail, htext⟩ := serializeIpv6_mapped high low
        rw [hpieces, htext]
        exact isPrivateOrReservedIpv6_mapped tail
  constructor
  · intro hblocked hmissed
    rw [hoverlooked hmissed] at hblocked
    cases hblocked
  · intro hknown
    cases hinternal with
    | inl hunspecified => exact absurd (.inl hunspecified) hknown
    | inr hrest =>
      cases hrest with
      | inl hloopback =>
        rw [IsLoopback] at hloopback
        rw [hloopback]
        decide
      | inr hlater =>
        cases hlater with
        | inl hlink =>
          obtain ⟨first, hhead, hrange⟩ := hlink
          have heq : first = 0xfe80 := by
            by_contra hapart
            apply hknown
            apply Or.inr
            apply Or.inl
            refine ⟨⟨first, hhead, hrange⟩, ?_⟩
            rw [Option.mem_def.mp hhead]
            intro hsome
            exact hapart (Option.some.inj hsome)
          obtain ⟨tail, htext⟩ := serializeIpv6_of_head hhead (by omega)
          rw [htext, heq]
          exact isPrivateOrReservedIpv6_fe80 tail
        | inr hlast =>
          cases hlast with
          | inl hunique =>
            obtain ⟨first, hhead, hrange⟩ := hunique
            obtain ⟨tail, htext⟩ := serializeIpv6_of_head hhead (by omega)
            rw [htext]
            exact isPrivateOrReservedIpv6_uniqueLocal hrange
          | inr hmapped => exact absurd (.inr (.inr hmapped)) hknown

end Ipv6

/-! ## IPv4 and names -/

section Ipv4

variable {address : Ipv4Address}

theorem octetsOf_serializeIpv4 (address : Ipv4Address) :
    octetsOf (serializeIpv4 address) =
      some ((address.first : Nat), (address.second : Nat), (address.third : Nat),
        (address.fourth : Nat)) := by
  have hshort : ∀ octet : Fin 256, ((Nat.toDigits 10 octet).all Char.isDigit &&
      ((Nat.toDigits 10 octet).length = 1 ∨ (Nat.toDigits 10 octet).length = 2 ∨
        (Nat.toDigits 10 octet).length = 3 : Bool)) = true := by decide +kernel
  unfold octetsOf
  rw [splitOn_serializeIpv4]
  have hall : [Nat.toDigits 10 address.first, Nat.toDigits 10 address.second,
      Nat.toDigits 10 address.third, Nat.toDigits 10 address.fourth].all (fun part =>
        part.all Char.isDigit && (part.length = 1 ∨ part.length = 2 ∨ part.length = 3 : Bool)) =
          true := by
    simp only [List.all_cons, List.all_nil, Bool.and_true, hshort]
  show (if _ then _ else _) = _
  rw [if_pos hall, digitsValue_toDigits, digitsValue_toDigits, digitsValue_toDigits,
    digitsValue_toDigits]

theorem toLowerCase_serializeIpv4 (address : Ipv4Address) :
    toLowerCase (serializeIpv4 address) = serializeIpv4 address := by
  have hdigits : ∀ octet : Nat,
      (Nat.toDigits 10 octet).map Char.toLower = Nat.toDigits 10 octet := by
    intro octet
    apply toLowerCase_eq_self
    intro c hc
    obtain ⟨digit, hlt, heq⟩ := exists_digitChar_of_mem_toDigits (by decide) hc
    have hall : ∀ digit < 10, (Nat.digitChar digit).toLower = Nat.digitChar digit := by decide
    rw [heq]
    exact hall digit hlt
  simp [toLowerCase, serializeIpv4, Ipv4Address.octets, List.intercalate, hdigits]

/-- Internal addresses of IPv4 are refused. -/
theorem isBlockedHostname_ipv4 (hinternal : IsInternal (.ipv4 address)) :
    isBlockedHostname (serialize (.ipv4 address)) = true := by
  rw [isBlockedHostname_iff, serialize, toLowerCase_serializeIpv4]
  apply Or.inr
  apply Or.inl
  rw [isPrivateOrReservedIpv4, octetsOf_serializeIpv4]
  have hranges : (address.first : Nat) = 0 ∨ (address.first : Nat) = 10 ∨
      (address.first : Nat) = 127 ∨ (address.first : Nat) = 169 ∧ (address.second : Nat) = 254 ∨
      (address.first : Nat) = 172 ∧ (address.second : Nat) / 16 = 1 ∨
      (address.first : Nat) = 192 ∧ (address.second : Nat) = 168 := hinternal
  dsimp only
  generalize (address.first : Nat) = a at hranges ⊢
  generalize (address.second : Nat) = b at hranges ⊢
  by_contra hopen
  rw [Bool.not_eq_true] at hopen
  split at hopen
  · cases hopen
  · split at hopen
    · cases hopen
    · split at hopen
      · cases hopen
      · split at hopen
        · cases hopen
        · split at hopen
          · cases hopen
          · split at hopen
            · cases hopen
            · split at hopen
              · cases hopen
              · omega

variable {name : DomainName}

/-- An internal name is refused exactly where it has no point at its end. -/
theorem isBlockedHostname_domain_iff (hinternal : IsInternal (.domain name)) :
    isBlockedHostname (serialize (.domain name)) = true ↔ ¬ IsOverlooked (.domain name) := by
  rw [isBlockedHostname_iff, serialize, toLowerCase_eq_self name.lower_case]
  constructor
  · intro hblocked hoverlooked
    obtain ⟨stem, htext, _⟩ := hoverlooked
    have hnotBracket : inBrackets name.text = false := by
      rw [inBrackets, Bool.and_eq_false_iff]
      apply Or.inl
      rw [← Bool.not_eq_true, List.isPrefixOf_iff_prefix]
      intro hprefix
      have hmem : '[' ∈ name.text := hprefix.subset List.mem_cons_self
      exact (name.no_bracket_or_colon '[' hmem).1 rfl
    have hnotColon : name.text.contains ':' = false := by
      rw [← Bool.not_eq_true, List.contains_iff_mem]
      intro hmem
      exact (name.no_bracket_or_colon ':' hmem).2 rfl
    rw [hnotBracket, hnotColon, htext] at hblocked
    cases hblocked with
    | inl hname => exact not_isInternalName_of_last (by decide) hname
    | inr hrest =>
      rw [not_isPrivateOrReservedIpv4_of_last (by decide)] at hrest
      cases hrest with
      | inl hipv4 => cases hipv4
      | inr hlater =>
        cases hlater with
        | inl hinside => cases hinside.1
        | inr houtside => cases houtside.2.1
  · intro hknown
    cases hinternal with
    | inl hname => exact .inl hname
    | inr hpoint => exact absurd hpoint hknown

end Ipv4

section Guard

variable {parseUrl : String → Option ParsedUrl} {url : String}

theorem IsOverlooked.isInternal {host : Host} (h : IsOverlooked host) : IsInternal host := by
  cases host with
  | domain name => exact .inr h
  | ipv4 address => cases h
  | ipv6 address =>
    cases h with
    | inl hunspecified => exact .inl hunspecified
    | inr hrest =>
      cases hrest with
      | inl hlink => exact .inr (.inr (.inl hlink.1))
      | inr hmapped => exact .inr (.inr (.inr (.inr hmapped)))

theorem isBlockedHostname_iff_not_isOverlooked {host : Host} (hinternal : IsInternal host) :
    isBlockedHostname (serialize host) = true ↔ ¬ IsOverlooked host := by
  cases host with
  | domain name => exact isBlockedHostname_domain_iff hinternal
  | ipv4 address => exact ⟨fun _ h => h, fun _ => isBlockedHostname_ipv4 hinternal⟩
  | ipv6 address => exact isBlockedHostname_ipv6_iff hinternal

/-- What the guard accepts. -/
theorem isAllowed_iff : isLnurlProxyUpstreamUrlAllowed parseUrl url = true ↔
    ∃ parsed, parseUrl url = some parsed ∧ IsFetchable url parsed ∧ parsed.hostname ≠ [] ∧
      isBlockedHostname parsed.hostname = false := by
  unfold isLnurlProxyUpstreamUrlAllowed
  split
  · rename_i hlong
    constructor
    · intro h
      cases h
    · intro h
      obtain ⟨_, _, hfetchable, _⟩ := h
      exact absurd hlong (Nat.not_lt.mpr hfetchable.short)
  · rename_i hshort
    cases hparse : parseUrl url with
    | none =>
      constructor
      · intro h
        cases h
      · intro h
        obtain ⟨_, hsome, _⟩ := h
        cases hsome
    | some parsed =>
      dsimp only
      constructor
      · intro h
        split at h
        · cases h
        · rename_i hprotocol
          split at h
          · cases h
          · rename_i hcredentials
            split at h
            · cases h
            · rename_i hhostname
              split at h
              · cases h
              · rename_i hopen
                rw [not_or, not_not, not_not] at hcredentials
                exact ⟨parsed, rfl, ⟨Nat.le_of_not_lt hshort, Decidable.not_not.mp hprotocol,
                  hcredentials.1, hcredentials.2⟩, hhostname, Bool.not_eq_true _ ▸ hopen⟩
      · intro h
        obtain ⟨other, hsame, hfetchable, hhostname, hopen⟩ := h
        cases hsame
        rw [if_neg (not_not.mpr hfetchable.https), if_neg (not_or.mpr
          ⟨not_not.mpr hfetchable.no_username, not_not.mpr hfetchable.no_password⟩),
          if_neg hhostname, hopen]
        rfl

theorem serialize_ne_nil_of_isInternal {host : Host} (hinternal : IsInternal host) :
    serialize host ≠ [] := by
  cases host with
  | ipv6 address => exact List.cons_ne_nil _ _
  | ipv4 address =>
    intro hnil
    have hoctets := octetsOf_serializeIpv4 address
    rw [serialize] at hnil
    rw [hnil] at hoctets
    cases hoctets
  | domain name =>
    intro hnil
    rw [serialize] at hnil
    cases hinternal with
    | inl hname =>
      rw [hnil] at hname
      simp [IsInternalName] at hname
    | inr hpoint =>
      obtain ⟨stem, htext, _⟩ := hpoint
      rw [hnil] at htext
      simp at htext

/-- The guard keeps the page out of the network of the proxy, and its copy does the same, exactly
where no URL that may be fetched has an internal host that the guard overlooks. -/
theorem guardsUrl_iff : GuardsUrl parseUrl url ↔
    ∀ parsed ∈ parseUrl url, IsFetchable url parsed → ∀ host ∈ parsed.host,
      ¬ IsOverlooked host := by
  constructor
  · intro h parsed hparsed hfetchable host hhost hoverlooked
    have hinternal := hoverlooked.isInternal
    have hname : parsed.hostname = serialize host := by
      rw [ParsedUrl.hostname, Option.mem_def.mp hhost]
    have hopen : isBlockedHostname parsed.hostname = false := by
      rw [hname, ← Bool.not_eq_true, isBlockedHostname_iff_not_isOverlooked hinternal, not_not]
      exact hoverlooked
    have hallowed : isLnurlProxyUpstreamUrlAllowed parseUrl url = true := by
      rw [isAllowed_iff]
      refine ⟨parsed, hparsed, hfetchable, ?_, hopen⟩
      rw [hname]
      exact serialize_ne_nil_of_isInternal hinternal
    exact h.guarded hallowed parsed hparsed host hhost hinternal
  · intro h
    refine ⟨?_, rfl⟩
    intro hallowed parsed hparsed host hhost hinternal
    obtain ⟨other, hsome, hfetchable, _, hopen⟩ := isAllowed_iff.mp hallowed
    rw [Option.mem_def.mp hparsed] at hsome
    cases hsome
    have hknown := h parsed hparsed hfetchable host hhost
    have hblocked := (isBlockedHostname_iff_not_isOverlooked hinternal).mpr hknown
    rw [ParsedUrl.hostname, Option.mem_def.mp hhost] at hopen
    rw [hopen] at hblocked
    cases hblocked

end Guard

def mappedLoopback : Ipv6Address where
  pieces := [0, 0, 0, 0, 0, 0xffff, 0x7f00, 1]
  length_eq := rfl
  piece_lt := by decide

def parseMappedLoopback (url : String) : Option ParsedUrl :=
  if url = "https://[::ffff:127.0.0.1]/" then
    some { protocol := "https:", username := "", password := "",
           host := some (.ipv6 mappedLoopback) }
  else none

theorem mappedLoopback_accepted :
    ¬ GuardsUrl parseMappedLoopback "https://[::ffff:127.0.0.1]/" := by
  intro h
  have hallowed : isLnurlProxyUpstreamUrlAllowed parseMappedLoopback
      "https://[::ffff:127.0.0.1]/" = true := by decide +kernel
  have hmapped : MapsInternalIpv4 mappedLoopback := ⟨0x7f00, 1, rfl, .inr (.inr (.inl (by decide)))⟩
  exact h.guarded hallowed _ rfl _ rfl (.inr (.inr (.inr (.inr hmapped))))

end Bitboard.Frontend.LnurlProxyGuard
