/-
# The guard of the LNURL proxy

The proxy fetches a URL for a page. The guard refuses URLs whose host is in the network of the
proxy. It compares the text of the host with the ones of internal hosts. The deployed function has
a copy of the guard.

The functions follow `lnurl-proxy-upstream-url.ts` and `api/lnurl/[...path].ts`. The URL parser is a
parameter, and its hosts are written in their normal form.
-/

import Bitboard.Lib.UrlHost
import Bitboard.Frontend.SendAmount

namespace Bitboard.Frontend.LnurlProxyGuard

open Bitboard.Lib.UrlHost

structure ParsedUrl where
  protocol : String
  username : String
  password : String
  host : Option Host

def ParsedUrl.hostname (parsed : ParsedUrl) : List Char :=
  match parsed.host with
  | none => []
  | some host => serialize host

def utf16Length (text : String) : Nat :=
  (text.toList.map fun c => if c.toNat < 0x10000 then 1 else 2).sum

def MAX_LNURL_BECH32_LENGTH : Nat := 2048

/-- The match of `(\d{1,3})\.(\d{1,3})\.(\d{1,3})\.(\d{1,3})`. -/
def octetsOf (hostname : List Char) : Option (Nat × Nat × Nat × Nat) :=
  match hostname.splitOn '.' with
  | [first, second, third, fourth] =>
    if [first, second, third, fourth].all fun part =>
        part.all Char.isDigit && (part.length = 1 ∨ part.length = 2 ∨ part.length = 3) then
      some (digitsValue first, digitsValue second, digitsValue third, digitsValue fourth)
    else none
  | _ => none

def isPrivateOrReservedIpv4 (hostname : List Char) : Bool :=
  match octetsOf hostname with
  | none => false
  | some (a, b, c, d) =>
    if 255 < a ∨ 255 < b ∨ 255 < c ∨ 255 < d then true
    else if a = 0 then true
    else if a = 10 then true
    else if a = 127 then true
    else if a = 169 ∧ b = 254 then true
    else if a = 172 ∧ 16 ≤ b ∧ b ≤ 31 then true
    else if a = 192 ∧ b = 168 then true
    else false

def toLowerCase (text : List Char) : List Char := text.map Char.toLower

def isPrivateOrReservedIpv6 (hostname : List Char) : Bool :=
  let normalized := toLowerCase hostname
  if normalized = "::1".toList then true
  else if "fe80:".toList.isPrefixOf normalized then true
  else if "fc".toList.isPrefixOf normalized || "fd".toList.isPrefixOf normalized then true
  else false

def isBlockedHostname (hostname : List Char) : Bool :=
  let lower := toLowerCase hostname
  if lower = "localhost".toList then true
  else if ".localhost".toList.isSuffixOf lower then true
  else if ".local".toList.isSuffixOf lower then true
  else if ".internal".toList.isSuffixOf lower then true
  else if isPrivateOrReservedIpv4 lower then true
  else if ['['].isPrefixOf lower && [']'].isSuffixOf lower then
    isPrivateOrReservedIpv6 (lower.drop 1).dropLast
  else if lower.contains ':' then isPrivateOrReservedIpv6 lower
  else false

variable (parseUrl : String → Option ParsedUrl)

def isLnurlProxyUpstreamUrlAllowed (url : String) : Bool :=
  if MAX_LNURL_BECH32_LENGTH < utf16Length url then false
  else
    match parseUrl url with
    | none => false
    | some parsed =>
      if parsed.protocol ≠ "https:" then false
      else if parsed.username ≠ "" ∨ parsed.password ≠ "" then false
      else if parsed.hostname = [] then false
      else if isBlockedHostname parsed.hostname then false
      else true

namespace Inlined

def MAX_LNURL_PROXY_URL_LENGTH : Nat := 2048

def isPrivateOrReservedIpv4 (hostname : List Char) : Bool :=
  match octetsOf hostname with
  | none => false
  | some (a, b, c, d) =>
    if 255 < a ∨ 255 < b ∨ 255 < c ∨ 255 < d then true
    else if a = 0 then true
    else if a = 10 then true
    else if a = 127 then true
    else if a = 169 ∧ b = 254 then true
    else if a = 172 ∧ 16 ≤ b ∧ b ≤ 31 then true
    else if a = 192 ∧ b = 168 then true
    else false

def isPrivateOrReservedIpv6 (hostname : List Char) : Bool :=
  let normalized := toLowerCase hostname
  if normalized = "::1".toList then true
  else if "fe80:".toList.isPrefixOf normalized then true
  else if "fc".toList.isPrefixOf normalized || "fd".toList.isPrefixOf normalized then true
  else false

def isBlockedHostname (hostname : List Char) : Bool :=
  let lower := toLowerCase hostname
  if lower = "localhost".toList then true
  else if ".localhost".toList.isSuffixOf lower then true
  else if ".local".toList.isSuffixOf lower then true
  else if ".internal".toList.isSuffixOf lower then true
  else if isPrivateOrReservedIpv4 lower then true
  else if ['['].isPrefixOf lower && [']'].isSuffixOf lower then
    isPrivateOrReservedIpv6 (lower.drop 1).dropLast
  else if lower.contains ':' then isPrivateOrReservedIpv6 lower
  else false

def isLnurlProxyUpstreamUrlAllowed (url : String) : Bool :=
  if MAX_LNURL_PROXY_URL_LENGTH < utf16Length url then false
  else
    match parseUrl url with
    | none => false
    | some parsed =>
      if parsed.protocol ≠ "https:" then false
      else if parsed.username ≠ "" ∨ parsed.password ≠ "" then false
      else if parsed.hostname = [] then false
      else if isBlockedHostname parsed.hostname then false
      else true

end Inlined

/-- `localhost` or a name under `localhost`, `local` or `internal`. -/
def IsInternalName (name : List Char) : Prop :=
  name = "localhost".toList ∨ ".localhost".toList <:+ name ∨ ".local".toList <:+ name ∨
    ".internal".toList <:+ name

/-- The blocks 0/8, 10/8, 127/8, 169.254/16, 172.16/12 and 192.168/16. -/
def IsInternalIpv4 (first second : Nat) : Prop :=
  first = 0 ∨ first = 10 ∨ first = 127 ∨ first = 169 ∧ second = 254 ∨
    first = 172 ∧ second / 16 = 1 ∨ first = 192 ∧ second = 168

variable (address : Ipv6Address)

def IsUnspecified : Prop := address.pieces = [0, 0, 0, 0, 0, 0, 0, 0]

def IsLoopback : Prop := address.pieces = [0, 0, 0, 0, 0, 0, 0, 1]

def IsLinkLocal : Prop :=
  ∃ first ∈ address.pieces.head?, first / 2 ^ 6 = 0xfe80 / 2 ^ 6

def IsUniqueLocal : Prop :=
  ∃ first ∈ address.pieces.head?, first / 2 ^ 9 = 0xfc00 / 2 ^ 9

def MapsInternalIpv4 : Prop :=
  ∃ high low, address.pieces = [0, 0, 0, 0, 0, 0xffff, high, low] ∧
    IsInternalIpv4 (high / 2 ^ 8) (high % 2 ^ 8)

/-- The host is one of the proxy's own network. A point at the end of a name says nothing. -/
def IsInternal : Host → Prop
  | .domain name =>
    IsInternalName name.text ∨ ∃ stem, name.text = stem ++ ['.'] ∧ IsInternalName stem
  | .ipv4 address => IsInternalIpv4 address.first address.second
  | .ipv6 address => IsUnspecified address ∨ IsLoopback address ∨ IsLinkLocal address ∨
      IsUniqueLocal address ∨ MapsInternalIpv4 address

/-- An internal host that the guard does not know: an internal name with a point at its end, the
unspecified address, a link-local address outside fe80::/16, or a mapped address of IPv4. -/
def IsOverlooked : Host → Prop
  | .domain name => ∃ stem, name.text = stem ++ ['.'] ∧ IsInternalName stem
  | .ipv4 _ => False
  | .ipv6 address => IsUnspecified address ∨
      (IsLinkLocal address ∧ address.pieces.head? ≠ some 0xfe80) ∨ MapsInternalIpv4 address

/-- No URL of an internal host is accepted, and the copy accepts the same URLs. -/
structure GuardsUrl (parseUrl : String → Option ParsedUrl) (url : String) : Prop where
  guarded : isLnurlProxyUpstreamUrlAllowed parseUrl url = true →
    ∀ parsed ∈ parseUrl url, ∀ host ∈ parsed.host, ¬ IsInternal host
  copied : Inlined.isLnurlProxyUpstreamUrlAllowed parseUrl url =
    isLnurlProxyUpstreamUrlAllowed parseUrl url

structure IsFetchable (url : String) (parsed : ParsedUrl) : Prop where
  short : utf16Length url ≤ MAX_LNURL_BECH32_LENGTH
  https : parsed.protocol = "https:"
  no_username : parsed.username = ""
  no_password : parsed.password = ""

end Bitboard.Frontend.LnurlProxyGuard
