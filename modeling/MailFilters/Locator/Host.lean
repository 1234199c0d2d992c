import MailFilters.Text.Digit
import MailFilters.Text.Split

/-!
# Hosts in brackets

A host in brackets is an address: `v`, a version and an address of that version, or an address of
eight groups of four hexadecimal digits.

* **`isGroupAddress`** — eight groups, where one run of groups may be left out and the last two
  may be written as four decimal octets.
* **`isBracketedHost`** — either kind of address, the second one with a zone or without.
-/

namespace MailFilters.Locator

/-- Whether a text is a number from 0 to 255 without zeros in front. -/
def isOctet (s : List Char) : Bool :=
  !s.isEmpty && s.all Text.isAsciiDigit && s.length ≤ 3 && (s == ['0'] || s.head? != some '0') &&
    Text.decimalValue s ≤ 255

/-- Whether a text is four octets with points between them. -/
def isDotted (s : List Char) : Bool :=
  let octets := Text.splitOn '.' s
  octets.length == 4 && octets.all isOctet

/-- Whether a text is one to four hexadecimal digits. -/
def isGroup (s : List Char) : Bool :=
  !s.isEmpty && s.all (fun c => (Text.hexValue? c).isSome) && s.length ≤ 4

/-- The parts of an address with two groups in place of four decimal octets at its end, if the
octets are in order. -/
def expandOctets : List (List Char) → Option (List (List Char))
  | [] => some []
  | [last] =>
    if last.contains '.' then if isDotted last then some [['0'], ['0']] else none
    else some [last]
  | part :: rest => (expandOctets rest).map (part :: ·)

/-- Cuts parts at the first empty one that has another part behind it. -/
def cutAtGap : List (List Char) → Option (List (List Char) × List (List Char))
  | [] => none
  | [_] => none
  | [] :: part :: rest => some ([], part :: rest)
  | part :: rest => (cutAtGap rest).map fun (before, after) => (part :: before, after)

/-- How many groups stand on one side of a gap; an empty part alone is no group. -/
def sideCount? (parts : List (List Char)) : Option Nat :=
  if parts == [[]] then some 0 else if parts.all isGroup then some parts.length else none

/-- Whether a text is an address of eight groups. -/
def isGroupAddress (s : List Char) : Bool :=
  match expandOctets (Text.splitOn ':' s) with
  | none | some [] => false
  | some (first :: rest) =>
    match cutAtGap rest with
    | none => rest.length == 7 && (first :: rest).all isGroup
    | some (before, after) =>
      match sideCount? (first :: before), sideCount? after with
      | some high, some low => high + low ≤ 7
      | _, _ => false

/-- Whether a text is an address of eight groups, with a zone behind a percent sign or without. -/
def isZonedAddress (s : List Char) : Bool :=
  match Text.cutAt '%' s with
  | (address, none) => isGroupAddress address
  | (address, some zone) => !zone.isEmpty && !zone.contains '%' && isGroupAddress address

/-- Whether a text is an address of a version that it names, the leading `v` left out. -/
def isVersionedAddress (s : List Char) : Bool :=
  match Text.cutAt '.' s with
  | (version, some address) =>
    !version.isEmpty && version.all (fun c => (Text.hexValue? c).isSome) && !address.isEmpty
  | (_, none) => false

/-- Whether a text may stand in brackets as a host. -/
def isBracketedHost : List Char → Bool
  | 'v' :: rest => isVersionedAddress rest
  | host => isZonedAddress host

end MailFilters.Locator
