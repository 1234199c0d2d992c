import MailFilters.Locator.Host
import MailFilters.Text.LetterCase

/-!
# Locators

A locator is a URL: a scheme, an authority behind two slashes, a path, a query and a fragment.

* **`Locator.read?`** — the parts of a locator.
* **`Authority.read?`** — the user, the password, the host and the port of an authority.
-/

namespace MailFilters

/-- The parts of a locator, not decoded; a part that is not there is empty. -/
structure Locator where
  scheme : List Char
  authority : List Char
  path : List Char
  query : List Char
  fragment : List Char
  deriving DecidableEq, Repr

/-- The parts of an authority, not decoded; a part that is not there is empty. -/
structure Authority where
  user : List Char
  password : List Char
  host : List Char
  port : Option Nat
  deriving DecidableEq, Repr

namespace Locator

/-- The text that counts: no control characters or spaces in front, no tabs and line breaks. -/
def clean (s : List Char) : List Char :=
  (s.dropWhile fun c => c.toNat ≤ 0x20).filter fun c => c != '\t' && c != '\r' && c != '\n'

/-- Whether a character may stand in a scheme. -/
def isSchemeChar (c : Char) : Bool :=
  Text.isAsciiLetter c || Text.isAsciiDigit c || c == '+' || c == '-' || c == '.'

/-- Whether a text is a scheme. -/
def isScheme (s : List Char) : Bool :=
  s.head?.any Text.isAsciiLetter && s.all isSchemeChar

/-- The scheme of a text in lower case and what stands after its colon; a text without scheme has
the empty one. -/
def splitScheme (s : List Char) : List Char × List Char :=
  match Text.cutAt ':' s with
  | (scheme, some rest) => if isScheme scheme then (scheme.map Char.toLower, rest) else ([], s)
  | (_, none) => ([], s)

/-- Whether a character ends an authority. -/
def endsAuthority (c : Char) : Bool := c == '/' || c == '?' || c == '#'

/-- The authority behind two slashes and what stands after it. -/
def splitAuthority : List Char → List Char × List Char
  | '/' :: '/' :: rest =>
    (rest.takeWhile fun c => !endsAuthority c, rest.dropWhile fun c => !endsAuthority c)
  | s => ([], s)

/-- The code points that stand for text with one of `/?#@:` in it, when compatibility forms are
resolved. -/
def delimiterLookalikes : List (Nat × Nat) :=
  [(0x2047, 0x2049), (0x2100, 0x2101), (0x2105, 0x2106), (0x2A74, 0x2A74), (0xFE13, 0xFE13),
   (0xFE16, 0xFE16), (0xFE55, 0xFE56), (0xFE5F, 0xFE5F), (0xFE6B, 0xFE6B), (0xFF03, 0xFF03),
   (0xFF0F, 0xFF0F), (0xFF1A, 0xFF1A), (0xFF1F, 0xFF20)]

/-- Whether the brackets of an authority, if it has any, hold a host: nothing stands before them,
and only a port after them. -/
def bracketsAreSound (authority : List Char) : Bool :=
  if !authority.contains '[' && !authority.contains ']' then true
  else if !authority.contains '[' || !authority.contains ']' then false
  else
    let place := (Text.cutAtLast '@' authority).2
    match Text.cutAt '[' place with
    | (before, some bracketed) =>
      let (host, after) := Text.cutAt ']' bracketed
      before.isEmpty && (after.getD []).head?.all (· == ':') && isBracketedHost host
    | (_, none) => isBracketedHost (Text.cutAt ':' place).1

/-- Whether an authority is sound: its brackets are, and none of its characters stands for text
that would end it. -/
def isSoundAuthority (authority : List Char) : Bool :=
  bracketsAreSound authority &&
    !authority.any fun c => Text.inRanges delimiterLookalikes c.toNat

/-- The parts of a locator. -/
def read? (s : List Char) : Option Locator :=
  let (scheme, afterScheme) := splitScheme (clean s)
  let (authority, afterAuthority) := splitAuthority afterScheme
  let (beforeFragment, fragment) := Text.cutAt '#' afterAuthority
  let (path, query) := Text.cutAt '?' beforeFragment
  if isSoundAuthority authority then
    some ⟨scheme, authority, path, query.getD [], fragment.getD []⟩
  else none

end Locator

namespace Authority

/-- The greatest port. -/
def maxPort : Nat := 65535

/-- The port that a text writes; the empty text writes none. -/
def readPort? (s : List Char) : Option (Option Nat) :=
  if s.isEmpty then some none
  else if s.all Text.isAsciiDigit then
    match Text.readNumeral s with
    | .ok port => if port ≤ maxPort then some (some port) else none
    | .error _ => none
  else none

/-- The host of the part of an authority behind the user, and what stands behind the colon after
it.  A host in brackets may hold colons. -/
def splitPlace (place : List Char) : List Char × List Char :=
  match Text.cutAt '[' place with
  | (_, some bracketed) =>
    let (host, after) := Text.cutAt ']' bracketed
    (host, ((Text.cutAt ':' (after.getD [])).2).getD [])
  | (_, none) =>
    let (host, port) := Text.cutAt ':' place
    (host, port.getD [])

/-- A host in lower case, except for a zone behind a percent sign. -/
def lowerHost (host : List Char) : List Char :=
  match Text.cutAt '%' host with
  | (name, none) => Text.lower name
  | (name, some zone) => Text.lower name ++ '%' :: zone

/-- The parts of an authority, if its port is one. -/
def read? (authority : List Char) : Option Authority :=
  let (userInfo, place) := Text.cutAtLast '@' authority
  let (user, password) := Text.cutAt ':' (userInfo.getD [])
  let (host, port) := splitPlace place
  (readPort? port).map fun port => ⟨user, password.getD [], lowerHost host, port⟩

end Authority

end MailFilters
