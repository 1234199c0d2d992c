import MailFilters.RuleError
import MailFilters.Text.Blank
import MailFilters.Text.Lines

/-!
# Tokens

A rules document is a list of lines `key="value"`; lines of white space only do not count.

* **`Token`** — a key and its value with the number of their line.
* **`Token.resolveEscapes`** — resolves a backslash before a quote or a backslash; other ones stay.
* **`Token.ofText`** — the tokens of a document, or the first line that is none.
-/

namespace MailFilters

/-- A key and its value, with the number of their line counted from one. -/
structure Token where
  line : Nat
  key : String
  value : String
  deriving DecidableEq, Repr

namespace Token

/-- Whether a backslash before a character is an escape. -/
def isEscapable (c : Char) : Bool := c == '"' || c == '\\'

/-- A value with the escapes of quotes and backslashes resolved. -/
def resolveEscapes : List Char → List Char
  | '\\' :: c :: rest =>
    if isEscapable c then c :: resolveEscapes rest else '\\' :: resolveEscapes (c :: rest)
  | c :: rest => c :: resolveEscapes rest
  | [] => []

/-- What follows the white space and the opening quote at the start of a text, if it starts so. -/
def afterOpening? (s : List Char) : Option (List Char) :=
  match Text.trimStart s with
  | '"' :: rest => some rest
  | _ => none

/-- What stands before the first equals sign that an opening quote follows, and what stands after
that quote. -/
def splitKey? : List Char → Option (List Char × List Char)
  | [] => none
  | c :: rest =>
    match if c = '=' then afterOpening? rest else none with
    | some value => some ([], value)
    | none => (splitKey? rest).map fun (key, value) => (c :: key, value)

/-- What stands before a closing quote at the end of a text. -/
def beforeClosing? (s : List Char) : Option (List Char) :=
  if s.getLast? = some '"' then some s.dropLast else none

/-- The key and the escaped value of a line without white space at its ends. -/
def readPair? (line : List Char) : Option (List Char × List Char) := do
  let (key, rest) ← splitKey? line
  let value ← beforeClosing? rest
  return (Text.trimEnd key, value)

/-- The token of a line that is not blank. -/
def ofLine (number : Nat) (line : List Char) : Except RuleError Token :=
  match readPair? (Text.trim line) with
  | some (key, value) => .ok ⟨number, String.ofList key, String.ofList (resolveEscapes value)⟩
  | none => .error (.unrecognizedLine number (String.ofList line))

/-- The tokens of lines, the first of which has a given number. -/
def ofLines (number : Nat) : List (List Char) → Except RuleError (List Token)
  | [] => .ok []
  | line :: rest =>
    if line.all Text.isBlank then ofLines (number + 1) rest
    else do
      let token ← ofLine number line
      return token :: (← ofLines (number + 1) rest)

/-- The tokens of a document. -/
def ofText (contents : String) : Except RuleError (List Token) :=
  ofLines 1 (Text.lines contents.toList)

end Token

end MailFilters
