import MailFilters.Text.Digit
import MailFilters.Text.Split

/-!
# Recipients

An address that mail is forwarded to: a local part, an at sign and a domain of two labels at
least.

* **`isLocalPart`** — the characters of unquoted local parts; points only between others.
* **`isDomain`** — labels of up to 63 letters, digits and inner hyphens, with points between them.
* **`isRecipient`** — both, with an at sign between them and perhaps a line feed at the end.
* **`Recipient`** — a text that is one.
-/

namespace MailFilters

/-- Whether a character may stand in a local part. -/
def isLocalChar (c : Char) : Bool :=
  Text.isAsciiLetter c || Text.isAsciiDigit c ||
    ".!#$%&'*+/=?^_`\x7b|\x7d~-".toList.contains c

/-- Whether two points stand side by side in a text. -/
def hasDoublePoint : List Char → Bool
  | '.' :: '.' :: _ => true
  | _ :: rest => hasDoublePoint rest
  | [] => false

/-- Whether a text is a local part. -/
def isLocalPart (s : List Char) : Bool :=
  !s.isEmpty && s.all isLocalChar && s.head? != some '.' && s.getLast? != some '.' &&
    !hasDoublePoint s

/-- Whether a character may stand in a label. -/
def isLabelChar (c : Char) : Bool := Text.isAsciiLetter c || Text.isAsciiDigit c || c == '-'

/-- Whether a text is a label of a domain. -/
def isDomainLabel (s : List Char) : Bool :=
  !s.isEmpty && s.length ≤ 63 && s.all isLabelChar && s.head? != some '-' &&
    s.getLast? != some '-'

/-- Whether a text is a domain. -/
def isDomain (s : List Char) : Bool :=
  let labels := Text.splitOn '.' s
  2 ≤ labels.length && labels.all isDomainLabel

/-- A text without the line feed at its end, if there is one. -/
def dropFinalBreak (s : List Char) : List Char :=
  if s.getLast? = some '\n' then s.dropLast else s

/-- Whether mail can be forwarded to a text. -/
def isRecipient (recipient : String) : Bool :=
  match Text.cutAt '@' (dropFinalBreak recipient.toList) with
  | (localPart, some domain) => isLocalPart localPart && isDomain domain
  | (_, none) => false

/-- A text that mail can be forwarded to. -/
structure Recipient where
  address : String
  valid : isRecipient address = true
  deriving DecidableEq, Repr

end MailFilters
