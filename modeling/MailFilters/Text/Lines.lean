import MailFilters.Text.Split

/-!
# Line breaks

A line ends at a carriage return, at a line feed, or at the pair of them, which is one break.

* **`lines`** — the lines of a text; one more than it has breaks.
* **`unifyBreaks`** — the text with every break written as a line feed.
-/

namespace MailFilters.Text

/-- The lines of a text. -/
def lines : List Char → List (List Char)
  | [] => [[]]
  | '\r' :: '\n' :: rest => [] :: lines rest
  | c :: rest =>
    if c = '\n' || c = '\r' then [] :: lines rest else extendFirst c (lines rest)

/-- A text with every line break written as a line feed. -/
def unifyBreaks : List Char → List Char
  | [] => []
  | '\r' :: '\n' :: rest => '\n' :: unifyBreaks rest
  | c :: rest => (if c = '\r' then '\n' else c) :: unifyBreaks rest

end MailFilters.Text
