import MailFilters.Text.CodeRange
import MailFilters.Text.Split

/-!
# White space

The white space of Unicode together with the four information separators.

* **`trim`** — a text without the white space at its ends.
* **`words`** — the runs of a text between its white space.
-/

namespace MailFilters.Text

/-- The code points that count as white space, sorted. -/
def blankRanges : List (Nat × Nat) :=
  [(0x09, 0x0D), (0x1C, 0x20), (0x85, 0x85), (0xA0, 0xA0), (0x1680, 0x1680), (0x2000, 0x200A),
   (0x2028, 0x2029), (0x202F, 0x202F), (0x205F, 0x205F), (0x3000, 0x3000)]

/-- Whether a character is white space. -/
def isBlank (c : Char) : Bool := inRanges blankRanges c.toNat

/-- A text without the white space at its start. -/
def trimStart (s : List Char) : List Char := s.dropWhile isBlank

/-- A text without the white space at its end. -/
def trimEnd (s : List Char) : List Char := (s.reverse.dropWhile isBlank).reverse

/-- A text without the white space at its ends. -/
def trim (s : List Char) : List Char := trimEnd (trimStart s)

/-- A string without the white space at its ends. -/
def trimmed (s : String) : String := String.ofList (trim s.toList)

/-- The non-empty runs of a text between its white space. -/
def words (s : List Char) : List (List Char) :=
  (splitWhere isBlank s).filter fun word => !word.isEmpty

end MailFilters.Text
