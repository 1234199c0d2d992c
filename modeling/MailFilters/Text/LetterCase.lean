import MailFilters.Text.CaseTable

/-!
# Letter case

Lower case and capitals of whole texts under the full mappings of Unicode.

* **`lower`** — every character in its lower case; a capital sigma that ends a word becomes the
  final form.
* **`capitalize`** — the first character in title case, the others in lower case.
-/

namespace MailFilters.Text

/-- Whether the nearest character that is not passed over is a letter with case. -/
def besideCased (s : List Char) : Bool :=
  ((s.dropWhile fun c => inRanges ignorableRanges c.toNat).head?).any
    fun c => inRanges casedRanges c.toNat

/-- The lower case of `c`, given what stands before it, nearest first, and after it. -/
def lowerAt (before : List Char) (c : Char) (after : List Char) : List Char :=
  if c = 'Σ' then [if besideCased before && !besideCased after then 'ς' else 'σ']
  else mapChar lowerShifts lowerExpansions c

/-- The lower case of the rest of a text, given what stands before it, nearest first. -/
def lowerFrom (before : List Char) : List Char → List Char
  | [] => []
  | c :: rest => lowerAt before c rest ++ lowerFrom (c :: before) rest

/-- A text in lower case. -/
def lower (s : List Char) : List Char := lowerFrom [] s

/-- A text with its first character in title case and the others in lower case. -/
def capitalize : List Char → List Char
  | [] => []
  | c :: rest => mapChar titleShifts titleExpansions c ++ lowerFrom [c] rest

/-- A string in lower case. -/
def lowered (s : String) : String := String.ofList (lower s.toList)

/-- Whether two strings have the same lower case. -/
def sameLetters (s t : String) : Bool := lowered s == lowered t

end MailFilters.Text
