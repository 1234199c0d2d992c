/-!
# Splitting and joining

* **`splitWhere`** — the pieces of a text between the characters of a class, empty ones included.
* **`joinWith`** — the pieces of a text with one separator between them.
* **`cutAt`** — what stands before the first occurrence of a character, and what stands after it.
* **`cutAtLast`** — the same for the last occurrence.
-/

namespace MailFilters.Text

/-- Puts a character in front of the first of several pieces. -/
def extendFirst (c : Char) : List (List Char) → List (List Char)
  | [] => [[c]]
  | piece :: rest => (c :: piece) :: rest

/-- The pieces of a text between the characters of a class; there is always at least one. -/
def splitWhere (p : Char → Bool) : List Char → List (List Char)
  | [] => [[]]
  | c :: rest => if p c then [] :: splitWhere p rest else extendFirst c (splitWhere p rest)

/-- The pieces of a text between the occurrences of one character. -/
def splitOn (separator : Char) (s : List Char) : List (List Char) :=
  splitWhere (· == separator) s

/-- Pieces joined with a separator between each two of them. -/
def joinWith (separator : List Char) : List (List Char) → List Char
  | [] => []
  | [piece] => piece
  | piece :: rest => piece ++ separator ++ joinWith separator rest

/-- Strings joined with a separator between each two of them. -/
def joined (separator : String) (pieces : List String) : String :=
  String.ofList (joinWith separator.toList (pieces.map String.toList))

/-- What stands before the first occurrence of a character and, if there is one, what stands
after it. -/
def cutAt (mark : Char) : List Char → List Char × Option (List Char)
  | [] => ([], none)
  | c :: rest =>
    if c = mark then ([], some rest)
    else let (before, after) := cutAt mark rest; (c :: before, after)

/-- What stands before the last occurrence of a character, if there is one, and what stands
after it. -/
def cutAtLast (mark : Char) (s : List Char) : Option (List Char) × List Char :=
  let (after, before) := cutAt mark s.reverse
  (before.map List.reverse, after.reverse)

/-- Whether `part` occurs in a text. -/
def occursIn (part : List Char) : List Char → Bool
  | [] => part.isEmpty
  | c :: rest => part.isPrefixOf (c :: rest) || occursIn part rest

end MailFilters.Text
