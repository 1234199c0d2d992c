import MailFilters.Text.Blank
import MailFilters.Text.LetterCase

/-!
# Spelled names

Names of a fixed table are written in any mix of letter case, and a mark follows each of them.

* **`takeName?`** — a spelling of a name at the start of a text.
* **`afterMark?`** — what follows a mark, which white space may stand before.
* **`findName?`** — the spelling of some name of a table before a mark.
* **`afterMark?_length_lt`**, **`findName?_length_lt`** — what follows is shorter than the text.

A spelling is read in lower case.  The long s and the dotted and dotless letters i are taken for
letters of a name, although their lower case is no name.
-/

namespace MailFilters.Spelling

/-- Letters other than its two cases that are taken for a lower case letter. -/
def otherForms : Char → List Char
  | 'i' => ['İ', 'ı']
  | 'k' => ['\u212a']
  | 's' => ['ſ']
  | _ => []

/-- Whether a character is taken for a character of a name. -/
def isFormOf (letter c : Char) : Bool :=
  c == letter || c == letter.toUpper || (otherForms letter).contains c

/-- A spelling of a name at the start of a text, and the rest of the text. -/
def takeName? : List Char → List Char → Option (List Char × List Char)
  | [], text => some ([], text)
  | _ :: _, [] => none
  | letter :: name, c :: text =>
    if isFormOf letter c then (takeName? name text).map fun (word, rest) => (c :: word, rest)
    else none

/-- What follows a mark at the start of a text; white space may stand before the mark. -/
def afterMark? (mark : Char) (text : List Char) : Option (List Char) :=
  match Text.trimStart text with
  | [] => none
  | c :: rest => if c = mark then some rest else none

/-- A spelling of one of several names before a mark, and what follows the mark. -/
def findName? (names : List String) (mark : Char) (text : List Char) :
    Option (List Char × List Char) :=
  names.findSome? fun name => do
    let (word, rest) ← takeName? name.toList text
    let rest ← afterMark? mark rest
    return (word, rest)

/-! ## What is left gets shorter -/

theorem takeName?_length_le {name text word rest : List Char}
    (taken : takeName? name text = some (word, rest)) : rest.length ≤ text.length := by
  induction name generalizing text word with
  | nil => simp_all [takeName?]
  | cons letter name ih =>
      cases text with
      | nil => simp [takeName?] at taken
      | cons c text =>
          simp only [takeName?] at taken
          split at taken
          · simp only [Option.map_eq_some_iff, Prod.exists, Prod.mk.injEq] at taken
            obtain ⟨_, _, inner, _, rfl⟩ := taken
            exact Nat.le_succ_of_le (ih inner)
          · simp at taken

theorem afterMark?_length_lt {mark : Char} {text rest : List Char}
    (found : afterMark? mark text = some rest) : rest.length < text.length := by
  have shorter : (Text.trimStart text).length ≤ text.length :=
    (List.dropWhile_suffix Text.isBlank).length_le
  unfold afterMark? at found
  split at found
  · simp at found
  · next c after equal =>
      split at found
      · simp only [Option.some.injEq] at found
        subst found
        rw [equal] at shorter
        exact shorter
      · simp at found

theorem findName?_length_lt {names : List String} {mark : Char} {text word rest : List Char}
    (found : findName? names mark text = some (word, rest)) : rest.length < text.length := by
  obtain ⟨name, _, taken⟩ := List.exists_of_findSome?_eq_some found
  simp only [Option.bind_eq_bind, Option.bind_eq_some_iff, Prod.exists, Option.pure_def,
    Option.some.injEq, Prod.mk.injEq] at taken
  obtain ⟨_, middle, atName, after, atMark, _, rfl⟩ := taken
  exact Nat.lt_of_lt_of_le (afterMark?_length_lt atMark) (takeName?_length_le atName)

end MailFilters.Spelling
