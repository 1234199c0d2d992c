import MailFilters.Proofs.Text.Lines
import MailFilters.Proofs.Text.Trim
import MailFilters.Result
import MailFilters.Token

/-!
# Writing tokens

* **`escaped`** — a value with its quotes and backslashes escaped.
* **`resolve_escaped`** — resolving the escapes gives the value back.
* **`readPair_eq`** — what a line with a key and a value in quotes is read as.
* **`ofText_written`** — lines that are written one for each token are read as these tokens.
-/

namespace MailFilters.Token

open MailFilters.Text

/-! ## Escapes -/

/-- A character of a value, behind a backslash if it is a quote or a backslash. -/
def escapeChar (c : Char) : List Char := if isEscapable c then ['\\', c] else [c]

/-- A value with its quotes and backslashes escaped. -/
def escaped (value : List Char) : List Char := value.flatMap escapeChar

theorem resolve_escapeChar (c : Char) (rest : List Char) :
    resolveEscapes (escapeChar c ++ rest) = c :: resolveEscapes rest := by
  unfold escapeChar
  by_cases escapable : isEscapable c = true
  · rw [if_pos escapable, List.cons_append, List.singleton_append, resolveEscapes,
      if_pos escapable]
  · rw [if_neg escapable, List.singleton_append, resolveEscapes]
    rintro d rest' rfl
    exact absurd (by decide) escapable

/-- Resolving the escapes of an escaped value gives the value back. -/
theorem resolve_escaped (value : List Char) : resolveEscapes (escaped value) = value := by
  induction value with
  | nil => rfl
  | cons c rest ih =>
      rw [escaped, List.flatMap_cons, resolve_escapeChar]
      exact congrArg (c :: ·) ih

/-! ## One line -/

theorem splitKey_eq {key gap rest : List Char} (noEquals : '=' ∉ key) (blank : Blank gap) :
    splitKey? (key ++ '=' :: (gap ++ '"' :: rest)) = some (key, rest) := by
  have opening : afterOpening? (gap ++ '"' :: rest) = some rest := by
    rw [afterOpening?, trimStart_gap blank ⟨'"', rest, rfl, by decide⟩]
    rfl
  induction key with
  | nil => rw [List.nil_append, splitKey?, if_pos rfl, opening]
  | cons c key ih =>
      rw [List.mem_cons, not_or] at noEquals
      rw [List.cons_append, splitKey?, if_neg (Ne.symm noEquals.1), ih noEquals.2]
      rfl

/-- A key, an equals sign and a value in quotes, with white space around the sign or none. -/
theorem readPair_eq {key gap gap' value : List Char} (noEquals : '=' ∉ key)
    (trimmed : trimEnd (key ++ gap) = key) (blank : Blank gap) (blank' : Blank gap') :
    readPair? (key ++ gap ++ '=' :: (gap' ++ '"' :: (value ++ ['"']))) = some (key, value) := by
  have free : '=' ∉ key ++ gap := by
    rw [List.mem_append, not_or]
    exact ⟨noEquals, blank.free (by decide)⟩
  have closing : beforeClosing? (value ++ ['"']) = some value := by
    rw [beforeClosing?, if_pos (by simp), List.dropLast_concat]
  rw [readPair?, splitKey_eq free blank']
  simp only [bind, Option.bind, closing, trimmed, pure]

/-! ## Lines -/

/-- A key and its value. -/
abbrev Pair := String × String

/-- The key and the value of a token. -/
def pair (token : Token) : Pair := (token.key, token.value)

/-- Keys that stand at the start of a line as they are. -/
structure IsKey (key : String) : Prop where
  nonempty : key ≠ ""
  solid : ∀ c ∈ key.toList, isBlank c = false ∧ c ≠ '='

/-- The line of a key and a value. -/
def lineText (pair : Pair) : List Char :=
  pair.1.toList ++ '=' :: '"' :: (escaped pair.2.toList ++ ['"'])

/-- The lines of keys and values, one for each. -/
def linesText (pairs : List Pair) : List Char :=
  pairs.flatMap fun pair => lineText pair ++ ['\n']

/-- A line is read as a key and a value, whatever white space stands around the key, around the
equals sign and behind the value. -/
theorem ofLine_spaced {key value : String} {before gap gap' after : List Char} (number : Nat)
    (noEquals : '=' ∉ key.toList) (tight : Tight key.toList) (blankBefore : Blank before)
    (blank : Blank gap) (blank' : Blank gap') (blankAfter : Blank after) :
    ofLine number
        (before ++ (key.toList ++ gap ++ '=' :: (gap' ++ '"' :: (escaped value.toList ++ ['"']))) ++
          after) =
      .ok ⟨number, key, value⟩ := by
  have ends : EndsSolid ('=' :: (gap' ++ '"' :: (escaped value.toList ++ ['"']))) :=
    ⟨'"', '=' :: (gap' ++ '"' :: escaped value.toList), by simp, by decide⟩
  obtain ⟨left, blankLeft, trimmed, whole⟩ :=
    trim_spaced tight blankBefore blank ⟨'=', _, rfl, by decide⟩ ends blankAfter
  rw [ofLine, trimmed, readPair_eq noEquals whole blankLeft blank']
  simp only [resolve_escaped, String.ofList_toList]

theorem IsKey.tight {key : String} (isKey : IsKey key) : Tight key.toList := by
  rintro c (first | last)
  · exact (isKey.solid c (List.mem_of_mem_head? first)).1
  · exact (isKey.solid c (List.mem_of_getLast? last)).1

theorem ofLine_written {pair : Pair} (isKey : IsKey pair.1) (number : Nat) :
    ofLine number (lineText pair) = .ok ⟨number, pair.1, pair.2⟩ := by
  have noEquals : '=' ∉ pair.1.toList := fun member => (isKey.solid _ member).2 rfl
  have bare : lineText pair = [] ++ (pair.1.toList ++ [] ++
      '=' :: ([] ++ '"' :: (escaped pair.2.toList ++ ['"']))) ++ [] := by
    simp only [lineText, List.append_nil, List.nil_append]
  rw [bare]
  exact ofLine_spaced number noEquals isKey.tight .nil .nil .nil .nil

theorem escaped_isLine {value : List Char} (isLine : IsLine value) : IsLine (escaped value) := by
  intro d member
  obtain ⟨c, inside, written⟩ := List.mem_flatMap.mp member
  unfold escapeChar at written
  split at written
  · rcases List.mem_cons.mp written with rfl | same
    · decide
    · exact List.mem_singleton.mp same ▸ isLine c inside
  · exact List.mem_singleton.mp written ▸ isLine c inside

theorem lineText_isLine {pair : Pair} (isKey : IsKey pair.1) (isLine : IsLine pair.2.toList) :
    IsLine (lineText pair) := by
  have solid : ∀ c ∈ pair.1.toList, isBlank c = false := fun c member => (isKey.solid c member).1
  -- line breaks are white space, and a key holds none
  have key : IsLine pair.1.toList := .of_forall solid (by decide) (by decide)
  have opening : IsLine ['=', '"'] := .of_all (by decide)
  have closing : IsLine ['"'] := .of_all (by decide)
  exact key.append (opening.append ((escaped_isLine isLine).append closing))

theorem lines_linesText {pairs : List Pair}
    (written : ∀ pair ∈ pairs, IsKey pair.1 ∧ IsLine pair.2.toList) :
    lines (linesText pairs) = pairs.map lineText ++ [[]] := by
  induction pairs with
  | nil => rfl
  | cons pair rest ih =>
      obtain ⟨isKey, isLine⟩ := written pair List.mem_cons_self
      rw [linesText, List.flatMap_cons, List.append_assoc, List.singleton_append,
        lines_append (lineText_isLine isKey isLine)]
      exact congrArg (lineText pair :: ·) (ih fun other member =>
        written other (List.mem_cons_of_mem _ member))

theorem ofLines_blank {line : List Char} (blank : Blank line) (number : Nat)
    (rest : List (List Char)) : ofLines number (line :: rest) = ofLines (number + 1) rest := by
  rw [ofLines, if_pos (List.all_eq_true.mpr blank)]

theorem ofLines_filled {line : List Char} (filled : ¬ Blank line) (number : Nat)
    (rest : List (List Char)) :
    ofLines number (line :: rest) = (do
      let token ← ofLine number line
      return token :: (← ofLines (number + 1) rest)) := by
  rw [ofLines, if_neg]
  intro all
  exact filled (List.all_eq_true.mp all)

theorem ofLines_written {pairs : List Pair} (written : ∀ pair ∈ pairs, IsKey pair.1)
    (number : Nat) : ∃ tokens, ofLines number (pairs.map lineText ++ [[]]) = .ok tokens ∧
      tokens.map pair = pairs := by
  -- the break behind the last line leaves an empty line, which is no token
  induction pairs generalizing number with
  | nil => exact ⟨[], rfl, rfl⟩
  | cons first rest ih =>
      have isKey := written first List.mem_cons_self
      obtain ⟨tokens, read, pairs⟩ := ih (fun other member =>
        written other (List.mem_cons_of_mem _ member)) (number + 1)
      have filled : ¬ Blank (lineText first) := by
        intro blank
        exact blank.free (by decide) (show '=' ∈ lineText first by simp [lineText])
      refine ⟨⟨number, first.1, first.2⟩ :: tokens, ?_, ?_⟩
      · rw [List.map_cons, List.cons_append, ofLines_filled filled, ofLine_written isKey, read]
        rfl
      · rw [List.map_cons, pairs]
        rfl

/-- Lines that are written one for each pair are read as tokens for these pairs. -/
theorem ofText_written {pairs : List Pair}
    (written : ∀ pair ∈ pairs, IsKey pair.1 ∧ IsLine pair.2.toList) :
    ∃ tokens, Token.ofText (String.ofList (linesText pairs)) = .ok tokens ∧
      tokens.map pair = pairs := by
  rw [Token.ofText, String.toList_ofList, lines_linesText written]
  exact ofLines_written (fun pair member => (written pair member).1) 1

end MailFilters.Token
