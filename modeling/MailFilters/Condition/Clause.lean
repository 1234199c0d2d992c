import MailFilters.Condition.Basic
import MailFilters.Result
import MailFilters.RuleError
import MailFilters.Spelling
import MailFilters.Text.Split

/-!
# Clauses

The conditions of a rule are written one after the other, each as a clause such as
`AND (subject,contains,report)`.

* **`readClause`** — the condition of the first clause, and what is left.
* **`readClause_length_lt`** — what is left is shorter.
* **`readConditions`** — the conditions of a text, at least one.

The text is trimmed once, and after each part the white space in front of the next one is passed
over, so every part starts at a character that is not white space.
-/

namespace MailFilters.Condition

/-- Why a text does not start with a clause. -/
inductive ClauseError
  | malformed
  /-- A name is spelled with a letter that is taken for one of its own when names are looked for,
  and whose lower case is not that letter. -/
  | unlisted (name : String)
  deriving DecidableEq, Repr

/-- A text without the white space in front of it, if anything is left then. -/
def remainder (text : List Char) : Except ClauseError (List Char) :=
  match Text.trimStart text with
  | [] => .error .malformed
  | rest => .ok rest

/-- A name of a table before a mark, and what is left after the mark. -/
def readName (names : List (String × α)) (mark : Char) (text : List Char) :
    Except ClauseError (α × List Char) :=
  match Spelling.findName? (names.map (·.1)) mark text with
  | none => .error .malformed
  | some (word, rest) => do
    let rest ← remainder rest
    match names.lookup (String.ofList (Text.lower word)) with
    | none => .error (.unlisted (String.ofList (Text.lower word)))
    | some value => .ok (value, rest)

/-- A header in quotes before a comma, the opening quote already read, and what is left. -/
def readHeader (text : List Char) : Except ClauseError (Target × List Char) :=
  match Text.cutAt '"' text with
  | (_, none) => .error .malformed
  | (header, some after) =>
    match Spelling.afterMark? ',' after with
    | none => .error .malformed
    | some rest => return (.header (String.ofList header), ← remainder rest)

/-- A target before a comma, and what is left. -/
def readTarget : List Char → Except ClauseError (Target × List Char)
  | '"' :: text => readHeader text
  | text => do
    let (field, rest) ← readName Field.names ',' text
    return (.field field, rest)

/-- A search text before a closing parenthesis, and what is left, which may be nothing.  In quotes
it runs to the next quote, otherwise to the first closing parenthesis. -/
def readSearch : List Char → Except ClauseError (List Char × List Char)
  | '"' :: text =>
    match Text.cutAt '"' text with
    | (_, none) => .error .malformed
    | (search, some after) =>
      match Spelling.afterMark? ')' after with
      | none => .error .malformed
      | some rest => .ok (search, Text.trimStart rest)
  | text =>
    match Text.cutAt ')' text with
    | (_, none) => .error .malformed
    | (search, some rest) => .ok (search, Text.trimStart rest)

/-- The condition of the clause at the start of a text, and what is left. -/
def readClause (text : List Char) : Except ClauseError (Condition × List Char) := do
  let (combinator, text) ← readName Combinator.names '(' text
  let (target, text) ← readTarget text
  let (comparator, text) ← readName Comparator.names ',' text
  let (search, text) ← readSearch text
  return (⟨combinator, target, comparator, String.ofList search⟩, text)

/-! ## What is left gets shorter -/

theorem trimStart_length_le (text : List Char) :
    (Text.trimStart text).length ≤ text.length :=
  (List.dropWhile_suffix Text.isBlank).length_le

theorem remainder_length_le {text rest : List Char} (left : remainder text = .ok rest) :
    rest.length ≤ text.length := by
  unfold remainder at left
  split at left
  · simp at left
  · simp only [Except.ok.injEq] at left
    exact left ▸ trimStart_length_le text

theorem cutAt_length_lt {mark : Char} {text before after : List Char}
    (cut : Text.cutAt mark text = (before, some after)) : after.length < text.length := by
  induction text generalizing before with
  | nil => simp [Text.cutAt] at cut
  | cons c rest ih =>
      simp only [Text.cutAt] at cut
      split at cut
      · simp only [Prod.mk.injEq, Option.some.injEq] at cut
        obtain ⟨_, rfl⟩ := cut
        exact Nat.lt_succ_self _
      · simp only [Prod.mk.injEq] at cut
        exact Nat.lt_succ_of_lt (ih (Prod.ext rfl cut.2))

theorem readName_length_lt {names : List (String × α)} {mark : Char} {text rest : List Char}
    {value : α} (read : readName names mark text = .ok (value, rest)) :
    rest.length < text.length := by
  unfold readName at read
  split at read
  · simp at read
  · next found =>
      obtain ⟨trimmed, left, read⟩ := Result.bind_eq_ok_iff.1 read
      have shorter := Spelling.findName?_length_lt found
      have noLonger := remainder_length_le left
      split at read
      · simp at read
      · simp only [Except.ok.injEq, Prod.mk.injEq] at read
        obtain ⟨_, rfl⟩ := read
        omega

theorem readHeader_length_lt {text rest : List Char} {target : Target}
    (read : readHeader text = .ok (target, rest)) : rest.length < text.length := by
  unfold readHeader at read
  split at read
  · simp at read
  · next cut =>
      have afterHeader := cutAt_length_lt cut
      split at read
      · simp at read
      · next found =>
          obtain ⟨trimmed, left, read⟩ := Result.bind_eq_ok_iff.1 read
          have afterComma := Spelling.afterMark?_length_lt found
          have noLonger := remainder_length_le left
          simp only [Result.pure_eq_ok_iff, Prod.mk.injEq] at read
          obtain ⟨_, rfl⟩ := read
          omega

theorem readTarget_length_lt {text rest : List Char} {target : Target}
    (read : readTarget text = .ok (target, rest)) : rest.length < text.length := by
  unfold readTarget at read
  split at read
  · exact Nat.lt_succ_of_lt (readHeader_length_lt read)
  · obtain ⟨⟨field, left⟩, named, read⟩ := Result.bind_eq_ok_iff.1 read
    simp only [Result.pure_eq_ok_iff, Prod.mk.injEq] at read
    obtain ⟨_, rfl⟩ := read
    exact readName_length_lt named

theorem readSearch_length_lt {text search rest : List Char}
    (read : readSearch text = .ok (search, rest)) : rest.length < text.length := by
  unfold readSearch at read
  split at read
  · split at read
    · simp at read
    · next cut =>
        have afterSearch := cutAt_length_lt cut
        split at read
        · simp at read
        · next left found =>
            have afterMark := Spelling.afterMark?_length_lt found
            have := trimStart_length_le left
            simp only [Except.ok.injEq, Prod.mk.injEq] at read
            obtain ⟨_, rfl⟩ := read
            simp only [List.length_cons]
            omega
  · split at read
    · simp at read
    · next left cut =>
        have afterSearch := cutAt_length_lt cut
        have := trimStart_length_le left
        simp only [Except.ok.injEq, Prod.mk.injEq] at read
        obtain ⟨_, rfl⟩ := read
        omega

theorem readClause_length_lt {text rest : List Char} {condition : Condition}
    (read : readClause text = .ok (condition, rest)) : rest.length < text.length := by
  obtain ⟨⟨combinator, afterCombinator⟩, first, read⟩ := Result.bind_eq_ok_iff.1 read
  obtain ⟨⟨target, afterTarget⟩, second, read⟩ := Result.bind_eq_ok_iff.1 read
  obtain ⟨⟨comparator, afterComparator⟩, third, read⟩ := Result.bind_eq_ok_iff.1 read
  obtain ⟨⟨search, afterSearch⟩, fourth, read⟩ := Result.bind_eq_ok_iff.1 read
  simp only [Result.pure_eq_ok_iff, Prod.mk.injEq] at read
  obtain ⟨_, rfl⟩ := read
  have := readName_length_lt first
  have := readTarget_length_lt second
  have := readName_length_lt third
  have := readSearch_length_lt fourth
  omega

/-! ## Conditions of a text -/

/-- The conditions of the clauses that a trimmed text consists of. -/
def readClauses (text : List Char) : Except ClauseError (List Condition) :=
  if text.isEmpty then .ok []
  else
    match read : readClause text with
    | .error cause => .error cause
    | .ok (condition, rest) =>
      have _shorter := readClause_length_lt read
      (readClauses rest).map (condition :: ·)
termination_by text.length

theorem readClauses_nil : readClauses [] = .ok [] := by simp [readClauses]

theorem readClauses_of_ok {text rest : List Char} {condition : Condition}
    (read : readClause text = .ok (condition, rest)) :
    readClauses text = (readClauses rest).map (condition :: ·) := by
  have shorter := readClause_length_lt read
  cases text with
  | nil => simp at shorter
  | cons c text =>
      rw [readClauses]
      simp only [List.isEmpty_cons, Bool.false_eq_true, if_false]
      split
      · next failed => simp [failed] at read
      · next succeeded =>
          simp only [succeeded, Except.ok.injEq, Prod.mk.injEq] at read
          rw [read.1, read.2]

theorem readClauses_of_error {text : List Char} {cause : ClauseError} (nonempty : text ≠ [])
    (failed : readClause text = .error cause) : readClauses text = .error cause := by
  rw [readClauses, if_neg (by simpa using nonempty)]
  split
  · next read => simpa [read] using failed
  · next read => simp [read] at failed

/-- The conditions of a text, in order; there must be at least one. -/
def readConditions (text : String) : Except RuleError (List Condition) :=
  match readClauses (Text.trim text.toList) with
  | .ok [] => .error (.invalidConditions text)
  | .ok conditions => .ok conditions
  | .error .malformed => .error (.invalidConditions text)
  | .error (.unlisted name) => .error (.unlistedName name)

end MailFilters.Condition
