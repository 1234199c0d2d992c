import MailFilters.Proofs.Token

/-!
# Layouts

The same keys and values can be laid out in many ways: with white space in their lines, with lines
of white space between them, and with any of the line breaks.

* **`Layout`** — a way to lay out keys and values in a text.
* **`Layout.tokens`** — the keys and values of a layout with the numbers of their lines.
* **`ofText_layout`** — whatever the layout, these are the tokens of the text.
-/

namespace MailFilters.Token

open MailFilters.Text

/-- White space without line breaks, which may be empty. -/
def Gap := { s : List Char // Blank s ∧ IsLine s }

/-- No white space. -/
def Gap.none : Gap := ⟨[], by simp [Blank], .of_all rfl⟩

/-- A key and a value that can stand in a line: the key has no equals sign and no white space at its
ends, and neither breaks the line. -/
structure Pair.Fits (pair : Pair) : Prop where
  noEquals : '=' ∉ pair.1.toList
  keyTight : Tight pair.1.toList
  keyIsLine : IsLine pair.1.toList
  valueIsLine : IsLine pair.2.toList

/-- A key and a value as they stand in a line: white space may be around the key, around the equals
sign and behind the value. -/
structure Written where
  pair : Pair
  fits : pair.Fits
  before : Gap
  behindKey : Gap
  beforeValue : Gap
  after : Gap

/-- A line of a layout. -/
inductive Line
  | blank (gap : Gap)
  | written (entry : Written)

namespace Line

/-- The characters of a line. -/
def text : Line → List Char
  | blank gap => gap.val
  | written entry =>
    entry.before.val ++ (entry.pair.1.toList ++ entry.behindKey.val ++
      '=' :: (entry.beforeValue.val ++ '"' :: (escaped entry.pair.2.toList ++ ['"']))) ++
        entry.after.val

/-- The key and the value of a line. -/
def pair? : Line → Option Pair
  | blank _ => none
  | written entry => some entry.pair

end Line

/-- The characters of lines with the break before each. -/
def brokenText (rest : List (Break × Line)) : List Char :=
  rest.flatMap fun next => next.1.text ++ next.2.text

/-- No carriage return stands directly before a line feed, with which it would be one break. -/
def BreaksApart (rest : List (Break × Line)) : Prop :=
  ∀ before line other later,
    rest = before ++ (.carriageReturn, line) :: (.lineFeed, other) :: later → line.text ≠ []

/-- The keys and values of lines, each with the number of its line; the first line has a given
number. -/
def tokensFrom (number : Nat) (lines : List Line) : List Token :=
  (lines.zipIdx number).filterMap fun (line, number) =>
    line.pair?.map fun (key, value) => ⟨number, key, value⟩

/-- Lines with line breaks between them. -/
structure Layout where
  first : Line
  rest : List (Break × Line)
  apart : BreaksApart rest

namespace Layout

/-- The lines of a layout, in order. -/
def lines (layout : Layout) : List Line := layout.first :: layout.rest.map (·.2)

/-- The text of a layout. -/
def text (layout : Layout) : String :=
  String.ofList (layout.first.text ++ brokenText layout.rest)

/-- The keys and values of a layout, in order. -/
def pairs (layout : Layout) : List Pair := layout.lines.filterMap Line.pair?

/-- The keys and values of a layout, each with the number of its line, counted from one. -/
def tokens (layout : Layout) : List Token := tokensFrom 1 layout.lines

end Layout

/-- Keys and values that fit have a layout, behind an empty line and with line feeds. -/
theorem Layout.exists_of_fits {pairs : List Pair} (fits : ∀ pair ∈ pairs, pair.Fits) :
    ∃ layout : Layout, layout.pairs = pairs := by
  have fed : ∃ rest : List (Break × Line),
      (∀ next ∈ rest, next.1 = .lineFeed) ∧ (rest.map (·.2)).filterMap Line.pair? = pairs := by
    induction pairs with
    | nil => exact ⟨[], by simp, rfl⟩
    | cons pair later ih =>
        obtain ⟨fit, others⟩ := List.forall_mem_cons.mp fits
        obtain ⟨rest, feeds, same⟩ := ih others
        let entry : Written := ⟨pair, fit, .none, .none, .none, .none⟩
        refine ⟨(.lineFeed, .written entry) :: rest, List.forall_mem_cons.mpr ⟨rfl, feeds⟩, ?_⟩
        exact congrArg (pair :: ·) same
  obtain ⟨rest, feeds, same⟩ := fed
  have apart : BreaksApart rest := by
    intro before line other later split
    have feed := feeds (.carriageReturn, line) (by simp [split])
    simp at feed
  exact ⟨⟨.blank .none, rest, apart⟩, same⟩

/-! ## Lines of a layout -/

theorem Line.text_isLine (line : Line) : IsLine line.text := by
  cases line with
  | blank gap => exact gap.property.2
  | written entry =>
      have opening : IsLine ['"'] := .of_all (by decide)
      have equals : IsLine ['='] := .of_all (by decide)
      have quoted := opening.append ((escaped_isLine entry.fits.valueIsLine).append opening)
      have key := entry.fits.keyIsLine.append entry.behindKey.property.2
      have core := key.append (equals.append (entry.beforeValue.property.2.append quoted))
      exact (entry.before.property.2.append core).append entry.after.property.2

theorem BreaksApart.tail {next : Break × Line} {rest : List (Break × Line)}
    (apart : BreaksApart (next :: rest)) : BreaksApart rest := by
  rintro before line other later rfl
  exact apart (next :: before) line other later rfl

/-- What stands behind a carriage return does not start with a line feed. -/
theorem BreaksApart.head {line : Line} {rest : List (Break × Line)}
    (apart : BreaksApart ((.carriageReturn, line) :: rest)) :
    (line.text ++ brokenText rest).head? ≠ some '\n' := by
  cases letters : line.text with
  | cons c text =>
      intro head
      have noFeed := (line.text_isLine c (letters ▸ List.mem_cons_self)).1
      exact noFeed (Option.some.inj head)
  | nil =>
      -- the line is empty, so that the next break decides
      cases rest with
      | nil => simp [brokenText]
      | cons next later =>
          obtain ⟨lineBreak, other⟩ := next
          cases lineBreak with
          | lineFeed => exact absurd letters (apart [] line other later rfl)
          | carriageReturn => simp [brokenText, Break.text]
          | both => simp [brokenText, Break.text]

/-- The lines of a text are the lines that it was laid out in. -/
theorem lines_brokenText (first : Line) {rest : List (Break × Line)} (apart : BreaksApart rest) :
    Text.lines (first.text ++ brokenText rest) = first.text :: rest.map (·.2.text) := by
  induction rest generalizing first with
  | nil =>
      rw [brokenText, List.flatMap_nil, List.append_nil]
      exact lines_alone first.text_isLine
  | cons next rest ih =>
      obtain ⟨lineBreak, line⟩ := next
      have broken : Text.lines (lineBreak.text ++ (line.text ++ brokenText rest)) =
          [] :: line.text :: rest.map (·.2.text) := by
        rw [lines_break lineBreak, ih line apart.tail]
        rintro rfl
        exact apart.head
      have split := lines_prepend first.text_isLine broken
      rw [List.append_nil] at split
      rw [brokenText, List.flatMap_cons, List.append_assoc]
      exact split

/-! ## Tokens of a layout -/

theorem Line.text_filled (entry : Written) : ¬ Blank (Line.written entry).text := by
  -- the key may be empty, but the equals sign is always there
  have equals : '=' ∈ (Line.written entry).text := by simp [text]
  intro blank
  exact blank.free (by decide) equals

/-- Lines are read as the keys and values that stand in them. -/
theorem ofLines_layout (number : Nat) (lines : List Line) :
    ofLines number (lines.map Line.text) = .ok (tokensFrom number lines) := by
  induction lines generalizing number with
  | nil => rfl
  | cons line rest ih =>
      cases line with
      | blank gap =>
          rw [List.map_cons, Line.text, ofLines_blank gap.property.1, ih]
          rfl
      | written entry =>
          have read : ofLine number (Line.written entry).text =
              .ok ⟨number, entry.pair.1, entry.pair.2⟩ :=
            ofLine_spaced number entry.fits.noEquals entry.fits.keyTight entry.before.property.1
              entry.behindKey.property.1 entry.beforeValue.property.1 entry.after.property.1
          rw [List.map_cons, ofLines_filled (Line.text_filled entry), read, ih]
          rfl

theorem tokensFrom_pairs (number : Nat) (lines : List Line) :
    (tokensFrom number lines).map pair = lines.filterMap Line.pair? := by
  induction lines generalizing number with
  | nil => rfl
  | cons line rest ih =>
      cases line with
      | blank gap => exact ih (number + 1)
      | written entry => exact congrArg (entry.pair :: ·) (ih (number + 1))

/-- **Layouts.** Whatever its layout, a text is read as the keys and values that were laid out, in
order, each with the number of its line. -/
theorem ofText_layout (layout : Layout) :
    Token.ofText layout.text = .ok layout.tokens ∧ layout.tokens.map pair = layout.pairs := by
  refine ⟨?_, tokensFrom_pairs 1 layout.lines⟩
  have lines := lines_brokenText layout.first layout.apart
  rw [Token.ofText, Layout.text, String.toList_ofList, lines]
  have read := ofLines_layout 1 layout.lines
  rwa [Layout.lines, List.map_cons, List.map_map] at read

/-- Four lines, of which the third is empty and the last has a key and a value of no characters. -/
example : Token.ofText "\r\n \tname = \"a=\\\"\\\\\" \r\r=\"\"" =
    .ok [⟨2, "name", "a=\"\\"⟩, ⟨4, "", ""⟩] := rfl

end MailFilters.Token
