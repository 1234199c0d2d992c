import MailFilters.Proofs.Text.Cut
import MailFilters.Text.Lines

/-!
# Lines

* **`IsLine`** — a text without line breaks, and the ways to make one.
* **`Break`** — the ways to end a line.
* **`lines_break`**, **`lines_append`** — a line before a break is the first of the lines.
* **`lines_unifyBreaks`** — the lines stay the same if every break is written as a line feed.
* **`lines_joined`** — the lines of two texts with a break between them.
-/

namespace MailFilters.Text

/-- A text without line breaks. -/
def IsLine (s : List Char) : Prop := ∀ c ∈ s, c ≠ '\n' ∧ c ≠ '\r'

theorem IsLine.of_all {s : List Char} (all : s.all (fun c => c != '\n' && c != '\r') = true) :
    IsLine s := by
  intro c member
  simpa using List.all_eq_true.mp all c member

/-- Characters that share a property which no line break has make a line. -/
theorem IsLine.of_forall {p : Char → Prop} {s : List Char} (all : ∀ c ∈ s, p c)
    (noFeed : ¬ p '\n') (noReturn : ¬ p '\r') : IsLine s := by
  intro c member
  have kind := all c member
  refine ⟨?_, ?_⟩
  · rintro rfl
    exact noFeed kind
  · rintro rfl
    exact noReturn kind

theorem IsLine.append {s t : List Char} (first : IsLine s) (second : IsLine t) :
    IsLine (s ++ t) := List.forall_mem_append.mpr ⟨first, second⟩

/-! ## Breaks -/

/-- The ways to end a line. -/
inductive Break
  | lineFeed
  | carriageReturn
  /-- A carriage return and a line feed, which are one break. -/
  | both
  deriving DecidableEq, Repr

/-- The characters of a line break. -/
def Break.text : Break → List Char
  | lineFeed => ['\n']
  | carriageReturn => ['\r']
  | both => ['\r', '\n']

theorem lines_other {c : Char} (noFeed : c ≠ '\n') (noReturn : c ≠ '\r') (rest : List Char) :
    lines (c :: rest) = extendFirst c (lines rest) := by
  have other : ¬ (c = '\n' || c = '\r') = true := by simp [noFeed, noReturn]
  rw [lines, if_neg other]
  intro rest' same
  exact absurd same noReturn

/-- A text without line breaks goes in front of the first line. -/
theorem lines_prepend {line s first : List Char} {others : List (List Char)}
    (isLine : IsLine line) (split : lines s = first :: others) :
    lines (line ++ s) = (line ++ first) :: others := by
  induction line with
  | nil => exact split
  | cons c line ih =>
      obtain ⟨noFeed, noReturn⟩ := isLine c List.mem_cons_self
      rw [List.cons_append, lines_other noFeed noReturn,
        ih fun d member => isLine d (List.mem_cons_of_mem c member)]
      rfl

/-- A break ends a line, unless it is a carriage return before a line feed. -/
theorem lines_break (lineBreak : Break) {rest : List Char}
    (apart : lineBreak = .carriageReturn → rest.head? ≠ some '\n') :
    lines (lineBreak.text ++ rest) = [] :: lines rest := by
  cases lineBreak with
  | lineFeed =>
      rw [Break.text, List.singleton_append, lines, if_pos (by decide)]
      intro rest' same
      exact absurd same (by decide)
  | carriageReturn =>
      rw [Break.text, List.singleton_append, lines, if_pos (by decide)]
      rintro rest' _ rfl
      exact apart rfl rfl
  | both => rw [Break.text, List.cons_append, List.singleton_append, lines]

theorem lines_alone {line : List Char} (isLine : IsLine line) : lines line = [line] := by
  have empty : lines [] = [[]] := rfl
  have alone := lines_prepend isLine empty
  rwa [List.append_nil] at alone

theorem lines_append {line : List Char} (isLine : IsLine line) (rest : List Char) :
    lines (line ++ '\n' :: rest) = line :: lines rest := by
  have ended : lines ('\n' :: rest) = [] :: lines rest := lines_break .lineFeed (by simp)
  have broken := lines_prepend isLine ended
  rwa [List.append_nil] at broken

/-! ## Unified breaks -/

/-- The lines of a text stay the same if every break is written as a line feed. -/
theorem lines_unifyBreaks (s : List Char) : lines (unifyBreaks s) = lines s := by
  have feed : ∀ rest, lines ('\n' :: rest) = [] :: lines rest :=
    fun rest => lines_break .lineFeed (by simp)
  induction s using unifyBreaks.induct with
  | case1 => rfl
  | case2 rest ih =>
      have both : lines ('\r' :: '\n' :: rest) = [] :: lines rest := lines_break .both (by simp)
      rw [unifyBreaks, feed, ih, both]
  | case3 c rest apart ih =>
      rw [unifyBreaks]
      · by_cases isReturn : c = '\r'
        · subst isReturn
          have alone : lines ('\r' :: rest) = [] :: lines rest := by
            refine lines_break .carriageReturn ?_
            intro _ head
            obtain ⟨rest', rfl⟩ := List.head?_eq_some_iff.mp head
            exact apart rest' rfl rfl
          rw [if_pos rfl, feed, ih, alone]
        · rw [if_neg isReturn]
          by_cases isFeed : c = '\n'
          · rw [isFeed, feed, feed, ih]
          · rw [lines_other isFeed isReturn, lines_other isFeed isReturn, ih]
      · exact apart

/-! ## Joined texts -/

theorem lines_ne_nil (s : List Char) : lines s ≠ [] := by
  unfold lines
  split
  · exact List.cons_ne_nil _ _
  · exact List.cons_ne_nil _ _
  · split
    · exact List.cons_ne_nil _ _
    · unfold extendFirst
      split <;> exact List.cons_ne_nil _ _

/-- Two texts with a break between them have the lines of both, if the break makes no pair with a
character beside it. -/
theorem lines_join {s t : List Char} {lineBreak : Break}
    (apartBefore : lineBreak = .lineFeed → s.getLast? ≠ some '\r')
    (apartAfter : lineBreak = .carriageReturn → t.head? ≠ some '\n') :
    lines (s ++ (lineBreak.text ++ t)) = lines s ++ lines t := by
  have later : ∀ {c : Char} {rest : List Char},
      (lineBreak = .lineFeed → (c :: rest).getLast? ≠ some '\r') →
      lineBreak = .lineFeed → rest.getLast? ≠ some '\r' := by
    intro c rest apart isFeed last
    exact apart isFeed (by rw [List.getLast?_cons, last, Option.getD_some])
  induction s using lines.induct with
  | case1 => exact lines_break lineBreak apartAfter
  | case2 rest ih =>
      have both : ∀ rest, lines ('\r' :: '\n' :: rest) = [] :: lines rest :=
        fun rest => lines_break .both (by simp)
      rw [List.cons_append, List.cons_append, both, both, ih (later (later apartBefore))]
      rfl
  | case3 c rest apart isBreak ih =>
      -- a carriage return at the end of the first text is the only one that could make a pair
      have apart' : ∀ rest', c = '\r' → rest ++ (lineBreak.text ++ t) ≠ '\n' :: rest' := by
        rintro rest' rfl same
        cases rest with
        | nil =>
            cases lineBreak with
            | lineFeed => exact apartBefore rfl rfl
            | carriageReturn => simp [Break.text] at same
            | both => simp [Break.text] at same
        | cons d rest => exact apart rest rfl (by rw [(List.cons.inj same).1])
      rw [List.cons_append, lines, if_pos isBreak, lines, if_pos isBreak, ih (later apartBefore)]
      · rfl
      · exact apart
      · exact apart'
  | case4 c rest apart other ih =>
      have solid : c ≠ '\n' ∧ c ≠ '\r' := by simpa using other
      rw [List.cons_append, lines_other solid.1 solid.2, lines_other solid.1 solid.2,
        ih (later apartBefore), extendFirst_append (lines_ne_nil rest)]

/-- Two texts with a break between them have the lines of both, but for an empty one at the end of
the first or at the start of the second that a pair of breaks leaves out. -/
theorem lines_joined (s t : List Char) (lineBreak : Break) :
    ∃ first second, lines (s ++ (lineBreak.text ++ t)) = first ++ second ∧
      (lines s = first ∨ lines s = first ++ [[]]) ∧ (lines t = second ∨ lines t = [] :: second) := by
  by_cases before : lineBreak = .lineFeed ∧ s.getLast? = some '\r'
  · obtain ⟨rfl, last⟩ := before
    obtain ⟨s, rfl⟩ := List.getLast?_eq_some_iff.mp last
    have returned : lines (s ++ (Break.carriageReturn.text ++ [])) = lines s ++ lines [] :=
      lines_join (by simp) (by simp)
    have paired : lines (s ++ (Break.both.text ++ t)) = lines s ++ lines t :=
      lines_join (by simp) (by simp)
    refine ⟨lines s, lines t, ?_, .inr returned, .inl rfl⟩
    rw [← paired, List.append_assoc]
    rfl
  · by_cases after : lineBreak = .carriageReturn ∧ t.head? = some '\n'
    · obtain ⟨rfl, head⟩ := after
      obtain ⟨t, rfl⟩ := List.head?_eq_some_iff.mp head
      have fed : lines ('\n' :: t) = [] :: lines t := lines_break .lineFeed (by simp)
      have paired : lines (s ++ (Break.both.text ++ t)) = lines s ++ lines t :=
        lines_join (by simp) (by simp)
      exact ⟨lines s, lines t, paired, .inl rfl, .inr fed⟩
    · refine ⟨lines s, lines t, lines_join ?_ ?_, .inl rfl, .inl rfl⟩
      · intro isFeed last
        exact before ⟨isFeed, last⟩
      · intro isReturn head
        exact after ⟨isReturn, head⟩

end MailFilters.Text
