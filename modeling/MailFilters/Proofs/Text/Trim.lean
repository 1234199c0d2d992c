import MailFilters.Text.Blank

/-!
# Trimming

What trimming takes away is white space, and nothing is left to take away behind it.

* **`exists_trimStart`**, **`exists_trim`** — a text is its trimmed form with white space beside it.
* **`trimStart_eq_iff`** — what is left when the white space in front is gone.
* **`trimStart_gap`**, **`trim_between`** — white space beside a text that neither starts nor ends
  with any is what trimming takes away.
* **`trim_spaced`** — the same for two texts, of which the first may be empty.
* **`trim_cases`** — a trimmed text is empty or has no white space at its ends.
-/

namespace MailFilters.Text

/-- A run of white space, which may be empty. -/
def Blank (s : List Char) : Prop := ∀ c ∈ s, isBlank c = true

/-- A text whose first character is there and is no white space. -/
def StartsSolid (s : List Char) : Prop := ∃ c rest, s = c :: rest ∧ isBlank c = false

/-- A text whose last character is there and is no white space. -/
def EndsSolid (s : List Char) : Prop := ∃ c start, s = start ++ [c] ∧ isBlank c = false

/-- A text without white space at its ends, which may be empty. -/
def Tight (s : List Char) : Prop :=
  ∀ c, s.head? = some c ∨ s.getLast? = some c → isBlank c = false

theorem Tight.cases {s : List Char} (tight : Tight s) : s = [] ∨ StartsSolid s ∧ EndsSolid s := by
  rcases List.eq_nil_or_concat s with rfl | ⟨start, last, rfl⟩
  · exact .inl rfl
  · rw [List.concat_eq_append] at tight ⊢
    refine .inr ⟨?_, last, start, rfl, tight last (.inr List.getLast?_concat)⟩
    cases start with
    | nil => exact ⟨last, [], rfl, tight last (.inl rfl)⟩
    | cons c start => exact ⟨c, start ++ [last], rfl, tight c (.inl rfl)⟩

theorem Blank.nil : Blank [] := by simp [Blank]

theorem Blank.singleton {c : Char} (blank : isBlank c = true) : Blank [c] := by
  simpa [Blank] using blank

theorem Blank.append {s t : List Char} (first : Blank s) (second : Blank t) : Blank (s ++ t) := by
  intro c member
  rcases List.mem_append.mp member with inside | inside
  · exact first c inside
  · exact second c inside

theorem Blank.free {gap : List Char} (blank : Blank gap) {c : Char} (solid : isBlank c = false) :
    c ∉ gap := by
  intro inside
  rw [blank c inside] at solid
  exact absurd solid (by simp)

theorem StartsSolid.append {s : List Char} (solid : StartsSolid s) (t : List Char) :
    StartsSolid (s ++ t) := by
  obtain ⟨c, rest, rfl, hc⟩ := solid
  exact ⟨c, rest ++ t, rfl, hc⟩

theorem EndsSolid.prepend {s : List Char} (solid : EndsSolid s) (t : List Char) :
    EndsSolid (t ++ s) := by
  obtain ⟨c, start, rfl, hc⟩ := solid
  exact ⟨c, t ++ start, by simp, hc⟩

theorem startsSolid_reverse {s : List Char} : StartsSolid s.reverse ↔ EndsSolid s := by
  constructor
  · rintro ⟨c, rest, equal, hc⟩
    exact ⟨c, rest.reverse, by rw [← List.reverse_reverse s, equal]; simp, hc⟩
  · rintro ⟨c, start, rfl, hc⟩
    exact ⟨c, start.reverse, by simp, hc⟩

theorem blank_reverse {s : List Char} : Blank s.reverse ↔ Blank s := by
  simp [Blank]

/-! ## At the start -/

theorem trimStart_gap {gap s : List Char} (blank : Blank gap) (solid : StartsSolid s) :
    trimStart (gap ++ s) = s := by
  obtain ⟨c, rest, rfl, hc⟩ := solid
  rw [trimStart, List.dropWhile_append_of_pos blank, List.dropWhile_cons_of_neg (by simp [hc])]

theorem trimStart_blank {gap : List Char} (blank : Blank gap) : trimStart gap = [] := by
  rw [trimStart, ← List.append_nil gap, List.dropWhile_append_of_pos blank]
  rfl

theorem exists_trimStart (s : List Char) : ∃ gap, Blank gap ∧ s = gap ++ trimStart s := by
  refine ⟨s.takeWhile isBlank, ?_, List.takeWhile_append_dropWhile.symm⟩
  intro c member
  exact List.all_eq_true.mp List.all_takeWhile c member

/-- What is left is nothing or starts with something else than white space. -/
theorem trimStart_cases (s : List Char) : trimStart s = [] ∨ StartsSolid (trimStart s) := by
  rw [trimStart]
  cases equal : s.dropWhile isBlank with
  | nil => exact .inl rfl
  | cons c rest =>
      have head := List.head?_dropWhile_not isBlank s
      rw [equal] at head
      exact .inr ⟨c, rest, rfl, by simpa using head⟩

/-- What is left when the white space in front is gone. -/
theorem trimStart_eq_iff {s rest : List Char} :
    trimStart s = rest ↔
      (rest = [] ∨ StartsSolid rest) ∧ ∃ gap, Blank gap ∧ s = gap ++ rest := by
  constructor
  · rintro rfl
    exact ⟨trimStart_cases s, exists_trimStart s⟩
  · rintro ⟨rfl | solid, gap, blank, rfl⟩
    · rw [List.append_nil, trimStart_blank blank]
    · exact trimStart_gap blank solid

/-! ## At both ends -/

theorem trimEnd_gap {gap s : List Char} (blank : Blank gap) (solid : EndsSolid s) :
    trimEnd (s ++ gap) = s := by
  have reversed := trimStart_gap (blank_reverse.mpr blank) (startsSolid_reverse.mpr solid)
  rw [trimStart] at reversed
  rw [trimEnd, List.reverse_append, reversed, List.reverse_reverse]

theorem exists_trimEnd (s : List Char) : ∃ gap, Blank gap ∧ s = trimEnd s ++ gap := by
  obtain ⟨gap, blank, equal⟩ := exists_trimStart s.reverse
  refine ⟨gap.reverse, blank_reverse.mpr blank, ?_⟩
  have back := congrArg List.reverse equal
  rw [List.reverse_reverse, List.reverse_append] at back
  exact back

/-- White space around a text goes, if the text has none at its own ends. -/
theorem trim_between {before s after : List Char} (blankBefore : Blank before)
    (starts : StartsSolid s) (ends : EndsSolid s) (blankAfter : Blank after) :
    trim (before ++ s ++ after) = s := by
  rw [trim, List.append_assoc, trimStart_gap blankBefore (starts.append after),
    trimEnd_gap blankAfter ends]

/-- White space around two texts goes, and the one between them goes with it if the first text is
empty. -/
theorem trim_spaced {before s gap t after : List Char} (tight : Tight s)
    (blankBefore : Blank before) (blank : Blank gap) (starts : StartsSolid t) (ends : EndsSolid t)
    (blankAfter : Blank after) :
    ∃ gap', Blank gap' ∧ trim (before ++ (s ++ gap ++ t) ++ after) = s ++ gap' ++ t ∧
      trimEnd (s ++ gap') = s := by
  rcases tight.cases with rfl | ⟨startsSolid, endsSolid⟩
  · refine ⟨[], .nil, ?_, rfl⟩
    rw [List.nil_append, ← List.append_assoc]
    exact trim_between (blankBefore.append blank) starts ends blankAfter
  · exact ⟨gap, blank, trim_between blankBefore ((startsSolid.append gap).append t) (ends.prepend _)
      blankAfter, trimEnd_gap blank endsSolid⟩

/-- A text is its trimmed form between runs of white space. -/
theorem exists_trim (s : List Char) :
    ∃ before after, Blank before ∧ Blank after ∧ s = before ++ trim s ++ after := by
  obtain ⟨before, blankBefore, cutStart⟩ := exists_trimStart s
  obtain ⟨after, blankAfter, cutEnd⟩ := exists_trimEnd (trimStart s)
  refine ⟨before, after, blankBefore, blankAfter, ?_⟩
  rw [trim, List.append_assoc, ← cutEnd]
  exact cutStart

theorem trim_blank {s : List Char} (blank : Blank s) : trim s = [] := by
  rw [trim, trimStart_blank blank]
  rfl

theorem trimEnd_cases (s : List Char) : trimEnd s = [] ∨ EndsSolid (trimEnd s) := by
  rcases trimStart_cases s.reverse with empty | solid
  · rw [trimStart] at empty
    exact .inl (by rw [trimEnd, empty, List.reverse_nil])
  · refine .inr (startsSolid_reverse.mp ?_)
    rw [trimEnd, List.reverse_reverse]
    exact solid

/-- A text that is not white space only has no white space at its ends when it is trimmed. -/
theorem trim_cases (s : List Char) :
    Blank s ∨ StartsSolid (trim s) ∧ EndsSolid (trim s) := by
  obtain ⟨before, after, blankBefore, blankAfter, whole⟩ := exists_trim s
  rcases trimEnd_cases (trimStart s) with empty | ends
  · left
    rw [whole, show trim s = [] from empty, List.append_nil]
    exact blankBefore.append blankAfter
  · refine .inr ⟨?_, ends⟩
    -- what trimming at the end leaves starts where the text trimmed at its start does
    obtain ⟨gap, _, cut⟩ := exists_trimEnd (trimStart s)
    have filled : trimEnd (trimStart s) ≠ [] := by
      obtain ⟨c, start, equal, _⟩ := ends
      simp [equal]
    obtain ⟨c, rest, front⟩ := List.exists_cons_of_ne_nil filled
    rw [front, List.cons_append] at cut
    rcases trimStart_cases s with none | ⟨d, others, equal, solid⟩
    · simp [none] at cut
    · rw [equal, List.cons.injEq] at cut
      exact ⟨c, rest, front, cut.1 ▸ solid⟩

end MailFilters.Text
