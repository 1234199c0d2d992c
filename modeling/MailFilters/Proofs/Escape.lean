import MailFilters.Proofs.Text.Cut
import MailFilters.Token
import Mathlib.Algebra.Group.Even

/-!
# Escapes, text by text

Resolving escapes takes one or two characters a step, so whether a text can be cut in two depends
on how the steps fall at the cut: a run of backslashes is taken two by two from its start.

* **`backslashesAtEnd`** — how many backslashes a text ends in.
* **`HasEscape`** — a backslash stands directly before a quote or a backslash.
* **`resolve_seam`** — a cut that no backslash stands before, or no quote or backslash behind, is
  a cut between two steps.
* **`resolve_append_and_fixed`** — the cuts between two steps, and the texts that stay as they are.
-/

namespace MailFilters.Token

/-- How many backslashes a text ends in. -/
def backslashesAtEnd (s : List Char) : Nat := (s.reverse.takeWhile (· == '\\')).length

/-- A backslash stands directly before a quote or a backslash. -/
def HasEscape (s : List Char) : Prop :=
  ∃ before c after, s = before ++ '\\' :: c :: after ∧ (c = '"' ∨ c = '\\')

theorem isEscapable_iff {c : Char} : isEscapable c = true ↔ c = '"' ∨ c = '\\' := by
  simp [isEscapable]

/-! ## Single steps -/

theorem resolve_plain {c : Char} (plain : c ≠ '\\') (rest : List Char) :
    resolveEscapes (c :: rest) = c :: resolveEscapes rest := by
  rw [resolveEscapes]
  intro d rest' same
  exact absurd same plain

theorem resolve_escape {c : Char} (escapable : isEscapable c = true) (rest : List Char) :
    resolveEscapes ('\\' :: c :: rest) = c :: resolveEscapes rest := by
  rw [resolveEscapes, if_pos escapable]

/-- A backslash that no quote or backslash stands behind stays. -/
theorem resolve_backslash {s : List Char}
    (unescapable : ∀ c, s.head? = some c → isEscapable c = false) :
    resolveEscapes ('\\' :: s) = '\\' :: resolveEscapes s := by
  cases s with
  | nil => rfl
  | cons c rest =>
      have other : ¬ isEscapable c = true := by simp [unescapable c rfl]
      rw [resolveEscapes, if_neg other]

/-! ## Two texts -/

/-- A cut with no backslash before it, or with no quote or backslash behind it, is a cut between two
steps. -/
theorem resolve_seam {s t : List Char}
    (apart : s.getLast? = some '\\' → ∀ c, t.head? = some c → isEscapable c = false) :
    resolveEscapes (s ++ t) = resolveEscapes s ++ resolveEscapes t := by
  fun_induction resolveEscapes s with
  | case1 c rest escapable ih =>
      have later : rest.getLast? = some '\\' → ('\\' :: c :: rest).getLast? = some '\\' := by
        intro last
        simp [List.getLast?_cons, last]
      rw [List.cons_append, List.cons_append, resolve_escape escapable,
        ih fun last => apart (later last)]
      rfl
  | case2 c rest other ih =>
      have unescapable : isEscapable c = false := by simpa using other
      have kept : resolveEscapes ('\\' :: (c :: rest ++ t)) =
          '\\' :: resolveEscapes (c :: rest ++ t) := by
        refine resolve_backslash ?_
        intro d head
        rwa [← Option.some.inj head]
      rw [List.cons_append, kept, ih fun last => apart (by rwa [List.getLast?_cons_cons])]
      rfl
  | case3 c rest alone ih =>
      by_cases isBackslash : c = '\\'
      · -- a backslash at the end of the first text
        subst isBackslash
        cases rest with
        | nil => exact resolve_backslash (apart rfl)
        | cons d rest => exact absurd rfl (alone d rest rfl)
      · have later : rest.getLast? = some '\\' → (c :: rest).getLast? = some '\\' := by
          intro last
          simp [List.getLast?_cons, last]
        rw [List.cons_append, resolve_plain isBackslash, ih fun last => apart (later last)]
        rfl
  | case4 => rfl

/-- A run of backslashes is taken two by two. -/
theorem resolve_backslashes (n : Nat) (s : List Char) :
    resolveEscapes (List.replicate (n + n) '\\' ++ s) =
      List.replicate n '\\' ++ resolveEscapes s := by
  induction n with
  | zero => rfl
  | succ n ih =>
      have twice : n + 1 + (n + 1) = n + n + 1 + 1 := by omega
      rw [twice, List.replicate_succ, List.replicate_succ, List.cons_append, List.cons_append,
        resolve_escape rfl, ih]
      rfl

/-- What stands before the backslashes at the end of a text does not end in one. -/
theorem exists_beforeBackslashes (s : List Char) :
    ∃ start, s = start ++ List.replicate (backslashesAtEnd s) '\\' ∧
      start.getLast? ≠ some '\\' := by
  obtain ⟨whole, run, stop⟩ := Text.run_at_end (· == '\\') s
  have backslashes : (s.reverse.takeWhile (· == '\\')).reverse =
      List.replicate (backslashesAtEnd s) '\\' := by
    rw [backslashesAtEnd, ← List.length_reverse]
    exact List.eq_replicate_of_mem fun c member => by simpa using run c member
  rw [backslashes] at whole
  exact ⟨_, whole, fun last => absurd (stop '\\' last) (by decide)⟩

/-- Behind an even number of backslashes any text starts with a step of its own. -/
theorem resolve_append_of_even {s : List Char} (even : Even (backslashesAtEnd s))
    (t : List Char) : resolveEscapes (s ++ t) = resolveEscapes s ++ resolveEscapes t := by
  obtain ⟨start, whole, last⟩ := exists_beforeBackslashes s
  obtain ⟨n, pairs⟩ := even
  rw [pairs] at whole
  have cut : ∀ rest, resolveEscapes (s ++ rest) =
      resolveEscapes start ++ (List.replicate n '\\' ++ resolveEscapes rest) := by
    intro rest
    rw [whole, List.append_assoc, resolve_seam fun backslash => absurd backslash last,
      resolve_backslashes]
  have alone := cut []
  rw [List.append_nil] at alone
  rw [cut, alone]
  simp [resolveEscapes]

/-! ## Texts that stay as they are -/

theorem hasEscape_cons {c : Char} {s : List Char} :
    HasEscape (c :: s) ↔ (c = '\\' ∧ ∃ d, s.head? = some d ∧ isEscapable d = true) ∨
      HasEscape s := by
  constructor
  · rintro ⟨before, d, after, whole, escaped⟩
    cases before with
    | nil =>
        obtain ⟨rfl, rfl⟩ := List.cons.inj whole
        exact .inl ⟨rfl, d, rfl, isEscapable_iff.mpr escaped⟩
    | cons _ before => exact .inr ⟨before, d, after, (List.cons.inj whole).2, escaped⟩
  · rintro (⟨rfl, d, head, escapable⟩ | ⟨before, d, after, rfl, escaped⟩)
    · obtain ⟨after, rfl⟩ := List.head?_eq_some_iff.mp head
      exact ⟨[], d, after, rfl, isEscapable_iff.mp escapable⟩
    · exact ⟨c :: before, d, after, rfl, escaped⟩

theorem resolve_length_le (s : List Char) : (resolveEscapes s).length ≤ s.length := by
  fun_induction resolveEscapes s with
  | case1 c rest escapable ih =>
      simp only [List.length_cons]
      omega
  | case2 c rest other ih => exact Nat.succ_le_succ ih
  | case3 c rest alone ih => exact Nat.succ_le_succ ih
  | case4 => exact Nat.le_refl 0

/-- The texts without escapes are those that resolving leaves as they are. -/
theorem resolve_eq_self_iff {s : List Char} : resolveEscapes s = s ↔ ¬ HasEscape s := by
  fun_induction resolveEscapes s with
  | case1 c rest escapable ih =>
      -- the text gets shorter
      have shorter := resolve_length_le rest
      have escape : HasEscape ('\\' :: c :: rest) :=
        hasEscape_cons.mpr (.inl ⟨rfl, c, rfl, escapable⟩)
      refine iff_of_false ?_ (not_not.mpr escape)
      intro same
      have lengths := congrArg List.length same
      simp only [List.length_cons] at lengths
      omega
  | case2 c rest other ih =>
      rw [List.cons_inj_right, ih, @hasEscape_cons '\\' (c :: rest)]
      simp [other]
  | case3 c rest alone ih =>
      rw [List.cons_inj_right, ih, @hasEscape_cons c rest]
      refine not_congr (iff_or_self.mpr ?_)
      rintro ⟨rfl, d, head, _⟩
      obtain ⟨rest', rfl⟩ := List.head?_eq_some_iff.mp head
      exact absurd rfl (alone d rest' rfl)
  | case4 => simp [HasEscape]

/-- **Escapes.** The escapes of two texts put together are those of each, if the first text ends in
an even number of backslashes or the second one starts with neither a backslash nor a quote.  The
texts that stay as they are are those without a backslash directly before a backslash or a quote. -/
theorem resolve_append_and_fixed :
    (∀ s t : List Char,
      Even (backslashesAtEnd s) ∨ (t.head? ≠ some '\\' ∧ t.head? ≠ some '"') →
        resolveEscapes (s ++ t) = resolveEscapes s ++ resolveEscapes t) ∧
    ∀ s : List Char, resolveEscapes s = s ↔
      ¬ ∃ before c after, s = before ++ '\\' :: c :: after ∧ (c = '"' ∨ c = '\\') := by
  refine ⟨?_, fun _ => resolve_eq_self_iff⟩
  intro s t apart
  rcases apart with even | ⟨noBackslash, noQuote⟩
  · exact resolve_append_of_even even t
  · refine resolve_seam ?_
    intro _ c head
    rw [Bool.eq_false_iff]
    intro escapable
    rcases isEscapable_iff.mp escapable with rfl | rfl
    · exact noQuote head
    · exact noBackslash head

/-- A cut behind two backslashes, with a quote behind it; one backslash more and the quote would be
escaped. -/
theorem resolve_append_and_fixed_pair :
    Even (backslashesAtEnd ['a', '\\', '\\']) ∧
      resolveEscapes ['a', '\\', '\\', '"', 'b'] = ['a', '\\', '"', 'b'] ∧
      resolveEscapes ['a', '\\', '\\', '\\', '"', 'b'] = ['a', '\\', '"', 'b'] ∧
      ¬ resolveEscapes ['a', '\\', '\\'] = ['a', '\\', '\\'] := by
  have even : Even (backslashesAtEnd ['a', '\\', '\\']) := ⟨1, rfl⟩
  obtain ⟨appended, fixed⟩ := resolve_append_and_fixed
  refine ⟨even, appended ['a', '\\', '\\'] ['"', 'b'] (.inl even), rfl, ?_⟩
  rw [fixed]
  exact not_not.mpr ⟨['a'], '\\', [], rfl, .inr rfl⟩

end MailFilters.Token
