import MailFilters.Proofs.Text.Cut
import MailFilters.Proofs.Text.Lower

/-!
# Lower case and slashes

A slash ends every word, so the parts of a text between its slashes go to lower case each by itself.

* **`lower_append_slash`** — the lower case of two texts with a slash between them.
* **`slash_mem_lower_iff`** — lower case neither makes slashes nor loses any.
* **`splitOn_lower`** — splitting a text at its slashes and lower case can change places.
-/

namespace MailFilters.Text

/-! ## Words end at slashes -/

/-- A character that is neither passed over nor a letter ends the word before it. -/
theorem besideCased_slash (s rest : List Char) :
    besideCased (s ++ '/' :: rest) = besideCased s := by
  have solid : inRanges ignorableRanges '/'.toNat = false := by decide
  have caseless : inRanges casedRanges '/'.toNat = false := by decide
  rw [besideCased, besideCased]
  induction s with
  | nil =>
      rw [List.nil_append, List.dropWhile_cons, solid]
      exact caseless
  | cons c s ih =>
      rw [List.cons_append, List.dropWhile_cons, List.dropWhile_cons]
      split
      · exact ih
      · rfl

theorem lowerAt_slash_behind (before : List Char) (c : Char) (after rest : List Char) :
    lowerAt before c (after ++ '/' :: rest) = lowerAt before c after := by
  rw [lowerAt, lowerAt, besideCased_slash]

theorem lowerAt_slash_before (before far : List Char) (c : Char) (after : List Char) :
    lowerAt (before ++ '/' :: far) c after = lowerAt before c after := by
  rw [lowerAt, lowerAt, besideCased_slash]

/-- What stands before a slash has no part in the lower case of what follows. -/
theorem lowerFrom_slash_before (before far s : List Char) :
    lowerFrom (before ++ '/' :: far) s = lowerFrom before s := by
  induction s generalizing before with
  | nil => rfl
  | cons c s ih => rw [lowerFrom, lowerFrom, lowerAt_slash_before, ← ih (c :: before)]; rfl

theorem lowerAt_slash (before after : List Char) : lowerAt before '/' after = ['/'] :=
  lowerAt_fixed (by decide) (by decide)

theorem lowerFrom_append_slash (before s rest : List Char) :
    lowerFrom before (s ++ '/' :: rest) = lowerFrom before s ++ '/' :: lower rest := by
  induction s generalizing before with
  | nil =>
      show lowerAt before '/' rest ++ lowerFrom ('/' :: before) rest = _
      rw [lowerAt_slash]
      exact congrArg ('/' :: ·) (lowerFrom_slash_before [] before rest)
  | cons c s ih =>
      rw [List.cons_append, lowerFrom, lowerFrom, lowerAt_slash_behind, ih, List.append_assoc]

/-- The lower case of two texts with a slash between them. -/
theorem lower_append_slash (s rest : List Char) :
    lower (s ++ '/' :: rest) = lower s ++ '/' :: lower rest :=
  lowerFrom_append_slash [] s rest

/-! ## Slashes in lower case -/

/-- No run of a table moves a code point to a slash. -/
theorem lowerShifts_noSlash :
    ∀ run ∈ lowerShifts, ¬ (run.first + run.distance ≤ 0x2F ∧ 0x2F ≤ run.last + run.distance) := by
  decide +kernel

theorem lowerShifts_valid :
    ∀ run ∈ lowerShifts, 0 ≤ run.first + run.distance ∧
      (run.last + run.distance < 0xD800 ∨
        0xDFFF < run.first + run.distance ∧ run.last + run.distance < 0x110000) := by
  decide +kernel

theorem lowerExpansions_noSlash :
    ∀ entry ∈ lowerExpansions, '/' ∉ entry.2.map Char.ofNat := by decide

/-- Only a slash has a slash in its lower case. -/
theorem eq_slash_of_mem_lowerAt {before after : List Char} {c : Char}
    (member : '/' ∈ lowerAt before c after) : c = '/' := by
  rw [lowerAt] at member
  split at member
  · split at member <;> simp at member
  · rw [mapChar] at member
    split at member
    · next distance shifted =>
        obtain ⟨run, inTable, first, last, rfl⟩ := shiftBy?_eq_some shifted
        obtain ⟨low, valid⟩ := lowerShifts_valid run inTable
        have code : 0x2F = (Char.ofNat (c.toNat + run.distance).toNat).toNat :=
          congrArg Char.toNat (List.mem_singleton.mp member)
        rw [toNat_ofNat_of_lt (by omega)] at code
        exact absurd (by omega) (lowerShifts_noSlash run inTable)
    · next sequence _ expanded =>
        obtain ⟨entry, found, rfl⟩ := Option.map_eq_some_iff.mp expanded
        exact absurd member (lowerExpansions_noSlash entry (List.mem_of_find?_eq_some found))
    · exact (List.mem_singleton.mp member).symm

/-- Lower case neither makes slashes nor loses any. -/
theorem slash_mem_lower_iff {s : List Char} : '/' ∈ lower s ↔ '/' ∈ s := by
  constructor
  · intro member
    have from_any : ∀ before, '/' ∈ lowerFrom before s → '/' ∈ s := by
      clear member
      induction s with
      | nil => simp [lowerFrom]
      | cons c s ih =>
          intro before member
          rcases List.mem_append.mp member with here | later
          · rw [eq_slash_of_mem_lowerAt here]
            exact List.mem_cons_self
          · exact List.mem_cons_of_mem c (ih _ later)
    exact from_any [] member
  · intro member
    obtain ⟨front, rest, rfl⟩ := List.append_of_mem member
    rw [lower_append_slash]
    exact List.mem_append_right _ List.mem_cons_self

theorem lower_joinWith_slash (pieces : List (List Char)) :
    lower (joinWith ['/'] pieces) = joinWith ['/'] (pieces.map lower) := by
  induction pieces with
  | nil => rfl
  | cons piece rest ih =>
      cases rest with
      | nil => rfl
      | cons next rest =>
          show lower (piece ++ ['/'] ++ joinWith ['/'] (next :: rest)) = _
          rw [List.append_assoc, List.singleton_append, lower_append_slash, ih]
          simp [joinWith]

/-- The pieces of a text in lower case are the pieces of the text, each in lower case. -/
theorem splitOn_lower (s : List Char) :
    splitOn '/' (lower s) = (splitOn '/' s).map lower := by
  have free : ∀ piece ∈ (splitOn '/' s).map lower, '/' ∉ piece := by
    intro piece member
    obtain ⟨own, inside, rfl⟩ := List.mem_map.mp member
    exact mt slash_mem_lower_iff.mp (splitOn_pieces_free '/' s own inside)
  have nonempty : (splitOn '/' s).map lower ≠ [] := by
    simpa using splitOn_nonempty '/' s
  have joined := lower_joinWith_slash (splitOn '/' s)
  rw [joinWith_splitOn] at joined
  rw [joined]
  exact splitOn_joinWith nonempty free

end MailFilters.Text
