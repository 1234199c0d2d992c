import MailFilters.Proofs.Token

/-!
# The lines that are recognized

A line of a document is white space only or of the form `key="value"`.  A document is refused at its
first line that is neither, whatever stands on the other lines.

* **`IsPair`**, **`IsWellFormed`** — the forms of a line.
* **`exists_readPair_iff`** — the first equals sign before a quote is as good as any other.
* **`ofLines_malformed`** — lines are refused at the first one that is not well formed.
* **`ofText_joined`** — a text that goes on has the tokens of both its parts.
-/

namespace MailFilters.Token

open MailFilters.Text

/-- A line of the form `key="value"`, with white space at its ends and beside the equals sign or
none. -/
def IsPair (line : List Char) : Prop :=
  ∃ key gap value, Blank gap ∧ trim line = key ++ '=' :: (gap ++ '"' :: (value ++ ['"']))

/-- A line that a document may have. -/
def IsWellFormed (line : List Char) : Prop := Blank line ∨ IsPair line

/-! ## One line -/

theorem afterOpening_eq_some_iff {s rest : List Char} :
    afterOpening? s = some rest ↔ ∃ gap, Blank gap ∧ s = gap ++ '"' :: rest := by
  constructor
  · intro opened
    obtain ⟨gap, blank, whole⟩ := exists_trimStart s
    unfold afterOpening? at opened
    split at opened
    · next quoted =>
        rw [quoted, Option.some.inj opened] at whole
        exact ⟨gap, blank, whole⟩
    · simp at opened
  · intro written
    obtain ⟨gap, blank, rfl⟩ := written
    rw [afterOpening?, trimStart_gap blank ⟨'"', rest, rfl, by decide⟩]
    rfl

/-- What a line is split into is a part of it. -/
theorem splitKey_sound {s key rest : List Char} (split : splitKey? s = some (key, rest)) :
    ∃ gap, Blank gap ∧ s = key ++ '=' :: (gap ++ '"' :: rest) := by
  induction s generalizing key with
  | nil => simp [splitKey?] at split
  | cons c s ih =>
      rw [splitKey?] at split
      split at split
      · next value opened =>
          obtain ⟨rfl, rfl⟩ := Prod.mk.inj (Option.some.inj split)
          split at opened
          · next isEquals =>
              obtain ⟨gap, blank, rfl⟩ := afterOpening_eq_some_iff.mp opened
              exact ⟨gap, blank, by rw [isEquals, List.nil_append]⟩
          · simp at opened
      · obtain ⟨⟨before, rest'⟩, later, same⟩ := Option.map_eq_some_iff.mp split
        obtain ⟨rfl, rfl⟩ := Prod.mk.inj same
        obtain ⟨gap, blank, rfl⟩ := ih later
        exact ⟨gap, blank, rfl⟩

/-- What stands behind the first quote of a text ends in what stands behind a later one. -/
theorem ends_of_quoted {gap key gap' rest value : List Char} (blank : Blank gap)
    (same : gap ++ '"' :: value = key ++ '=' :: (gap' ++ '"' :: rest)) :
    ∃ more, value = more ++ rest := by
  rw [← List.cons_append, ← List.append_assoc] at same
  rcases List.append_eq_append_iff.mp same with ⟨between, _, quotes⟩ | ⟨between, beyond, _⟩
  · cases between with
    | nil => exact ⟨[], (List.cons.inj quotes).2⟩
    | cons c between =>
        exact ⟨between ++ ['"'], by simp [(List.cons.inj quotes).2]⟩
  · -- the first quote cannot stand behind the equals sign: only white space stands before it
    have inside : '=' ∈ gap := by simp [beyond]
    exact absurd inside (blank.free (by decide))

/-- A line with an equals sign before a quote is split there or before. -/
theorem splitKey_first {gap : List Char} (blank : Blank gap) (key rest : List Char) :
    ∃ first more, splitKey? (key ++ '=' :: (gap ++ '"' :: rest)) = some (first, more ++ rest) := by
  induction key with
  | nil =>
      refine ⟨[], [], ?_⟩
      rw [List.nil_append, splitKey?, if_pos rfl, afterOpening_eq_some_iff.mpr ⟨gap, blank, rfl⟩]
      rfl
  | cons c key ih =>
      obtain ⟨first, more, split⟩ := ih
      rw [List.cons_append, splitKey?, split]
      split
      · next value opened =>
          split at opened
          · obtain ⟨gap', blank', whole⟩ := afterOpening_eq_some_iff.mp opened
            obtain ⟨more, rfl⟩ := ends_of_quoted blank' whole.symm
            exact ⟨[], more, rfl⟩
          · simp at opened
      · exact ⟨c :: first, more, rfl⟩

/-- A line can be read if it has an equals sign before a quote and ends in another quote; which of
several such signs it is does not matter. -/
theorem exists_readPair_iff {line : List Char} :
    (∃ pair, readPair? line = some pair) ↔
      ∃ key gap value, Blank gap ∧ line = key ++ '=' :: (gap ++ '"' :: (value ++ ['"'])) := by
  constructor
  · rintro ⟨pair, read⟩
    obtain ⟨⟨key, rest⟩, split, read⟩ := Option.bind_eq_some_iff.mp read
    obtain ⟨value, closed, _⟩ := Option.bind_eq_some_iff.mp read
    obtain ⟨gap, blank, rfl⟩ := splitKey_sound split
    unfold beforeClosing? at closed
    split at closed
    · next last =>
        obtain ⟨value', rfl⟩ := List.getLast?_eq_some_iff.mp last
        exact ⟨key, gap, value', blank, rfl⟩
    · simp at closed
  · rintro ⟨key, gap, value, blank, rfl⟩
    obtain ⟨first, more, split⟩ := splitKey_first blank key (value ++ ['"'])
    have closed : beforeClosing? (more ++ (value ++ ['"'])) = some (more ++ value) := by
      rw [← List.append_assoc, beforeClosing?, if_pos (by simp), List.dropLast_concat]
    exact ⟨(trimEnd first, more ++ value), by simp [readPair?, split, closed]⟩

theorem exists_ofLine {line : List Char} (isPair : IsPair line) :
    ∃ key value, ∀ number, ofLine number line = .ok ⟨number, key, value⟩ := by
  obtain ⟨⟨key, value⟩, read⟩ := exists_readPair_iff.mpr isPair
  refine ⟨String.ofList key, String.ofList (resolveEscapes value), ?_⟩
  intro number
  rw [ofLine, read]

theorem ofLine_malformed {line : List Char} (noPair : ¬ IsPair line) (number : Nat) :
    ofLine number line = .error (.unrecognizedLine number (String.ofList line)) := by
  cases read : readPair? (trim line) with
  | some pair => exact absurd (exists_readPair_iff.mp ⟨pair, read⟩) noPair
  | none => rw [ofLine, read]

instance : DecidablePred IsPair := fun line =>
  decidable_of_iff ((readPair? (trim line)).isSome = true)
    (Option.isSome_iff_exists.trans exists_readPair_iff)

instance : DecidablePred IsWellFormed := fun line =>
  decidable_of_iff (line.all isBlank = true ∨ IsPair line) (or_congr_left List.all_eq_true)

/-! ## Lines -/

/-- The tokens of lines behind others are numbered on. -/
theorem ofLines_append (number : Nat) (first second : List (List Char)) :
    ofLines number (first ++ second) = (do
      let own ← ofLines number first
      return own ++ (← ofLines (number + first.length) second)) := by
  induction first generalizing number with
  | nil =>
      rw [List.nil_append, ofLines, List.length_nil, Nat.add_zero]
      cases ofLines number second <;> rfl
  | cons line first ih =>
      have count : number + 1 + first.length = number + (line :: first).length := by
        rw [List.length_cons]
        omega
      rw [List.cons_append]
      by_cases blank : Blank line
      · rw [ofLines_blank blank, ofLines_blank blank, ih, count]
      · rw [ofLines_filled blank, ofLines_filled blank, ih, count]
        cases ofLine number line with
        | error cause => rfl
        | ok token =>
            cases ofLines (number + 1) first with
            | error cause => rfl
            | ok own => cases ofLines (number + (line :: first).length) second <;> rfl

/-- Well-formed lines have tokens, and what these say does not depend on the numbers of the lines. -/
theorem ofLines_wellFormed {lines : List (List Char)} (formed : ∀ line ∈ lines, IsWellFormed line) :
    ∃ pairs, ∀ number, ∃ tokens, ofLines number lines = .ok tokens ∧ tokens.map pair = pairs := by
  induction lines with
  | nil => exact ⟨[], fun number => ⟨[], rfl, rfl⟩⟩
  | cons line rest ih =>
      obtain ⟨pairs, read⟩ := ih fun other member => formed other (List.mem_cons_of_mem line member)
      by_cases blank : Blank line
      · refine ⟨pairs, ?_⟩
        intro number
        rw [ofLines_blank blank]
        exact read (number + 1)
      · obtain ⟨key, value, readLine⟩ :=
          exists_ofLine ((formed line List.mem_cons_self).resolve_left blank)
        refine ⟨(key, value) :: pairs, ?_⟩
        intro number
        obtain ⟨tokens, ofRest, same⟩ := read (number + 1)
        rw [ofLines_filled blank, readLine, ofRest]
        exact ⟨_, rfl, by rw [List.map_cons, same]; rfl⟩

/-- Lines are refused at the first one that is not well formed. -/
theorem ofLines_malformed {lines : List (List Char)} (number : Nat)
    (malformed : ∃ line ∈ lines, ¬ IsWellFormed line) :
    ∃ before line after, lines = before ++ line :: after ∧
      (∀ earlier ∈ before, IsWellFormed earlier) ∧ ¬ IsWellFormed line ∧
      ofLines number lines =
        .error (.unrecognizedLine (number + before.length) (String.ofList line)) := by
  induction lines generalizing number with
  | nil => simp at malformed
  | cons line rest ih =>
      by_cases formed : IsWellFormed line
      · obtain ⟨bad, member, malformedBad⟩ := malformed
        have inside : bad ∈ rest := by
          refine (List.mem_cons.mp member).resolve_left ?_
          rintro rfl
          exact malformedBad formed
        obtain ⟨before, first, after, rfl, earlier, firstBad, refused⟩ :=
          ih (number + 1) ⟨bad, inside, malformedBad⟩
        refine ⟨line :: before, first, after, rfl, ?_, firstBad, ?_⟩
        · exact List.forall_mem_cons.mpr ⟨formed, earlier⟩
        · have count : number + (line :: before).length = number + 1 + before.length := by
            rw [List.length_cons]
            omega
          rw [count]
          by_cases blank : Blank line
          · rw [ofLines_blank blank, refused]
          · obtain ⟨key, value, read⟩ := exists_ofLine (formed.resolve_left blank)
            rw [ofLines_filled blank, read, refused]
            rfl
      · refine ⟨[], line, rest, rfl, by simp, formed, ?_⟩
        rw [ofLines_filled fun blank => formed (.inl blank),
          ofLine_malformed fun isPair => formed (.inr isPair)]
        rfl

/-! ## Texts -/

/-- A text of which every line is well formed. -/
def AllWellFormed (contents : String) : Prop :=
  ∀ line ∈ lines contents.toList, IsWellFormed line

instance (contents : String) : Decidable (AllWellFormed contents) :=
  decidable_of_iff ((lines contents.toList).all (IsWellFormed ·) = true) (by
    simp [AllWellFormed])

/-- Two texts with a line break between them. -/
def joinedBy (lineBreak : Break) (contents added : String) : String :=
  contents ++ String.ofList lineBreak.text ++ added

theorem ofLines_concat_empty (number : Nat) (lines : List (List Char)) :
    ofLines number (lines ++ [[]]) = ofLines number lines := by
  rw [ofLines_append, ofLines_blank .nil]
  cases ofLines number lines with
  | error cause => rfl
  | ok own => exact congrArg Except.ok (List.append_nil own)

/-- A text of well-formed lines that goes on has its own tokens first, and behind them those of what
was added, which are numbered on. -/
theorem ofText_joined {contents added : String} (lineBreak : Break)
    (formed : AllWellFormed contents) (formedAdded : AllWellFormed added) :
    ∃ own others moved, ofText contents = .ok own ∧ ofText added = .ok others ∧
      ofText (joinedBy lineBreak contents added) = .ok (own ++ moved) ∧
      moved.map pair = others.map pair := by
  obtain ⟨first, second, joined, ofFirst, ofSecond⟩ :=
    lines_joined contents.toList added.toList lineBreak
  -- an empty line that is left out at the seam has no token
  have firstFormed : ∀ line ∈ first, IsWellFormed line := by
    intro line member
    rcases ofFirst with same | longer
    · exact formed line (same ▸ member)
    · exact formed line (longer ▸ List.mem_append_left [[]] member)
  have secondFormed : ∀ line ∈ second, IsWellFormed line := by
    intro line member
    rcases ofSecond with same | longer
    · exact formedAdded line (same ▸ member)
    · exact formedAdded line (longer ▸ List.mem_cons_of_mem [] member)
  obtain ⟨_, readFirst⟩ := ofLines_wellFormed firstFormed
  obtain ⟨pairs, readSecond⟩ := ofLines_wellFormed secondFormed
  obtain ⟨own, readOwn, _⟩ := readFirst 1
  obtain ⟨moved, readMoved, movedPairs⟩ := readSecond (1 + first.length)
  have whole : ofText contents = .ok own := by
    rcases ofFirst with same | longer
    · rw [ofText, same, readOwn]
    · rw [ofText, longer, ofLines_concat_empty, readOwn]
  obtain ⟨others, readOthers, otherPairs⟩ :
      ∃ others, ofText added = .ok others ∧ others.map pair = pairs := by
    rcases ofSecond with same | longer
    · rw [ofText, same]
      exact readSecond 1
    · rw [ofText, longer, ofLines_blank .nil]
      exact readSecond 2
  refine ⟨own, others, moved, whole, readOthers, ?_, movedPairs.trans otherPairs.symm⟩
  have letters : (joinedBy lineBreak contents added).toList =
      contents.toList ++ (lineBreak.text ++ added.toList) := by
    simp [joinedBy]
  rw [ofText, letters, joined, ofLines_append, readOwn]
  simp only [bind, Except.bind, readMoved, pure, Except.pure]

end MailFilters.Token
