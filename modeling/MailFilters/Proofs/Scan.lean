import MailFilters.Proofs.Recognition
import MailFilters.Proofs.Text.Cut
import Mathlib.Data.List.Forall2

/-!
# Lines, scanned for their sign

The equals sign of a line is the first one that an opening quote follows.  The line is a key, a sign
and a quoted value in as many ways as it has such signs, and in more where white space may belong to
the key or not; the way with the shortest key is the one with that sign.

* **`Scans`** — the key and the value of a line, found from its first sign.
* **`Matches`**, **`MatchesFirst`** — the ways to match a line, and the one with the shortest key.
* **`scans_iff_matchesFirst`** — what is scanned is what matches first.
* **`ofText_scans`** — a document has one token for each line that is not blank, which is scanned.
-/

namespace MailFilters.Token

open MailFilters.Text

/-- A text that starts with a quote, behind white space or not. -/
def OpensQuote (s : List Char) : Prop := ∃ gap rest, Blank gap ∧ s = gap ++ '"' :: rest

/-- The key of a line stands before its first equals sign that an opening quote follows, and the
value between that quote and the last character, which is another quote. -/
def Scans (line key value : List Char) : Prop :=
  ∃ before gap, line = before ++ '=' :: (gap ++ '"' :: (value ++ ['"'])) ∧ Blank gap ∧
    (∀ earlier rest, line = earlier ++ '=' :: rest → OpensQuote rest →
      before.length ≤ earlier.length) ∧
    key = trimEnd before

/-- A line is a key, an equals sign and a value in quotes, with white space around the sign or
none. -/
def Matches (line key value : List Char) : Prop :=
  ∃ gap gap', Blank gap ∧ Blank gap' ∧
    line = key ++ gap ++ '=' :: (gap' ++ '"' :: (value ++ ['"']))

/-- Of the ways to match a line the one with the shortest key. -/
def MatchesFirst (line key value : List Char) : Prop :=
  Matches line key value ∧
    ∀ key' value', Matches line key' value' → key.length ≤ key'.length

/-! ## The first sign -/

theorem splitKey_first_sign {s before rest : List Char}
    (split : splitKey? s = some (before, rest)) {earlier later : List Char}
    (sign : s = earlier ++ '=' :: later) (opens : OpensQuote later) :
    before.length ≤ earlier.length := by
  induction s generalizing before earlier with
  | nil => simp at sign
  | cons c s ih =>
      rw [splitKey?] at split
      split at split
      · obtain ⟨rfl, _⟩ := Prod.mk.inj (Option.some.inj split)
        exact Nat.zero_le _
      · next unopened =>
          obtain ⟨⟨front, rest'⟩, behind, same⟩ := Option.map_eq_some_iff.mp split
          obtain ⟨rfl, rfl⟩ := Prod.mk.inj same
          cases earlier with
          | nil =>
              -- the sign is the first character, and the scan would have stopped there
              obtain ⟨rfl, rfl⟩ := List.cons.inj sign
              obtain ⟨gap, inner, blank, quoted⟩ := opens
              rw [if_pos rfl, afterOpening_eq_some_iff.mpr ⟨gap, blank, quoted⟩] at unopened
              simp at unopened
          | cons d earlier => exact Nat.succ_le_succ (ih behind (List.cons.inj sign).2)

/-- White space before a quote ends at that quote. -/
theorem blank_quote_unique {gap gap' rest rest' : List Char} (blank : Blank gap)
    (blank' : Blank gap') (same : gap ++ '"' :: rest = gap' ++ '"' :: rest') :
    gap = gap' ∧ rest = rest' :=
  cut_unique (blank.free (by decide)) (blank'.free (by decide)) same

theorem splitKey_eq_some_iff {s before rest : List Char} :
    splitKey? s = some (before, rest) ↔
      ∃ gap, s = before ++ '=' :: (gap ++ '"' :: rest) ∧ Blank gap ∧
        ∀ earlier later, s = earlier ++ '=' :: later → OpensQuote later →
          before.length ≤ earlier.length := by
  constructor
  · intro split
    obtain ⟨gap, blank, whole⟩ := splitKey_sound split
    exact ⟨gap, whole, blank, fun _ _ sign opens => splitKey_first_sign split sign opens⟩
  · rintro ⟨gap, whole, blank, first⟩
    obtain ⟨found, more, split⟩ := splitKey_first blank before rest
    rw [← whole] at split
    obtain ⟨gap', blank', whole'⟩ := splitKey_sound split
    -- neither sign stands before the other one, so both are the same
    have notLater := splitKey_first_sign split whole ⟨gap, rest, blank, rfl⟩
    have notEarlier := first found _ whole' ⟨gap', more ++ rest, blank', rfl⟩
    have sameLength : before.length = found.length := Nat.le_antisymm notEarlier notLater
    obtain ⟨rfl, behind⟩ := List.append_inj (whole.symm.trans whole') sameLength
    obtain ⟨_, sameRest⟩ := blank_quote_unique blank blank' (List.cons.inj behind).2
    rw [split, ← sameRest]

theorem beforeClosing_eq_some_iff {s value : List Char} :
    beforeClosing? s = some value ↔ s = value ++ ['"'] := by
  unfold beforeClosing?
  constructor
  · intro closed
    split at closed
    · next last =>
        obtain ⟨front, rfl⟩ := List.getLast?_eq_some_iff.mp last
        rw [List.dropLast_concat, Option.some.injEq] at closed
        rw [closed]
    · simp at closed
  · rintro rfl
    rw [if_pos (by simp), List.dropLast_concat]

theorem readPair_eq_some_iff {line key value : List Char} :
    readPair? line = some (key, value) ↔ Scans line key value := by
  constructor
  · intro read
    obtain ⟨⟨before, rest⟩, split, read⟩ := Option.bind_eq_some_iff.mp read
    obtain ⟨inner, closed, made⟩ := Option.bind_eq_some_iff.mp read
    obtain ⟨rfl, rfl⟩ := Prod.mk.inj (Option.some.inj made)
    obtain rfl := beforeClosing_eq_some_iff.mp closed
    obtain ⟨gap, whole, blank, first⟩ := splitKey_eq_some_iff.mp split
    exact ⟨before, gap, whole, blank, first, rfl⟩
  · rintro ⟨before, gap, whole, blank, first, rfl⟩
    have split : splitKey? line = some (before, value ++ ['"']) :=
      splitKey_eq_some_iff.mpr ⟨gap, whole, blank, first⟩
    have closed : beforeClosing? (value ++ ['"']) = some value :=
      beforeClosing_eq_some_iff.mpr rfl
    simp [readPair?, split, closed]

/-! ## The first match -/

theorem trimEnd_length_le (s : List Char) : (trimEnd s).length ≤ s.length := by
  obtain ⟨gap, _, whole⟩ := exists_trimEnd s
  have lengths := congrArg List.length whole
  rw [List.length_append] at lengths
  omega

theorem trimEnd_append_blank {s gap : List Char} (blank : Blank gap) :
    trimEnd (s ++ gap) = trimEnd s := by
  have dropped : (gap.reverse ++ s.reverse).dropWhile isBlank = s.reverse.dropWhile isBlank :=
    List.dropWhile_append_of_pos (blank_reverse.mpr blank)
  rw [trimEnd, List.reverse_append, dropped, trimEnd]

/-- The key that is scanned is as short as any that matches. -/
theorem Scans.matchesFirst {line key value : List Char} (scans : Scans line key value) :
    MatchesFirst line key value := by
  obtain ⟨before, gap', whole, blank', first, rfl⟩ := scans
  refine ⟨?_, ?_⟩
  · obtain ⟨gap, blank, cut⟩ := exists_trimEnd before
    exact ⟨gap, gap', blank, blank', by rwa [← cut]⟩
  · rintro other value' ⟨gap, gap₂, blank, blank₂, whole₂⟩
    -- what stands before the first sign is a part of the other key with its white space
    have shorter := first (other ++ gap) _ whole₂ ⟨gap₂, value' ++ ['"'], blank₂, rfl⟩
    obtain ⟨more, split⟩ : ∃ more, other ++ gap = before ++ more := by
      have front : before <+: line := ⟨_, whole.symm⟩
      have front₂ : other ++ gap <+: line := ⟨_, whole₂.symm⟩
      obtain ⟨more, equal⟩ := List.prefix_of_prefix_length_le front front₂ shorter
      exact ⟨more, equal.symm⟩
    rcases List.append_eq_append_iff.mp split with ⟨between, rfl, parts⟩ | ⟨between, rfl, _⟩
    · -- it ends in white space behind the other key
      have blankBetween : Blank between :=
        fun c member => blank c (parts ▸ List.mem_append_left _ member)
      rw [trimEnd_append_blank blankBetween]
      exact trimEnd_length_le other
    · have short := trimEnd_length_le before
      rw [List.length_append]
      omega

/-- Two matches with keys of one length are the same match. -/
theorem Matches.unique {line key key' value value' : List Char} (one : Matches line key value)
    (other : Matches line key' value') (sameLength : key.length = key'.length) :
    key = key' ∧ value = value' := by
  obtain ⟨gap, gap₂, blank, blank₂, whole⟩ := one
  obtain ⟨gap', gap₂', blank', blank₂', rfl⟩ := other
  rw [List.append_assoc, List.append_assoc] at whole
  obtain ⟨rfl, behind⟩ := List.append_inj whole.symm sameLength
  obtain ⟨_, quoted⟩ := cut_unique (blank.free (by decide)) (blank'.free (by decide)) behind
  obtain ⟨_, closed⟩ := blank_quote_unique blank₂ blank₂' quoted
  exact ⟨rfl, (List.append_inj' closed rfl).1⟩

theorem Matches.exists_readPair {line key value : List Char} (isMatch : Matches line key value) :
    ∃ pair, readPair? line = some pair := by
  obtain ⟨gap, gap', _, blank', whole⟩ := isMatch
  exact exists_readPair_iff.mpr ⟨key ++ gap, gap', value, blank', whole⟩

/-- What is scanned in a line is what matches first. -/
theorem scans_iff_matchesFirst {line key value : List Char} :
    Scans line key value ↔ MatchesFirst line key value := by
  refine ⟨Scans.matchesFirst, ?_⟩
  rintro ⟨isMatch, shortest⟩
  obtain ⟨⟨found, inner⟩, read⟩ := isMatch.exists_readPair
  have scans := readPair_eq_some_iff.mp read
  obtain ⟨foundMatch, foundShortest⟩ := scans.matchesFirst
  have sameLength : key.length = found.length :=
    Nat.le_antisymm (shortest found inner foundMatch) (foundShortest key value isMatch)
  obtain ⟨rfl, rfl⟩ := isMatch.unique foundMatch sameLength
  exact scans

/-! ## Documents -/

/-- The lines of a text that are not blank, each with its number, counted from `number`. -/
def filledFrom (number : Nat) (lines : List (List Char)) : List (List Char × Nat) :=
  (lines.zipIdx number).filter fun line => !line.1.all isBlank

/-- A token is what is scanned in a line, trimmed, with the escapes of the value resolved. -/
def IsTokenOf (line : List Char × Nat) (token : Token) : Prop :=
  ∃ key value, Scans (trim line.1) key value ∧
    token = ⟨line.2, String.ofList key, String.ofList (resolveEscapes value)⟩

theorem ofLine_eq_ok_iff {number : Nat} {line : List Char} {token : Token} :
    ofLine number line = .ok token ↔ IsTokenOf (line, number) token := by
  unfold ofLine
  constructor
  · intro read
    split at read
    · next key value found =>
        exact ⟨key, value, readPair_eq_some_iff.mp found, (Except.ok.inj read).symm⟩
    · simp at read
  · rintro ⟨key, value, scans, rfl⟩
    rw [readPair_eq_some_iff.mpr scans]

theorem ofLines_eq_ok_iff {number : Nat} {lines : List (List Char)} {tokens : List Token} :
    ofLines number lines = .ok tokens ↔
      List.Forall₂ IsTokenOf (filledFrom number lines) tokens := by
  induction lines generalizing number tokens with
  | nil =>
      rw [ofLines, filledFrom, List.zipIdx_nil, List.filter_nil, List.forall₂_nil_left_iff,
        Except.ok.injEq, eq_comm]
  | cons line rest ih =>
      by_cases blank : Blank line
      · have skipped : filledFrom number (line :: rest) = filledFrom (number + 1) rest := by
          rw [filledFrom, List.zipIdx_cons, List.filter_cons_of_neg]
          · rfl
          · simpa using List.all_eq_true.mpr blank
        rw [ofLines_blank blank, skipped, ih]
      · have kept : filledFrom number (line :: rest) =
            (line, number) :: filledFrom (number + 1) rest := by
          rw [filledFrom, List.zipIdx_cons, List.filter_cons_of_pos]
          · rfl
          · simpa [Blank] using blank
        rw [ofLines_filled blank, kept, List.forall₂_cons_left_iff]
        constructor
        · intro read
          obtain ⟨token, ofLine, read⟩ := Result.bind_eq_ok_iff.mp read
          obtain ⟨others, ofRest, made⟩ := Result.bind_eq_ok_iff.mp read
          exact ⟨token, others, ofLine_eq_ok_iff.mp ofLine, ih.mp ofRest,
            (Except.ok.inj made).symm⟩
        · rintro ⟨token, others, isToken, behind, rfl⟩
          rw [ofLine_eq_ok_iff.mpr isToken, ih.mpr behind]
          rfl

theorem exists_ofText_iff {contents : String} :
    (∃ tokens, ofText contents = .ok tokens) ↔ AllWellFormed contents := by
  constructor
  · rintro ⟨tokens, read⟩
    by_contra malformed
    obtain ⟨line, member, bad⟩ : ∃ line ∈ lines contents.toList, ¬ IsWellFormed line := by
      simpa [AllWellFormed] using malformed
    obtain ⟨_, _, _, _, _, _, refused⟩ := ofLines_malformed 1 ⟨line, member, bad⟩
    rw [ofText, refused] at read
    simp at read
  · intro formed
    obtain ⟨_, read⟩ := ofLines_wellFormed formed
    obtain ⟨tokens, read, _⟩ := read 1
    exact ⟨tokens, read⟩

/-- **Scanning.** A document can be read if each of its lines is blank or, trimmed, has an equals
sign that an opening quote follows and ends in another quote.  It is then read as one token for each
line that is not blank, with the key before the first such sign and the value up to the last
character; of all the ways to match such a line this is the one with the shortest key. -/
theorem ofText_scans (contents : String) :
    ((∃ tokens, ofText contents = .ok tokens) ↔
      ∀ line ∈ lines contents.toList, Blank line ∨
        ∃ key gap value, Blank gap ∧ trim line = key ++ '=' :: (gap ++ '"' :: (value ++ ['"']))) ∧
    (∀ tokens, ofText contents = .ok tokens ↔
      List.Forall₂ IsTokenOf (filledFrom 1 (lines contents.toList)) tokens) ∧
    ∀ line key value, Scans line key value ↔ MatchesFirst line key value :=
  ⟨exists_ofText_iff, fun _ => ofLines_eq_ok_iff, fun _ _ _ => scans_iff_matchesFirst⟩

/-- A key with an equals sign of its own, a value with two quoted ones, and a line that is blank. -/
example : Token.ofText "a = b =\t\"c=\"d=\\\"\"\n \n" = .ok [⟨1, "a = b", "c=\"d=\""⟩] := rfl

end MailFilters.Token
