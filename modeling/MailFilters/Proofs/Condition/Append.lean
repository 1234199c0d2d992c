import MailFilters.Proofs.Condition.Misspelled

/-!
# Conditions of texts put together

No text behind clauses changes what they are: it is read as it is by itself.

* **`readClauses_trim_append`** — the clauses of two texts put together, the first of which consists
  of clauses.
* **`readConditions_append`** — the conditions of two such texts are those of the one and then those
  of the other; if the second text gives none, it must be white space.
-/

namespace MailFilters.Condition

open MailFilters.Text

variable {conditions : List Condition}

/-- Behind clauses a text is read as it is by itself, whatever white space stands at the seam. -/
theorem readClauses_trim_append {s : List Char} (written : WrittenIn conditions s)
    (t : List Char) :
    readClauses (trim (s ++ t)) = (readClauses (trim t)).map (conditions ++ ·) := by
  obtain ⟨before, body, after, blankBefore, blankAfter, rfl, clauses⟩ := written
  obtain ⟨starts, ends⟩ := clauses.solid
  rcases trim_cases t with blank | ⟨startsSolid, endsSolid⟩
  · have whole : trim (before ++ body ++ after ++ t) = body := by
      rw [List.append_assoc]
      exact trim_between blankBefore starts ends (blankAfter.append blank)
    rw [whole, trim_blank blank, readClauses_nil, readClauses_complete clauses, Except.map,
      List.append_nil]
  · -- the white space at the seam is what ends the first text and what starts the second
    obtain ⟨lead, trail, blankLead, blankTrail, equal⟩ := exists_trim t
    have shape : before ++ body ++ after ++ t =
        before ++ (body ++ (after ++ lead) ++ trim t) ++ trail := by
      conv_lhs => rw [equal]
      simp
    have whole : trim (before ++ body ++ after ++ t) = body ++ (after ++ lead) ++ trim t := by
      rw [shape]
      exact trim_between blankBefore ((starts.append _).append _) (endsSolid.prepend _) blankTrail
    rw [whole]
    exact readClauses_append clauses (blankAfter.append blankLead) (.inr startsSolid)

/-- What two texts give together follows from the clauses of the second. -/
theorem readConditions_append_eq {a : String} (read : readConditions a = .ok conditions)
    (b : String) :
    readConditions (a ++ b) =
      match readClauses (trim b.toList) with
      | .ok others => .ok (conditions ++ others)
      | .error .malformed => .error (.invalidConditions (a ++ b))
      | .error (.unlisted name) => .error (.unlistedName name) := by
  obtain ⟨filled, written⟩ := written_of_readConditions read
  obtain ⟨first, rest, rfl⟩ := List.exists_cons_of_ne_nil filled
  rw [readConditions, String.toList_append, readClauses_trim_append written]
  cases readClauses (trim b.toList) with
  | ok others => rfl
  | error cause => cases cause <;> rfl

section

variable {b : String}

theorem readClauses_of_readConditions (read : readConditions b = .ok conditions) :
    readClauses (trim b.toList) = .ok conditions := by
  unfold readConditions at read
  split at read <;> simp_all

/-- A text that is not white space is refused for its clauses, not because it has none. -/
theorem readClauses_of_refused (filled : ¬ Blank b.toList) {quoted : String}
    (refused : readConditions b = .error (.invalidConditions quoted)) :
    readClauses (trim b.toList) = .error .malformed := by
  unfold readConditions at refused
  split at refused
  · next none =>
      -- clauses of which there is none are those of the empty text
      rcases readClauses_sound none with ⟨_, empty⟩ | ⟨_, _, clauses, _⟩
      · rcases trim_cases b.toList with blank | ⟨⟨c, rest, start, _⟩, _⟩
        · exact absurd blank filled
        · rw [empty] at start
          simp at start
      · cases clauses
  · simp at refused
  · next malformed => exact malformed
  · simp at refused

theorem readClauses_of_unlisted {name : String}
    (misspelled : readConditions b = .error (.unlistedName name)) :
    readClauses (trim b.toList) = .error (.unlisted name) := by
  unfold readConditions at misspelled
  split at misspelled <;> simp_all

end

/-- **Texts put together.** Behind a text that gives conditions, white space changes nothing, a text
that gives conditions adds them, and a text that is neither spoils the whole, which is then quoted
if the second text was refused with its wording. -/
theorem readConditions_append {a b : String} (read : readConditions a = .ok conditions) :
    (Blank b.toList → readConditions (a ++ b) = .ok conditions) ∧
    (∀ others, readConditions b = .ok others →
      readConditions (a ++ b) = .ok (conditions ++ others)) ∧
    (¬ Blank b.toList → (∀ others, readConditions b ≠ .ok others) →
      (∀ result, readConditions (a ++ b) ≠ .ok result) ∧
      (∀ quoted, readConditions b = .error (.invalidConditions quoted) →
        readConditions (a ++ b) = .error (.invalidConditions (a ++ b))) ∧
      ∀ name, readConditions b = .error (.unlistedName name) →
        readConditions (a ++ b) = .error (.unlistedName name)) := by
  have whole := readConditions_append_eq read b
  refine ⟨?_, ?_, ?_⟩
  · intro blank
    rw [whole, trim_blank blank, readClauses_nil]
    simp
  · intro others accepted
    rw [whole, readClauses_of_readConditions accepted]
  · intro filled refused
    have malformed : ∀ quoted, readConditions b = .error (.invalidConditions quoted) →
        readConditions (a ++ b) = .error (.invalidConditions (a ++ b)) := by
      intro quoted failed
      rw [whole, readClauses_of_refused filled failed]
    have misspelled : ∀ name, readConditions b = .error (.unlistedName name) →
        readConditions (a ++ b) = .error (.unlistedName name) := by
      intro name failed
      rw [whole, readClauses_of_unlisted failed]
    refine ⟨?_, malformed, misspelled⟩
    intro result accepted
    rcases readConditions_cases b with ⟨others, given⟩ | failed | ⟨word, _, failed⟩
    · exact refused others given
    · rw [malformed _ failed] at accepted
      simp at accepted
    · rw [misspelled _ failed] at accepted
      simp at accepted

/-- A bare search text ends at the first parenthesis, whether a clause or anything else follows. -/
theorem readConditions_append_bare :
    readConditions "OR (to,is,a )" = .ok [⟨.or, .field .to, .is, "a "⟩] ∧
      readConditions ("OR (to,is,a )" ++ "or(\"cc\",is,b)") =
        .ok [⟨.or, .field .to, .is, "a "⟩, ⟨.or, .header "cc", .is, "b"⟩] ∧
      readConditions ("OR (to,is,a )" ++ "b)") =
        .error (.invalidConditions "OR (to,is,a )b)") := by
  have read : readConditions "OR (to,is,a )" = .ok [⟨.or, .field .to, .is, "a "⟩] := by
    decide +kernel
  have more : readConditions "or(\"cc\",is,b)" = .ok [⟨.or, .header "cc", .is, "b"⟩] := by
    decide +kernel
  have failed : readConditions "b)" = .error (.invalidConditions "b)") := by decide +kernel
  have filled : ¬ Blank "b)".toList := by
    intro blank
    exact absurd (blank 'b' (by decide)) (by decide)
  have refused : ∀ others, readConditions "b)" ≠ .ok others := by simp [failed]
  exact ⟨read, (readConditions_append read).2.1 _ more,
    ((readConditions_append read).2.2 filled refused).2.1 _ failed⟩

end MailFilters.Condition
