import MailFilters.Proofs.Condition.Clauses

/-!
# Misspelled names

Three letters are taken for letters of names although no name has them in lower case: the long s
and the dotted and dotless letters i.  The reader takes a name that is spelled with one of them, does
not find it in its table, and gives up in another way than on a text that is no clause.

* **`Spelling.lower_of_spells`** — a spelling without such letters lowers to the name.
* **`IsMisspelled`** — the spellings with such a letter; **`readName_eq_unlisted_iff`** — those the
  reader gives up on.
* **`BreaksOff`** — the texts in which clauses come first and then one that breaks off at a
  misspelled name; **`readClauses_eq_unlisted_iff`** — those the reader gives up on.
* **`readConditions_cases`** — the ways in which reading the conditions of a text ends.
-/

namespace MailFilters

namespace Spelling

open MailFilters.Text

/-! ## Letters that are in no name -/

/-- The letters that are taken for letters of names and are none in lower case. -/
def strays : List Char := ['İ', 'ı', 'ſ']

/-- Names in ASCII without capitals. -/
def areLower (names : List String) : Bool :=
  names.all fun name => name.toList.all fun letter =>
    letter.toNat < 0x80 && !(0x41 ≤ letter.toNat && letter.toNat ≤ 0x5A)

/-- Whether a form of a letter is a stray or lowers to the letter. -/
def lowersTo (letter c : Char) : Bool :=
  strays.contains c || (c != 'Σ' && mapChar lowerShifts lowerExpansions c == [letter])

theorem forms_lower :
    ∀ n < 0x80, ¬ (0x41 ≤ n ∧ n ≤ 0x5A) →
      (forms (Char.ofNat n)).all (lowersTo (Char.ofNat n)) = true := by decide +kernel

/-- A form of a letter lowers to the letter, unless it is a stray. -/
theorem lowerAt_of_form {letter c : Char} {before after : List Char} (ascii : letter.toNat < 0x80)
    (noCapital : ¬ (0x41 ≤ letter.toNat ∧ letter.toNat ≤ 0x5A)) (form : c ∈ forms letter)
    (proper : c ∉ strays) : lowerAt before c after = [letter] := by
  have facts := forms_lower letter.toNat ascii noCapital
  rw [Char.ofNat_toNat] at facts
  have lowers := List.all_eq_true.mp facts c form
  simp only [lowersTo, Bool.or_eq_true, Bool.and_eq_true, List.contains_iff_mem, proper, false_or,
    bne_iff_ne, beq_iff_eq] at lowers
  rw [lowerAt, if_neg lowers.1, lowers.2]

theorem lowerFrom_of_spells {name word before : List Char}
    (plain : ∀ letter ∈ name, letter.toNat < 0x80 ∧ ¬ (0x41 ≤ letter.toNat ∧ letter.toNat ≤ 0x5A))
    (spells : Spells name word) (proper : ∀ c ∈ word, c ∉ strays) :
    lowerFrom before word = name := by
  induction spells generalizing before with
  | nil => rfl
  | @cons letter c name word form _ ih =>
      obtain ⟨ascii, noCapital⟩ := plain letter List.mem_cons_self
      rw [lowerFrom, lowerAt_of_form ascii noCapital form (proper c List.mem_cons_self),
        ih (fun other member => plain other (List.mem_cons_of_mem _ member))
          fun other member => proper other (List.mem_cons_of_mem _ member)]
      rfl

/-- A spelling of a name without strays has the name for its lower case. -/
theorem lower_of_spells {names : List String} (lowerCase : areLower names = true) {name : String}
    (member : name ∈ names) {word : List Char} (spells : Spells name.toList word)
    (proper : ∀ c ∈ word, c ∉ strays) : lower word = name.toList := by
  refine lowerFrom_of_spells ?_ spells proper
  have facts := List.all_eq_true.mp lowerCase name member
  simpa [Nat.not_le, imp_iff_not_or] using facts

theorem lowerAt_stray {c : Char} (stray : c ∈ strays) (before after : List Char) :
    ∃ l ∈ lowerAt before c after, 0x80 ≤ l.toNat := by
  simp only [strays, List.mem_cons, List.not_mem_nil, or_false] at stray
  rcases stray with rfl | rfl | rfl
  · have moved : lowerAt before 'İ' after = ['i', '\u0307'] := rfl
    exact ⟨'\u0307', by simp [moved], by decide⟩
  · have fixed : lowerAt before 'ı' after = ['ı'] := rfl
    exact ⟨'ı', by simp [fixed], by decide⟩
  · have fixed : lowerAt before 'ſ' after = ['ſ'] := rfl
    exact ⟨'ſ', by simp [fixed], by decide⟩

/-- The lower case of a word with a stray is not in ASCII. -/
theorem lowerFrom_stray (before : List Char) {word : List Char} {c : Char} (inside : c ∈ word)
    (stray : c ∈ strays) : ∃ l ∈ lowerFrom before word, 0x80 ≤ l.toNat := by
  induction word generalizing before with
  | nil => simp at inside
  | cons first rest ih =>
      rw [lowerFrom]
      rcases List.mem_cons.mp inside with same | later
      · obtain ⟨l, member, high⟩ := lowerAt_stray stray before rest
        exact ⟨l, List.mem_append_left _ (same ▸ member), high⟩
      · obtain ⟨l, member, high⟩ := ih (first :: before) later
        exact ⟨l, List.mem_append_right _ member, high⟩

end Spelling

namespace Condition

open MailFilters.Text

/-- A spelling of a name of a table with a letter that is in no name. -/
structure IsMisspelled (names : List (String × α)) (word : List Char) : Prop where
  spells : ∃ name ∈ names.map (·.1), Spelling.Spells name.toList word
  stray : ∃ c ∈ word, c ∈ Spelling.strays

/-- What a word is looked up as. -/
def lookedUp (word : List Char) : String := String.ofList (lower word)

/-! ## Names -/

theorem combinators_areLower : Spelling.areLower (Combinator.names.map (·.1)) = true := by decide

theorem fields_areLower : Spelling.areLower (Field.names.map (·.1)) = true := by decide

theorem comparators_areLower : Spelling.areLower (Comparator.names.map (·.1)) = true := by decide

theorem remainder_known {text : List Char} {key : String} :
    remainder text ≠ .error (.unlisted key) := by
  unfold remainder
  split <;> simp

section

variable {names : List (String × α)} {mark : Char}

theorem IsMisspelled.startsSolid (sound : Spelling.areSound (names.map (·.1)) mark = true)
    {word : List Char} (misspelled : IsMisspelled names word) : StartsSolid word := by
  obtain ⟨name, member, spells⟩ := misspelled.spells
  exact (Spelling.areSound_word sound member spells).2.1

/-- The spellings of names that are not in the table in lower case are the misspelled ones. -/
theorem lookup_eq_none_iff (sound : Spelling.areSound (names.map (·.1)) mark = true)
    (lowerCase : Spelling.areLower (names.map (·.1)) = true) {name : String}
    (member : name ∈ names.map (·.1)) {word : List Char}
    (spells : Spelling.Spells name.toList word) :
    names.lookup (lookedUp word) = none ↔ IsMisspelled names word := by
  constructor
  · intro missing
    refine ⟨⟨name, member, spells⟩, ?_⟩
    by_contra proper
    have lowers := Spelling.lower_of_spells lowerCase member spells (by simpa using proper)
    obtain ⟨entry, inside, rfl⟩ := List.mem_map.mp member
    have differs := List.lookup_eq_none_iff.mp missing entry inside
    rw [lookedUp, lowers, String.ofList_toList] at differs
    simp at differs
  · intro misspelled
    obtain ⟨c, inside, stray⟩ := misspelled.stray
    obtain ⟨l, lowered, high⟩ := Spelling.lowerFrom_stray [] inside stray
    cases found : names.lookup (lookedUp word) with
    | none => rfl
    | some value =>
        have ascii := Spelling.areSound_ascii sound (mem_of_lookup found) l
          (by rw [lookedUp, String.toList_ofList]; exact lowered)
        omega

/-- The reader takes a misspelled name with its mark and then does not know it. -/
theorem readName_eq_unlisted_iff (sound : Spelling.areSound (names.map (·.1)) mark = true)
    (lowerCase : Spelling.areLower (names.map (·.1)) = true) (solidMark : isBlank mark = false)
    {text : List Char} {key : String} :
    readName names mark text = .error (.unlisted key) ↔
      ∃ word gap gap' rest, IsMisspelled names word ∧ Blank gap ∧ Blank gap' ∧
        StartsSolid rest ∧ text = word ++ gap ++ mark :: (gap' ++ rest) ∧ key = lookedUp word := by
  constructor
  · intro failed
    unfold readName at failed
    split at failed
    · simp at failed
    · next word after found =>
        obtain ⟨name, member, gap, blank, spells, rfl⟩ := Spelling.findName?_sound solidMark found
        rcases Result.bind_eq_error_iff.mp failed with unfinished | ⟨rest, left, unknown⟩
        · exact absurd unfinished remainder_known
        · obtain ⟨solid, gap', blank', rfl⟩ := remainder_eq_ok_iff.mp left
          split at unknown
          · next missing =>
              simp only [Except.error.injEq, ClauseError.unlisted.injEq] at unknown
              have misspelled := (lookup_eq_none_iff sound lowerCase member spells).mp missing
              exact ⟨word, gap, gap', rest, misspelled, blank, blank', solid, rfl, unknown.symm⟩
          · simp at unknown
  · intro written
    obtain ⟨word, gap, gap', rest, misspelled, blank, blank', solid, rfl, rfl⟩ := written
    obtain ⟨name, member, spells⟩ := misspelled.spells
    have left : remainder (gap' ++ rest) = .ok rest :=
      remainder_eq_ok_iff.mpr ⟨solid, gap', blank', rfl⟩
    have missing := (lookup_eq_none_iff sound lowerCase member spells).mpr misspelled
    rw [lookedUp] at missing
    rw [readName, Spelling.findName?_complete sound solidMark member spells blank]
    simp only [left, missing]
    rfl

end

/-! ## Clauses -/

/-- A text that starts like a clause, up to a misspelled name with its mark. -/
inductive ClauseBreak (word : List Char) : List Char → Prop
  | combinator {gap₁ gap₂ rest : List Char} :
      IsMisspelled Combinator.names word → Blank gap₁ → Blank gap₂ → StartsSolid rest →
      ClauseBreak word (word ++ gap₁ ++ '(' :: (gap₂ ++ rest))
  | field {combinator : Combinator} {first gap₁ gap₂ gap₃ gap₄ rest : List Char} :
      IsSpelling Combinator.names combinator first → Blank gap₁ → Blank gap₂ →
      IsMisspelled Field.names word → Blank gap₃ → Blank gap₄ → StartsSolid rest →
      ClauseBreak word (first ++ gap₁ ++ '(' :: (gap₂ ++ (word ++ gap₃ ++ ',' :: (gap₄ ++ rest))))
  | comparator {combinator : Combinator} {target : Target}
      {first second gap₁ gap₂ gap₃ gap₄ gap₅ gap₆ rest : List Char} :
      IsSpelling Combinator.names combinator first → Blank gap₁ → Blank gap₂ →
      TargetText target second → Blank gap₃ → Blank gap₄ →
      IsMisspelled Comparator.names word → Blank gap₅ → Blank gap₆ → StartsSolid rest →
      ClauseBreak word (first ++ gap₁ ++ '(' :: (gap₂ ++ (second ++ gap₃ ++ ',' :: (gap₄ ++
        (word ++ gap₅ ++ ',' :: (gap₆ ++ rest))))))

/-- A text of clauses and then one that breaks off at a misspelled name. -/
inductive BreaksOff (word : List Char) : List Char → Prop
  | here {text : List Char} : ClauseBreak word text → BreaksOff word text
  | later {condition : Condition} {clause gap rest : List Char} :
      ClauseText condition clause → Blank gap → BreaksOff word rest →
      BreaksOff word (clause ++ gap ++ rest)

variable {word text : List Char} {key : String}

theorem ClauseBreak.startsSolid (breaks : ClauseBreak word text) : StartsSolid text := by
  cases breaks with
  | combinator misspelled _ _ _ =>
      rw [List.append_assoc]
      exact (misspelled.startsSolid combinators_areSound).append _
  | field spelling _ _ _ _ _ _ =>
      rw [List.append_assoc]
      exact (spelling.startsSolid combinators_areSound).append _
  | comparator spelling _ _ _ _ _ _ _ _ _ =>
      rw [List.append_assoc]
      exact (spelling.startsSolid combinators_areSound).append _

theorem BreaksOff.startsSolid (breaks : BreaksOff word text) : StartsSolid text := by
  cases breaks with
  | here breaks => exact breaks.startsSolid
  | later clause _ _ =>
      rw [List.append_assoc]
      exact clause.solid.1.append _

theorem readTarget_eq_unlisted_iff :
    readTarget text = .error (.unlisted key) ↔
      ∃ word gap gap' rest, IsMisspelled Field.names word ∧ Blank gap ∧ Blank gap' ∧
        StartsSolid rest ∧ text = word ++ gap ++ ',' :: (gap' ++ rest) ∧ key = lookedUp word := by
  have named := @readName_eq_unlisted_iff _ Field.names ',' fields_areSound fields_areLower
    (by decide)
  constructor
  · intro failed
    unfold readTarget at failed
    split at failed
    · -- a header is not looked up
      unfold readHeader at failed
      split at failed
      · simp at failed
      · split at failed
        · simp at failed
        · rcases Result.bind_eq_error_iff.mp failed with unfinished | ⟨_, _, finished⟩
          · exact absurd unfinished remainder_known
          · simp [pure, Except.pure] at finished
    · rcases Result.bind_eq_error_iff.mp failed with unknown | ⟨_, _, finished⟩
      · exact named.mp unknown
      · simp [pure, Except.pure] at finished
  · intro written
    have failed := named.mpr written
    obtain ⟨word, gap, gap', rest, misspelled, _, _, _, rfl, _⟩ := written
    obtain ⟨name, member, spells⟩ := misspelled.spells
    rw [List.append_assoc] at failed ⊢
    rw [readTarget_of_spells member spells, failed]
    rfl

theorem readSearch_known : readSearch text ≠ .error (.unlisted key) := by
  unfold readSearch
  split <;> split <;> (try split) <;> simp

/-- The reader gives up on a clause exactly if it breaks off at a misspelled name. -/
theorem readClause_eq_unlisted_iff :
    readClause text = .error (.unlisted key) ↔
      ∃ word, ClauseBreak word text ∧ key = lookedUp word := by
  have combinators := @readName_eq_unlisted_iff _ Combinator.names '(' combinators_areSound
    combinators_areLower (by decide)
  have comparators := @readName_eq_unlisted_iff _ Comparator.names ',' comparators_areSound
    comparators_areLower (by decide)
  have readCombinator := @readName_eq_ok_iff _ Combinator.names '(' combinators_areSound (by decide)
  constructor
  · -- reading fails at the combinator, at the field or at the comparator
    intro failed
    rcases Result.bind_eq_error_iff.mp failed with unknown | ⟨⟨combinator, text₂⟩, first, failed₂⟩
    · obtain ⟨word, gap₁, gap₂, rest, misspelled, blank₁, blank₂, solid, rfl, rfl⟩ :=
        combinators.mp unknown
      exact ⟨word, .combinator misspelled blank₁ blank₂ solid, rfl⟩
    obtain ⟨word₁, gap₁, gap₂, spelling, blank₁, blank₂, _, rfl⟩ := readCombinator.mp first
    rcases Result.bind_eq_error_iff.mp failed₂ with unknown | ⟨⟨target, text₃⟩, second, failed₃⟩
    · obtain ⟨word, gap₃, gap₄, rest, misspelled, blank₃, blank₄, solid, rfl, rfl⟩ :=
        readTarget_eq_unlisted_iff.mp unknown
      exact ⟨word, .field spelling blank₁ blank₂ misspelled blank₃ blank₄ solid, rfl⟩
    obtain ⟨word₂, gap₃, gap₄, targetText, blank₃, blank₄, _, rfl⟩ :=
      readTarget_eq_ok_iff.mp second
    rcases Result.bind_eq_error_iff.mp failed₃ with unknown | ⟨_, _, failed₄⟩
    · obtain ⟨word, gap₅, gap₆, rest, misspelled, blank₅, blank₆, solid, rfl, rfl⟩ :=
        comparators.mp unknown
      exact ⟨word, .comparator spelling blank₁ blank₂ targetText blank₃ blank₄ misspelled blank₅
        blank₆ solid, rfl⟩
    rcases Result.bind_eq_error_iff.mp failed₄ with unknown | ⟨_, _, finished⟩
    · exact absurd unknown readSearch_known
    · simp [pure, Except.pure] at finished
  · intro written
    obtain ⟨word, breaks, rfl⟩ := written
    refine Result.bind_eq_error_iff.mpr ?_
    cases breaks with
    | combinator misspelled blank₁ blank₂ solid =>
        exact .inl (combinators.mpr ⟨word, _, _, _, misspelled, blank₁, blank₂, solid, rfl, rfl⟩)
    | field spelling blank₁ blank₂ misspelled blank₃ blank₄ solid =>
        have starts := misspelled.startsSolid fields_areSound
        refine .inr ⟨(_, _), readCombinator.mpr ⟨_, _, _, spelling, blank₁, blank₂, ?_, rfl⟩, ?_⟩
        · rw [List.append_assoc]
          exact starts.append _
        refine Result.bind_eq_error_iff.mpr (.inl (readTarget_eq_unlisted_iff.mpr ?_))
        exact ⟨word, _, _, _, misspelled, blank₃, blank₄, solid, rfl, rfl⟩
    | comparator spelling blank₁ blank₂ targetText blank₃ blank₄ misspelled blank₅ blank₆ solid =>
        have starts := misspelled.startsSolid comparators_areSound
        refine .inr ⟨(_, _), readCombinator.mpr ⟨_, _, _, spelling, blank₁, blank₂, ?_, rfl⟩, ?_⟩
        · rw [List.append_assoc]
          exact targetText.startsSolid.append _
        refine Result.bind_eq_error_iff.mpr (.inr ⟨(_, _), readTarget_eq_ok_iff.mpr
          ⟨_, _, _, targetText, blank₃, blank₄, ?_, rfl⟩, ?_⟩)
        · rw [List.append_assoc]
          exact starts.append _
        refine Result.bind_eq_error_iff.mpr (.inl (comparators.mpr ?_))
        exact ⟨word, _, _, _, misspelled, blank₅, blank₆, solid, rfl, rfl⟩

/-- The reader gives up on a text exactly if the text breaks off at a misspelled name. -/
theorem readClauses_eq_unlisted_iff :
    readClauses text = .error (.unlisted key) ↔
      ∃ word, BreaksOff word text ∧ key = lookedUp word := by
  constructor
  · intro failed
    fun_induction readClauses text with
    | case1 text empty => simp at failed
    | case2 text nonempty cause first =>
        rw [Except.error.injEq] at failed
        obtain ⟨word, breaks, found⟩ := readClause_eq_unlisted_iff.mp (failed ▸ first)
        exact ⟨word, .here breaks, found⟩
    | case3 text nonempty condition rest first shorter ih =>
        cases inner : readClauses rest with
        | ok others => simp [inner, Except.map] at failed
        | error cause =>
            rw [inner, Except.map, Except.error.injEq] at failed
            obtain ⟨word, breaks, found⟩ := ih (failed ▸ inner)
            obtain ⟨written, gap, clause, blank, _, rfl⟩ := readClause_eq_ok_iff.mp first
            exact ⟨word, .later clause blank breaks, found⟩
  · intro written
    obtain ⟨word, breaks, rfl⟩ := written
    induction breaks with
    | here breaks =>
        obtain ⟨c, rest, nonempty, _⟩ := breaks.startsSolid
        exact readClauses_of_error (by simp [nonempty])
          (readClause_eq_unlisted_iff.mpr ⟨word, breaks, rfl⟩)
    | @later condition clause gap rest written blank breaks ih =>
        have first : readClause (clause ++ gap ++ rest) = .ok (condition, rest) :=
          readClause_eq_ok_iff.mpr ⟨clause, gap, written, blank, .inr breaks.startsSolid, rfl⟩
        rw [readClauses_of_ok first, ih]
        rfl

/-! ## Conditions of a text -/

/-- A text whose clauses break off at a misspelled name. -/
def Misspells (text : String) (word : List Char) : Prop := BreaksOff word (trim text.toList)

theorem readConditions_eq_unlisted_iff {text name : String} :
    readConditions text = .error (.unlistedName name) ↔
      ∃ word, Misspells text word ∧ name = lookedUp word := by
  unfold Misspells
  rw [← readClauses_eq_unlisted_iff, readConditions]
  split <;> simp_all

/-- A text gives conditions, or is refused with its whole wording, or breaks off at a misspelled
name. -/
theorem readConditions_cases (text : String) :
    (∃ conditions, readConditions text = .ok conditions) ∨
      readConditions text = .error (.invalidConditions text) ∨
      ∃ word, Misspells text word ∧ readConditions text = .error (.unlistedName (lookedUp word)) := by
  cases read : readConditions text with
  | ok conditions => exact .inl ⟨conditions, rfl⟩
  | error cause =>
      have ends : cause = .invalidConditions text ∨ ∃ name, cause = .unlistedName name := by
        unfold readConditions at read
        split at read <;> simp_all [eq_comm]
      rcases ends with rfl | ⟨name, rfl⟩
      · exact .inr (.inl rfl)
      · obtain ⟨word, misspells, rfl⟩ := readConditions_eq_unlisted_iff.mp read
        exact .inr (.inr ⟨word, misspells, rfl⟩)

end Condition

end MailFilters
