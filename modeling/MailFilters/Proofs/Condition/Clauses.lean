import MailFilters.Condition.Clause
import MailFilters.Proofs.Spelling

/-!
# The grammar of conditions

How conditions are written, stated without the reader, and the reader against it.

* **`ClauseText`** — the forms in which one condition is written.
* **`WrittenIn`** — the texts that consist of such clauses.
* **`readClause_eq_ok_iff`** — the reader takes exactly one clause off the start of a text.
* **`readClauses_append`** — and reads on behind it as if nothing stood before.
* **`readClauses_sound`**, **`readClauses_complete`** — and so exactly the clauses of a text.
* **`readConditions_eq_ok_iff`** — the texts that give conditions, and the conditions they give.

A name is found before its mark however the names of the table start alike, and no later text
changes where a clause ends: its closing parenthesis is the first one that counts.
-/

namespace MailFilters.Condition

open MailFilters.Text

/-! ## Grammar -/

/-- A spelling of the name of a value: its lower case is in the table. -/
def IsSpelling (names : List (String × α)) (value : α) (word : List Char) : Prop :=
  names.lookup (String.ofList (lower word)) = some value

/-- How a target is written: a field by a spelling of its name, a header in quotes. -/
inductive TargetText : Target → List Char → Prop
  | field {part : Field} {word : List Char} :
      IsSpelling Field.names part word → TargetText (.field part) word
  | header {name : String} :
      '"' ∉ name.toList → TargetText (.header name) ('"' :: (name.toList ++ ['"']))

/-- How a search text is written, up to the parenthesis that closes the clause: in quotes, or bare
if it does not start with white space or a quote. -/
inductive SearchText : String → List Char → Prop
  | quoted {search : String} {gap : List Char} :
      '"' ∉ search.toList → Blank gap →
      SearchText search ('"' :: (search.toList ++ '"' :: (gap ++ [')'])))
  | bare {search : String} :
      ')' ∉ search.toList →
      (∀ c, search.toList.head? = some c → isBlank c = false ∧ c ≠ '"') →
      SearchText search (search.toList ++ [')'])

/-- How a condition is written: the combinator, and in parentheses the target, the comparator and
the search text, with any white space around the opening parenthesis and the commas. -/
inductive ClauseText : Condition → List Char → Prop
  | mk {combinator : Combinator} {target : Target} {comparator : Comparator} {search : String}
      {first second third fourth gap₁ gap₂ gap₃ gap₄ gap₅ gap₆ : List Char} :
      IsSpelling Combinator.names combinator first → Blank gap₁ → Blank gap₂ →
      TargetText target second → Blank gap₃ → Blank gap₄ →
      IsSpelling Comparator.names comparator third → Blank gap₅ → Blank gap₆ →
      SearchText search fourth →
      ClauseText ⟨combinator, target, comparator, search⟩
        (first ++ gap₁ ++ '(' :: (gap₂ ++ (second ++ gap₃ ++ ',' :: (gap₄ ++
          (third ++ gap₅ ++ ',' :: (gap₆ ++ fourth))))))

/-- One clause for each condition, in order, with any or no white space between them. -/
inductive ClausesText : List Condition → List Char → Prop
  | last {condition : Condition} {text : List Char} :
      ClauseText condition text → ClausesText [condition] text
  | cons {condition : Condition} {conditions : List Condition} {text gap rest : List Char} :
      ClauseText condition text → Blank gap → ClausesText conditions rest →
      ClausesText (condition :: conditions) (text ++ gap ++ rest)

/-- A text that consists of the clauses of conditions, white space at its ends aside. -/
def WrittenIn (conditions : List Condition) (text : List Char) : Prop :=
  ∃ before body after, Blank before ∧ Blank after ∧ text = before ++ body ++ after ∧
    ClausesText conditions body

/-! ## Names -/

theorem combinators_areSound : Spelling.areSound (Combinator.names.map (·.1)) '(' = true := by
  decide

theorem fields_areSound : Spelling.areSound (Field.names.map (·.1)) ',' = true := by decide

theorem comparators_areSound : Spelling.areSound (Comparator.names.map (·.1)) ',' = true := by
  decide

/-- No field is spelled with a quote, so a header is never taken for a field. -/
theorem fields_quoteFree : Spelling.areSound (Field.names.map (·.1)) '"' = true := by decide

theorem mem_of_lookup {names : List (String × α)} {key : String} {value : α}
    (found : names.lookup key = some value) : key ∈ names.map (·.1) := by
  induction names with
  | nil => simp at found
  | cons entry rest ih =>
      obtain ⟨name, other⟩ := entry
      rw [List.lookup_cons] at found
      by_cases same : key = name
      · rw [same]
        exact List.mem_cons_self
      · rw [beq_false_of_ne same] at found
        exact List.mem_cons_of_mem _ (ih found)

theorem IsSpelling.spells {names : List (String × α)} {mark : Char}
    (sound : Spelling.areSound (names.map (·.1)) mark = true) {value : α} {word : List Char}
    (spelling : IsSpelling names value word) :
    ∃ name ∈ names.map (·.1), Spelling.Spells name.toList word := by
  have member := mem_of_lookup spelling
  refine ⟨_, member, Spelling.spells_of_lower (Spelling.areSound_ascii sound member) ?_⟩
  rw [String.toList_ofList]

theorem remainder_eq_ok_iff {text rest : List Char} :
    remainder text = .ok rest ↔ StartsSolid rest ∧ ∃ gap, Blank gap ∧ text = gap ++ rest := by
  constructor
  · intro left
    unfold remainder at left
    split at left
    · simp at left
    · next filled =>
        obtain ⟨ends, gap, blank, equal⟩ := trimStart_eq_iff.mp (Except.ok.inj left)
        rcases ends with rfl | solid
        · exact absurd (Except.ok.inj left) filled
        · exact ⟨solid, gap, blank, equal⟩
  · rintro ⟨solid, gap, blank, rfl⟩
    rw [remainder, trimStart_gap blank solid]
    obtain ⟨c, tail, rfl, _⟩ := solid
    rfl

theorem readName_eq_ok_iff {names : List (String × α)} {mark : Char}
    (sound : Spelling.areSound (names.map (·.1)) mark = true) (solidMark : isBlank mark = false)
    {text rest : List Char} {value : α} :
    readName names mark text = .ok (value, rest) ↔
      ∃ word gap gap', IsSpelling names value word ∧ Blank gap ∧ Blank gap' ∧ StartsSolid rest ∧
        text = word ++ gap ++ mark :: (gap' ++ rest) := by
  constructor
  · intro read
    unfold readName at read
    split at read
    · simp at read
    · next word after found =>
        obtain ⟨trimmed, left, finish⟩ := Result.bind_eq_ok_iff.mp read
        obtain ⟨_, _, gap, blank, _, rfl⟩ := Spelling.findName?_sound solidMark found
        obtain ⟨solid, gap', blank', rfl⟩ := remainder_eq_ok_iff.mp left
        split at finish
        · simp at finish
        · next spelling =>
            simp only [Except.ok.injEq, Prod.mk.injEq] at finish
            obtain ⟨rfl, rfl⟩ := finish
            exact ⟨word, gap, gap', spelling, blank, blank', solid, rfl⟩
  · rintro ⟨word, gap, gap', spelling, blank, blank', solid, rfl⟩
    obtain ⟨name, member, spells⟩ := spelling.spells sound
    have left : remainder (gap' ++ rest) = .ok rest :=
      remainder_eq_ok_iff.mpr ⟨solid, gap', blank', rfl⟩
    have listed : names.lookup (String.ofList (lower word)) = some value := spelling
    rw [readName, Spelling.findName?_complete sound solidMark member spells blank]
    simp only [left, listed]
    rfl

/-! ## Targets and search texts -/

theorem readHeader_eq_ok_iff {text rest : List Char} {target : Target} :
    readHeader text = .ok (target, rest) ↔
      ∃ name : String, ∃ gap gap', target = .header name ∧ '"' ∉ name.toList ∧ Blank gap ∧
        Blank gap' ∧ StartsSolid rest ∧
        text = name.toList ++ '"' :: (gap ++ ',' :: (gap' ++ rest)) := by
  constructor
  · intro read
    unfold readHeader at read
    split at read
    · simp at read
    · next header after cut =>
        obtain ⟨rfl, free⟩ := cutAt_eq_some_iff.mp cut
        split at read
        · simp at read
        · next found =>
            obtain ⟨gap, blank, rfl⟩ := (Spelling.afterMark?_eq_some_iff (by decide)).mp found
            obtain ⟨trimmed, left, finish⟩ := Result.bind_eq_ok_iff.mp read
            obtain ⟨solid, gap', blank', rfl⟩ := remainder_eq_ok_iff.mp left
            simp only [Result.pure_eq_ok_iff, Prod.mk.injEq] at finish
            obtain ⟨rfl, rfl⟩ := finish
            exact ⟨String.ofList header, gap, gap', rfl, by simpa using free, blank, blank', solid,
              by simp⟩
  · rintro ⟨name, gap, gap', rfl, free, blank, blank', solid, rfl⟩
    have left : remainder (gap' ++ rest) = .ok rest :=
      remainder_eq_ok_iff.mpr ⟨solid, gap', blank', rfl⟩
    have found : Spelling.afterMark? ',' (gap ++ ',' :: (gap' ++ rest)) = some (gap' ++ rest) :=
      (Spelling.afterMark?_eq_some_iff (by decide)).mpr ⟨gap, blank, rfl⟩
    rw [readHeader, cutAt_append free]
    simp only [found, left, String.ofList_toList]
    rfl

/-- A text that starts with a name of a field does not start with a quote, so it is read as one. -/
theorem readTarget_of_spells {name : String} (member : name ∈ Field.names.map (·.1))
    {word : List Char} (spells : Spelling.Spells name.toList word) (rest : List Char) :
    readTarget (word ++ rest) = (do
      let (field, left) ← readName Field.names ',' (word ++ rest)
      return (.field field, left)) := by
  obtain ⟨free, ⟨c, tail, rfl, _⟩, _⟩ := Spelling.areSound_word fields_quoteFree member spells
  rw [List.mem_cons, not_or] at free
  -- the reader takes a quote first, so the spelling must not start with one
  unfold readTarget
  split
  · next equal =>
      rw [List.cons_append, List.cons.injEq] at equal
      exact absurd equal.1.symm free.1
  · rfl

theorem readTarget_eq_ok_iff {text rest : List Char} {target : Target} :
    readTarget text = .ok (target, rest) ↔
      ∃ word gap gap', TargetText target word ∧ Blank gap ∧ Blank gap' ∧ StartsSolid rest ∧
        text = word ++ gap ++ ',' :: (gap' ++ rest) := by
  constructor
  · intro read
    unfold readTarget at read
    split at read
    · obtain ⟨name, gap, gap', rfl, free, blank, blank', solid, rfl⟩ :=
        readHeader_eq_ok_iff.mp read
      exact ⟨_, gap, gap', .header free, blank, blank', solid, by simp⟩
    · obtain ⟨⟨field, left⟩, named, finish⟩ := Result.bind_eq_ok_iff.mp read
      simp only [Result.pure_eq_ok_iff, Prod.mk.injEq] at finish
      obtain ⟨rfl, rfl⟩ := finish
      obtain ⟨word, gap, gap', spelling, blanks⟩ :=
        (readName_eq_ok_iff fields_areSound (by decide)).mp named
      exact ⟨word, gap, gap', .field spelling, blanks⟩
  · rintro ⟨word, gap, gap', written, blank, blank', solid, rfl⟩
    cases written with
    | @field part _ spelling =>
        obtain ⟨name, member, spells⟩ := spelling.spells fields_quoteFree
        rw [List.append_assoc, readTarget_of_spells member spells, ← List.append_assoc,
          (readName_eq_ok_iff fields_areSound (by decide)).mpr
            ⟨word, gap, gap', spelling, blank, blank', solid, rfl⟩]
        rfl
    | @header name free =>
        have shape : '"' :: (name.toList ++ ['"']) ++ gap ++ ',' :: (gap' ++ rest) =
            '"' :: (name.toList ++ '"' :: (gap ++ ',' :: (gap' ++ rest))) := by simp
        rw [shape, readTarget]
        exact readHeader_eq_ok_iff.mpr ⟨name, gap, gap', rfl, free, blank, blank', solid, rfl⟩

/-- A search text in quotes runs to the next quote, and a parenthesis follows. -/
theorem readSearch_quoted_eq_ok_iff {text search rest : List Char} :
    readSearch ('"' :: text) = .ok (search, rest) ↔
      ∃ gap gap', '"' ∉ search ∧ Blank gap ∧ Blank gap' ∧ (rest = [] ∨ StartsSolid rest) ∧
        text = search ++ '"' :: (gap ++ ')' :: (gap' ++ rest)) := by
  rw [readSearch]
  constructor
  · intro read
    split at read
    · simp at read
    · next quoted after cut =>
        obtain ⟨rfl, free⟩ := cutAt_eq_some_iff.mp cut
        split at read
        · simp at read
        · next following found =>
            obtain ⟨gap, blank, rfl⟩ := (Spelling.afterMark?_eq_some_iff (by decide)).mp found
            obtain ⟨rfl, trimmed⟩ := Prod.mk.inj (Except.ok.inj read)
            obtain ⟨ends, gap', blank', rfl⟩ := trimStart_eq_iff.mp trimmed
            exact ⟨gap, gap', free, blank, blank', ends, rfl⟩
  · rintro ⟨gap, gap', free, blank, blank', ends, rfl⟩
    have found : Spelling.afterMark? ')' (gap ++ ')' :: (gap' ++ rest)) = some (gap' ++ rest) :=
      (Spelling.afterMark?_eq_some_iff (by decide)).mpr ⟨gap, blank, rfl⟩
    have trimmed : trimStart (gap' ++ rest) = rest :=
      trimStart_eq_iff.mpr ⟨ends, gap', blank', rfl⟩
    rw [cutAt_append free]
    simp only [found, trimmed]

/-- A search text without quotes runs to the first parenthesis. -/
theorem readSearch_bare_eq_ok_iff {text search rest : List Char}
    (bare : text.head? ≠ some '"') :
    readSearch text = .ok (search, rest) ↔
      ∃ gap, ')' ∉ search ∧ Blank gap ∧ (rest = [] ∨ StartsSolid rest) ∧
        text = search ++ ')' :: (gap ++ rest) := by
  unfold readSearch
  split
  · exact absurd rfl bare
  · constructor
    · intro read
      split at read
      · simp at read
      · next following cut =>
          obtain ⟨rfl, free⟩ := cutAt_eq_some_iff.mp cut
          obtain ⟨rfl, trimmed⟩ := Prod.mk.inj (Except.ok.inj read)
          obtain ⟨ends, gap, blank, rfl⟩ := trimStart_eq_iff.mp trimmed
          exact ⟨gap, free, blank, ends, rfl⟩
    · rintro ⟨gap, free, blank, ends, rfl⟩
      have trimmed : trimStart (gap ++ rest) = rest :=
        trimStart_eq_iff.mpr ⟨ends, gap, blank, rfl⟩
      rw [cutAt_append free]
      simp only [trimmed]

theorem readSearch_eq_ok_iff {text search rest : List Char} (starts : StartsSolid text) :
    readSearch text = .ok (search, rest) ↔
      ∃ written gap, SearchText (String.ofList search) written ∧ Blank gap ∧
        (rest = [] ∨ StartsSolid rest) ∧ text = written ++ gap ++ rest := by
  by_cases quoted : text.head? = some '"'
  · obtain ⟨inner, rfl⟩ := List.head?_eq_some_iff.mp quoted
    rw [readSearch_quoted_eq_ok_iff]
    constructor
    · rintro ⟨gap, gap', free, blank, blank', ends, rfl⟩
      exact ⟨_, gap', .quoted (by simpa using free) blank, blank', ends, by simp⟩
    · rintro ⟨written, gap', form, blank', ends, same⟩
      cases form with
      | @quoted gap free blank =>
          exact ⟨gap, gap', by simpa using free, blank, blank', ends, by simpa using same⟩
      | bare _ head =>
          cases search with
          | nil => simp at same
          | cons c tail =>
              have quote : '"' = c := by simpa using congrArg List.head? same
              exact absurd quote.symm (head c (by simp)).2
  · rw [readSearch_bare_eq_ok_iff quoted]
    constructor
    · rintro ⟨gap, free, blank, ends, rfl⟩
      refine ⟨_, gap, .bare (by simpa using free) ?_, blank, ends, by simp⟩
      intro c head
      rw [String.toList_ofList] at head
      obtain ⟨tail, rfl⟩ := List.head?_eq_some_iff.mp head
      obtain ⟨d, others, same, solid⟩ := starts
      refine ⟨(List.cons.inj same).1 ▸ solid, ?_⟩
      rintro rfl
      exact quoted rfl
    · rintro ⟨written, gap, form, blank, ends, rfl⟩
      cases form with
      | quoted _ _ => exact absurd rfl quoted
      | bare free _ => exact ⟨gap, by simpa using free, blank, ends, by simp⟩

/-! ## Where the parts start and end -/

theorem IsSpelling.startsSolid {names : List (String × α)} {mark : Char}
    (sound : Spelling.areSound (names.map (·.1)) mark = true) {value : α} {word : List Char}
    (spelling : IsSpelling names value word) : StartsSolid word := by
  obtain ⟨_, member, spells⟩ := spelling.spells sound
  exact (Spelling.areSound_word sound member spells).2.1

theorem TargetText.startsSolid {target : Target} {word : List Char}
    (written : TargetText target word) : StartsSolid word := by
  cases written with
  | field spelling => exact spelling.startsSolid fields_areSound
  | header _ => exact ⟨'"', _, rfl, by decide⟩

theorem SearchText.startsSolid {search : String} {written : List Char}
    (form : SearchText search written) : StartsSolid written := by
  cases form with
  | quoted _ _ => exact ⟨'"', _, rfl, by decide⟩
  | bare _ head =>
      cases chars : search.toList with
      | nil => exact ⟨')', [], rfl, by decide⟩
      | cons c tail => exact ⟨c, tail ++ [')'], rfl, (head c (by rw [chars]; rfl)).1⟩

theorem SearchText.endsSolid {search : String} {written : List Char}
    (form : SearchText search written) : EndsSolid written := by
  cases form with
  | @quoted gap _ _ => exact ⟨')', '"' :: (search.toList ++ '"' :: gap), by simp, by decide⟩
  | bare _ _ => exact ⟨')', search.toList, rfl, by decide⟩

theorem ClauseText.solid {condition : Condition} {written : List Char}
    (clause : ClauseText condition written) : StartsSolid written ∧ EndsSolid written := by
  cases clause with
  | @mk _ _ _ _ word₁ word₂ word₃ word₄ gap₁ gap₂ gap₃ gap₄ gap₅ gap₆ combinatorText _ _ _ _ _ _ _ _
      searchText =>
      refine ⟨?_, ?_⟩
      · rw [List.append_assoc]
        exact (combinatorText.startsSolid combinators_areSound).append _
      · have ends := searchText.endsSolid.prepend
          (word₁ ++ gap₁ ++ '(' :: (gap₂ ++ (word₂ ++ gap₃ ++
            ',' :: (gap₄ ++ (word₃ ++ gap₅ ++ ',' :: gap₆)))))
        simpa using ends

theorem ClausesText.solid {conditions : List Condition} {body : List Char}
    (clauses : ClausesText conditions body) : StartsSolid body ∧ EndsSolid body := by
  induction clauses with
  | last clause => exact clause.solid
  | cons clause _ _ ih =>
      refine ⟨?_, ih.2.prepend _⟩
      rw [List.append_assoc]
      exact clause.solid.1.append _

/-! ## Clauses -/

theorem readClause_eq_ok_iff {text rest : List Char} {condition : Condition} :
    readClause text = .ok (condition, rest) ↔
      ∃ written gap, ClauseText condition written ∧ Blank gap ∧ (rest = [] ∨ StartsSolid rest) ∧
        text = written ++ gap ++ rest := by
  constructor
  · intro read
    obtain ⟨⟨combinator, afterCombinator⟩, first, read⟩ := Result.bind_eq_ok_iff.mp read
    obtain ⟨⟨target, afterTarget⟩, second, read⟩ := Result.bind_eq_ok_iff.mp read
    obtain ⟨⟨comparator, afterComparator⟩, third, read⟩ := Result.bind_eq_ok_iff.mp read
    obtain ⟨⟨search, afterSearch⟩, fourth, read⟩ := Result.bind_eq_ok_iff.mp read
    simp only [Result.pure_eq_ok_iff, Prod.mk.injEq] at read
    obtain ⟨rfl, rfl⟩ := read
    obtain ⟨word, gap₁, gap₂, combinatorText, blank₁, blank₂, _, rfl⟩ :=
      (readName_eq_ok_iff combinators_areSound (by decide)).mp first
    obtain ⟨word₂, gap₃, gap₄, targetText, blank₃, blank₄, _, rfl⟩ :=
      readTarget_eq_ok_iff.mp second
    obtain ⟨word₃, gap₅, gap₆, comparatorText, blank₅, blank₆, starts, rfl⟩ :=
      (readName_eq_ok_iff comparators_areSound (by decide)).mp third
    obtain ⟨word₄, gap, searchText, blank, ends, rfl⟩ := (readSearch_eq_ok_iff starts).mp fourth
    refine ⟨_, gap, .mk combinatorText blank₁ blank₂ targetText blank₃ blank₄ comparatorText blank₅
      blank₆ searchText, blank, ends, ?_⟩
    simp
  · rintro ⟨written, gap, clause, blank, ends, rfl⟩
    cases clause with
    | @mk combinator target comparator search word₁ word₂ word₃ word₄ gap₁ gap₂ gap₃ gap₄ gap₅ gap₆
        combinatorText blank₁ blank₂ targetText blank₃ blank₄ comparatorText blank₅ blank₆
        searchText =>
        have solid₂ := targetText.startsSolid
        have solid₃ := comparatorText.startsSolid comparators_areSound
        have solid₄ := searchText.startsSolid
        -- each part is read from all the text behind it, so the last one comes first
        have fourth : readSearch (word₄ ++ gap ++ rest) = .ok (search.toList, rest) := by
          refine (readSearch_eq_ok_iff (by simpa using solid₄.append (gap ++ rest))).mpr ?_
          exact ⟨word₄, gap, by simpa using searchText, blank, ends, rfl⟩
        have third := (readName_eq_ok_iff comparators_areSound (by decide)).mpr
          ⟨word₃, gap₅, gap₆, comparatorText, blank₅, blank₆,
            (solid₄.append gap).append rest, rfl⟩
        have second := readTarget_eq_ok_iff.mpr
          ⟨word₂, gap₃, gap₄, targetText, blank₃, blank₄,
            (solid₃.append gap₅).append (',' :: (gap₆ ++ (word₄ ++ gap ++ rest))), rfl⟩
        have first := (readName_eq_ok_iff combinators_areSound (by decide)).mpr
          ⟨word₁, gap₁, gap₂, combinatorText, blank₁, blank₂,
            (solid₂.append gap₃).append
              (',' :: (gap₄ ++ (word₃ ++ gap₅ ++ ',' :: (gap₆ ++ (word₄ ++ gap ++ rest))))), rfl⟩
        have shape : word₁ ++ gap₁ ++ '(' :: (gap₂ ++ (word₂ ++ gap₃ ++ ',' :: (gap₄ ++ (word₃ ++
            gap₅ ++ ',' :: (gap₆ ++ word₄))))) ++ gap ++ rest =
            word₁ ++ gap₁ ++ '(' :: (gap₂ ++ (word₂ ++ gap₃ ++ ',' :: (gap₄ ++ (word₃ ++
            gap₅ ++ ',' :: (gap₆ ++ (word₄ ++ gap ++ rest)))))) := by simp
        rw [shape, readClause, first]
        simp only [bind, Except.bind, second, third, fourth, String.ofList_toList]
        rfl

/-- The clauses of a text are read one after the other; each is shorter than what it is taken
from, and the induction is on what is left. -/
theorem readClauses_sound {text : List Char} {conditions : List Condition}
    (read : readClauses text = .ok conditions) :
    (conditions = [] ∧ text = []) ∨
      ∃ body gap, ClausesText conditions body ∧ Blank gap ∧ text = body ++ gap := by
  fun_induction readClauses text generalizing conditions with
  | case1 text empty =>
      simp only [Except.ok.injEq] at read
      exact .inl ⟨read.symm, List.isEmpty_iff.mp empty⟩
  | case2 text nonempty cause failed => simp at read
  | case3 text nonempty condition rest first shorter ih =>
      right
      obtain ⟨written, gap, clause, blank, ends, rfl⟩ := readClause_eq_ok_iff.mp first
      cases inner : readClauses rest with
      | error cause =>
          rw [inner] at read
          simp [Except.map] at read
      | ok others =>
          rw [inner] at read
          simp only [Except.map, Except.ok.injEq] at read
          subst read
          rcases ih inner with ⟨rfl, rfl⟩ | ⟨body, gap', clauses, blank', rfl⟩
          · exact ⟨written, gap, .last clause, blank, by simp⟩
          · exact ⟨written ++ gap ++ body, gap', .cons clause blank clauses, blank', by simp⟩

/-- Clauses are read the same whatever stands behind them, which is read after them. -/
theorem readClauses_append {conditions : List Condition} {body : List Char}
    (clauses : ClausesText conditions body) {gap : List Char} (blank : Blank gap)
    {rest : List Char} (ends : rest = [] ∨ StartsSolid rest) :
    readClauses (body ++ gap ++ rest) = (readClauses rest).map (conditions ++ ·) := by
  induction clauses with
  | @last condition text clause =>
      have read : readClause (text ++ gap ++ rest) = .ok (condition, rest) :=
        readClause_eq_ok_iff.mpr ⟨text, gap, clause, blank, ends, rfl⟩
      rw [readClauses_of_ok read]
      rfl
  | @cons condition conditions text between later clause blankBetween clauses ih =>
      have read : readClause (text ++ between ++ later ++ gap ++ rest) =
          .ok (condition, later ++ gap ++ rest) :=
        readClause_eq_ok_iff.mpr ⟨text, between, clause, blankBetween,
          .inr ((clauses.solid.1.append gap).append rest), by simp⟩
      rw [readClauses_of_ok read, ih]
      cases readClauses rest <;> rfl

theorem readClauses_complete {conditions : List Condition} {body : List Char}
    (clauses : ClausesText conditions body) : readClauses body = .ok conditions := by
  have read := readClauses_append clauses Blank.nil (.inl rfl)
  rw [readClauses_nil, List.append_nil, List.append_nil] at read
  rw [read, Except.map, List.append_nil]

/-- What the conditions of a text are depends on its clauses alone. -/
theorem readConditions_of_written {text : String} {conditions : List Condition}
    (written : WrittenIn conditions text.toList) : readConditions text = .ok conditions := by
  obtain ⟨before, body, after, blankBefore, blankAfter, equal, clauses⟩ := written
  obtain ⟨starts, ends⟩ := clauses.solid
  rw [readConditions, equal, trim_between blankBefore starts ends blankAfter,
    readClauses_complete clauses]
  cases clauses <;> rfl

theorem written_of_readConditions {text : String} {conditions : List Condition}
    (read : readConditions text = .ok conditions) :
    conditions ≠ [] ∧ WrittenIn conditions text.toList := by
  unfold readConditions at read
  split at read
  · simp at read
  · next conditions' nonempty inner =>
      simp only [Except.ok.injEq] at read
      subst read
      obtain ⟨before, after, blankBefore, blankAfter, equal⟩ := exists_trim text.toList
      rcases readClauses_sound inner with ⟨rfl, _⟩ | ⟨body, gap, clauses, blank, trimmed⟩
      · exact absurd rfl nonempty
      · refine ⟨nonempty, before, body, gap ++ after, blankBefore,
          blank.append blankAfter, ?_, clauses⟩
        rw [equal, trimmed]
        simp
  · simp at read
  · simp at read

/-- **Conditions of a text.** A text gives conditions exactly if it consists of one clause for each
of them, in order, and there is at least one. -/
theorem readConditions_eq_ok_iff {text : String} {conditions : List Condition} :
    readConditions text = .ok conditions ↔
      conditions ≠ [] ∧ WrittenIn conditions text.toList :=
  ⟨written_of_readConditions, fun written => readConditions_of_written written.2⟩

end MailFilters.Condition
