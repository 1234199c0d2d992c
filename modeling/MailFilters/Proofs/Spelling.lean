import MailFilters.Proofs.Text.Cut
import MailFilters.Proofs.Text.Lower
import MailFilters.Proofs.Text.Trim
import MailFilters.Spelling
import Mathlib.Data.List.Forall2

/-!
# Names before a mark

* **`takeName?_eq_some_iff`** — a name is found where the text starts with forms of its letters.
* **`spells_of_lower`** — every spelling whose lower case is a name consists of such forms.
* **`findName?_sound`**, **`findName?_complete`** — in a table whose names hold no mark and
  have no white space at their ends, the word before the mark is the one that is found.
-/

namespace MailFilters.Spelling

open MailFilters.Text

/-- The characters that are taken for a character of a name. -/
def forms (letter : Char) : List Char := letter :: letter.toUpper :: otherForms letter

theorem isFormOf_iff {letter c : Char} : isFormOf letter c = true ↔ c ∈ forms letter := by
  simp only [isFormOf, forms, Bool.or_eq_true, beq_iff_eq, List.contains_iff_mem, List.mem_cons,
    or_assoc]

/-- A word of forms of the letters of a name. -/
def Spells (name word : List Char) : Prop :=
  List.Forall₂ (fun letter c => c ∈ forms letter) name word

theorem takeName?_eq_some_iff {name text word rest : List Char} :
    takeName? name text = some (word, rest) ↔ text = word ++ rest ∧ Spells name word := by
  constructor
  · intro taken
    induction name generalizing text word with
    | nil =>
        simp only [takeName?, Option.some.injEq, Prod.mk.injEq] at taken
        obtain ⟨rfl, rfl⟩ := taken
        exact ⟨rfl, .nil⟩
    | cons letter name ih =>
        cases text with
        | nil => simp [takeName?] at taken
        | cons c text =>
            rw [takeName?] at taken
            split at taken
            · next form =>
                simp only [Option.map_eq_some_iff, Prod.exists, Prod.mk.injEq] at taken
                obtain ⟨word', rest', inner, rfl, rfl⟩ := taken
                obtain ⟨equal, spells⟩ := ih inner
                exact ⟨congrArg (c :: ·) equal, .cons (isFormOf_iff.mp form) spells⟩
            · simp at taken
  · rintro ⟨rfl, spells⟩
    induction spells with
    | nil => rfl
    | cons form _ ih =>
        rw [List.cons_append, takeName?, if_pos (isFormOf_iff.mpr form), ih]
        rfl

theorem afterMark?_eq_some_iff {mark : Char} (solid : isBlank mark = false)
    {text rest : List Char} :
    afterMark? mark text = some rest ↔ ∃ gap, Blank gap ∧ text = gap ++ mark :: rest := by
  constructor
  · intro found
    obtain ⟨gap, blank, equal⟩ := exists_trimStart text
    unfold afterMark? at found
    split at found
    · simp at found
    · next c after trimmed =>
        split at found
        · next same =>
            simp only [Option.some.injEq] at found
            exact ⟨gap, blank, by rw [equal, trimmed, same, found]⟩
        · simp at found
  · rintro ⟨gap, blank, rfl⟩
    rw [afterMark?, trimStart_gap blank ⟨mark, rest, rfl, solid⟩]
    simp

/-! ## Lower case -/

theorem toUpper_of_capital {c : Char} (low : 0x41 ≤ c.toNat) (high : c.toNat ≤ 0x5A) :
    c ∈ forms (Char.ofNat (c.toNat + 32)) := by
  exact @of_codePoints (fun c => c ∈ forms (Char.ofNat (c.toNat + 32))) 0x41 0x5B (by decide) c
    low (by omega)

theorem spells_of_lowerFrom {name word before : List Char}
    (ascii : ∀ letter ∈ name, letter.toNat < 0x80) (lowers : lowerFrom before word = name) :
    Spells name word := by
  induction word generalizing name before with
  | nil =>
      rw [← lowers]
      exact .nil
  | cons c rest ih =>
      rw [lowerFrom] at lowers
      subst lowers
      have tail := ih (fun letter member => ascii letter (List.mem_append_right _ member)) rfl
      have head : ∃ letter, lowerAt before c rest = [letter] ∧ c ∈ forms letter := by
        rcases lowerAt_ascii (fun letter member => ascii letter (List.mem_append_left _ member))
          with same | ⟨low, high, moved⟩ | ⟨kelvin, moved⟩
        · exact ⟨c, same, List.mem_cons_self⟩
        · exact ⟨_, moved, toUpper_of_capital low high⟩
        · exact ⟨'k', moved, by rw [kelvin]; decide⟩
      obtain ⟨letter, single, form⟩ := head
      rw [single]
      exact .cons form tail

/-- A spelling whose lower case is a name consists of forms of the letters of the name. -/
theorem spells_of_lower {name word : List Char} (ascii : ∀ letter ∈ name, letter.toNat < 0x80)
    (lowers : lower word = name) : Spells name word :=
  spells_of_lowerFrom ascii lowers

/-! ## The word before the mark -/

/-- Names in ASCII that hold no form of a mark and neither start nor end in white space. -/
def areSound (names : List String) (mark : Char) : Bool :=
  names.all fun name =>
    name.toList.all (fun letter => letter.toNat < 0x80 && !(forms letter).contains mark) &&
      (name.toList.head?.any fun first => (forms first).all fun c => !isBlank c) &&
      name.toList.getLast?.any fun last => (forms last).all fun c => !isBlank c

theorem Spells.free {name word : List Char} {mark : Char}
    (free : ∀ letter ∈ name, mark ∉ forms letter) (spells : Spells name word) : mark ∉ word := by
  induction spells with
  | nil => simp
  | cons form _ ih =>
      rw [List.mem_cons, not_or]
      refine ⟨?_, ih fun letter member => free letter (List.mem_cons_of_mem _ member)⟩
      rintro rfl
      exact free _ List.mem_cons_self form

theorem Spells.startsSolid {name word : List Char} {first : Char}
    (atStart : name.head? = some first) (solid : ∀ c ∈ forms first, isBlank c = false)
    (spells : Spells name word) : StartsSolid word := by
  obtain ⟨rest, rfl⟩ := List.head?_eq_some_iff.mp atStart
  obtain ⟨c, tail, form, _, rfl⟩ := List.forall₂_cons_left_iff.mp spells
  exact ⟨c, tail, rfl, solid c form⟩

theorem Spells.endsSolid {name word : List Char} {last : Char}
    (atEnd : name.getLast? = some last) (solid : ∀ c ∈ forms last, isBlank c = false)
    (spells : Spells name word) : EndsSolid word := by
  obtain ⟨start, rfl⟩ := List.getLast?_eq_some_iff.mp atEnd
  have reversed := List.forall₂_reverse_iff.mpr spells
  rw [List.reverse_append, List.reverse_singleton, List.singleton_append] at reversed
  obtain ⟨c, rest, form, _, equal⟩ := List.forall₂_cons_left_iff.mp reversed
  exact startsSolid_reverse.mp ⟨c, rest, equal, solid c form⟩

section

variable {names : List String} {mark : Char}

theorem areSound_word (sound : areSound names mark = true) {name : String}
    (member : name ∈ names) {word : List Char} (spells : Spells name.toList word) :
    mark ∉ word ∧ StartsSolid word ∧ EndsSolid word := by
  have facts := List.all_eq_true.mp sound name member
  simp only [Bool.and_eq_true, List.all_eq_true, decide_eq_true_eq, Option.any_eq_true,
    Bool.not_eq_true', List.contains_eq_mem, decide_eq_false_iff_not] at facts
  obtain ⟨⟨letters, first, atStart, solidStart⟩, last, atEnd, solidEnd⟩ := facts
  exact ⟨spells.free fun letter inside => (letters letter inside).2,
    spells.startsSolid atStart solidStart, spells.endsSolid atEnd solidEnd⟩

theorem areSound_ascii (sound : areSound names mark = true) {name : String}
    (member : name ∈ names) : ∀ letter ∈ name.toList, letter.toNat < 0x80 := by
  have facts := List.all_eq_true.mp sound name member
  simp only [Bool.and_eq_true, List.all_eq_true, decide_eq_true_eq] at facts
  exact fun letter inside => (facts.1.1 letter inside).1

theorem findName?_sound (solid : isBlank mark = false) {text word rest : List Char}
    (found : findName? names mark text = some (word, rest)) :
    ∃ name ∈ names, ∃ gap, Blank gap ∧ Spells name.toList word ∧
      text = word ++ gap ++ mark :: rest := by
  obtain ⟨name, member, taken⟩ := List.exists_of_findSome?_eq_some found
  simp only [Option.bind_eq_bind, Option.bind_eq_some_iff, Prod.exists, Option.pure_def,
    Option.some.injEq, Prod.mk.injEq] at taken
  obtain ⟨_, middle, atName, _, atMark, rfl, rfl⟩ := taken
  obtain ⟨rfl, spells⟩ := takeName?_eq_some_iff.mp atName
  obtain ⟨gap, blank, rfl⟩ := (afterMark?_eq_some_iff solid).mp atMark
  exact ⟨name, member, gap, blank, spells, by rw [List.append_assoc]⟩

/-- The name before the mark is found, whichever names of the table start like it. -/
theorem findName?_complete (sound : areSound names mark = true) (solid : isBlank mark = false)
    {name : String} (member : name ∈ names) {word gap : List Char}
    (spells : Spells name.toList word) (blank : Blank gap) (rest : List Char) :
    findName? names mark (word ++ gap ++ mark :: rest) = some (word, rest) := by
  cases found : findName? names mark (word ++ gap ++ mark :: rest) with
  | none =>
      exfalso
      have missed := List.findSome?_eq_none_iff.mp found name member
      rw [List.append_assoc, takeName?_eq_some_iff.mpr ⟨rfl, spells⟩] at missed
      simp [(afterMark?_eq_some_iff solid).mpr ⟨gap, blank, rfl⟩] at missed
  | some result =>
      -- another name may be found first, but no word holds a mark: both end at the same one
      obtain ⟨word', rest'⟩ := result
      obtain ⟨name', member', gap', blank', spells', equal⟩ := findName?_sound solid found
      obtain ⟨free, _, ends⟩ := areSound_word sound member spells
      obtain ⟨free', _, ends'⟩ := areSound_word sound member' spells'
      obtain ⟨fronts, rests⟩ := cut_unique (by simp [free, blank.free solid])
        (by simp [free', blank'.free solid]) equal
      have words := congrArg trimEnd fronts
      rw [trimEnd_gap blank ends, trimEnd_gap blank' ends'] at words
      rw [words, rests]

end

end MailFilters.Spelling
