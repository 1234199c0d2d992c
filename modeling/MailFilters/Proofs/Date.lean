import MailFilters.Date
import MailFilters.Proofs.Text.Cut
import MailFilters.Proofs.Text.Order
import MailFilters.Proofs.Text.Trim
import Mathlib.Data.List.Forall2
import Mathlib.Data.Option.Basic

/-!
# Dates that are read and rendered

* **`InCalendar`** — the days of the Gregorian calendar; **`isValid_iff`** — those that the reader
  lets pass.
* **`DateText`** — the texts of a date; **`read?_eq_some_iff`** — those that are read.
* **`read?_bounds`** — a date that is read has at most four digits for its year, and two for its
  month and its day.
* **`Precedes`** — the order of days; **`render_lt_iff`** — rendered dates have the same order as
  texts.
-/

namespace MailFilters.Date

open MailFilters.Text

/-! ## The calendar -/

/-- Every fourth year has a leap day, but of the full centuries only every fourth. -/
def IsLeapYear (year : Nat) : Prop := 4 ∣ year ∧ (100 ∣ year → 400 ∣ year)

/-- How many days the months of a common year have, in order. -/
def commonMonths : List Nat := [31, 28, 31, 30, 31, 30, 31, 31, 30, 31, 30, 31]

/-- A day of the Gregorian calendar: its month has it in a common year, or it is the leap day of its
year. -/
structure InCalendar (date : Date) : Prop where
  year : 1 ≤ date.year
  day : 1 ≤ date.day
  month : ∃ index days, date.month = index + 1 ∧ commonMonths[index]? = some days ∧
    (date.day ≤ days ∨ date.month = 2 ∧ date.day = 29 ∧ IsLeapYear date.year)

theorem isLeap_iff {year : Nat} : isLeap year = true ↔ IsLeapYear year := by
  simp only [isLeap, IsLeapYear, Bool.and_eq_true, Bool.or_eq_true, beq_iff_eq, bne_iff_ne,
    ne_eq, Nat.dvd_iff_mod_eq_zero]
  omega

theorem daysIn_common (year : Nat) :
    ∀ index < 12, index ≠ 1 → commonMonths[index]? = some (daysIn year (index + 1)) := by
  intro index bound other
  have listed : ∀ index < 12, index ≠ 1 → commonMonths[index]? =
      some (if index + 1 = 4 ∨ index + 1 = 6 ∨ index + 1 = 9 ∨ index + 1 = 11 then 30 else 31) := by
    decide
  rw [daysIn, if_neg (by omega)]
  exact listed index bound other

theorem le_daysIn_iff {date : Date} {index : Nat} (month : date.month = index + 1)
    (bound : index < 12) :
    date.day ≤ daysIn date.year date.month ↔
      ∃ days, commonMonths[index]? = some days ∧
        (date.day ≤ days ∨ date.month = 2 ∧ date.day = 29 ∧ IsLeapYear date.year) := by
  rw [month]
  by_cases february : index = 1
  · subst february
    have common : commonMonths[1]? = some 28 := rfl
    rw [common, daysIn, if_pos rfl, ← isLeap_iff]
    cases isLeap date.year with
    | true =>
        simp only [if_true, Option.some.injEq, exists_eq_left', Nat.reduceAdd, true_and, and_true]
        omega
    | false => simp
  · rw [daysIn_common date.year index bound february]
    simp only [Option.some.injEq, exists_eq_left']
    omega

/-- The days that the reader lets pass are those of the calendar. -/
theorem isValid_iff {date : Date} {index : Nat} (month : date.month = index + 1)
    (bound : index < 12) : date.isValid = true ↔ InCalendar date := by
  simp only [isValid, Bool.and_eq_true, decide_eq_true_eq, le_daysIn_iff month bound]
  constructor
  · intro valid
    obtain ⟨⟨year, day⟩, days, listed, fits⟩ := valid
    exact ⟨year, day, index, days, month, listed, fits⟩
  · intro valid
    obtain ⟨year, day, index', days, month', listed, fits⟩ := valid
    obtain rfl : index = index' := by omega
    exact ⟨⟨year, day⟩, days, listed, fits⟩

/-! ## Names of months -/

/-- A spelling of the name of a month in any mix of letter case. -/
def MonthText (month : Nat) (name : List Char) : Prop :=
  ∃ index written, month = index + 1 ∧ monthNames[index]? = some written ∧
    List.Forall₂ (fun letter c => c = letter ∨ c = letter.toUpper) written.toList name

theorem toLower_cases (c : Char) : c.toLower = c ∨ c = c.toLower.toUpper := by
  by_cases capital : 0x41 ≤ c.toNat ∧ c.toNat ≤ 0x5A
  · exact .inr (@of_codePoints (fun c => c = c.toLower.toUpper) 0x41 0x5B (by decide) c
      capital.1 (by omega))
  · exact .inl (dif_neg capital)

/-- A character lowers to a small letter if it is that one or its capital. -/
theorem toLower_eq_iff {letter c : Char} (small : 0x61 ≤ letter.toNat ∧ letter.toNat ≤ 0x7A) :
    c.toLower = letter ↔ c = letter ∨ c = letter.toUpper := by
  constructor
  · rintro rfl
    rcases toLower_cases c with same | capital
    · exact .inl same.symm
    · exact .inr capital
  · intro form
    have lowers : letter.toLower = letter ∧ letter.toUpper.toLower = letter :=
      @of_codePoints (fun letter => letter.toLower = letter ∧ letter.toUpper.toLower = letter)
        0x61 0x7B (by decide) letter small.1 (by omega)
    rcases form with rfl | rfl
    · exact lowers.1
    · exact lowers.2

theorem monthNames_small {index : Nat} {written : String}
    (listed : monthNames[index]? = some written) :
    ∀ letter ∈ written.toList, 0x61 ≤ letter.toNat ∧ letter.toNat ≤ 0x7A := by
  have all : monthNames.all (fun written => written.toList.all fun letter =>
      decide (0x61 ≤ letter.toNat) && decide (letter.toNat ≤ 0x7A)) = true := by decide
  simp only [List.all_eq_true, Bool.and_eq_true, decide_eq_true_eq] at all
  exact all written (List.mem_of_getElem? listed)

theorem map_toLower_eq_iff {written name : List Char}
    (small : ∀ letter ∈ written, 0x61 ≤ letter.toNat ∧ letter.toNat ≤ 0x7A) :
    name.map Char.toLower = written ↔
      List.Forall₂ (fun letter c => c = letter ∨ c = letter.toUpper) written name := by
  induction name generalizing written with
  | nil => simp [eq_comm]
  | cons c name ih =>
      cases written with
      | nil => simp
      | cons letter written =>
          obtain ⟨first, rest⟩ := List.forall_mem_cons.mp small
          rw [List.map_cons, List.cons.injEq, List.forall₂_cons, toLower_eq_iff first, ih rest]

/-- The months are known by their names in any mix of letter case. -/
theorem monthNumber?_eq_some_iff {name : List Char} {month : Nat} :
    monthNumber? name = some month ↔ MonthText month name := by
  have unique : ∀ index < 12, ∀ written ∈ monthNames[index]?,
      monthNames.idxOf? written = some index := by decide
  unfold monthNumber?
  rw [Option.map_eq_some_iff]
  constructor
  · intro numbered
    obtain ⟨index, found, rfl⟩ := numbered
    obtain ⟨bound, same, _⟩ := List.idxOf?_eq_some_iff.mp found
    have listed : monthNames[index]? = some (String.ofList (name.map Char.toLower)) := by
      rw [List.getElem?_eq_getElem bound, same]
    refine ⟨index, _, rfl, listed, ?_⟩
    rw [String.toList_ofList]
    refine (map_toLower_eq_iff ?_).mp rfl
    have small := monthNames_small listed
    rwa [String.toList_ofList] at small
  · intro named
    obtain ⟨index, written, rfl, listed, spelled⟩ := named
    have lowers := (map_toLower_eq_iff (monthNames_small listed)).mpr spelled
    have bound : index < 12 := (List.getElem?_eq_some_iff.mp listed).1
    refine ⟨index, ?_, rfl⟩
    rw [lowers, String.ofList_toList]
    exact unique index bound written listed

/-! ## Texts of dates -/

/-- How a date is written: its day in one or two digits of any script, the name of its month and its
year in four digits, with hyphens between them. -/
inductive DateText : Date → List Char → Prop
  | mk {month : Nat} {day name year : List Char} :
      (day.length = 1 ∨ day.length = 2) → (∀ c ∈ day, isDigit c = true) →
      MonthText month name →
      year.length = 4 → (∀ c ∈ year, isDigit c = true) →
      InCalendar ⟨decimalValue year, month, decimalValue day⟩ →
      DateText ⟨decimalValue year, month, decimalValue day⟩ (day ++ '-' :: (name ++ '-' :: year))

/-- A text that is a date, white space at its ends aside. -/
def WrittenIn (date : Date) (text : List Char) : Prop :=
  ∃ before body after, Blank before ∧ Blank after ∧ text = before ++ body ++ after ∧
    DateText date body

theorem digits_free {digits : List Char} (all : ∀ c ∈ digits, isDigit c = true) :
    '-' ∉ digits := fun member => absurd (all _ member) (by decide)

theorem MonthText.free {month : Nat} {name : List Char} (named : MonthText month name) :
    '-' ∉ name := by
  obtain ⟨index, written, _, listed, spelled⟩ := named
  have small := monthNames_small listed
  intro member
  have lowered : Char.toLower '-' ∈ name.map Char.toLower := List.mem_map_of_mem member
  rw [(map_toLower_eq_iff small).mpr spelled] at lowered
  exact absurd (small _ lowered) (by decide)

theorem MonthText.exists_index {month : Nat} {name : List Char} (named : MonthText month name) :
    ∃ index, month = index + 1 ∧ index < 12 := by
  obtain ⟨index, written, month, listed, _⟩ := named
  exact ⟨index, month, (List.getElem?_eq_some_iff.mp listed).1⟩

theorem readTrimmed?_eq_some_iff {s : List Char} {date : Date} :
    readTrimmed? s = some date ↔ DateText date s := by
  constructor
  · intro read
    unfold readTrimmed? at read
    split at read
    · next day rest cutDay =>
        obtain ⟨rfl, _⟩ := cutAt_eq_some_iff.mp cutDay
        split at read
        · next name year cutName =>
            obtain ⟨rfl, _⟩ := cutAt_eq_some_iff.mp cutName
            simp only [bind, Option.bind_eq_some_iff, Option.guard_eq_some', Bool.and_eq_true,
              List.all_eq_true, Option.some.injEq, exists_const, pure,
              monthNumber?_eq_some_iff] at read
            obtain ⟨short, four, ⟨dayDigits, yearDigits⟩, month, named, valid, rfl⟩ := read
            obtain ⟨index, same, bound⟩ := named.exists_index
            exact .mk short dayDigits named four yearDigits ((isValid_iff same bound).mp valid)
        · simp at read
    · simp at read
  · intro written
    obtain ⟨short, dayDigits, named, four, yearDigits, valid⟩ := written
    obtain ⟨index, same, bound⟩ := named.exists_index
    unfold readTrimmed?
    simp only [cutAt_append (digits_free dayDigits), cutAt_append named.free, bind,
      Option.bind_eq_some_iff, Option.guard_eq_some', Bool.and_eq_true, List.all_eq_true,
      Option.some.injEq, exists_const, pure, monthNumber?_eq_some_iff]
    exact ⟨short, four, ⟨dayDigits, yearDigits⟩, _, named, (isValid_iff same bound).mpr valid, rfl⟩

theorem isDigit_solid {c : Char} (digit : isDigit c = true) : isBlank c = false := by
  have all : ∀ start ∈ zeroDigits, ∀ n < 10, inRanges blankRanges (start + n) = false := by
    decide +kernel
  rw [isDigit, digitValue?, Option.isSome_map, List.find?_isSome] at digit
  obtain ⟨start, listed, within⟩ := digit
  simp only [Bool.and_eq_true, decide_eq_true_eq] at within
  have found := all start listed (c.toNat - start) (by omega)
  rwa [Nat.add_sub_of_le within.1] at found

theorem DateText.solid {date : Date} {s : List Char} (written : DateText date s) :
    StartsSolid s ∧ EndsSolid s := by
  cases written with
  | @mk month day name year short dayDigits named four yearDigits valid =>
      constructor
      · cases day with
        | nil => simp at short
        | cons c rest => exact ⟨c, _, rfl, isDigit_solid (dayDigits c List.mem_cons_self)⟩
      · rcases List.eq_nil_or_concat year with rfl | ⟨start, c, rfl⟩
        · simp at four
        · exact ⟨c, day ++ '-' :: (name ++ '-' :: start), by simp,
            isDigit_solid (yearDigits c (by simp))⟩

/-- A date that is written has at most four digits for its year, and two for its month and its
day. -/
theorem DateText.bounds {date : Date} {s : List Char} (written : DateText date s) :
    date.year < 10 ^ 4 ∧ date.month < 10 ^ 2 ∧ date.day < 10 ^ 2 := by
  cases written with
  | @mk month day name year short dayDigits named four yearDigits valid =>
      obtain ⟨index, same, bound⟩ := named.exists_index
      have yearBound := decimalValue_lt year
      have dayBound := decimalValue_lt day
      rw [four] at yearBound
      have wide : 10 ^ day.length ≤ 10 ^ 2 := Nat.pow_le_pow_right (by decide) (by omega)
      have twelve : month < 10 ^ 2 := by omega
      exact ⟨yearBound, twelve, Nat.lt_of_lt_of_le dayBound wide⟩

/-- The texts that are read are those that are written so. -/
theorem read?_eq_some_iff {s : String} {date : Date} :
    read? s = some date ↔ date.WrittenIn s.toList := by
  rw [read?, readTrimmed?_eq_some_iff]
  constructor
  · intro written
    obtain ⟨before, after, blankBefore, blankAfter, whole⟩ := exists_trim s.toList
    exact ⟨before, _, after, blankBefore, blankAfter, whole, written⟩
  · intro written
    obtain ⟨before, body, after, blankBefore, blankAfter, whole, text⟩ := written
    rw [whole, trim_between blankBefore text.solid.1 text.solid.2 blankAfter]
    exact text

theorem read?_bounds {search : String} {date : Date} (read : read? search = some date) :
    date.year < 10 ^ 4 ∧ date.month < 10 ^ 2 ∧ date.day < 10 ^ 2 := by
  obtain ⟨_, _, _, _, _, _, text⟩ := read?_eq_some_iff.mp read
  exact text.bounds

/-! ## The order of days -/

/-- A day that comes before another one. -/
def Precedes (date later : Date) : Prop :=
  date.year < later.year ∨ date.year = later.year ∧
    (date.month < later.month ∨ date.month = later.month ∧ date.day < later.day)

theorem eq_of_not_precedes {date later : Date} (notBefore : ¬ date.Precedes later)
    (notAfter : ¬ later.Precedes date) : date = later := by
  cases date
  cases later
  simp only [Precedes] at notBefore notAfter
  rw [mk.injEq]
  omega

theorem render_toList (date : Date) :
    date.render.toList = (paddedDecimal 4 date.year).toList ++
      '/' :: ((paddedDecimal 2 date.month).toList ++ '/' :: (paddedDecimal 2 date.day).toList) := by
  simp [render]

section

variable {date later : Date}

/-- Rendered dates have the order of the days. -/
theorem render_lt_iff (fits : date.year < 10 ^ 4 ∧ date.month < 10 ^ 2 ∧ date.day < 10 ^ 2)
    (fits' : later.year < 10 ^ 4 ∧ later.month < 10 ^ 2 ∧ later.day < 10 ^ 2) :
    date.render < later.render ↔ date.Precedes later := by
  obtain ⟨year, month, day⟩ := fits
  obtain ⟨year', month', day'⟩ := fits'
  have widths : ∀ {width n m : Nat}, n < 10 ^ width → m < 10 ^ width → 0 < width →
      (paddedDecimal width n).toList.length = (paddedDecimal width m).toList.length := by
    intro width n m small small' positive
    rw [paddedDecimal_length small positive, paddedDecimal_length small' positive]
  rw [String.lt_iff, render_toList, render_toList,
    append_lt_append_iff (widths year year' (by decide)), List.cons_lt_cons_iff,
    append_lt_append_iff (widths month month' (by decide)), List.cons_lt_cons_iff,
    paddedDecimal_lt_iff year year' (by decide), paddedDecimal_lt_iff month month' (by decide),
    paddedDecimal_lt_iff day day' (by decide), paddedDecimal_inj, paddedDecimal_inj]
  simp [Precedes]

/-- Different days are rendered differently. -/
theorem render_inj (fits : date.year < 10 ^ 4 ∧ date.month < 10 ^ 2 ∧ date.day < 10 ^ 2)
    (fits' : later.year < 10 ^ 4 ∧ later.month < 10 ^ 2 ∧ later.day < 10 ^ 2) :
    date.render = later.render ↔ date = later := by
  constructor
  · intro same
    refine eq_of_not_precedes ?_ ?_
    · rw [← render_lt_iff fits fits', same]
      exact String.lt_irrefl _
    · rw [← render_lt_iff fits' fits, same]
      exact String.lt_irrefl _
  · rintro rfl
    rfl

end

end MailFilters.Date
