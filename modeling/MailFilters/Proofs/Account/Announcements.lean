import MailFilters.Log
import Mathlib.Data.List.Basic

/-!
# What a log announces

A dry run says in its log which labels and which filters it would make.

* **`Log.announced`**, **`Log.reports`** — what a log says of labels and of filters.
* **`Unmarked`** — a line that says nothing of either.
* **`Log.Announces`** — a log got lines that announce labels of some names and report no filter.
-/

namespace MailFilters

/-! ## Lines -/

/-- What an announcement of a label starts with. -/
def labelMark : String := "Would create label '"

/-- What the report of a filter starts with. -/
def filterMark : String := "Would create filter for rule '"

/-- The name of the label that a line announces. -/
def announced? (text : String) : Option String :=
  (labelMark.toList.isPrefixOf? text.toList).map fun rest => String.ofList rest.dropLast

/-- Whether a line is the report of a filter. -/
def isReport (text : String) : Bool := filterMark.toList.isPrefixOf text.toList

/-- The names of the labels that a log announces. -/
def Log.announced (log : Log) : List String := log.filterMap fun line => announced? line.text

/-- The lines of a log that report filters. -/
def Log.reports (log : Log) : List String := (log.map (·.text)).filter isReport

/-- A line that neither announces a label nor reports a filter, as its first letter shows. -/
def Unmarked (text : String) : Prop := text.toList.head? ≠ some 'W'

theorem announced_announcement (name : String) :
    announced? ("Would create label '" ++ name ++ "'") = some name := by
  have rest : labelMark.toList.isPrefixOf? ("Would create label '" ++ name ++ "'").toList =
      some (name.toList ++ ['\'']) := by
    rw [List.isPrefixOf?_eq_some_iff_append_eq]
    simp [labelMark]
  rw [announced?, rest]
  simp

theorem not_report_announcement (name : String) :
    isReport ("Would create label '" ++ name ++ "'") = false := by
  simp [isReport, filterMark, List.isPrefixOf]

theorem Unmarked.announced {text : String} (unmarked : Unmarked text) : announced? text = none := by
  rw [announced?, Option.map_eq_none_iff]
  cases found : labelMark.toList.isPrefixOf? text.toList with
  | none => rfl
  | some rest =>
      rw [List.isPrefixOf?_eq_some_iff_append_eq] at found
      simp [Unmarked, ← found, labelMark] at unmarked

theorem Unmarked.not_report {text : String} (unmarked : Unmarked text) : isReport text = false := by
  rw [isReport, Bool.eq_false_iff]
  intro marked
  obtain ⟨rest, found⟩ := List.isPrefixOf_iff_prefix.mp marked
  simp [Unmarked, ← found, filterMark] at unmarked

/-! ## More lines -/

/-- A log got lines that announce labels of some names and report no filter. -/
structure Log.Announces (before after : Log) (names : List String) : Prop where
  announced : after.announced = before.announced ++ names
  reports : after.reports = before.reports

namespace Log.Announces

variable {first second third : Log} {xs ys : List String}

theorem refl (log : Log) : log.Announces log [] := ⟨(List.append_nil _).symm, rfl⟩

theorem trans (front : first.Announces second xs) (back : second.Announces third ys) :
    first.Announces third (xs ++ ys) where
  announced := by rw [back.announced, front.announced, List.append_assoc]
  reports := back.reports.trans front.reports

/-- A line without a mark is no announcement. -/
theorem unmarked {text : String} (unmarked : Unmarked text) (level : LogLevel) (log : Log) :
    log.Announces (log ++ [⟨level, text⟩]) [] where
  announced := by simp [Log.announced, unmarked.announced]
  reports := by simp [Log.reports, unmarked.not_report]

theorem announcement (name : String) (level : LogLevel) (log : Log) :
    log.Announces (log ++ [⟨level, "Would create label '" ++ name ++ "'"⟩]) [name] where
  announced := by simp [Log.announced, announced_announcement]
  reports := by simp [Log.reports, not_report_announcement]

end Log.Announces

end MailFilters
