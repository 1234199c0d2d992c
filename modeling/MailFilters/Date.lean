import MailFilters.Text.Blank
import MailFilters.Text.Digit

/-!
# Calendar dates

* **`Date.read?`** — reads a day such as `01-Jan-2024` of the Gregorian calendar.
* **`Date.render`** — writes it as `2024/01/01`.
-/

namespace MailFilters

/-- A day of the calendar. -/
structure Date where
  year : Nat
  month : Nat
  day : Nat
  deriving DecidableEq, Repr

namespace Date

/-- The English names of the months, in order. -/
def monthNames : List String :=
  ["jan", "feb", "mar", "apr", "may", "jun", "jul", "aug", "sep", "oct", "nov", "dec"]

/-- The number of a month given by its name in any mix of ASCII letter case. -/
def monthNumber? (name : List Char) : Option Nat :=
  (monthNames.idxOf? (String.ofList (name.map Char.toLower))).map (· + 1)

/-- Whether a year has a leap day. -/
def isLeap (year : Nat) : Bool := year % 4 == 0 && (year % 100 != 0 || year % 400 == 0)

/-- How many days a month has. -/
def daysIn (year month : Nat) : Nat :=
  if month = 2 then if isLeap year then 29 else 28
  else if month = 4 ∨ month = 6 ∨ month = 9 ∨ month = 11 then 30
  else 31

/-- Whether a date is in the calendar, given that its month is. -/
def isValid (date : Date) : Bool :=
  1 ≤ date.year && 1 ≤ date.day && date.day ≤ daysIn date.year date.month

/-- Reads a date without white space at its ends: one or two digits, the name of a month and four
digits, with hyphens between them. -/
def readTrimmed? (s : List Char) : Option Date := do
  let (day, some rest) := Text.cutAt '-' s | none
  let (name, some year) := Text.cutAt '-' rest | none
  guard (day.length = 1 ∨ day.length = 2)
  guard (year.length = 4)
  guard (day.all Text.isDigit && year.all Text.isDigit)
  let month ← monthNumber? name
  let date : Date := ⟨Text.decimalValue year, month, Text.decimalValue day⟩
  guard date.isValid
  return date

/-- Reads a date such as `01-Jan-2024`, with white space around it or none. -/
def read? (s : String) : Option Date := readTrimmed? (Text.trim s.toList)

/-- A date as year, month and day in digits of fixed width. -/
def render (date : Date) : String :=
  Text.paddedDecimal 4 date.year ++ "/" ++ Text.paddedDecimal 2 date.month ++ "/" ++
    Text.paddedDecimal 2 date.day

end Date

end MailFilters
