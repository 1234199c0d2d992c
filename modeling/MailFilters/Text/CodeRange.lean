/-!
# Tables of code points

Properties and mappings of characters come as short tables, sorted by code point.

* **`inRanges`** — membership in a table of inclusive ranges.
* **`shiftBy?`** — the distance that a table of evenly spaced runs moves a code point by.
* **`of_codePoints`** — a property of characters from a check of their code points.

A table is left at the first entry that lies beyond the code point looked for.
-/

namespace MailFilters.Text

/-- Whether a code point lies in one of the inclusive ranges of a sorted table. -/
def inRanges : List (Nat × Nat) → Nat → Bool
  | [], _ => false
  | (first, last) :: rest, n => first ≤ n && (n ≤ last || inRanges rest n)

/-- The code points `first`, `first + step`, … up to `last`, all moved by one distance. -/
structure Shift where
  first : Nat
  last : Nat
  step : Nat
  distance : Int

/-- Whether a run holds a code point. -/
def Shift.covers (run : Shift) (n : Nat) : Bool :=
  run.first ≤ n && n ≤ run.last && (n - run.first) % run.step == 0

/-- The distance that a sorted table moves a code point by, if it moves it at all. -/
def shiftBy? : List Shift → Nat → Option Int
  | [], _ => none
  | run :: rest, n =>
    if n < run.first then none
    else if run.covers n then some run.distance
    else shiftBy? rest n

/-- The sequence that a table of expansions gives for a code point. -/
def expansion? (table : List (Nat × List Nat)) (n : Nat) : Option (List Nat) :=
  (table.find? fun entry => entry.1 == n).map (·.2)

/-- A character mapped by a table of runs and a table of expansions; a code point that neither
names stays as it is. -/
def mapChar (shifts : List Shift) (expansions : List (Nat × List Nat)) (c : Char) : List Char :=
  match shiftBy? shifts c.toNat, expansion? expansions c.toNat with
  | some distance, _ => [Char.ofNat (c.toNat + distance).toNat]
  | none, some sequence => sequence.map Char.ofNat
  | none, none => [c]

/-- What holds of each code point of a range holds of each character whose code point it is. -/
theorem of_codePoints {p : Char → Prop} {first limit : Nat}
    (all : ∀ n < limit, first ≤ n → p (Char.ofNat n)) {c : Char} (low : first ≤ c.toNat)
    (high : c.toNat < limit) : p c := by
  have found := all c.toNat high low
  rwa [Char.ofNat_toNat] at found

end MailFilters.Text
