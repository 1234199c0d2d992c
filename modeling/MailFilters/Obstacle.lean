import MailFilters.Condition.Basic
import MailFilters.Text.Digit

/-!
# Obstacles

Why a single rule does not become a filter.  The other rules of a run are not affected.

* **`Obstacle`** — the causes.
* **`Obstacle.message`** — the wording of each.
-/

namespace MailFilters

/-- Why a rule does not become a filter. -/
inductive Obstacle
  | general (message : String)
  /-- The rule asks for something that filters do not have. -/
  | unsupported (message : String)
  | invalidDate (message : String)
  | secondForward
  | junkScore (score : Int)
  /-- The account has an equal filter already. -/
  | filterExists (message : String)
  /-- The account does not forward to the address. -/
  | unrecognizedAddress (message : String) (address : Option String)
  deriving DecidableEq, Repr

namespace Obstacle

/-- A rule without conditions would concern all mail. -/
def noConditions : Obstacle := .unsupported "Rules without conditions are not supported"

/-- A target that a query has no term for. -/
def target (part : Target) : Obstacle := .unsupported ("Not implemented: " ++ part.name)

/-- A comparison that a query has no term for. -/
def comparison (part : Target) (comparator : Comparator) : Obstacle :=
  .unsupported ("Not implemented: " ++ part.name ++ " " ++ comparator.name)

/-- A search text that is no date. -/
def notADate (search : String) : Obstacle :=
  .invalidDate ("'" ++ search ++ "' is not a valid date")

/-- The wording of an obstacle. -/
def message : Obstacle → String
  | general message | unsupported message | invalidDate message | filterExists message
  | unrecognizedAddress message _ => message
  | secondForward => "Only one \"forward to\" action is supported by Gmail filters"
  | junkScore score => "Unsupported junk score: " ++ Text.signedDecimal score

end Obstacle

end MailFilters
