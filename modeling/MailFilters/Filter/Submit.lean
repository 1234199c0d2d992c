import MailFilters.Filter.OfRule
import MailFilters.Text.LetterCase

/-!
# Submitting filters

A filter is created in the account.  Two failures of that concern the rule alone: the account does
not forward to the recipient, or it has an equal filter already.

* **`Fault.obstacle?`** — the obstacle that a failure stands for.
* **`RuleFilter.submit`** — creates a filter and gives its id.
-/

namespace MailFilters

/-- The reason for which a recipient is refused. -/
def refusedAddress : String := "Unrecognized forwarding address"

/-- The reason for which an equal filter is refused. -/
def refusedDuplicate : String := "Filter already exists"

/-- Whether a text holds another one in any letter case. -/
def mentions (text part : String) : Bool :=
  Text.occursIn (Text.lower part.toList) (Text.lower text.toList)

/-- The recipient of the first forward of a rule. -/
def Rule.recipient? (rule : Rule) : Option String := rule.actions.findSome? Action.recipient?

/-- The obstacle that the failure of creating the filter of a rule stands for, if it concerns the
rule alone. -/
def Fault.obstacle? (fault : Fault) (rule : Rule) : Option Obstacle :=
  if mentions fault.reason refusedAddress then
    some (.unrecognizedAddress refusedAddress rule.recipient?)
  else if mentions fault.reason refusedDuplicate then some (.filterExists refusedDuplicate)
  else none

/-- Creates a filter in the account and gives its id. -/
def RuleFilter.submit (made : RuleFilter) : Task Failure String :=
  (Task.request (·.createFilter made.filter)).conclude fun
    | .ok id => Task.done id
    | .error fault =>
      match fault.obstacle? made.rule with
      | some obstacle => Task.fail (.rejected ⟨obstacle, some made.rule⟩)
      | none => do
        Task.note .error ("Error creating filter for rule '" ++ made.rule.name ++ "': " ++
          fault.text)
        Task.fail (.request fault)

end MailFilters
