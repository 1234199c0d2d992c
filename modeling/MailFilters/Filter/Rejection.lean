import MailFilters.Account.Basic
import MailFilters.Obstacle
import MailFilters.Rule.Basic

/-!
# Rejections

A rejection is an obstacle together with the rule that meets it, once that is known.

* **`Rejection.attach`** — names the rule, unless one is named.
* **`Rejection.text`** — the obstacle and the rule as they are shown.
* **`Failure`** — how an activity with a rule fails.
-/

namespace MailFilters

/-- An obstacle and the rule that meets it. -/
structure Rejection where
  obstacle : Obstacle
  rule : Option Rule := none
  deriving DecidableEq, Repr

namespace Rejection

/-- Names the rule that meets the obstacle, unless one is named. -/
def attach (rejection : Rejection) (rule : Rule) : Rejection :=
  { rejection with rule := rejection.rule.or (some rule) }

/-- What follows the rule as it is shown. -/
def trailer : Obstacle → String
  | .unrecognizedAddress _ (some address) => "\nForwarding address: " ++ address
  | _ => ""

/-- A rejection as it is shown. -/
def text (rejection : Rejection) : Except RuleError String :=
  match rejection.rule with
  | none => .ok (rejection.obstacle.message ++ trailer rejection.obstacle)
  | some rule => do
    let shown ← rule.text
    return rejection.obstacle.message ++ "\n" ++ shown ++ trailer rejection.obstacle

end Rejection

/-- How an activity with rules fails: a request fails, a rule is rejected, or a document or rule
is in error. -/
inductive Failure
  | request (fault : Fault)
  | rejected (rejection : Rejection)
  | invalid (cause : RuleError)
  deriving DecidableEq, Repr

end MailFilters
