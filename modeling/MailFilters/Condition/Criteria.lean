import MailFilters.Condition.Query
import MailFilters.RuleError

/-!
# Criteria

The conditions of one rule.  They share one combinator, and nothing is added once the criteria are
frozen.

* **`Criteria.add`** — criteria with one more condition.
* **`Criteria.extend`** — criteria with conditions added up to the first that does not fit.
* **`Criteria.query`** — the search that criteria stand for.
-/

namespace MailFilters

/-- The conditions of a rule. -/
structure Criteria where
  conditions : List Condition := []
  frozen : Bool := false
  deriving DecidableEq, Repr

namespace Criteria

/-- The combinator that the conditions share. -/
def combinator (criteria : Criteria) : Option Combinator :=
  criteria.conditions.head?.map (·.combinator)

/-- Criteria that do not change any more. -/
def freeze (criteria : Criteria) : Criteria := { criteria with frozen := true }

/-- Criteria with one more condition. -/
def add (criteria : Criteria) (condition : Condition) : Except RuleError Criteria :=
  if criteria.frozen then .error .frozenConditions
  else if criteria.combinator.any (· != condition.combinator) then .error .mixedCombinators
  else .ok { criteria with conditions := criteria.conditions ++ [condition] }

/-- Criteria with conditions added one after the other, up to the first that does not fit, and the
error for that one. -/
def extend (criteria : Criteria) : List Condition → Criteria × Except RuleError Unit
  | [] => (criteria, .ok ())
  | condition :: rest =>
    match criteria.add condition with
    | .ok criteria => criteria.extend rest
    | .error cause => (criteria, .error cause)

/-- The criteria of some conditions. -/
def ofList (conditions : List Condition) : Except RuleError Criteria :=
  match extend {} conditions with
  | (criteria, .ok ()) => .ok criteria
  | (_, .error cause) => .error cause

/-- What stands between a condition's fragment and the one before it: a search takes terms side by
side for a conjunction. -/
def separator : Combinator → String
  | .and => " "
  | .or => " OR "

/-- The fragments of conditions with a separator in front of each. -/
def tailQuery : List Condition → Except Obstacle String
  | [] => .ok ""
  | condition :: rest => do
    let fragment ← condition.query
    return separator condition.combinator ++ fragment ++ (← tailQuery rest)

/-- The search that criteria stand for. -/
def query (criteria : Criteria) : Except Obstacle String :=
  match criteria.conditions with
  | [] => .ok ""
  | condition :: rest => do
    let fragment ← condition.query
    return fragment ++ (← tailQuery rest)

end Criteria

end MailFilters
