import MailFilters.Action.Basic
import MailFilters.Condition.Criteria
import MailFilters.Text.Quoted
import MailFilters.TypeFlags

/-!
# Rules

A rule says what happens to the messages that its conditions describe.  A frozen rule does not
change any more, and neither do its conditions.

* **`Rule`** — name, switch, type, criteria and actions.
* **`Edited`** — what a change leaves behind and whether it was refused; a refused change may have
  been made in part.
* **`Rule.text`** — a rule as it is shown, unless its type has no names.
-/

namespace MailFilters

/-- What a change leaves behind, and why it was refused if it was. -/
abbrev Edited (α : Type) := α × Except RuleError Unit

/-- What a change leaves behind, unless it was refused. -/
def Edited.result {α : Type} : Edited α → Except RuleError α
  | (value, .ok ()) => .ok value
  | (_, .error cause) => .error cause

/-- A rule of the mail client. -/
structure Rule where
  name : String
  enabled : Bool := false
  type : Int := 0
  criteria : Criteria := {}
  actions : List Action := []
  frozen : Bool := false
  deriving DecidableEq, Repr

namespace Rule

/-- The names of the flags in the type of a rule. -/
def flagNames (rule : Rule) : Except RuleError (List String) :=
  FlagTable.cover typeFlags rule.type

/-! ## Changes -/

/-- Makes a change, unless the rule is frozen. -/
def change (rule : Rule) (edit : Rule → Rule) : Edited Rule :=
  if rule.frozen then (rule, .error (.frozenRule rule.name)) else (edit rule, .ok ())

/-- The rule under another name. -/
def withName (rule : Rule) (name : String) : Edited Rule :=
  rule.change fun rule => { rule with name := name }

/-- The rule switched on or off. -/
def withEnabled (rule : Rule) (enabled : Bool) : Edited Rule :=
  rule.change fun rule => { rule with enabled := enabled }

/-- The rule with another type. -/
def withType (rule : Rule) (type : Int) : Edited Rule :=
  rule.change fun rule => { rule with type := type }

/-- The rule with an action behind the others. -/
def withAction (rule : Rule) (action : Action) : Edited Rule :=
  rule.change fun rule => { rule with actions := rule.actions ++ [action] }

/-- The rule with conditions added to its criteria, up to the first that does not fit; only the
criteria are asked whether they may change. -/
def withCriteria (rule : Rule) (conditions : List Condition) : Edited Rule :=
  let (criteria, outcome) := rule.criteria.extend conditions
  ({ rule with criteria := criteria }, outcome)

/-- The rule, unless it is frozen, with conditions added, up to the first that does not fit. -/
def withConditions (rule : Rule) (conditions : List Condition) : Edited Rule :=
  if rule.frozen then (rule, .error (.frozenRule rule.name)) else rule.withCriteria conditions

/-- A rule that does not change any more. -/
def freeze (rule : Rule) : Rule :=
  { rule with criteria := rule.criteria.freeze, frozen := true }

/-! ## Text -/

/-- A heading with lines below it, or with a note that there are none. -/
def listing (heading : String) : List String → List String
  | [] => [" - " ++ heading ++ ": (none)"]
  | lines => (" - " ++ heading ++ ":") :: lines.map ("  - " ++ ·)

/-- The lines of a rule as it is shown. -/
def shownLines (rule : Rule) : Except RuleError (List String) := do
  let flagNames ← rule.flagNames
  return [rule.name,
      " - Enabled: " ++ (if rule.enabled then "true" else "false"),
      " - Type: " ++ Text.joined ", " flagNames] ++
    listing "Conditions" (rule.criteria.conditions.map Condition.text) ++
    listing "Actions" (rule.actions.map Action.text)

/-- A rule as it is shown. -/
def text (rule : Rule) : Except RuleError String := rule.shownLines.map (Text.joined "\n")

/-- The name and the switch of a rule in one line. -/
def summary (rule : Rule) : String :=
  "Rule(name=" ++ Text.quoted rule.name ++ ", enabled=" ++
    (if rule.enabled then "True" else "False") ++ ")"

end Rule

end MailFilters
