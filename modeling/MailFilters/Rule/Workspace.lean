import MailFilters.Rule.Set

/-!
# Workspaces

Rules that are made and changed one by one, and one rule set that some of them are members of.  A
member goes on being the rule it was: a change to the rule shows in the rule set.

* **`Workspace`** — the rules in the order in which they were made, and the rule set of their
  numbers.
* **`Workspace.Change`** — the changes.
* **`Workspace.apply`** — what a change does.
-/

namespace MailFilters

/-- Rules by number, and a rule set of such numbers. -/
structure Workspace where
  rules : List Rule := []
  set : RuleSet Nat
  deriving DecidableEq, Repr

namespace Workspace

/-- A change to the rules or to the rule set of a workspace. -/
inductive Change
  /-- Makes a rule without conditions and actions. -/
  | make (name : String) (enabled : Bool) (type : Int)
  | rename (rule : Nat) (name : String)
  | switch (rule : Nat) (enabled : Bool)
  | retype (rule : Nat) (type : Int)
  | require (rule : Nat) (conditions : List Condition)
  /-- Adds conditions to the criteria of a rule without asking the rule. -/
  | extendCriteria (rule : Nat) (conditions : List Condition)
  | act (rule : Nat) (action : Action)
  | freezeRule (rule : Nat)
  /-- Makes a rule a member of the rule set. -/
  | enlist (rule : Nat)
  | logging (flag : Option Bool)
  /-- Freezes the rule set and its members. -/
  | freezeSet
  deriving DecidableEq, Repr

/-- Changes one rule; a number that no rule has changes nothing. -/
def editRule (space : Workspace) (number : Nat) (edit : Rule → Edited Rule) : Edited Workspace :=
  match space.rules[number]? with
  | none => (space, .ok ())
  | some rule =>
    let (rule, outcome) := edit rule
    ({ space with rules := space.rules.set number rule }, outcome)

/-- Changes the rule set. -/
def editSet (space : Workspace) (edit : RuleSet Nat → Edited (RuleSet Nat)) :
    Edited Workspace :=
  let (set, outcome) := edit space.set
  ({ space with set := set }, outcome)

/-- Makes a rule a member of the rule set; a number that no rule has changes nothing. -/
def enlist (space : Workspace) (number : Nat) : Edited Workspace :=
  if number < space.rules.length then space.editSet (·.push number) else (space, .ok ())

/-- Freezes the rule set and its members. -/
def freezeSet (space : Workspace) : Workspace :=
  { rules := space.rules.mapIdx fun number rule =>
      if space.set.rules.contains number then rule.freeze else rule
    set := { space.set with frozen := true } }

/-- What a change does. -/
def apply (space : Workspace) : Change → Edited Workspace
  | .make name enabled type =>
    ({ space with rules := space.rules ++ [{ name, enabled, type }] }, .ok ())
  | .rename rule name => space.editRule rule (·.withName name)
  | .switch rule enabled => space.editRule rule (·.withEnabled enabled)
  | .retype rule type => space.editRule rule (·.withType type)
  | .require rule conditions => space.editRule rule (·.withConditions conditions)
  | .extendCriteria rule conditions => space.editRule rule (·.withCriteria conditions)
  | .act rule action => space.editRule rule (·.withAction action)
  | .freezeRule rule => space.editRule rule fun rule => (rule.freeze, .ok ())
  | .enlist rule => space.enlist rule
  | .logging flag => space.editSet (·.withLogging flag)
  | .freezeSet => (space.freezeSet, .ok ())

/-- The rule set with the rules that its members are; a number that no rule has is left out. -/
def ruleSet (space : Workspace) : RuleSet Rule :=
  { version := space.set.version
    logging := space.set.logging
    rules := space.set.rules.filterMap fun number => space.rules[number]?
    frozen := space.set.frozen }

end Workspace

end MailFilters
