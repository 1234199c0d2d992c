import MailFilters.Rule.Basic

/-!
# Rule sets

The rules of one document, in order, with the version of the document and its logging flag.  The
flag is set once, and a frozen rule set does not change any more.

* **`RuleSet`** — a rule set; its members are rules, or what stands for rules elsewhere.
* **`RuleSet.text`** — a rule set as it is shown.
-/

namespace MailFilters

/-- The rules of a document.  The members are rules, or what stands for rules elsewhere. -/
structure RuleSet (ρ : Type) where
  version : String
  logging : Option Bool := none
  rules : List ρ := []
  frozen : Bool := false
  deriving DecidableEq, Repr

namespace RuleSet

/-- Makes a change, unless the rule set is frozen. -/
def change (set : RuleSet ρ) (edit : RuleSet ρ → RuleSet ρ) : Edited (RuleSet ρ) :=
  if set.frozen then (set, .error .frozenRuleSet) else (edit set, .ok ())

/-- Sets the logging flag, unless it is set. -/
def withLogging (set : RuleSet ρ) (logging : Option Bool) : Edited (RuleSet ρ) :=
  if set.logging.isSome then (set, .error .loggingAlreadySet)
  else set.change fun set => { set with logging := logging }

/-- Adds a member behind the others. -/
def push (set : RuleSet ρ) (rule : ρ) : Edited (RuleSet ρ) :=
  set.change fun set => { set with rules := set.rules ++ [rule] }

/-- A rule set of which nothing changes any more, its rules included. -/
def freeze (set : RuleSet Rule) : RuleSet Rule :=
  { set with rules := set.rules.map Rule.freeze, frozen := true }

/-- The member at an index; a negative index counts from the end. -/
def get? (set : RuleSet ρ) (index : Int) : Option ρ :=
  match index with
  | .ofNat n => set.rules[n]?
  | .negSucc n => set.rules.reverse[n]?

/-- A rule set as it is shown. -/
def text (set : RuleSet Rule) : Except RuleError String :=
  match set.rules with
  | [] => .ok "(empty)"
  | rules => (rules.mapM Rule.text).map (Text.joined "\n")

end RuleSet

end MailFilters
