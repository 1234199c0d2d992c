import MailFilters.Account.Directory
import MailFilters.Filter.Plan

/-!
# Filters of rules

A rule becomes a filter: its criteria a search, its actions changes of labels.  A rule that cannot
become one is set aside, and the others become filters all the same.

* **`Rule.query`** — the search of a rule.
* **`Rule.effect`** — what the filter of a rule does; labels are looked up or created.
* **`Rule.filter`** — the filter of a rule.
* **`filtersOf`** — the filters of the rules that have one, and the rejections of the others.
-/

namespace MailFilters

/-- The members of a list without the later ones that are equal to an earlier one. -/
def firstOccurrences : List String → List String
  | [] => []
  | value :: rest => value :: (firstOccurrences rest).filter (· != value)

/-- A filter and the rule that it was made from. -/
structure RuleFilter where
  rule : Rule
  filter : Filter
  deriving DecidableEq, Repr

namespace Effect

/-- The effect with one more label to add. -/
def adding (effect : Effect) (id : String) : Effect :=
  { effect with addLabels := effect.addLabels ++ [id] }

/-- The effect with one more label to remove. -/
def removing (effect : Effect) (id : String) : Effect :=
  { effect with removeLabels := effect.removeLabels ++ [id] }

/-- The effect that names every label once. -/
def tidy (effect : Effect) : Effect :=
  { effect with
    addLabels := firstOccurrences effect.addLabels
    removeLabels := firstOccurrences effect.removeLabels }

end Effect

/-- Takes note of an action that the filter of a rule leaves out. -/
def noteLeftOut (rule : Rule) (action : Action) : Task ε Unit :=
  Task.note .info ("Rule '" ++ rule.name ++ "': '" ++ action.text ++
    "' has no Gmail filter equivalent, skipped")

/-- The effect of the steps of a rule, on top of an effect that is there. -/
def carryOut (mode : Mode) (rule : Rule) (effect : Effect) : List Step → Task Failure Effect
  | [] => pure effect
  | .file path :: rest => do
    let id ← (Directory.acquire mode path false).mapFailure .request
    carryOut mode rule (effect.adding id) rest
  | .add id :: rest => carryOut mode rule (effect.adding id) rest
  | .remove id :: rest => carryOut mode rule (effect.removing id) rest
  | .forward recipient :: rest =>
    carryOut mode rule { effect with forward := some recipient } rest
  | .skip action :: rest => do
    noteLeftOut rule action
    carryOut mode rule effect rest

/-- The search of a rule. -/
def Rule.query (rule : Rule) : Except Obstacle String :=
  if rule.criteria.conditions.isEmpty then .error .noConditions else rule.criteria.query

/-- What the filter of a rule does.  The labels that come before an obstacle are created even
though the rule is set aside. -/
def Rule.effect (rule : Rule) (mode : Mode) (tags : TagTable) : Task Failure Effect := do
  let plan := Plan.ofRule tags rule
  let effect ← carryOut mode rule {} plan.steps
  match plan.obstacle with
  | some obstacle => Task.fail (.rejected ⟨obstacle, some rule⟩)
  | none => return effect.tidy

/-- The filter of a rule. -/
def Rule.filter (rule : Rule) (mode : Mode) (tags : TagTable) : Task Failure RuleFilter :=
  match rule.query with
  | .error obstacle => Task.fail (.rejected ⟨obstacle, some rule⟩)
  | .ok query => do
    let effect ← rule.effect mode tags
    Task.note .debug ("Rule '" ++ rule.name ++ "' compiled to query: " ++ query)
    return ⟨rule, ⟨query, effect⟩⟩

/-- The session with the note that a rule is set aside. -/
def Session.noted (session : Session) (rule : Rule) (rejection : Rejection) : Session :=
  { session with
    log := session.log ++ [⟨.warning, "Skipping rule '" ++ rule.name ++ "': " ++
      rejection.obstacle.message⟩] }

/-- Takes note of a rule that is set aside. -/
def noteSetAside (rule : Rule) (rejection : Rejection) : Task ε Unit :=
  Task.change (·.noted rule rejection)

/-- The filters of the rules that have one and the rejections of the others, both in order. -/
def filtersOf (mode : Mode) (tags : TagTable) :
    List Rule → Task Failure (List RuleFilter × List Rejection)
  | [] => pure ([], [])
  | rule :: rest =>
    (rule.filter mode tags).conclude fun
      | .ok filter => do
        let (filters, rejections) ← filtersOf mode tags rest
        return (filter :: filters, rejections)
      | .error (.rejected rejection) => do
        noteSetAside rule rejection
        let (filters, rejections) ← filtersOf mode tags rest
        return (filters, rejection :: rejections)
      | .error failure => Task.fail failure

end MailFilters
