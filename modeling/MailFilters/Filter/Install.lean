import MailFilters.Filter.Submit
import MailFilters.Rule.Set
import MailFilters.Text.Quoted

/-!
# Installing filters

The enabled rules of a rule set become filters of the account; a dry run only says which.

* **`Filter.text`** — a filter as the log of a dry run shows it.
* **`Rule.install`** — makes the filter of one rule.
* **`installAll`** — makes the filters of a rule set; the rules that are set aside do not stop it.
-/

namespace MailFilters

/-! ## Text -/

/-- A list of texts in brackets. -/
def listText (values : List String) : String :=
  "[" ++ Text.joined ", " (values.map Text.quoted) ++ "]"

/-- Named texts in braces. -/
def recordText (fields : List (String × String)) : String :=
  "\x7b" ++ Text.joined ", " (fields.map fun field => Text.quoted field.1 ++ ": " ++ field.2) ++
    "\x7d"

/-- The named parts of an effect; a part that is empty is left out. -/
def Effect.fields (effect : Effect) : List (String × String) :=
  (if effect.addLabels.isEmpty then [] else [("addLabelIds", listText effect.addLabels)]) ++
    (if effect.removeLabels.isEmpty then []
      else [("removeLabelIds", listText effect.removeLabels)]) ++
    (match effect.forward with
      | none | some "" => []
      | some recipient => [("forward", Text.quoted recipient)])

/-- A filter as the log of a dry run shows it. -/
def Filter.text (filter : Filter) : String :=
  recordText
    [("criteria", recordText [("query", Text.quoted filter.query)]),
     ("action", recordText filter.effect.fields)]

/-! ## Rules -/

/-- Makes the filter of a rule. -/
def Rule.install (rule : Rule) (mode : Mode) (tags : TagTable) : Task Failure RuleFilter := do
  let made ← rule.filter mode tags
  match mode with
  | .dry =>
    Task.note .info ("Would create filter for rule '" ++ rule.name ++ "': " ++ made.filter.text)
    return made
  | .real =>
    let _ ← made.submit
    Task.note .debug ("Created filter for rule '" ++ rule.name ++ "'")
    return made

/-- Takes note of a rule that has been dealt with. -/
def markHandled (rule : Rule) : Task ε Unit :=
  Task.change fun session => { session with handled := session.handled ++ [rule.name] }

/-- Makes the filters of the enabled rules among some; gives the rejections, in order. -/
def installEach (mode : Mode) (tags : TagTable) : List Rule → Task Failure (List Rejection)
  | [] => pure []
  | rule :: rest =>
    if rule.enabled then
      (rule.install mode tags).conclude fun
        | .ok _ => do
          markHandled rule
          installEach mode tags rest
        | .error (.rejected rejection) => do
          noteSetAside rule rejection
          markHandled rule
          return rejection :: (← installEach mode tags rest)
        | .error failure => Task.fail failure
    else installEach mode tags rest

/-- Makes the filters of the enabled rules of a rule set, if there is one. -/
def installAll (mode : Mode) (tags : TagTable) :
    Option (RuleSet Rule) → Task Failure (List Rejection)
  | none => pure []
  | some set => installEach mode tags set.rules

end MailFilters
