import MailFilters.Filter.Rejection

/-!
# Plans

What a rule's actions come to for a filter, before any label is looked up.  Folder actions and tags
do not mix: a rule that files messages into a folder keeps only the tag for important messages,
which is a label of its own.

* **`Step`** — one thing that a filter is to do.
* **`Plan`** — the steps of a rule up to its first obstacle.
* **`Plan.ofRule`** — the plan of a rule.
-/

namespace MailFilters

/-! ## Labels and tags that are always there -/

namespace SystemLabel

/-- The label of messages in the inbox. -/
def inbox : String := "INBOX"

/-- The label of important messages. -/
def important : String := "IMPORTANT"

/-- The label of junk. -/
def spam : String := "SPAM"

/-- The label of deleted messages. -/
def trash : String := "TRASH"

/-- The label of messages that have not been read. -/
def unread : String := "UNREAD"

end SystemLabel

/-- The names of tags; a tag that is not listed is its own name. -/
abbrev TagTable := List (String × String)

namespace TagTable

/-- The tag of important messages. -/
def important : String := "$label1"

/-- The names of the tags that the mail client has from the start. -/
def initial : TagTable :=
  [("$label1", "Important"), ("$label2", "Work"), ("$label3", "Personal"), ("$label4", "Todo"),
   ("$label5", "Later")]

/-- The name of a tag. -/
def nameOf (tags : TagTable) (tag : String) : String := (tags.lookup tag).getD tag

end TagTable

/-! ## Steps -/

/-- One thing that a filter is to do. -/
inductive Step
  /-- Adds the label with a path. -/
  | file (path : String)
  /-- Adds the label with an id. -/
  | add (id : String)
  /-- Removes the label with an id. -/
  | remove (id : String)
  | forward (recipient : String)
  /-- Leaves out an action that filters do not have. -/
  | skip (action : Action)
  deriving DecidableEq, Repr

/-- The steps of a rule up to its first obstacle. -/
structure Plan where
  steps : List Step := []
  obstacle : Option Obstacle := none
  deriving DecidableEq, Repr

namespace Plan

/-- A plan with some steps in front of it. -/
def after (steps : List Step) (plan : Plan) : Plan := { plan with steps := steps ++ plan.steps }

/-- The plan of actions other than tags, behind a forward or not.  A recipient is never empty, so
the second forward is one too many whatever the first one is. -/
def ofActions (forwarded : Bool) : List Action → Plan
  | [] => {}
  | .addTag _ :: rest => ofActions forwarded rest
  | .copyTo folder :: rest => after [.file folder.path] (ofActions forwarded rest)
  | .moveTo folder :: rest =>
    after [.file folder.path, .remove SystemLabel.inbox] (ofActions forwarded rest)
  | .delete :: rest => after [.add SystemLabel.trash] (ofActions forwarded rest)
  | .forward recipient :: rest =>
    if forwarded then { obstacle := some .secondForward }
    else after [.forward recipient.address] (ofActions true rest)
  | .junkScore score :: rest =>
    if score = 0 then after [.remove SystemLabel.spam] (ofActions forwarded rest)
    else if score = 100 then after [.add SystemLabel.spam] (ofActions forwarded rest)
    else { obstacle := some (.junkScore score) }
  | .markRead :: rest => after [.remove SystemLabel.unread] (ofActions forwarded rest)
  | .markFlagged :: rest => after [.skip .markFlagged] (ofActions forwarded rest)
  | .reply model :: rest => after [.skip (.reply model)] (ofActions forwarded rest)
  | .stopExecution :: rest => after [.skip .stopExecution] (ofActions forwarded rest)

/-- Whether an action files messages into a folder. -/
def isFiling : Action → Bool
  | .copyTo _ | .moveTo _ => true
  | _ => false

/-- The steps of tags, if plain tags may be added or if they may not. -/
def tagSteps (tags : TagTable) (plainTags : Bool) : List Action → List Step
  | [] => []
  | .addTag tag :: rest =>
    if tag = TagTable.important then
      .add SystemLabel.important :: tagSteps tags plainTags rest
    else if plainTags then .file (tags.nameOf tag) :: tagSteps tags plainTags rest
    else tagSteps tags plainTags rest
  | _ :: rest => tagSteps tags plainTags rest

/-- The plan of a rule: its other actions in order, and then its tags in order. -/
def ofRule (tags : TagTable) (rule : Rule) : Plan :=
  let plan := ofActions false rule.actions
  match plan.obstacle with
  | some _ => plan
  | none =>
    { steps := plan.steps ++ tagSteps tags (!rule.actions.any isFiling) rule.actions }

end Plan

end MailFilters
