import MailFilters.Action.Basic
import MailFilters.Text.Blank

/-!
# Reading actions

A rules document gives an action by a name, in any spacing and letter case of its words, and
perhaps a value.

* **`ActionKind.ofName?`** — the kind of action with a name.
* **`ActionKind.make`** — the action of a kind with a value.
* **`Action.read`** — the action with a name and a value.
-/

namespace MailFilters

/-- A kind of action. -/
inductive ActionKind
  | addTag
  | copyTo
  | moveTo
  | delete
  | forward
  | junkScore
  | markRead
  | markFlagged
  | reply
  | stopExecution
  deriving DecidableEq, Repr

/-- The words of a name, capitalised and put together. -/
def nameKey (name : String) : String :=
  String.ofList ((Text.words name.toList).flatMap Text.capitalize)

namespace ActionKind

/-- The kinds of actions. -/
def all : List ActionKind :=
  [addTag, copyTo, moveTo, delete, forward, junkScore, markRead, markFlagged, reply,
   stopExecution]

/-- The name of a kind of action, its words capitalised and put together. -/
def key : ActionKind → String
  | addTag => "Addtag"
  | copyTo => "CopyToFolder"
  | moveTo => "MoveToFolder"
  | delete => "Delete"
  | forward => "Forward"
  | junkScore => "Junkscore"
  | markRead => "MarkRead"
  | markFlagged => "MarkFlagged"
  | reply => "Reply"
  | stopExecution => "StopExecution"

/-- The kind of action with a name. -/
def ofName? (name : String) : Option ActionKind := all.find? (·.key == nameKey name)

/-- A value that must be there and not be empty. -/
def required (argument : Argument) : Option String → Except RuleError String
  | none | some "" => .error (.missingArgument argument)
  | some value => .ok value

/-- An action that takes no value. -/
def bare (bareAction : BareAction) (action : Action) : Option String → Except RuleError Action
  | none => .ok action
  | some _ => .error (.unexpectedArgument bareAction)

/-- The action that forwards to a text, if that is a recipient. -/
def forwardTo (text : String) : Except RuleError Action :=
  if valid : isRecipient text then .ok (.forward ⟨text, valid⟩)
  else .error (.invalidRecipient text)

/-- The action that sets the junk score that a text starts with. -/
def scoreFrom (text : String) : Except RuleError Action :=
  let digits := text.toList.takeWhile Text.isDigit
  if digits.isEmpty then .error (.invalidScore text)
  else
    match Text.readNumeral digits with
    | .ok score => .ok (.junkScore score)
    | .error count => .error (.longNumeral count)

/-- The action of a kind with a value. -/
def make (kind : ActionKind) (value : Option String) : Except RuleError Action :=
  match kind with
  | addTag => (required .tag value).map .addTag
  | copyTo => (Folder.read value).map .copyTo
  | moveTo => (Folder.read value).map .moveTo
  | delete => bare .delete .delete value
  | forward => required .recipient value >>= forwardTo
  | junkScore => required .score value >>= scoreFrom
  | markRead => bare .markRead .markRead value
  | markFlagged => bare .markFlagged .markFlagged value
  | reply => (required .replyModel value).map .reply
  | stopExecution => bare .stopExecution .stopExecution value

end ActionKind

/-- The action with a name and a value. -/
def Action.read (name : String) (value : Option String) : Except RuleError Action :=
  match ActionKind.ofName? name with
  | none => .error (.unknownAction name)
  | some kind => kind.make value

end MailFilters
