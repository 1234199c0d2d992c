import MailFilters.Folder
import MailFilters.Recipient

/-!
# Actions

What a rule does with a message.

* **`Action`** — the actions.
* **`Action.text`** — an action as it is shown.
* **`Action.recipient?`** — the address that an action forwards to.
-/

namespace MailFilters

/-- What a rule does with a message. -/
inductive Action
  | addTag (tag : String)
  | copyTo (folder : Folder)
  | moveTo (folder : Folder)
  | delete
  | forward (recipient : Recipient)
  | junkScore (score : Nat)
  | markRead
  | markFlagged
  /-- Answers with a template, which the mail client knows by a name of its own. -/
  | reply (model : String)
  | stopExecution
  deriving DecidableEq, Repr

namespace Action

/-- An action as it is shown. -/
def text : Action → String
  | addTag tag => "Add tag \"" ++ tag ++ "\""
  | copyTo folder => "Copy to folder \"" ++ folder.text ++ "\""
  | moveTo folder => "Move to folder \"" ++ folder.text ++ "\""
  | delete => "Delete message"
  | forward recipient => "Send a copy to " ++ recipient.address
  | junkScore score => "Set junk score to " ++ Text.decimal score
  | markRead => "Mark message as read"
  | markFlagged => "Mark flagged"
  | reply model => "Reply using \"" ++ model ++ "\""
  | stopExecution => "Stop execution"

/-- The address that an action forwards to. -/
def recipient? : Action → Option String
  | forward recipient => some recipient.address
  | _ => none

end Action

end MailFilters
