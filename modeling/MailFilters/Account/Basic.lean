import MailFilters.Text.Blank
import MailFilters.Text.Digit

/-!
# Accounts

An account in memory: its labels, its filters and the requests that were made to it.  Requests can
be made to fail, each kind after a script of its own.

* **`Account`** — the account.
* **`Account.listLabels`**, **`Account.createLabel`**, **`Account.createFilter`** — the requests;
  every request is recorded, a failing one too.
-/

namespace MailFilters

/-- A label of an account. -/
structure Label where
  id : String
  name : String
  deriving DecidableEq, Repr

/-- The failure of a request. -/
structure Fault where
  status : Int
  message : String
  deriving DecidableEq, Repr

/-- The message of a failure without white space around it. -/
def Fault.summary (fault : Fault) : String := Text.trimmed fault.message

/-- The wording of a failure. -/
def Fault.text (fault : Fault) : String :=
  let status := Text.signedDecimal fault.status
  if fault.message.isEmpty then "<HttpError " ++ status ++ " \"\">"
  else
    "<HttpError " ++ status ++ " when requesting None returned \"" ++ fault.summary ++
      "\". Details: \"" ++ fault.message ++ "\">"

/-- The reason that a failure gives: its message, or its wording if the message is blank. -/
def Fault.reason (fault : Fault) : String :=
  if fault.summary.isEmpty then fault.text else fault.summary

/-- What a filter does to the messages that it finds. -/
structure Effect where
  addLabels : List String := []
  removeLabels : List String := []
  forward : Option String := none
  deriving DecidableEq, Repr

/-- A filter: a search, and what is done to the messages that it finds. -/
structure Filter where
  query : String
  effect : Effect
  deriving DecidableEq, Repr

/-- A request to an account. -/
inductive Call
  | listLabels
  | createLabel (name : String)
  | createFilter (filter : Filter)
  deriving DecidableEq, Repr

/-- An account and the requests that were made to it, oldest first.  Each script of faults says
for one kind of request which of the next ones fail; behind its end all succeed. -/
structure Account where
  labels : List Label := []
  listFaults : List (Option Fault) := []
  labelFaults : List (Option Fault) := []
  filterFaults : List (Option Fault) := []
  labelsCreated : Nat := 0
  filtersCreated : Nat := 0
  calls : List Call := []
  deriving DecidableEq, Repr

/-- The outcome that a script has for the next request. -/
def nextFault : List (Option Fault) → Option Fault
  | [] => none
  | outcome :: _ => outcome

namespace Account

/-- Records a request. -/
def record (account : Account) (call : Call) : Account :=
  { account with calls := account.calls ++ [call] }

/-- Asks for the labels. -/
def listLabels (account : Account) : Except Fault (List Label) × Account :=
  let after := { account.record .listLabels with listFaults := account.listFaults.tail }
  match nextFault account.listFaults with
  | some fault => (.error fault, after)
  | none => (.ok account.labels, after)

/-- The label that the next successful request for a label makes. -/
def nextLabel (account : Account) (name : String) : Label :=
  ⟨"new_" ++ Text.decimal (account.labelsCreated + 1), name⟩

/-- Asks for a new label. -/
def createLabel (account : Account) (name : String) : Except Fault Label × Account :=
  let after := { account.record (.createLabel name) with
    labelFaults := account.labelFaults.tail }
  match nextFault account.labelFaults with
  | some fault => (.error fault, after)
  | none =>
    (.ok (account.nextLabel name),
      { after with
        labels := account.labels ++ [account.nextLabel name]
        labelsCreated := account.labelsCreated + 1 })

/-- Asks for a new filter, and gets its id. -/
def createFilter (account : Account) (filter : Filter) : Except Fault String × Account :=
  let after := { account.record (.createFilter filter) with
    filterFaults := account.filterFaults.tail }
  match nextFault account.filterFaults with
  | some fault => (.error fault, after)
  | none =>
    (.ok ("filter_" ++ Text.decimal (account.filtersCreated + 1)),
      { after with filtersCreated := account.filtersCreated + 1 })

end Account

end MailFilters
