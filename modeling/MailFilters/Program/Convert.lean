import MailFilters.Document.File
import MailFilters.Filter.Install

/-!
# Converting a rules file

* **`convert`** — reads a rules file and makes filters of its enabled rules, or shows the rules.

The exit code is 0 if every enabled rule has become a filter, 1 if some rule was set aside, and 2
if the file could not be read.
-/

namespace MailFilters

/-- How a run ends: an exit code, and what was printed. -/
structure Report where
  exitCode : Nat
  printed : String := ""
  deriving DecidableEq, Repr

namespace Task

/-- Adds lines to the log. -/
def noteAll (lines : Log) : Task ε Unit :=
  change fun session => { session with log := session.log ++ lines }

end Task

/-- Takes note of rules that were set aside, each as it is shown. -/
def noteRejections : List Rejection → Task Failure Unit
  | [] => pure ()
  | rejection :: rest =>
    match rejection.text with
    | .error cause => Task.fail (.invalid cause)
    | .ok text => do
      Task.note .error ("Rule not converted:\n" ++ text)
      noteRejections rest

/-- Prints a rule set. -/
def showRules (set : RuleSet Rule) : Task Failure Report :=
  match set.text with
  | .error cause => Task.fail (.invalid cause)
  | .ok text => pure { exitCode := 0, printed := text ++ "\n" }

/-- Makes filters of the enabled rules of a rule set. -/
def writeRules (mode : Mode) (set : RuleSet Rule) : Task Failure Report := do
  let enabled := (set.rules.filter (·.enabled)).length
  Task.note .info ("Writing " ++ Text.decimal enabled ++ " of " ++
    Text.decimal set.rules.length ++ " rules as Gmail filters...")
  let rejections ← installAll mode TagTable.initial (some set)
  noteRejections rejections
  Task.note .info ("Done: " ++ Text.decimal (enabled - rejections.length) ++
    " filters written, " ++ Text.decimal rejections.length ++ " skipped")
  return { exitCode := if rejections.isEmpty then 0 else 1 }

/-- Reads a rules file and makes filters of its enabled rules, or shows its rules. -/
def convert (files : Document.Files) (name : String) (mode : Mode) (showOnly : Bool) :
    Task Failure Report := do
  let (outcome, log) := Document.readNamed files name
  Task.noteAll log
  match outcome with
  | .error cause =>
    if cause.isReported then
      Task.note .error ("Unable to read " ++ name ++ ": " ++ cause.message)
      return { exitCode := 2 }
    else Task.fail (.invalid cause)
  | .ok none =>
    Task.note .info ("No rules found in " ++ name)
    return { exitCode := 0 }
  | .ok (some set) => if showOnly then showRules set else writeRules mode set

end MailFilters
