import MailFilters.Account.Session
import MailFilters.Text.LetterCase
import MailFilters.Text.Split

/-!
# Label directories

A label is found by its path, in which slashes separate levels.  The labels are asked for once;
labels that are created after that are added to the list.  A dry run only announces new labels and
gives them placeholder ids.

* **`Directory.labels`** — the labels, asked for if they are not known.
* **`Directory.find`** — the id of the first label with a path.
* **`Directory.acquire`** — the same, creating each level of the path that is missing.
-/

namespace MailFilters

namespace Directory

/-- What the ids of labels that are only announced start with. -/
def placeholderMark : String := "dry-run:"

/-- The labels, asked for if they are not known. -/
def labels (mode : Mode) : Task Fault (List Label) := do
  let session ← Task.look
  match session.known mode with
  | some labels => return labels
  | none =>
    let labels ← Task.requestOrNote Account.listLabels
      fun fault => "Not able to fetch labels: " ++ fault.text
    Task.change (·.setKnown labels mode)
    return labels

/-- Whether a label has a path, in the same letter case or in any. -/
def isNamed (path : String) (caseSensitive : Bool) (label : Label) : Bool :=
  if caseSensitive then label.name == path else Text.sameLetters label.name path

/-- The id of the first of several labels that has a path. -/
def search (path : String) (caseSensitive : Bool) (labels : List Label) : Option String :=
  (labels.find? (isNamed path caseSensitive)).map (·.id)

/-- The id of the first label that has a path. -/
def find (mode : Mode) (path : String) (caseSensitive : Bool) :
    Task Fault (Option String) := do
  return search path caseSensitive (← labels mode)

/-- Adds a label to those that are known. -/
def remember (mode : Mode) (label : Label) : Task ε Unit :=
  Task.change fun session =>
    match session.known mode with
    | some labels => session.setKnown (labels ++ [label]) mode
    | none => session

/-- A new label, in a dry run only announced. -/
def makeLabel (mode : Mode) (name : String) : Task Fault Label :=
  match mode with
  | .dry => do
    Task.note .info ("Would create label '" ++ name ++ "'")
    return ⟨placeholderMark ++ name, name⟩
  | .real => do
    let label ← Task.requestOrNote (·.createLabel name)
      fun fault => "Error creating label " ++ name ++ ": " ++ fault.text
    Task.note .info ("Created label '" ++ name ++ "' (" ++ label.id ++ ")")
    return label

/-- Creates a label and gives its id. -/
def create (mode : Mode) (name : String) : Task Fault String := do
  let label ← makeLabel mode name
  remember mode label
  return label.id

/-- The id of the label that has a path in any letter case, created if there is none. -/
def ensure (mode : Mode) (path : String) : Task Fault String := do
  match ← find mode path false with
  | some id => return id
  | none => create mode path

/-- The paths of the levels that names lead to, below a path that ends with a slash or is
empty. -/
def levelsBelow (above : List Char) : List (List Char) → List (List Char)
  | [] => []
  | name :: rest => (above ++ name) :: levelsBelow (above ++ name ++ ['/']) rest

/-- The paths of the levels of a path, outermost first; the last one is the path itself. -/
def levels (path : String) : List String :=
  (levelsBelow [] (Text.splitOn '/' path.toList)).map String.ofList

/-- Ensures paths one after the other; gives the id of the last one, or `last` if there is none. -/
def ensureAll (mode : Mode) (last : String) : List String → Task Fault String
  | [] => pure last
  | path :: rest => do
    let id ← ensure mode path
    ensureAll mode id rest

/-- The id of the label with a path; each level that is missing is created. -/
def acquire (mode : Mode) (path : String) (caseSensitive : Bool) : Task Fault String := do
  match ← find mode path caseSensitive with
  | some id => return id
  | none => ensureAll mode "" (levels path)

end Directory

end MailFilters
