import MailFilters.Locator.Basic
import MailFilters.RuleError
import MailFilters.Text.Percent

/-!
# Folders

A mail folder is named by a locator such as `mailbox://user@host/Archive/2024`.

* **`Folder.read`** — the folder that a locator names.
* **`Folder.path`** — its names as the path of a label.
-/

namespace MailFilters

/-- A folder of a mail account: the names on the way to it, outermost first. -/
structure Folder where
  host : String
  port : Option Nat
  user : String
  names : List String
  deriving DecidableEq, Repr

namespace Folder

/-- The scheme of folder locators. -/
def scheme : String := "mailbox"

/-- The names of a folder as the path of a label. -/
def path (folder : Folder) : String := Text.joined "/" folder.names

/-- A folder as it is shown. -/
def text (folder : Folder) : String := Text.joined " / " folder.names

/-- A text without the slashes at its ends. -/
def stripSlashes (s : List Char) : List Char :=
  ((s.dropWhile (· == '/')).reverse.dropWhile (· == '/')).reverse

/-- The names that a path gives, decoded one by one. -/
def namesOfPath (path : List Char) : List String :=
  (Text.splitOn '/' (stripSlashes path)).map fun name => String.ofList (Text.percentDecode name)

/-- The folder that the parts of a locator name.  Password, query and fragment have no place
there, and the path starts at the root. -/
def ofLocator (value : String) (locator : Locator) (authority : Authority) :
    Except LocatorFault Folder :=
  if locator.scheme ≠ scheme.toList then .error (.otherScheme (String.ofList locator.scheme))
  else if authority.password ≠ [] then .error (.withPassword value)
  else if locator.query ≠ [] then .error (.withQuery value)
  else if locator.fragment ≠ [] then .error (.withFragment value)
  else if locator.path.head? ≠ some '/' then
    .error (.relativePath (String.ofList locator.path))
  else
    .ok
      { host := String.ofList authority.host
        port := authority.port
        user := String.ofList (Text.percentDecode authority.user)
        names := namesOfPath locator.path }

/-- The folder that a locator names, if it is sound. -/
def readLocator (value : String) : Except LocatorFault Folder :=
  match Locator.read? value.toList with
  | none => .error (.malformed value)
  | some locator =>
    match Authority.read? locator.authority with
    | none => .error (.malformed value)
    | some authority => ofLocator value locator authority

/-- The folder that an action's value names. -/
def read (value : Option String) : Except RuleError Folder :=
  match value with
  | none | some "" => .error (.missingArgument .folder)
  | some value =>
    match readLocator value with
    | .ok folder => .ok folder
    | .error fault => .error (.invalidFolder fault)

end Folder

end MailFilters
