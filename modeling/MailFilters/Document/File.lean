import MailFilters.Document.Reader
import MailFilters.Text.Utf8

/-!
# Files of rules documents

* **`Files`** — the files that a run can read.
* **`decodeFile`** — the text in the bytes of a file: UTF-8 with any line breaks.
* **`readNamed`** — the rule set of the document in a file.
-/

namespace MailFilters

namespace Document

/-- Files by name, with their bytes. -/
abbrev Files := List (String × List UInt8)

/-- A name without the references to the working directory in front of it. -/
def plainName : List Char → List Char
  | '.' :: '/' :: rest => plainName (rest.dropWhile (· == '/'))
  | name => name
termination_by name => name.length
decreasing_by
  have := (List.dropWhile_suffix (l := rest) (· == '/')).length_le
  simp only [List.length_cons]
  omega

/-- The bytes of the file with a name. -/
def Files.find? (files : Files) (name : String) : Option (List UInt8) :=
  files.lookup (String.ofList (plainName name.toList))

/-- The wording for bytes that are no UTF-8. -/
def describeFault (fault : Text.Utf8Error) : String :=
  let place :=
    match fault.bytes with
    | [byte] =>
      "byte 0x" ++ String.ofList (Text.hexDigits 2 byte.toNat) ++ " in position " ++
        Text.decimal fault.offset
    | bytes =>
      "bytes in position " ++ Text.decimal fault.offset ++ "-" ++
        Text.decimal (fault.offset + bytes.length - 1)
  "'utf-8' codec can't decode " ++ place ++ ": " ++ fault.cause.reason

/-- The text in the bytes of a file, with every line break written as a line feed. -/
def decodeFile (name : String) (bytes : List UInt8) : Except RuleError String :=
  match Text.decodeStrict bytes with
  | .ok text => .ok (String.ofList (Text.unifyBreaks text))
  | .error fault => .error (.unreadableFile name (describeFault fault))

/-- The rule set of the document in a file, and the log of reading it. -/
def readNamed (files : Files) (name : String) :
    Except RuleError (Option (RuleSet Rule)) × Log :=
  match files.find? name with
  | none => (.error (.missingFile name), [])
  | some bytes =>
    match decodeFile name bytes with
    | .error cause => (.error cause, [])
    | .ok contents => readDocument contents (some name)

end Document

end MailFilters
