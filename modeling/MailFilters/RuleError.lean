import MailFilters.Text.Digit

/-!
# Errors of rules documents

What can be wrong with a rules document, with a rule or with the parts of a rule, and how it is
told.

* **`RuleError`** — the causes.
* **`RuleError.message`** — the wording of each.
* **`RuleError.isReported`** — the causes that a program run reports and ends on; the others are
  faults of the reader itself, and a run does not survive them.
-/

namespace MailFilters

/-- What an action is missing. -/
inductive Argument
  | tag
  | folder
  | recipient
  | score
  | replyModel
  deriving DecidableEq, Repr

/-- The wording for an argument in an error. -/
def Argument.description : Argument → String
  | .tag => "tag"
  | .folder => "folder specification"
  | .recipient => "recipient specification"
  | .score => "score in JunkScore action"
  | .replyModel => "reply model"

/-- An action that takes no argument. -/
inductive BareAction
  | delete
  | markRead
  | markFlagged
  | stopExecution
  deriving DecidableEq, Repr

/-- The name of an action without argument in an error. -/
def BareAction.name : BareAction → String
  | .delete => "Delete"
  | .markRead => "MarkRead"
  | .markFlagged => "MarkFlagged"
  | .stopExecution => "StopExecution"

/-- Why a text is no folder locator. -/
inductive LocatorFault
  | malformed (locator : String)
  | otherScheme (scheme : String)
  | withPassword (locator : String)
  | withQuery (locator : String)
  | withFragment (locator : String)
  | relativePath (path : String)
  deriving DecidableEq, Repr

/-- The wording of a locator fault. -/
def LocatorFault.message : LocatorFault → String
  | .malformed locator => s!"Invalid folder specification: {locator}"
  | .otherScheme scheme => s!"Unsupported folder scheme: {scheme}"
  | .withPassword locator => s!"Folder path with password: {locator}"
  | .withQuery locator => s!"Folder path with querystring: {locator}"
  | .withFragment locator => s!"Folder path with fragment: {locator}"
  | .relativePath path => s!"Unsupported folder path: {path}"

/-- What can be wrong with a rules document or with a part of it. -/
inductive RuleError
  /-- A line is not of the form `key="value"`. -/
  | unrecognizedLine (number : Nat) (line : String)
  /-- A text is not a sequence of conditions. -/
  | invalidConditions (text : String)
  /-- A key stands where it may not stand. -/
  | unexpectedKey (key : String) (line : Nat)
  | unsupportedVersion (version : String)
  | unsupportedValue (key value : String) (line : Nat)
  /-- A type has bits that belong to no flag. -/
  | unsupportedType (value : Int)
  | mixedCombinators
  | frozenConditions
  | frozenRule (name : String)
  | frozenRuleSet
  | loggingAlreadySet
  | unknownAction (name : String)
  | missingArgument (argument : Argument)
  | unexpectedArgument (action : BareAction)
  | invalidRecipient (recipient : String)
  | invalidFolder (fault : LocatorFault)
  | invalidScore (score : String)
  | missingFile (name : String)
  | unreadableFile (name reason : String)
  /-- A name is spelled with a letter that has no lower case in the tables of names. -/
  | unlistedName (name : String)
  /-- A numeral has more digits than a numeral may have. -/
  | longNumeral (digits : Nat)
  deriving DecidableEq, Repr

namespace RuleError

/-- The wording of an error. -/
def message : RuleError → String
  | unrecognizedLine number line => s!"Unable to recognize line {Text.decimal number}:\n{line}"
  | invalidConditions text => s!"Invalid condition string: {text}"
  | unexpectedKey key line => s!"Unexpected '{key}' key at line {Text.decimal line}"
  | unsupportedVersion version => s!"Unsupported format version ({version}) detected"
  | unsupportedValue key value line =>
    s!"Unsupported value for the key '{key}' found at line {Text.decimal line}: '{value}'"
  | unsupportedType value =>
    s!"Type bitmask {Text.signedDecimal value} can't be represented by known flags"
  | mixedCombinators => "Mixed AND/OR conditions are not supported"
  | frozenConditions => "Conditions can't be changed once parsed"
  | frozenRule name => s!"Rule '{name}' can't be changed once parsed"
  | frozenRuleSet => "Rule set can't be changed once parsed"
  | loggingAlreadySet => "Logging flag has already been set"
  | unknownAction name => s!"Unrecognized action: {name}"
  | missingArgument argument => s!"Missing {argument.description}"
  | unexpectedArgument action => s!"Unexpected argument for action {action.name}"
  | invalidRecipient recipient => s!"Invalid email recipient: {recipient}"
  | invalidFolder fault => fault.message
  | invalidScore score => s!"Invalid score '{score}' for JunkScore action"
  | missingFile name => s!"Unable to find the file {name}"
  | unreadableFile name reason => s!"Failed to read the file {name}: {reason}"
  | unlistedName name => name
  | longNumeral digits =>
    s!"Exceeds the limit ({Text.decimal Text.maxDigits} digits) for integer string conversion: " ++
      s!"value has {Text.decimal digits} digits; " ++
      "use sys.set_int_max_str_digits() to increase the limit"

/-- Whether a program run reports the error and ends, instead of being ended by it. -/
def isReported : RuleError → Bool
  | unlistedName _ | longNumeral _ => false
  | _ => true

end RuleError

end MailFilters
