import MailFilters.Action.Read
import MailFilters.Condition.Clause
import MailFilters.Log
import MailFilters.Rule.Set
import MailFilters.Token

/-!
# Rules documents

A document gives its version, perhaps a logging flag, and then its rules one after the other, each
of them from its name to the next name.

* **`Entry`** — a token, with the value that belongs to it if it is an action.
* **`Draft`** — what has been read so far.
* **`Draft.step`** — what one more entry does.
* **`readDocument`** — the rule set of a document and the log of reading it.
-/

namespace MailFilters

namespace Document

/-- A token and, if it is an action, the value that a token right behind it gives. -/
structure Entry where
  token : Token
  value : Option String := none
  deriving DecidableEq, Repr

/-- The entries of tokens: an action takes in the action value right behind it. -/
def entries : List Token → List Entry
  | [] => []
  | [token] => [⟨token, none⟩]
  | token :: next :: rest =>
    if token.key = "action" ∧ next.key = "actionValue" then
      ⟨token, some next.value⟩ :: entries rest
    else ⟨token, none⟩ :: entries (next :: rest)

/-- What has been read of a document: nothing, the part before the first rule, or some rules and
the one that is being read. -/
inductive Draft
  | blank
  | opened (set : RuleSet Rule)
  | inRule (set : RuleSet Rule) (rule : Rule)
  deriving DecidableEq, Repr

/-- The one version that is read. -/
def formatVersion : String := "9"

/-- The value of a switch. -/
def readSwitch (token : Token) : Except RuleError Bool :=
  if token.value = "yes" then .ok true
  else if token.value = "no" then .ok false
  else .error (.unsupportedValue token.key token.value token.line)

/-- The value of a type: ASCII digits for a mask that has names. -/
def readType (token : Token) : Except RuleError Int :=
  let digits := token.value.toList
  if digits ≠ [] ∧ digits.all Text.isAsciiDigit then
    match Text.readNumeral digits with
    | .error count => .error (.longNumeral count)
    | .ok mask =>
      match FlagTable.cover typeFlags mask with
      | .ok _ => .ok mask
      | .error _ => .error (.unsupportedValue token.key token.value token.line)
  else .error (.unsupportedValue token.key token.value token.line)

/-- The error for a key that stands where it may not stand. -/
def unexpected (token : Token) : RuleError := .unexpectedKey token.key token.line

/-- The rule set of a draft with the rule that is being read behind the others. -/
def closeRule (set : RuleSet Rule) (rule : Rule) : RuleSet Rule :=
  { set with rules := set.rules ++ [rule] }

/-- What an entry other than a name does to the rule that is being read. -/
def stepRule (rule : Rule) (entry : Entry) : Except RuleError Rule :=
  match entry.token.key with
  | "enabled" => do
    let enabled ← readSwitch entry.token
    (rule.withEnabled enabled).result
  | "type" => do
    let type ← readType entry.token
    (rule.withType type).result
  | "action" => do
    let action ← Action.read entry.token.value entry.value
    (rule.withAction action).result
  | "condition" => do
    let conditions ← Condition.readConditions entry.token.value
    (rule.withConditions conditions).result
  | _ => .error (unexpected entry.token)

/-- What the next entry does to a draft. -/
def Draft.step (draft : Draft) (entry : Entry) : Except RuleError Draft :=
  match draft with
  | .blank =>
    if entry.token.key ≠ "version" then .error (unexpected entry.token)
    else if entry.token.value ≠ formatVersion then
      .error (.unsupportedVersion entry.token.value)
    else .ok (.opened { version := entry.token.value })
  | .opened set =>
    if entry.token.key = "name" then .ok (.inRule set { name := entry.token.value })
    else if entry.token.key ≠ "logging" ∨ set.logging.isSome then
      .error (unexpected entry.token)
    else do
      let logging ← readSwitch entry.token
      return .opened { set with logging := some logging }
  | .inRule set rule =>
    if entry.token.key = "name" then
      .ok (.inRule (closeRule set rule) { name := entry.token.value })
    else (stepRule rule entry).map (.inRule set ·)

/-- The rule set of a draft at the end of the document; a document without entries has none. -/
def Draft.finish : Draft → Option (RuleSet Rule)
  | .blank => none
  | .opened set => some set.freeze
  | .inRule set rule => some (closeRule set rule).freeze

/-- What the log says about an entry that has been read. -/
def Entry.notes (entry : Entry) : Log :=
  if entry.token.key = "name" then
    [⟨.debug, "Reading rule '" ++ entry.token.value ++ "' at line " ++
      Text.decimal entry.token.line⟩]
  else []

/-- The draft after some more entries, or the first error, with the log up to there. -/
def Draft.run (draft : Draft) : List Entry → Except RuleError Draft × Log
  | [] => (.ok draft, [])
  | entry :: rest =>
    match draft.step entry with
    | .error cause => (.error cause, [])
    | .ok draft =>
      let (result, log) := draft.run rest
      (result, entry.notes ++ log)

/-- What the log says about a rule set that has been read from a file or from elsewhere. -/
def closingNote (set : RuleSet Rule) (file : Option String) : LogEntry :=
  ⟨.info, "Parsed " ++ Text.decimal set.rules.length ++ " rules" ++
    (match file with
      | none => ""
      | some name => " from " ++ name)⟩

/-- The rule set of tokens, if there are any, and the log of reading it. -/
def readTokens (tokens : List Token) (file : Option String) :
    Except RuleError (Option (RuleSet Rule)) × Log :=
  match Draft.run .blank (entries tokens) with
  | (.error cause, log) => (.error cause, log)
  | (.ok draft, log) =>
    match draft.finish with
    | none => (.ok none, log)
    | some set => (.ok (some set), log ++ [closingNote set file])

/-- The rule set of a document, which has none if it has no tokens, and the log of reading it. -/
def readDocument (contents : String) (file : Option String) :
    Except RuleError (Option (RuleSet Rule)) × Log :=
  match Token.ofText contents with
  | .error cause => (.error cause, [])
  | .ok tokens => readTokens tokens file

end Document

end MailFilters
