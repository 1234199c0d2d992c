/-!
# Conditions

A condition compares a part of a message with a text; the conditions of a rule are joined by one
combinator.

* **`Condition`** — one comparison.
* **`Condition.text`** — a condition as it is shown.
* **`Combinator.names`**, **`Field.names`**, **`Comparator.names`** — the names that are read.
-/

namespace MailFilters

/-- How the conditions of a rule are joined. -/
inductive Combinator
  | and
  | or
  deriving DecidableEq, Repr

/-- A part of a message that has a name of its own. -/
inductive Field
  | sender
  | to
  | cc
  | toOrCc
  | allAddresses
  | subject
  | body
  | date
  | junkStatus
  deriving DecidableEq, Repr

/-- How a part of a message is compared with a text. -/
inductive Comparator
  | contains
  | doesntContain
  | beginsWith
  | endsWith
  | is
  | isnt
  | isBefore
  deriving DecidableEq, Repr

/-- What a condition looks at: a named part of the message or a header, which is never taken for
a named part. -/
inductive Target
  | field (part : Field)
  | header (name : String)
  deriving DecidableEq, Repr

/-- A comparison of a part of a message with a text. -/
structure Condition where
  combinator : Combinator
  target : Target
  comparator : Comparator
  search : String
  deriving DecidableEq, Repr

/-! ## Names -/

/-- The name of a combinator. -/
def Combinator.name : Combinator → String
  | .and => "and"
  | .or => "or"

/-- The name of a field. -/
def Field.name : Field → String
  | .sender => "from"
  | .to => "to"
  | .cc => "cc"
  | .toOrCc => "to-or-cc"
  | .allAddresses => "all-addresses"
  | .subject => "subject"
  | .body => "body"
  | .date => "date"
  | .junkStatus => "junk-status"

/-- The name of a comparator. -/
def Comparator.name : Comparator → String
  | .contains => "contains"
  | .doesntContain => "doesn't contain"
  | .beginsWith => "begins with"
  | .endsWith => "ends with"
  | .is => "is"
  | .isnt => "isn't"
  | .isBefore => "is before"

/-- Values with their names. -/
def namesOf (name : α → String) (values : List α) : List (String × α) :=
  values.map fun value => (name value, value)

/-- The combinators by name. -/
def Combinator.names : List (String × Combinator) := namesOf Combinator.name [.and, .or]

/-- The fields by name; the mail client writes some names with spaces. -/
def Field.names : List (String × Field) :=
  namesOf Field.name
      [.sender, .to, .cc, .toOrCc, .allAddresses, .subject, .body, .date, .junkStatus] ++
    [("to or cc", .toOrCc), ("all addresses", .allAddresses), ("junk status", .junkStatus)]

/-- The comparators by name. -/
def Comparator.names : List (String × Comparator) :=
  namesOf Comparator.name
    [.contains, .doesntContain, .beginsWith, .endsWith, .is, .isnt, .isBefore]

/-! ## Text -/

/-- A target as it is shown: the name of a field, or a header in quotes. -/
def Target.name : Target → String
  | .field part => part.name
  | .header name => "\"" ++ name ++ "\""

/-- A condition as it is shown. -/
def Condition.text (condition : Condition) : String :=
  "[" ++ condition.combinator.name ++ "] " ++ condition.target.name ++ " " ++
    condition.comparator.name ++ " \"" ++ condition.search ++ "\""

end MailFilters
