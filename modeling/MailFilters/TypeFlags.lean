import MailFilters.Bits
import MailFilters.RuleError

/-!
# Type flags

The type of a rule is a bit mask that says when the rule runs.  Some flags are unions of others.

* **`FlagTable`** — named flags in order; a name is listed once.
* **`FlagTable.cover`** — a mask as a list of flags, the flags with most bits tried first.
* **`typeFlags`** — the flags of rules.
-/

namespace MailFilters

/-- Named flags, in order. -/
abbrev FlagTable := List (String × Int)

namespace FlagTable

/-- Gives a name a flag: a listed name keeps its place, another one comes last. -/
def insert (name : String) (flag : Int) : FlagTable → FlagTable
  | [] => [(name, flag)]
  | entry :: rest =>
    if entry.1 = name then (name, flag) :: rest else entry :: insert name flag rest

/-- The table in which names are given flags one after the other. -/
def ofList (entries : List (String × Int)) : FlagTable :=
  entries.foldl (fun table entry => insert entry.1 entry.2 table) []

/-- Whether a flag is tried before another: it has more bits, or as many and a smaller value. -/
def triedBefore (a b : String × Int) : Bool :=
  bitCount b.2 < bitCount a.2 || (bitCount a.2 == bitCount b.2 && a.2 ≤ b.2)

/-- The flags that are not zero, in the order in which they are tried. -/
def byWidth (table : FlagTable) : FlagTable :=
  (table.filter fun entry => entry.2 != 0).mergeSort triedBefore

/-- Takes the flags that lie in `remaining` one after the other; gives their names and the bits
that are left. -/
def take (remaining : Int) : FlagTable → List String × Int
  | [] => ([], remaining)
  | (name, flag) :: rest =>
    if bitAnd remaining flag = flag then
      let (names, left) := take (bitClear remaining flag) rest
      (name :: names, left)
    else take remaining rest

/-- A mask as names of flags.  Zero is the first flag that is zero, or no flag at all. -/
def cover (table : FlagTable) (value : Int) : Except RuleError (List String) :=
  if value = 0 then
    .ok ((table.find? fun entry => entry.2 == 0).map (·.1)).toList
  else
    let (names, left) := take value (byWidth table)
    if left = 0 then .ok names else .error (.unsupportedType value)

end FlagTable

/-- The flags of rules: on arrival in the inbox or from a news group, with or without a script,
by hand, after the junk filter, after sending, before archiving, and at intervals. -/
def typeFlags : FlagTable :=
  [("NONE", 0x00), ("INBOX_RULE", 0x01), ("INBOX_JAVASCRIPT", 0x02), ("INBOX", 0x03),
   ("NEWS_RULE", 0x04), ("NEWS_JAVASCRIPT", 0x08), ("NEWS", 0x0C), ("INCOMING", 0x0F),
   ("MANUAL", 0x10), ("POST_PLUGIN", 0x20), ("POST_OUTGOING", 0x40), ("ARCHIVE", 0x80),
   ("PERIODIC", 0x100), ("ALL", 0x1F)]

end MailFilters
