import MailFilters.Recipient
import MailFilters.Text.Quoted

/-!
# Command line

The arguments of the program.  A long option may be cut short as long as it stays the only one, and
its value may follow behind an equals sign.

* **`classify`** — what an argument is by itself.
* **`readArguments`** — the options that arguments set, or that help is asked for.
* **`UsageError.message`** — what is wrong with arguments.

Arguments are told apart first, all of them; then they are taken in order, and asking for help ends
that at once.  The short option for help may be repeated in one argument, and takes no value.
-/

namespace MailFilters.CommandLine

/-- An option of the program. -/
inductive Flag
  | help
  | rulesFile
  | dryRun
  | showRules
  | verbose
  deriving DecidableEq, Repr

/-- The spellings of options, in the order in which they are listed. -/
def spellings : List (String × Flag) :=
  [("-h", .help), ("--help", .help), ("--rules-file", .rulesFile), ("--dry-run", .dryRun),
   ("--show", .showRules), ("--verbose", .verbose)]

/-- An option as errors name it. -/
def Flag.title : Flag → String
  | .help => "-h/--help"
  | .rulesFile => "--rules-file"
  | .dryRun => "--dry-run"
  | .showRules => "--show"
  | .verbose => "--verbose"

/-- What is wrong with arguments. -/
inductive UsageError
  | ambiguous (argument : String) (candidates : List String)
  | unwantedValue (flag : Flag) (value : String)
  | missingValue (flag : Flag)
  | missingRulesFile
  | unrecognized (arguments : List String)
  deriving DecidableEq, Repr

/-- The wording of a usage error. -/
def UsageError.message : UsageError → String
  | .ambiguous argument candidates =>
    "ambiguous option: " ++ argument ++ " could match " ++ Text.joined ", " candidates
  | .unwantedValue flag value =>
    "argument " ++ flag.title ++ ": ignored explicit argument " ++ Text.quoted value
  | .missingValue flag => "argument " ++ flag.title ++ ": expected one argument"
  | .missingRulesFile => "the following arguments are required: --rules-file"
  | .unrecognized arguments => "unrecognized arguments: " ++ Text.joined " " arguments

/-! ## Telling arguments apart -/

/-- What an argument is by itself. -/
inductive Kind
  /-- No option. -/
  | plain
  /-- The mark behind which nothing is an option. -/
  | divider
  /-- An option that the program does not have. -/
  | unknown
  /-- An option, perhaps with a value behind an equals sign. -/
  | long (flag : Flag) (value : Option String)
  /-- The short option for help, and what follows it in the argument. -/
  | short (rest : List Char)
  deriving DecidableEq, Repr

/-- Whether a text is a negative number, perhaps with a line feed behind it. -/
def isNegativeNumber (argument : List Char) : Bool :=
  match dropFinalBreak argument with
  | '-' :: number =>
    match Text.cutAt '.' number with
    | (whole, none) => !whole.isEmpty && whole.all Text.isDigit
    | (whole, some fraction) =>
      whole.all Text.isDigit && !fraction.isEmpty && fraction.all Text.isDigit
  | _ => false

/-- What an argument is that starts like an option but is none of the program. -/
def classifyOther (argument : List Char) : Kind :=
  if isNegativeNumber argument || argument.contains ' ' then .plain else .unknown

/-- What an argument with two hyphens in front is. -/
def classifyLong (argument : String) : Except UsageError Kind :=
  let (name, value) := Text.cutAt '=' argument.toList
  let value := value.map String.ofList
  match spellings.lookup (String.ofList name) with
  | some flag => .ok (.long flag value)
  | none =>
    match spellings.filter fun spelling => name.isPrefixOf spelling.1.toList with
    | [] => .ok (classifyOther argument.toList)
    | [(_, flag)] => .ok (.long flag value)
    | candidates => .error (.ambiguous argument (candidates.map (·.1)))

/-- What an argument is by itself. -/
def classify (argument : String) : Except UsageError Kind :=
  match argument.toList with
  | ['-', '-'] => .ok .divider
  | '-' :: '-' :: _ => classifyLong argument
  | '-' :: 'h' :: rest => .ok (.short rest)
  | '-' :: c :: rest => .ok (classifyOther ('-' :: c :: rest))
  | _ => .ok .plain

/-- What arguments are.  Nothing behind a divider is an option. -/
def classifyAll : List String → Except UsageError (List (String × Kind))
  | [] => .ok []
  | argument :: rest => do
    let kind ← classify argument
    if kind = .divider then
      return (argument, kind) :: rest.map fun argument => (argument, .plain)
    else return (argument, kind) :: (← classifyAll rest)

/-! ## Taking arguments in order -/

/-- The options that arguments set. -/
structure Options where
  /-- The name of the rules file; none if the divider was given in its place. -/
  rulesFile : Option String
  dryRun : Bool := false
  showRules : Bool := false
  verbose : Bool := false
  deriving DecidableEq, Repr

/-- What the arguments so far have set, and which of them were of no use. -/
structure Draft where
  /-- The value of the option for the rules file. -/
  rulesFile : Option String := none
  dryRun : Bool := false
  showRules : Bool := false
  verbose : Bool := false
  unused : List String := []
  deriving DecidableEq, Repr

/-- What arguments ask for. -/
inductive Invocation
  | help
  | run (options : Options)
  deriving DecidableEq, Repr

/-- Switches on an option that takes no value. -/
def Draft.switchOn (draft : Draft) : Flag → Draft
  | .dryRun => { draft with dryRun := true }
  | .showRules => { draft with showRules := true }
  | .verbose => { draft with verbose := true }
  | .help | .rulesFile => draft

/-- Whether a text holds nothing but repetitions of the short option for help; what comes behind
them is a value, and it takes none. -/
def readRepeats : List Char → Except UsageError Unit
  | [] => .ok ()
  | 'h' :: rest => readRepeats rest
  | value => .error (.unwantedValue .help (String.ofList value))

/-- Whether what follows the short option for help is in order: repetitions of it, perhaps behind
an equals sign, which something must follow then. -/
def readShort : List Char → Except UsageError Unit
  | ['='] => .error (.unwantedValue .help "")
  | '=' :: rest => readRepeats rest
  | rest => readRepeats rest

/-- The name of a file that the value of an option gives.  The divider is no name. -/
def fileName? (value : String) : Option String := if value = "--" then none else some value

/-- What a draft comes to at the end of the arguments. -/
def Draft.finish (draft : Draft) : Except UsageError Invocation :=
  match draft.rulesFile with
  | none => .error .missingRulesFile
  | some rulesFile =>
    if draft.unused ≠ [] then .error (.unrecognized draft.unused)
    else .ok (.run
      { rulesFile := fileName? rulesFile, dryRun := draft.dryRun
        showRules := draft.showRules, verbose := draft.verbose })

/-- Adds an argument to those of no use. -/
def Draft.setAside (draft : Draft) (argument : String) : Draft :=
  { draft with unused := draft.unused ++ [argument] }

/-- Takes arguments in order. -/
def Draft.take (draft : Draft) : List (String × Kind) → Except UsageError Invocation
  | [] => draft.finish
  | (_, .long .rulesFile (some value)) :: rest =>
    Draft.take { draft with rulesFile := some value } rest
  | (_, .long .rulesFile none) :: (value, .plain) :: rest =>
    Draft.take { draft with rulesFile := some value } rest
  | (_, .long .rulesFile none) :: _ => .error (.missingValue .rulesFile)
  | (_, .long flag (some value)) :: _ => .error (.unwantedValue flag value)
  | (_, .long .help none) :: _ => .ok .help
  | (_, .long flag none) :: rest => Draft.take (draft.switchOn flag) rest
  | (_, .short value) :: _ => (readShort value).map fun _ => .help
  | (argument, .plain) :: rest | (argument, .divider) :: rest
  | (argument, .unknown) :: rest => Draft.take (draft.setAside argument) rest

/-- What the arguments of the program ask for. -/
def readArguments (arguments : List String) : Except UsageError Invocation := do
  Draft.take {} (← classifyAll arguments)

/-! ## Usage and help -/

/-- How the program is used. -/
def usage : String :=
  "usage: main.py [-h] --rules-file RULES_FILE [--dry-run] [--show] [--verbose]\n"

/-- The help for the program. -/
def help : String :=
  usage ++ "\n" ++
    "Convert a msgFilterRules.dat file into Gmail filters\n" ++ "\n" ++
    "options:\n" ++
    "  -h, --help            show this help message and exit\n" ++
    "  --rules-file RULES_FILE\n" ++
    "                        Path to the msgFilterRules.dat file to convert\n" ++
    "  --dry-run             Compile the filters without creating labels or filters\n" ++
    "  --show                Print the parsed rules and exit\n" ++
    "  --verbose             Log every compiled query\n"

/-- What is printed about a usage error. -/
def complaint (cause : UsageError) : String :=
  usage ++ "main.py: error: " ++ cause.message ++ "\n"

end MailFilters.CommandLine
