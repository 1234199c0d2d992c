import MailFilters.Program.CommandLine
import MailFilters.Program.Convert

/-!
# Runs of the program

* **`run`** — what the program does with its arguments, the files and the account.
* **`RunFailure`** — how it fails without an exit code of its own.
-/

namespace MailFilters

/-- How a run of the program fails. -/
inductive RunFailure
  | conversion (failure : Failure)
  /-- The rules file has no name. -/
  | unnamedFile
  deriving DecidableEq, Repr

/-- The wording for a rules file without a name. -/
def unnamedFileText : String :=
  "stat: path should be string, bytes, os.PathLike or integer, not list"

/-- What a run of the program comes to. -/
structure ProgramRun where
  /-- The exit code, or the failure that ended the run. -/
  exitCode : Except RunFailure Nat
  printed : String := ""
  complained : String := ""
  /-- The level from which lines of the log count. -/
  level : LogLevel := .info
  session : Session

namespace ProgramRun

/-- The lines of the log that a run shows. -/
def log (run : ProgramRun) : Log := run.session.log.atLeast run.level

/-- What a conversion comes to. -/
def ofReport (level : LogLevel) : Except Failure Report × Session → ProgramRun
  | (.ok report, session) =>
    { exitCode := .ok report.exitCode, printed := report.printed, level, session }
  | (.error failure, session) => { exitCode := .error (.conversion failure), level, session }

end ProgramRun

/-- Converts a rules file in a session. -/
def runConversion (files : Document.Files) (options : CommandLine.Options) (session : Session) :
    ProgramRun :=
  let level := if options.verbose then .debug else .info
  match options.rulesFile with
  | none => { exitCode := .error .unnamedFile, level, session }
  | some name =>
    ProgramRun.ofReport level
      (convert files name (if options.dryRun then .dry else .real) options.showRules session)

/-- What the program does with its arguments, the files and the account. -/
def run (arguments : List String) (files : Document.Files) (session : Session) : ProgramRun :=
  match CommandLine.readArguments arguments with
  | .error cause => { exitCode := .ok 2, complained := CommandLine.complaint cause, session }
  | .ok .help => { exitCode := .ok 0, printed := CommandLine.help, session }
  | .ok (.run options) => runConversion files options session

end MailFilters
