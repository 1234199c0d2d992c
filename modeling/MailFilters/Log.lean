/-!
# Log

What a run tells about itself, line by line.
-/

namespace MailFilters

/-- How much a line of the log matters. -/
inductive LogLevel
  | debug
  | info
  | warning
  | error
  deriving DecidableEq, Repr

/-- The rank of a level. -/
def LogLevel.rank : LogLevel → Nat
  | .debug => 0
  | .info => 1
  | .warning => 2
  | .error => 3

/-- The name of a level. -/
def LogLevel.name : LogLevel → String
  | .debug => "DEBUG"
  | .info => "INFO"
  | .warning => "WARNING"
  | .error => "ERROR"

/-- A line of the log. -/
structure LogEntry where
  level : LogLevel
  text : String
  deriving DecidableEq, Repr

/-- The lines of a log, oldest first. -/
abbrev Log := List LogEntry

/-- The lines of a log that matter at least as much as a level. -/
def Log.atLeast (level : LogLevel) (log : Log) : Log :=
  log.filter fun entry => level.rank ≤ entry.level.rank

end MailFilters
