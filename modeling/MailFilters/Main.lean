import MailFilters.Program.Run

/-!
# The program

Converts a rules file against an account in memory that starts without labels.
-/

namespace MailFilters

/-- The file with a name, if it can be read. -/
def readBytes (name : String) : IO Document.Files := do
  try
    let bytes ← IO.FS.readBinFile name
    return [(String.ofList (Document.plainName name.toList), bytes.toList)]
  catch _ => return []

/-- Runs the program and shows what it comes to. -/
def runAndShow (arguments : List String) : IO UInt32 := do
  let files ←
    match CommandLine.readArguments arguments with
    | .ok (.run { rulesFile := some name, .. }) => readBytes name
    | _ => pure []
  let result := run arguments files { account := {} }
  IO.print result.printed
  IO.eprint result.complained
  for entry in result.log do
    IO.eprintln (entry.level.name ++ " - " ++ entry.text)
  match result.exitCode with
  | .ok code => return UInt32.ofNat code
  | .error _ => return 1

end MailFilters

/-- Runs the program with its arguments. -/
def main (arguments : List String) : IO UInt32 := MailFilters.runAndShow arguments
