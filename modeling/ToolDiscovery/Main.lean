import ToolDiscovery.CommandLine.Run

/-!
# The program

`main` reads the files that its arguments name and writes what comes of them.
-/

namespace ToolDiscovery.CommandLine

/-- Reads a file as a text. -/
def readFileText (path : String) : IO FileText := do
  try
    return FileText.ofBytes (← IO.FS.readBinFile path)
  catch _ => return .error .missing

/-- Does what an invocation asks for. -/
def runInvocation (invocation : Invocation) : IO Result := do
  let tools ← readFileText invocation.toolsPath
  let settings? ← invocation.settingsPath?.mapM readFileText
  return invocation.result tools settings?

end ToolDiscovery.CommandLine

open ToolDiscovery.CommandLine in
/-- Runs the program with its arguments. -/
def main (arguments : List String) : IO UInt32 := do
  let result ← match parse arguments with
    | .ok invocation => runInvocation invocation
    | .error halt => pure (.ofHalt halt)
  (← IO.getStdout).putStr result.output
  (← IO.getStderr).putStr result.errors
  return result.exitCode.toUInt32
