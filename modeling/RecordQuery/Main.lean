import RecordQuery.CommandLine.Job
import RecordQuery.Reference.Arguments
import RecordQuery.Reference.Engine
import RecordQuery.Reference.Format
import RecordQuery.Reference.LogFilter
/-!
# The program

Reads records line by line from its input, and writes the page that the
arguments ask for. The input is only read once everything else is in order.
-/

namespace RecordQuery

/-- The text of a file, or why it cannot be read. -/
def readText (path : String) : IO (Except String String) := do
  try return .ok (← IO.FS.readFile path)
  catch e => return .error (toString e)

/-- All that is left in a stream, behind what has been read of it. -/
partial def readRest (stream : IO.FS.Stream) (read : ByteArray) : IO ByteArray := do
  let chunk ← stream.read 65536
  if chunk.isEmpty then return read
  readRest stream (read ++ chunk)

/-- The variables of the environment that are looked up. -/
def readEnvironment : IO (String → Option String) := do
  let values ← Config.variableNames.mapM fun name => return (name, ← IO.getEnv name)
  return fun name => (values.lookup name).join

/-- The surroundings of the program. -/
def surroundings : Surroundings IO where
  environment := readEnvironment
  file := readText
  input := do readRest (← IO.getStdin) .empty

/-- What is reported of an outcome. The causes of a failure stand below it, and a line that
was refused has a report of its own. -/
def reportOf (outcome : Outcome) : String :=
  match outcome.errors with
  | [] => ""
  | first :: causes =>
    if outcome.status ≠ 1 then first ++ "\n"
    else
      "Error: " ++ first ++ "\n" ++
        (if causes.isEmpty then "" else
          "\nCaused by:\n" ++ joined "" (causes.map fun cause => "    " ++ cause ++ "\n"))

/-- Writes what there is to write, and ends with the status. -/
def conclude (outcome : Outcome) : IO UInt32 := do
  (← IO.getStdout).putStr outcome.output
  (← IO.getStderr).putStr (reportOf outcome)
  return outcome.status

section

open Reference

/-- Carries out a command line. -/
def carryOut (line : List String) : IO UInt32 := do
  conclude (← Outcome.ofLineIn surroundings line)

end

end RecordQuery

/-- The program. -/
def main (line : List String) : IO UInt32 := RecordQuery.carryOut line
