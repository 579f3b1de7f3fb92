import RouteFeed.CommandLine.Run
import Std.Time.DateTime.Timestamp

/-! The program. The reply of the live feed is read from the standard input, and the archive
library is not at hand. -/
namespace RouteFeed.Program

open CommandLine

def environment : IO (Named String) :=
  Settings.Field.all.filterMapM fun f => do
    return (← IO.getEnv f.variableName).map fun value => (f.variableName, value)

def readFile? (path : String) : IO (Option String) := do
  try
    return some (← IO.FS.readFile path)
  catch _ =>
    return none

partial def readAll (stream : IO.FS.Stream) (bytes : ByteArray) : IO ByteArray := do
  let more ← stream.read 65536
  if more.isEmpty then return bytes else readAll stream (bytes ++ more)

/-- Whether a command line retrieves from the live feed. -/
def readsFeed (s : Settings) (argv : List String) : Bool :=
  let idle : Surroundings := { library := {}, server := .replies {}, clock := fun _ => 0 }
  match request s (s.registry idle) argv with
  | .ok (.retrieval session _) => session.backendName.toOption == some Live.project
  | _ => false

/-- What the sources of a command line work with. -/
def surroundings (s : Settings) (argv : List String) : IO Surroundings := do
  let bytes ← if readsFeed s argv then readAll (← IO.getStdin) .empty else pure .empty
  let now ← Std.Time.Timestamp.now
  return {
    library := { installed := false }
    server := .replies { body := [.bytes (bytes.toList.map UInt8.toNat)] }
    clock := fun _ => now.toSecondsSinceUnixEpoch.val }

/-- Write what a run leaves behind, and give its exit code. -/
def finish (s : Settings) (run : Run AnySource) : IO UInt32 := do
  let errors ← IO.getStderr
  IO.print (linesText run.output)
  errors.putStr (linesText ((run.log.from s.logLevel).map (LogEntry.line s.logLayout)))
  errors.putStr run.errors
  match run.exit with
  | .success => return 0
  | .failure | .never => return 255
  | .escaped f =>
    errors.putStr (f.message ++ "\n")
    return 1

/-- Run a command line with the settings of the environment. -/
def runMain (argv : List String) : IO UInt32 := do
  let origins : Settings.Origins := {
    environment := ← environment, file := ← readFile? ".env" }
  match Settings.load origins with
  | .error refusals => finish {} (misconfigured refusals)
  | .ok s => finish s (run s (s.registry (← surroundings s argv)) argv)

end RouteFeed.Program

def main (argv : List String) : IO UInt32 := RouteFeed.Program.runMain argv
