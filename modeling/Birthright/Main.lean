import Birthright.Application.Files
import Birthright.Application.Run
import Std.Time.DateTime.Timestamp

/-!
# The program

Reads the variables, the file of assignments in or above the current directory, the fixture and the
clock, runs the application, and prints what came of it. To open sockets is left to the host that
embeds the application: here no address can be listened at.
-/

namespace Birthright

/-- Reads a file, or says why it cannot be read. -/
def readText (path : String) : IO (Except String String) := do
  try return .ok (← IO.FS.readFile path)
  catch
    | .noFileOrDirectory _ _ _ => return .error FileFailure.missing.message
    | .inappropriateType _ 20 _ => return .error FileFailure.notFolder.message
    | .inappropriateType _ _ _ => return .error FileFailure.isFolder.message
    | e => return .error (toString e)

/-- Reads a file in the current directory, or in the nearest directory around it that has one. -/
def readNearest (name : String) : IO (Option String) := do
  let here ← IO.currentDir
  for n in List.range (here.toString.splitOn "/").length do
    let path := String.join (List.replicate n "../") ++ name
    if ← (here / path).pathExists then return (← readText path).toOption
  return none

/-- The variables with the given names. -/
def readVariables (names : List String) : IO Variables := do
  let entries ← names.filterMapM fun name => do return (← IO.getEnv name).map (name, ·)
  return Table.ofList entries

/-- The time. -/
def readClock : IO (Option Calendar.Instant) := do
  let nanoseconds := (← Std.Time.Timestamp.now).toNanosecondsSinceUnixEpoch.val
  return Calendar.Instant.ofUnixTime? (nanoseconds / 1000000000)
    (nanoseconds % 1000000000).toNat

end Birthright

open Birthright

def main (arguments : List String) : IO UInt32 := do
  let assignments := (← readNearest ".env").getD ""
  let names := Configuration.variableNames ++ EnvFile.mentioned assignments
  let vars := EnvFile.load (← readVariables names) assignments
  let path := (Command.ofArguments? arguments).bind Command.fixturePath?
  let file ← match path with
    | some path => readText path
    | none => pure (.error "no file")
  match ← readClock with
  | none =>
    IO.eprintln "application error: io error: the clock is out of range"
    return 1
  | some now =>
    let ending := (Application.run arguments vars now fun _ => file).withoutAddress
    IO.print ending.output
    match ending with
    | .misused => IO.eprint (Topic.text .application)
    | _ => for line in ending.errorLine?.toList do IO.eprintln line
    return ending.exitCode
