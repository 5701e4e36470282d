import Std.Time.DateTime.Timestamp
import TokenGovernance.CommandLine.Run

/-! # The program

Reads what a run needs, and writes what the run gives.
-/

namespace TokenGovernance.CommandLine

def readFailure : IO.Error → String
  | .noFileOrDirectory .. => "No such file or directory (os error 2)"
  | .permissionDenied .. => "Permission denied (os error 13)"
  | .inappropriateType .. => "Is a directory (os error 21)"
  | .userError _ => "stream did not contain valid UTF-8"
  | other => toString other

def attempt (reading : IO String) : IO (Except String String) := do
  try
    return .ok (← reading)
  catch failure =>
    return .error (readFailure failure)

/-- What a run with the words given can read. -/
def surroundings (words : List String) : IO Surroundings := do
  let stdin ← IO.getStdin
  let stdout ← IO.getStdout
  let input ← if readsInput words then attempt stdin.readToEnd else pure (.ok "")
  let files ← (filesRead words).mapM fun (path : String) => do
    return (path, ← attempt (IO.FS.readFile path))
  let now ← Std.Time.Timestamp.now
  return {
    file := fun path => (files.lookup path).getD (.error "No such file or directory (os error 2)")
    input
    now := now.toMillisecondsSinceUnixEpoch.val
    terminal := ← stdout.isTty }

def conclude : Outcome → IO UInt32
  | .finished exit output errors => do
    (← IO.getStdout).putStr output
    (← IO.getStderr).putStr errors
    return exit
  | .aborted => do
    (← IO.getStderr).putStr "deadline out of range\n"
    return 101

end TokenGovernance.CommandLine

def main (words : List String) : IO UInt32 := do
  TokenGovernance.CommandLine.conclude
    (TokenGovernance.CommandLine.run (← TokenGovernance.CommandLine.surroundings words) words)
