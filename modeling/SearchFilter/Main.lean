import SearchFilter.Command.Run

/-!
# The program

Reads the files that the command line names, runs it, and writes what the run leaves behind.
-/

namespace SearchFilter.Main

/-- The fault that a code of the system stands for; the code may come with a minus sign. -/
def faultOfCode (code : UInt32) : ReadFault :=
  match min code (-code) with
  | 13 => .forbidden
  | 20 => .notDirectory
  | 21 => .directory
  | 36 => .nameTooLong
  | _ => .missing

def readFile (path : Text) : IO (Except ReadFault (List UInt8)) := do
  try
    return .ok (← IO.FS.readBinFile (String.ofList path)).toList
  catch
    | .inappropriateType _ code _ => return .error (faultOfCode code)
    | .invalidArgument _ code _ => return .error (faultOfCode code)
    | .permissionDenied _ code _ => return .error (faultOfCode code)
    | _ => return .error .missing

end SearchFilter.Main

open SearchFilter in
def main (arguments : List String) : IO UInt32 := do
  let environment := (← IO.getEnv "LDAP_FILTER_CONFIG").map String.toList
  let stdout ← IO.getStdout
  let arguments := arguments.map String.toList
  let paths := match Command.Line.ofArguments environment arguments with
    | .ok line => line.paths
    | .error _ => []
  let found ← paths.mapM fun path => return (path, ← Main.readFile path)
  let files : Files := fun path => (found.lookup path).getD (.error .missing)
  let outcome := Command.runArguments environment files (← stdout.isTty) arguments
  stdout.putStr (String.ofList outcome.output)
  (← IO.getStderr).putStr (String.ofList outcome.errors)
  return outcome.exitCode.toUInt32
