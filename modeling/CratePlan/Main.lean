import CratePlan.Command.Run

/-!
The program itself: it reads the files that a command line speaks of, and prints what comes of them.
-/

namespace CratePlan

/-- What is found at a path of the file system. -/
def readSource (path : String) : IO Command.Source := do
  try
    return .bytes (← IO.FS.readBinFile path)
  catch
    | .noFileOrDirectory .. => return .missing
    | .inappropriateType .. => return .missing
    | _ => return .locked

/-- Runs the program on its arguments. -/
def runProgram (arguments : List String) : IO UInt32 := do
  let paths := (Command.Request.ofArguments? arguments).elim [] Command.Request.paths
  let sources ← paths.mapM fun path => do return (path, ← readSource path)
  let outcome := Command.runArguments (fun path => (sources.lookup path).getD .missing) arguments
  IO.print outcome.output
  IO.eprint outcome.errorOutput
  return outcome.exit.toUInt32

end CratePlan

/-- The program on the arguments of its command line. -/
def main (arguments : List String) : IO UInt32 :=
  CratePlan.runProgram arguments
