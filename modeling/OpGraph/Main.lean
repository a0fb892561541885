import OpGraph.CommandLine.Run

/-!
# The command

Reads the file that the arguments name, runs the command and prints what it gives.
-/
open OpGraph CommandLine

def printLines (stream : IO.FS.Stream) (lines : List String) : IO Unit :=
  lines.forM fun line => stream.putStrLn line

/-- What the file is that the arguments name. -/
def readNamedFile (arguments : List String) : IO PathTarget := do
  match parse arguments with
  | .ok (.run file _ _ _) =>
    try
      return .file (← IO.FS.readFile file)
    catch
      | .inappropriateType .. => return .directory
      | _ => return .missing
  | _ => return .missing

def main (arguments : List String) : IO UInt32 := do
  let _reader : DescriptionReader := .plain
  let target ← readNamedFile arguments
  let outcome := run ⟨arguments, ← IO.getEnv "NNOP_DIALECT", fun _ => target⟩
  printLines (← IO.getStdout) outcome.output
  printLines (← IO.getStderr) outcome.messages
  match outcome.ending with
  | .exit code => return code.toUInt32
  | .escaped failure =>
    (← IO.getStderr).putStrLn ((failure.message).getD "failed")
    return 1
