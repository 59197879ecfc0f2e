import ScriptMachine.CommandLine.Run

/-!
# The program

Runs the command on the files and the output of the process.
-/

namespace ScriptMachine

/-- The cause behind a failure to read. Its code comes with either sign. -/
def FileError.ofIO (e : IO.Error) : FileError :=
  match e with
  | .noFileOrDirectory .. => .notFound
  | .inappropriateType _ code _ | .invalidArgument _ code _ =>
    match min code (-code) with
    | 20 => .notDirectory
    | 21 => .isDirectory
    | 36 => .nameTooLong
    | _ => .other (toString e)
  | _ => .other (toString e)

namespace Terminal

def process : Terminal IO where
  openFile path := do
    match ← (IO.FS.readBinFile path).toBaseIO with
    | .ok bytes => return .ok bytes.data
    | .error e => return .error (.ofIO e)
  printLine := IO.println

end Terminal

def synopsis : String :=
  "usage: SCRIPT [--script-dir DIR] [--inspect] [--call PROCEDURE]... [--fixed-param N] " ++
    "[--max-ticks N] [--local-variable-count N] [--config-file FILE] [--debug]"

def Exit.tell : Exit → IO Unit
  | .success => return ()
  | .usage .help => IO.println synopsis
  | .usage error => do
    IO.eprintln ("error: " ++ error.message)
    IO.eprintln synopsis
  | .failure report => do
    IO.eprintln ("error: " ++ report.headD "")
    report.tail.forM fun cause => IO.eprintln ("caused by: " ++ cause)

end ScriptMachine

def main (words : List String) : IO UInt32 := do
  let seed ← IO.getRandomBytes 8
  let dice := ScriptMachine.Dice.seeded (.ofNat (ScriptMachine.ofBigEndian seed.toList))
  let exit ← ScriptMachine.CommandLine.run .process dice words
  exit.tell
  return .ofNat exit.code
