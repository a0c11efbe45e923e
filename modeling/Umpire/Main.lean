import Umpire.Trial.Command

/-! The command line: the umpire runs a contest on a fresh host, and what it writes is passed on. -/

open Umpire

/-- The variables of the surroundings that the umpire is to see. -/
def surroundings : IO (List (Bytes × Bytes)) := do
  match ← IO.getEnv "PIPE_LOG" with
  | some value => return [(Program.levelVariable, Bytes.ofString value)]
  | none => return []

/-- Write bytes as they are. -/
def passOn (stream : IO.FS.Stream) (data : Bytes) : IO Unit := do
  stream.write ⟨data.toArray⟩
  stream.flush

/-- Run the umpire with the words of the command line. -/
def main (args : List String) : IO UInt32 := do
  match Trial.Command.umpire (args.map Bytes.ofString) none (← surroundings) [] with
  | some (.ok account, _) =>
    passOn (← IO.getStdout) account.stdout
    passOn (← IO.getStderr) account.stderr
    return UInt32.ofNat account.status.shell
  | some (.error cause, _) =>
    passOn (← IO.getStderr) (Bytes.ofString (cause.message ++ "\n"))
    return 1
  | none =>
    passOn (← IO.getStderr) (Bytes.ofString "no end in sight\n")
    return 1
