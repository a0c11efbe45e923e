import Umpire.Host.Transfer
import Umpire.Trial.Ground

/-! Trials of whole programs: one is run with some words, and what it writes is gathered. -/

namespace Umpire.Trial.Command

open Host

/-- What a finished program has left. -/
structure Account where
  status : WaitStatus
  stdout : Bytes
  stderr : Bytes
  deriving DecidableEq, Repr

/-- Where a program's output goes: to a file that is opened before and written over from its start,
or to a new pipe. -/
def outputEnds (path : Option Bytes) : Talk (Except Errno (Nat × Option Nat)) := do
  match path with
  | some path =>
    match ← call (.openFile path { Access.writing with truncate := false } true) with
    | .error errno => return .error errno
    | .ok fd => return .ok (fd, none)
  | none =>
    match ← call .pipe with
    | .error errno => return .error errno
    | .ok (readEnd, writeEnd) => return .ok (writeEnd, some readEnd)

/-- Read all that comes through an end, if there is one. -/
def gather (fd : Option Nat) : Talk Bytes := do
  match fd with
  | none => return []
  | some fd => return (← readAll fd).toOption.getD []

/-- Run a program to its end. -/
def run (words : List Bytes) (stdoutPath : Option Bytes) : Talk (Except IoFault Account) := do
  match ← outputEnds stdoutPath with
  | .error errno => return .error (.host errno)
  | .ok (stdout, fromStdout) =>
    match ← outputEnds none with
    | .error errno => return .error (.host errno)
    | .ok (stderr, fromStderr) =>
      match ← call (.spawn { words, stdout := some stdout, stderr := some stderr }) with
      | .error cause => return .error cause
      | .ok child =>
        -- Only the program may hold the ends to be written, or they would never hang up.
        let _ ← call (.close stdout)
        let _ ← call (.close stderr)
        let written ← gather fromStdout
        let complained ← gather fromStderr
        match ← call (.reap (some child) true) with
        | .ok (some (_, status)) => return .ok ⟨status, written, complained⟩
        | .ok none => return .error (.host Errno.noChild)
        | .error errno => return .error (.host errno)

/-- Run a program with some words, the program itself being the first, in an environment with some
more variables. -/
def trial (words : List Bytes) (stdoutPath : Option Bytes) (additions : List (Bytes × Bytes))
    (fixtures : List Fixture) : Option (Except IoFault Account × List Leaf) :=
  onGround fixtures additions (run words stdoutPath)

/-- Run the umpire with some arguments. -/
def umpire (args : List Bytes) (stdoutPath : Option Bytes) (additions : List (Bytes × Bytes))
    (fixtures : List Fixture) : Option (Except IoFault Account × List Leaf) :=
  trial (Setup.privateProgram :: args) stdoutPath additions fixtures

end Umpire.Trial.Command
