import Umpire.Bout.Run
import Umpire.Host.Transfer
import Umpire.Journal.Verbosity

/-! The umpire as a program: words and an environment in, a report on standard output, and on
standard error the journal and what went wrong. -/

namespace Umpire.Program

open Host

/-- The variable that names the level of the journal. -/
def levelVariable : Bytes :=
  Bytes.ofString "PIPE_LOG"

/-- The level of a contest's journal; a variable that is no text counts as unset. -/
def level (contest : Contest) (environment : List (Bytes × Bytes)) : Level :=
  Verbosity.resolve contest.level contest.verbose
    ((environment.lookup levelVariable).bind Utf8.decode?)

/-- Carry out an act; what is told is written on standard error if its level is admitted. -/
def carryOut (level : Level) : (act : Bout.Act) → Talk act.Answer
  | .call wanted => call wanted
  | .note entry => do
    if level.admits entry.level then
      let time ← call .clock
      let _ ← writeAll 2 (Bytes.ofChars (entry.line time))

/-- Complain of a fault; the answer is the program's code. -/
def complain (fault : Fault) : Talk Nat := do
  let _ ← writeAll 2 (Bytes.ofString ("pipe ERROR: " ++ fault.message ++ "\n"))
  return 1

/-- Write what is in the buffer in as many calls as it takes, up to a bound; a signal does not break it off
as long as there are calls left. What is left comes with the cause if it cannot be written. If nothing can
ever be written there, it counts as written. -/
def writeBuffer : Nat → Bytes → Talk (Except (IoFault × Bytes) Unit)
  | 0, buffer => return .error (.host Errno.interrupted, buffer)
  | fuel + 1, buffer => do
    if buffer.isEmpty then return .ok ()
    else
      match ← call (.write 1 buffer) with
      -- A write that takes nothing would go on for ever.
      | .ok 0 => return .error (.worded "failed to write the buffered data", buffer)
      | .ok count => writeBuffer fuel (buffer.drop count)
      | .error errno =>
        if errno = Errno.interrupted then writeBuffer fuel buffer
        -- Standard output is closed, and nobody can have expected anything there.
        else if errno = Errno.badDescriptor then return .ok ()
        else return .error (.host errno, buffer)

/-- Write all that is in the buffer. -/
def flush (buffer : Bytes) : Talk (Except (IoFault × Bytes) Unit) :=
  writeBuffer (2 * buffer.length + patience) buffer

/-- Write lines one by one, up to the first that is not taken. -/
def writeLines : List (List Char) → Talk (Except (IoFault × Bytes) Unit)
  | [] => return .ok ()
  | line :: rest => do
    match ← flush (Bytes.ofChars line) with
    | .error stuck => return .error stuck
    | .ok () => writeLines rest

/-- Write a report; the answer is the program's code. -/
def deliver (report : Report) : Talk Nat := do
  match ← writeLines report.lines with
  | .ok () => return 0
  | .error (cause, buffer) =>
    let code ← complain (.io cause)
    -- What is left in the buffer is tried once more at the end, whatever comes of it.
    let _ ← flush buffer
    return code

/-- Run a contest and write its report. -/
def play (contest : Contest) : Talk Nat := do
  let environment ← call .environment
  -- The journal is written while the bout runs, not gathered.
  match ← (Bout.run contest).answerWith (carryOut (level contest environment)) with
  | .error fault => complain fault
  | .ok report => deliver report

/-- The program. A write that nobody can read does not end it, and whether a text that was asked for
can be written does not matter. -/
def run (words : List Bytes) : Talk Nat := do
  -- A failed write has to come back as a fault.
  let _ ← call (.setAction Signal.pipe .ignore)
  match Contest.load words with
  | .ok contest => play contest
  | .error (.usage complaint) =>
    match complaint.request? with
    | some shown =>
      let _ ← writeAll 1 (Bytes.ofString shown)
      return 0
    | none => complain (.usage complaint)
  | .error fault => complain fault

end Umpire.Program
