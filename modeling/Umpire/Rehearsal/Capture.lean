import Umpire.Report

/-! What a finished program left behind: its exit code and what it wrote. -/

namespace Umpire.Rehearsal

/-- The exit code of a finished program, none if a signal ended it, and its two outputs. -/
structure Capture where
  exitCode : Option Int32
  stdout : List Char
  stderr : List Char
  deriving DecidableEq, Repr

namespace Capture

/-- The capture of a program whose outputs may not be text. -/
def ofBytes (exitCode : Option Int32) (stdout stderr : Bytes) : Capture :=
  ⟨exitCode, Utf8.lossy stdout, Utf8.lossy stderr⟩

/-- The report that the program printed; else a complaint that shows both outputs. -/
def report (capture : Capture) : Except (List Char) Report :=
  (Report.parse capture.stdout).mapError fun objection =>
    "stdout is not a race report (".toList ++ objection.message.toList ++ ")\nstdout:\n".toList ++
      capture.stdout ++ "\nstderr:\n".toList ++ capture.stderr

end Capture

end Umpire.Rehearsal
