import Umpire.Contest

/-! Putting a command line together call by call. -/

namespace Umpire.Rehearsal

/-- The words that run a script with the shell; further words become the script's arguments. -/
def shellWords (script : Bytes) (args : List Bytes) : List Bytes :=
  [Bytes.ofString "/bin/sh", Bytes.ofString "-c", script, Bytes.ofString "sh"] ++ args

/-- The words that run a script with the larger shell, whose scripts may redirect any descriptor. -/
def bashWords (script : Bytes) (args : List Bytes) : List Bytes :=
  [Bytes.ofString "bash", Bytes.ofString "-c", script, Bytes.ofString "bash"] ++ args

/-- A command line in the making. -/
structure Invocation where
  flags : List Bytes := []
  solution : List Bytes := []
  interactor : List Bytes := []
  deriving DecidableEq, Repr

/-- One call that adds to a command line. -/
inductive Addition where
  /-- Name a file by an option; the path is taken as text. -/
  | file (option : Options.FileOption) (path : Bytes)
  /-- Ask for the journal. -/
  | verbose
  /-- Add any one token. -/
  | flag (token : Bytes)
  /-- Set the solution's words. -/
  | solution (words : List Bytes)
  /-- Set the interactor's words. -/
  | interactor (words : List Bytes)
  deriving DecidableEq, Repr

namespace Invocation

/-- The command line after one more call. -/
def add (invocation : Invocation) : Addition → Invocation
  | .file option path =>
    let name := Bytes.ofChars ['-', option.letter]
    { invocation with flags := invocation.flags ++ [name, Bytes.ofChars (Utf8.lossy path)] }
  | .verbose => { invocation with flags := invocation.flags ++ [Bytes.ofString "-v"] }
  | .flag token => { invocation with flags := invocation.flags ++ [token] }
  | .solution words => { invocation with solution := words }
  | .interactor words => { invocation with interactor := words }

/-- The command line that a list of calls makes. -/
def ofAdditions (additions : List Addition) : Invocation :=
  additions.foldl add {}

/-- The tokens after the program's name. -/
def args (invocation : Invocation) : List Bytes :=
  invocation.flags ++ CommandLine.optionsEnd :: invocation.solution ++
    Contest.sidesMark :: invocation.interactor

/-- All tokens, the program's name first. -/
def tokens (invocation : Invocation) : List Bytes :=
  Bytes.ofString "pipe" :: invocation.args

/-- The contest that the command line sets up; a fault is told by its class. -/
def build (invocation : Invocation) : Except String Contest :=
  (Contest.load invocation.tokens).mapError fun fault =>
    "Failed to build valid config from builder: " ++ fault.kind

end Invocation

end Umpire.Rehearsal
