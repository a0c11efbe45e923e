import Umpire.Text.Bytes

/-! Orders to start a program: its words, and what the three standard streams are to be that every process starts
with. -/

namespace Umpire

/-- A standard stream of a process. -/
inductive Stream where
  | stdin
  | stdout
  | stderr
  deriving DecidableEq, Repr

namespace Stream

/-- The streams in the order in which they are redirected. -/
def all : List Stream :=
  [.stdin, .stdout, .stderr]

/-- The descriptor number of the stream. -/
def fd : Stream → Nat
  | .stdin => 0
  | .stdout => 1
  | .stderr => 2

/-- The word for the stream. -/
def name : Stream → String
  | .stdin => "stdin"
  | .stdout => "stdout"
  | .stderr => "stderr"

/-- The word for the stream as journals print it. -/
def label : Stream → String
  | .stdin => "Stdin"
  | .stdout => "Stdout"
  | .stderr => "Stderr"

end Stream

end Umpire

namespace Umpire.Host

/-- How a file is opened. -/
structure Access where
  reads : Bool := false
  writes : Bool := false
  /-- Make the file if it does not exist. -/
  create : Bool := false
  /-- Empty the file. -/
  truncate : Bool := false
  /-- Write at the end, wherever that is. -/
  append : Bool := false
  deriving DecidableEq, Repr

namespace Access

/-- Read a file that exists. -/
def reading : Access :=
  { reads := true }

/-- Write a file from its start, whether it exists or not. -/
def writing : Access :=
  { writes := true, create := true, truncate := true }

/-- Write after the end of a file, whether it exists or not. -/
def appending : Access :=
  { writes := true, create := true, append := true }

/-- Read and write a file that exists. -/
def both : Access :=
  { reads := true, writes := true }

end Access

/-- A file that is to be opened and put in the place of a standard stream. -/
structure Redirect where
  stream : Stream
  path : Bytes
  deriving DecidableEq, Repr

/-- Input is read; either output is written from the start of a file that is made if need be. -/
def Redirect.access (redirect : Redirect) : Access :=
  match redirect.stream with
  | .stdin => Access.reading
  | .stdout | .stderr => Access.writing

/-- A program to start, and what becomes of its standard streams; one without a descriptor stays
what it is for the process that gives the order. -/
structure Order where
  /-- The program, then its arguments. -/
  words : List Bytes
  stdin : Option Nat := none
  stdout : Option Nat := none
  stderr : Option Nat := none
  /-- Files to be opened by the new process, after the streams above are in place. -/
  redirects : List Redirect := []
  deriving DecidableEq, Repr

end Umpire.Host
