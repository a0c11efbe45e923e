import Umpire.Text.Bytes

/-! Nodes: the files, directories and other things that the host keeps under names. -/

namespace Umpire.Host

/-- Devices that have no contents of their own. -/
inductive Device where
  /-- Takes all bytes and has none. -/
  | null
  /-- Takes all bytes and has zeros without end. -/
  | zero
  /-- Takes no bytes and has zeros without end. -/
  | full
  deriving DecidableEq, Repr

/-- What a node is. -/
inductive Body where
  | file (data : Bytes)
  /-- A directory, its parent, and the nodes under its names. -/
  | directory (parent : Nat) (entries : List (Bytes × Nat))
  /-- A named pipe and its channel. -/
  | fifo (channel : Nat)
  | link (target : Bytes)
  | device (device : Device)
  /-- A program that the host provides. -/
  | tool (name : String)
  deriving DecidableEq, Repr

/-- A node with its permission bits. -/
structure Node where
  body : Body
  mode : Nat
  deriving DecidableEq, Repr

/-- What the files tell that there are for a process. -/
inductive Account where
  | status
  /-- The name of its program. -/
  | name
  /-- The words that its program was run with. -/
  | words
  | environment
  deriving DecidableEq, Repr

/-- The name of the file. -/
def Account.file : Account → String
  | .status => "status"
  | .name => "comm"
  | .words => "cmdline"
  | .environment => "environ"

/-- The files that there are for a process. -/
def Account.all : List Account :=
  [.words, .name, .environment, .status]

/-- Where a path has led. -/
inductive Place where
  | node (number : Nat)
  /-- A pipe that has no name, reached through a process's descriptor. -/
  | channel (number : Nat)
  /-- The directory of all processes. -/
  | processes
  /-- The directory of one process. -/
  | process (number : Nat)
  /-- The directory of a process's descriptors. -/
  | descriptors (process : Nat)
  /-- The link that stands for a descriptor. -/
  | descriptor (process fd : Nat)
  /-- The link that stands for the directory in which a process works. -/
  | workplace (process : Nat)
  /-- A file that tells of a process. -/
  | account (process : Nat) (told : Account)
  deriving DecidableEq, Repr

namespace Path

/-- The names of a path, in order; repeated slashes count as one. -/
def names (path : Bytes) : List Bytes :=
  (path.splitOn (Bytes.ascii '/')).filter fun name => !name.isEmpty

/-- Whether a path starts at the root. -/
def isAbsolute (path : Bytes) : Bool :=
  path.head? == some (Bytes.ascii '/')

/-- Whether a path ends with a slash, which asks for a directory. -/
def asksDirectory (path : Bytes) : Bool :=
  path.getLast? == some (Bytes.ascii '/')

end Path

end Umpire.Host
