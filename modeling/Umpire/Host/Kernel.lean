import Umpire.Host.Call
import Umpire.Host.Node
import Umpire.Host.Registry
import Umpire.Host.Table

/-! The state of the host: files, pipes, open files, processes and the time. -/

namespace Umpire.Host

/-- A pipe, with or without a name. -/
structure Channel where
  /-- What has been written and not been read yet. -/
  contents : Bytes := []
  /-- How often it has been opened for reading, and for writing. -/
  readerOpens : Nat := 0
  writerOpens : Nat := 0
  deriving DecidableEq, Repr

/-- How much a pipe holds, and how much a write is never split up to. -/
def Channel.capacity : Nat := 65536

/-- The longest write that a pipe takes in one piece or not at all. -/
def Channel.whole : Nat := 4096

/-- An open file, which several descriptors may share. -/
structure OpenFile where
  place : Place
  access : Access
  offset : Nat := 0
  deriving DecidableEq, Repr

/-- An opening of a named pipe that waits for the other end to be opened. -/
structure Opening where
  channel : Nat
  access : Access
  /-- How often the other end had been opened before. -/
  seen : Nat
  deriving DecidableEq, Repr

/-- How far a process that was started on an order has come. -/
inductive Start where
  | preparing
  | running
  | refused (cause : Errno)
  deriving DecidableEq, Repr

/-- A process. -/
structure Process where
  parent : Nat
  /-- The process that leads its group; zero for the group of all that are in none of their own. -/
  group : Nat := 0
  table : Table := {}
  directory : Place := .node 0
  /-- The permission bits that its new files do not get. -/
  mask : Nat := 0o022
  environment : List (Bytes × Bytes) := []
  /-- The words of the program that it runs. -/
  words : List Bytes := []
  /-- What it does about signals, where that is not the usual. -/
  actions : List (Nat × Action) := []
  /-- Signals that have not taken effect yet. -/
  pending : List Nat := []
  /-- Signals that are remembered for its program. -/
  remembered : List Nat := []
  stopped : Bool := false
  /-- The time at which its rest is over. -/
  alarm : Option Nat := none
  /-- The process that it has ordered and waits for. -/
  ordered : Option Nat := none
  /-- The opening that it waits for. -/
  opening : Option Opening := none
  start : Start := .running
  /-- Its status once it has ended. -/
  status : Option WaitStatus := none
  deriving Repr

namespace Process

/-- Whether a process has not ended. -/
def isLive (process : Process) : Bool :=
  process.status.isNone

/-- What a process does about a signal. -/
def action (process : Process) (number : Nat) : Action :=
  if Signal.isFree number then (process.actions.lookup number).getD .standard else .standard

/-- The process with what it does about a signal replaced. -/
def setAction (process : Process) (number : Nat) (action : Action) : Process :=
  { process with actions := (number, action) :: process.actions.filter fun known => known.1 != number }

/-- The process as it starts to run another program: remembered signals have their usual effect
again, and descriptors that are not to be kept are gone. -/
def afterExec (process : Process) : Process :=
  { process with
    table := process.table.afterExec
    actions := process.actions.filter fun known => known.2 != .remember
    remembered := []
    start := .running }

end Process

/-- The state of the host. -/
structure Kernel where
  /-- Millionths of a second since the start. -/
  clock : Nat := 0
  nodes : Registry Node := {}
  channels : Registry Channel := {}
  opens : Registry OpenFile := {}
  processes : Registry Process := {}
  deriving Repr

namespace Kernel

/-- The node under which all others are found. -/
def root : Nat := 0

/-- Change one process. -/
def update (kernel : Kernel) (self : Nat) (change : Process → Process) : Kernel :=
  { kernel with processes := kernel.processes.modify self change }

/-- The process with a number. -/
def process? (kernel : Kernel) (self : Nat) : Option Process :=
  kernel.processes.get? self

/-- What a process has open under a number. -/
def slot? (kernel : Kernel) (self fd : Nat) : Option Slot :=
  (kernel.process? self).bind fun process => process.table.get? fd

/-- The open file that a process has under a number. -/
def openFile? (kernel : Kernel) (self fd : Nat) : Option (Nat × OpenFile) :=
  (kernel.slot? self fd).bind fun slot => (kernel.opens.get? slot.file).map fun file => (slot.file, file)

/-- The pipe that a place is an end of. -/
def channelOf (kernel : Kernel) : Place → Option Nat
  | .channel number => some number
  | .node number =>
    match kernel.nodes.get? number with
    | some ⟨.fifo channel, _⟩ => some channel
    | _ => none
  | _ => none

/-- Whether a process holds an end of a pipe, open or about to be: to read or to write. -/
def holdsEnd (kernel : Kernel) (process : Process) (channel : Nat) (wanted : Access → Bool) : Bool :=
  (process.table.files.any fun number =>
    match kernel.opens.get? number with
    | some file => wanted file.access && kernel.channelOf file.place == some channel
    | none => false) ||
  match process.opening with
  | some opening => opening.channel == channel && wanted opening.access
  | none => false

/-- Whether any process holds an end of a pipe. Ends are looked for in the tables, so that a pipe is
left exactly when the last descriptor is gone. -/
def isHeld (kernel : Kernel) (channel : Nat) (wanted : Access → Bool) : Bool :=
  kernel.processes.entries.any fun entry => kernel.holdsEnd entry.2 channel wanted

/-- Whether some process can still write to a pipe. -/
def hasWriter (kernel : Kernel) (channel : Nat) : Bool :=
  kernel.isHeld channel (·.writes)

/-- Whether some process can still read from a pipe. -/
def hasReader (kernel : Kernel) (channel : Nat) : Bool :=
  kernel.isHeld channel (·.reads)

/-- The numbers of a process's children. -/
def children (kernel : Kernel) (self : Nat) : List (Nat × Process) :=
  kernel.processes.entries.filter fun entry => entry.2.parent == self

/-- The kernel after a process has ended, which it does only once. Its descriptors are closed; its
children have no parent any more, and a process without a parent leaves no status behind. -/
def finish (kernel : Kernel) (self : Nat) (status : WaitStatus) : Kernel :=
  match kernel.process? self with
  | none => kernel
  | some process =>
    if !process.isLive then kernel else
    -- Children that have ended already and now have no parent leave no status behind either.
    let isOrphan (entry : Nat × Process) : Bool := entry.2.parent == self
    let orphaned := kernel.processes.entries.filterMap fun entry =>
      if isOrphan entry then
        if entry.2.isLive then some (entry.1, { entry.2 with parent := 0 }) else none
      else some entry
    let left : Kernel := { kernel with processes := { kernel.processes with entries := orphaned } }
    let hasParent := match kernel.process? process.parent with
      | some parent => parent.isLive
      | none => false
    if hasParent then
      left.update self fun ended => { ended with
        table := ended.table.cleared
        opening := none
        alarm := none
        pending := []
        status := some status }
    else { left with processes := left.processes.erase self }

end Kernel

end Umpire.Host
