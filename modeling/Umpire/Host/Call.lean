import Umpire.Dialogue
import Umpire.Host.Order
import Umpire.Host.Signal
import Umpire.Fault
import Umpire.WaitStatus

/-! Calls: what a process asks of its host, and what it is answered. -/

namespace Umpire.Host

/-- The kinds of things that a path can lead to. -/
inductive Kind where
  | file
  | directory
  | fifo
  | link
  | device
  deriving DecidableEq, Repr

/-- What the host tells of the thing that a path leads to. -/
structure Info where
  kind : Kind
  /-- The permission bits. -/
  mode : Nat
  /-- How many bytes it has. -/
  size : Nat
  /-- The number that tells it from all other things, whatever their names are. -/
  identity : Nat := 0
  /-- How many names it has. -/
  names : Nat := 1
  deriving DecidableEq, Repr

/-- The new thing that a path is to lead to. -/
inductive Novelty where
  | file (data : Bytes)
  | directory
  | fifo
  | link (target : Bytes)
  deriving DecidableEq, Repr

/-- A call on the host. -/
inductive Call where
  /-- Make a pipe; both its ends go away when another program is run. -/
  | pipe
  /-- Open the file at a path. -/
  | openFile (path : Bytes) (access : Access) (closeOnExec : Bool)
  | close (fd : Nat)
  /-- Let a second number stand for the same open file. -/
  | duplicateTo (fd target : Nat)
  /-- Let the lowest free number from `least` on stand for the same open file. -/
  | duplicateFrom (fd least : Nat) (closeOnExec : Bool)
  /-- Ask whether a descriptor goes away when another program is run. -/
  | closeOnExec (fd : Nat)
  | setCloseOnExec (fd : Nat) (flag : Bool)
  /-- Read at most so many bytes, none at the end. -/
  | read (fd count : Nat)
  /-- Go back in a file by so many bytes, so that they are read once more. -/
  | goBack (fd count : Nat)
  /-- Write bytes; the answer is how many were taken. -/
  | write (fd : Nat) (data : Bytes)
  /-- Ask what a path leads to; the last link is followed if wanted. -/
  | info (path : Bytes) (follow : Bool)
  /-- The names in a directory. -/
  | list (path : Bytes)
  | readLink (path : Bytes)
  /-- Make something at a path where nothing is yet; the mask takes bits from its mode. -/
  | create (path : Bytes) (novelty : Novelty) (mode : Nat)
  | setMode (path : Bytes) (mode : Nat)
  | remove (path : Bytes)
  | removeDirectory (path : Bytes)
  | rename (path target : Bytes)
  /-- Let a second name stand for the thing that a path leads to. -/
  | link (path target : Bytes)
  | enterDirectory (path : Bytes)
  /-- Set the permission bits that new files do not get; the answer is the mask so far. -/
  | setMask (mask : Nat)
  /-- Set from which number on descriptors cannot be had; the answer is the bound so far. -/
  | setLimit (limit : Nat)
  /-- Go on as two processes; the new one is answered none. -/
  | fork
  /-- Run another program in this process, with words and an environment; answered only if it fails. -/
  | exec (path : Bytes) (words : List Bytes) (environment : List (Bytes × Bytes))
  /-- Start a program as told and wait until it runs or has failed to. -/
  | spawn (order : Order)
  /-- Tell the process that gave the order why the program cannot run, and end. -/
  | giveUp (errno : Errno)
  /-- Take the status of one child, or of any; wait for it to end if wanted. -/
  | reap (child : Option Nat) (wait : Bool)
  | signal (process number : Nat)
  /-- Become the first of a new group of processes, to which those started later belong as well. -/
  | leadGroup
  /-- Send a signal to the group that a process leads; zero means the own one. -/
  | signalGroup (leader number : Nat)
  /-- Choose what is done about a signal. -/
  | setAction (number : Nat) (action : Action)
  /-- Ask what is done about a signal. -/
  | action (number : Nat)
  /-- The next signal that was remembered. -/
  | takeSignal
  /-- Let time pass, in millionths of a second. -/
  | sleep (micros : Nat)
  /-- The numbers of this process and of its parent. -/
  | identity
  /-- The words that this program was run with, its own name being the first. -/
  | words
  | environment
  /-- The time since the host was started, in millionths of a second. -/
  | clock
  /-- Have a read end watched for its hang-up. -/
  | watch (fd : Nat)
  /-- Wait until one of some watched read ends has hung up, or for so long at most; the answer is
  which have. -/
  | hangUp (ends : List Nat) (patience : Option Nat)
  deriving DecidableEq, Repr

namespace Call

/-- The answer to each call. -/
abbrev Answer : Call → Type
  | .pipe => Except Errno (Nat × Nat)
  | .openFile .. | .duplicateFrom .. | .write .. => Except Errno Nat
  | .close _ | .duplicateTo .. | .setCloseOnExec .. | .setMode .. | .create .. | .remove _
  | .removeDirectory _ | .rename .. | .link .. | .enterDirectory _ | .signal .. | .setAction .. | .sleep _
  | .watch _ | .goBack .. | .leadGroup | .signalGroup .. => Except Errno Unit
  | .closeOnExec _ => Except Errno Bool
  | .read .. | .readLink _ => Except Errno Bytes
  | .info .. => Except Errno Info
  | .list _ => Except Errno (List Bytes)
  | .setMask _ | .setLimit _ | .clock => Nat
  | .fork => Except Errno (Option Nat)
  | .exec .. => Errno
  | .spawn _ => Except IoFault Nat
  | .giveUp _ => Unit
  | .reap .. => Except Errno (Option (Nat × WaitStatus))
  | .action _ => Action
  | .takeSignal => Option Nat
  | .identity => Nat × Nat
  | .words => List Bytes
  | .environment => List (Bytes × Bytes)
  | .hangUp .. => Except (Nat × Errno) (List Bool)

/-- The vocabulary of processes. -/
abbrev vocabulary : Signature :=
  ⟨Call, Answer⟩

end Call

/-- What a process does: it calls on its host until it has a result. -/
abbrev Talk (α : Type) := Dialogue Call.vocabulary α

/-- Make one call. -/
abbrev call (wanted : Call) : Talk wanted.Answer :=
  Dialogue.request (S := Call.vocabulary) wanted

end Umpire.Host
