import Umpire.Bout.Run
import Umpire.Proofs.Dialogue

/-! The chronicle of a bout: what its exchanges come to, told from the acts and their answers alone, and the
rules by which the next act is judged. Nothing is known of the host, so that whatever holds of a chronicle
holds for every pattern of failures. -/

namespace Umpire.Bout

/-- The side that is dealt with after so many. -/
def sideAfter : Nat → Side
  | 0 => .solution
  | _ => .interactor

/-- What a bout's exchanges have come to. -/
structure Chronicle where
  /-- How many read ends were given to be watched. -/
  watched : Nat := 0
  /-- The orders that were given, each with its answer. -/
  orders : List (Host.Order × Except IoFault Nat) := []
  /-- The side that was found to have hung up first. -/
  winner : Side := .solution
  /-- How many statuses were asked for. -/
  asked : Nat := 0
  /-- The statuses that were taken, each with its process. -/
  reaped : List (Nat × WaitStatus) := []
  /-- The processes that were started and have been neither reaped nor killed since. -/
  running : List Nat := []
  /-- The descriptors that were made. -/
  made : List Nat := []
  /-- Those that have not been closed since. -/
  inHand : List Nat := []
  /-- What went wrong, in the order in which it did. -/
  faults : List Fault := []

namespace Chronicle

/-- The chronicle with more descriptors. -/
def gain (chronicle : Chronicle) (fds : List Nat) : Chronicle :=
  { chronicle with made := chronicle.made ++ fds, inHand := chronicle.inHand ++ fds }

/-- The chronicle once some descriptors are closed. -/
def close (chronicle : Chronicle) (fds : List Nat) : Chronicle :=
  { chronicle with inHand := chronicle.inHand.filter fun fd => !fds.contains fd }

/-- The chronicle once the status of a process has been taken. -/
def reap (chronicle : Chronicle) (pid : Nat) (status : WaitStatus) : Chronicle :=
  { chronicle with
    asked := chronicle.asked + 1
    reaped := chronicle.reaped ++ [(pid, status)]
    running := chronicle.running.erase pid }

/-- The side whose status is asked for next: the winner's comes first. -/
def due (chronicle : Chronicle) : Side :=
  if chronicle.asked = 0 then chronicle.winner else chronicle.winner.other

/-- The fault of an act that failed. A path that cannot be looked at, a descriptor that cannot be closed and
a process that cannot be signalled are none. -/
def fault? (chronicle : Chronicle) : (act : Act) → act.Answer → Option Fault
  | .call .pipe, .error errno => some (.os "pipe failed" errno)
  | .call (.watch _), .error errno => some (.watch (sideAfter chronicle.watched) (.host errno))
  | .call (.openFile ..), .error errno => some (.io (.host errno))
  | .call (.closeOnExec _), .error errno => some (.os "fcntl(F_GETFD) failed" errno)
  | .call (.setCloseOnExec ..), .error errno => some (.os "fcntl(F_SETFD) failed" errno)
  | .call (.spawn _), .error cause => some (.launch (sideAfter chronicle.orders.length) cause)
  | .call (.hangUp ends _), .error (fd, errno) =>
    some (.watch (if ends.head? = some fd then .solution else .interactor) (.host errno))
  | .call (.reap ..), .error errno => some (.wait chronicle.due (.host errno))
  -- A call that waits always brings a status with it.
  | .call (.reap ..), .ok none => some (.wait chronicle.due (.host Errno.noChild))
  | _, _ => none

/-- What an answered act changes, what went wrong apart. -/
def changed (chronicle : Chronicle) : (act : Act) → act.Answer → Chronicle
  | .call .pipe, .ok (readEnd, writeEnd) => chronicle.gain [readEnd, writeEnd]
  | .call (.openFile ..), .ok fd => chronicle.gain [fd]
  -- The number is free afterwards even if closing it fails.
  | .call (.close fd), _ => chronicle.close [fd]
  | .call (.watch _), _ => { chronicle with watched := chronicle.watched + 1 }
  | .call (.spawn order), started =>
    { chronicle with
      orders := chronicle.orders ++ [(order, started)]
      running := chronicle.running ++ started.toOption.toList }
  | .call (.hangUp ..), .ok hungUp =>
    { chronicle with winner := if hungUp.headD false then .solution else .interactor }
  | .call (.reap (some pid) _), .ok (some (_, status)) => chronicle.reap pid status
  | .call (.reap ..), _ => { chronicle with asked := chronicle.asked + 1 }
  | .call (.signal pid number), _ =>
    if number = Host.Signal.kill then { chronicle with running := chronicle.running.erase pid } else chronicle
  | _, _ => chronicle

/-- The chronicle after an act was answered. -/
def after (chronicle : Chronicle) (act : Act) (answer : act.Answer) : Chronicle :=
  match chronicle.fault? act answer with
  | none => chronicle.changed act answer
  | some fault => { chronicle.changed act answer with faults := chronicle.faults ++ [fault] }

/-- The chronicle of some exchanges. -/
def ofEvents (events : List (Answered Act.vocabulary)) : Chronicle :=
  Answered.digest (S := Act.vocabulary) after {} events

/-- An order is a side's: its words are the side's with the number of a descriptor that was made, and its
files are the side's. -/
structure Fits (contest : Contest) (made : List Nat) (side : Side) (order : Host.Order) : Prop where
  words : ∃ fd ∈ made, order.words = ((contest.contestant side).bind (Int32.ofNat fd)).words
  redirects : (contest.contestant side).redirects = .ok order.redirects

/-- An order may be given: it is the solution's if it is the first, and the interactor's if the solution has
been started. -/
inductive MayStart (contest : Contest) (chronicle : Chronicle) (order : Host.Order) : Prop where
  | solution (none : chronicle.orders = []) (fits : Fits contest chronicle.made .solution order)
  | interactor {first : Host.Order} {pid : Nat} (one : chronicle.orders = [(first, .ok pid)])
      (former : Fits contest chronicle.made .solution first) (fits : Fits contest chronicle.made .interactor order)

/-- What the umpire may do. -/
def May (contest : Contest) (chronicle : Chronicle) : Act → Prop
  | .note _ => True
  -- Whatever prepares the bout comes before the first order, and before anything has gone wrong.
  | .call .pipe | .call (.watch _) | .call (.info ..) => chronicle.faults = [] ∧ chronicle.orders = []
  | .call (.openFile path access closeOnExec) =>
    (chronicle.faults = [] ∧ chronicle.orders = []) ∧
      path ∈ Anchors.paths contest ∧ access = .both ∧ closeOnExec = true
  -- The umpire touches no descriptor but those that it has made.
  | .call (.close fd) | .call (.closeOnExec fd) | .call (.setCloseOnExec fd _) => fd ∈ chronicle.made
  | .call (.spawn order) => chronicle.faults = [] ∧ MayStart contest chronicle order
  | .call (.hangUp ..) => chronicle.faults = [] ∧ chronicle.orders.length = 2
  -- A status is taken of somebody who runs, and a signal is sent to nobody else.
  | .call (.reap child wait) => chronicle.faults = [] ∧ wait = true ∧ ∃ pid ∈ chronicle.running, child = some pid
  | .call (.signal pid _) => pid ∈ chronicle.running
  | .call _ => False

end Chronicle

/-- The rules of a bout in terms of its chronicle. -/
def chronicleRules (contest : Contest) : Rules Act.vocabulary Chronicle :=
  .keeping (Chronicle.May contest) Chronicle.after

/-- The fault that a contest's files come to by themselves, the solution's first. -/
def planFault? (contest : Contest) : Option Fault :=
  match (contest.contestant .solution).redirects, (contest.contestant .interactor).redirects with
  | .error fault, _ => some fault
  | .ok _, .error fault => some fault
  | .ok _, .ok _ => none

/-- The fault that a bout is to end in, given what went wrong. -/
inductive Blames (contest : Contest) : List Fault → Fault → Prop where
  /-- One thing went wrong. -/
  | only (fault : Fault) : Blames contest [fault] fault
  /-- That a descriptor could not be made private again outweighs that the launch itself failed. -/
  | region (side : Side) (cause : IoFault) (context : String) (errno : Errno) :
      Blames contest [.launch side cause, .os context errno] (.os context errno)
  /-- Nothing went wrong, but the files are none that a process can be given. -/
  | files {fault : Fault} (planned : planFault? contest = some fault) : Blames contest [] fault

end Umpire.Bout
