import Umpire.Bout.Conduct
import Umpire.Contest

/-! Wiring: the pipes that join what one side writes to what the other reads. Named pipes that both sides open instead
are held open at both ends until both sides run, so that neither side's opening has to wait for the other's. -/

namespace Umpire.Bout

/-- The ends of pipes that become a side's standard input and output. -/
structure Ends where
  stdin : Option Nat := none
  stdout : Option Nat := none
  deriving DecidableEq, Repr

/-- The descriptors of a side's ends. -/
def Ends.toList (ends : Ends) : List Nat :=
  ends.stdin.toList ++ ends.stdout.toList

/-- The ends that each side has not been handed yet. -/
structure Wiring where
  ends : PerSide Ends := ⟨{}, {}⟩
  deriving DecidableEq, Repr

namespace Wiring

/-- The descriptors of all ends. -/
def toList (wiring : Wiring) : List Nat :=
  wiring.ends.solution.toList ++ wiring.ends.interactor.toList

/-- The wiring with a pipe from a side's output to the other's input. -/
def join (wiring : Wiring) (writer : Side) (readEnd writeEnd : Nat) : Wiring :=
  let reader := writer.other
  let written := wiring.ends.set writer { wiring.ends.get writer with stdout := some writeEnd }
  ⟨written.set reader { written.get reader with stdin := some readEnd }⟩

/-- Make the pipe from a side's output to the other's input, if there is to be one. What is wired
already is closed if it cannot be made. -/
def extend (wiring : Wiring) (writer : Side) (wanted : Bool) : Conduct (Except Fault Wiring) := do
  if wanted then
    match ← ask .pipe with
    | .error errno =>
      -- Nobody else knows of these descriptors.
      closeAll wiring.toList
      return .error (.os "pipe failed" errno)
    | .ok (readEnd, writeEnd) => return .ok (wiring.join writer readEnd writeEnd)
  else return .ok wiring

/-- Make the pipes for the streams that are given no file. -/
def create (contest : Contest) : Conduct (Except Fault Wiring) := do
  match ← extend {} .solution contest.joinsSolutionToInteractor with
  | .error fault => return .error fault
  | .ok wiring => wiring.extend .interactor contest.joinsInteractorToSolution

/-- Hand a side its ends, which it gets only once. -/
def take (wiring : Wiring) (side : Side) : Ends × Wiring :=
  (wiring.ends.get side, ⟨wiring.ends.set side {}⟩)

end Wiring

end Umpire.Bout

namespace Umpire.Bout.Anchors

/-- Whether a path leads to a named pipe. -/
def isFifo (path : Bytes) : Conduct Bool := do
  match ← ask (.info path true) with
  | .ok info => return info.kind == .fifo
  | .error _ => return false

/-- Hold the named pipes among some paths; the descriptors in hand are closed if one cannot be held. -/
def holdAll (held : List Nat) : List Bytes → Conduct (Except Fault (List Nat))
  | [] => return .ok held
  | path :: rest => do
    if ← isFifo path then
      -- Opening both ends at once never waits, and lets either side open its own.
      match ← ask (.openFile path Host.Access.both true) with
      | .error errno =>
        closeAll held
        return .error (.io (.host errno))
      | .ok fd =>
        tell (.fifoHeld path)
        holdAll (held ++ [fd]) rest
    else holdAll held rest

/-- The paths that both sides open: what one of them reads from, the other writes to. -/
def paths (contest : Contest) : List Bytes :=
  contest.contestants.solution.stdin.toList ++ contest.contestants.solution.stdout.toList

/-- Hold the named pipes of a contest. -/
def hold (contest : Contest) : Conduct (Except Fault (List Nat)) :=
  holdAll [] (paths contest)

end Umpire.Bout.Anchors
