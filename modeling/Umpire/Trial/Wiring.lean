import Umpire.Bout.SignalPipe
import Umpire.Bout.Wiring
import Umpire.Trial.Ground

/-! Trials of a contest's wiring: which ends each side is handed, and what comes through them. -/

namespace Umpire.Trial.Wiring

open Host

/-- Hand out ends in some order; the last component is the ends that each side holds then. -/
def handOut (wiring : Bout.Wiring) (held : PerSide Bout.Ends) :
    List Side → List Bout.Ends × Bout.Wiring × PerSide Bout.Ends
  | [] => ([], wiring, held)
  | side :: rest =>
    let (ends, left) := wiring.take side
    let before := held.get side
    let now : Bout.Ends := ⟨before.stdin <|> ends.stdin, before.stdout <|> ends.stdout⟩
    let (others, last, holding) := handOut left (held.set side now) rest
    (ends :: others, last, holding)

/-- Whether all of some descriptors are private. -/
def allPrivate : List Nat → Talk Bool
  | [] => return true
  | fd :: rest => do
    match (← (Bout.Inheritance.isPrivate fd).told).1 with
    | .ok true => allPrivate rest
    | _ => return false

/-- Write on a side's output end and close it. -/
def sendFrom (side : Side) (ends : Bout.Ends) : Talk Unit := do
  match ends.stdout with
  | none => return ()
  | some fd =>
    let _ ← writeAll fd (Bytes.ofString ("from " ++ side.name))
    let _ ← call (.close fd)

/-- Read a side's input end to its end. -/
def receive (ends : Bout.Ends) : Talk (Option Bytes) := do
  match ends.stdin with
  | none => return none
  | some fd => return (← readAll fd).toOption

/-- What is seen of a wiring. -/
structure Account where
  handed : List Bout.Ends
  allPrivate : Bool
  received : PerSide (Option Bytes)

/-- Wire a contest, hand out ends, and send something through them. -/
def trial (contest : Contest) (limit : Option Nat) (takes : List Side) :
    Option (Except Fault Account) :=
  (onGround [] [] (do
    match (← within limit (Bout.Wiring.create contest).told).1 with
    | .error fault => return .error fault
    | .ok wiring =>
      let (handed, left, held) := handOut wiring ⟨{}, {}⟩ takes
      let private_ ← allPrivate (handed.flatMap Bout.Ends.toList)
      -- What was handed out to nobody is closed, so that what is sent comes to an end.
      let _ ← (Bout.closeAll left.toList).told
      sendFrom .solution held.solution
      sendFrom .interactor held.interactor
      let atSolution ← receive held.solution
      let atInteractor ← receive held.interactor
      return .ok ⟨handed, private_, ⟨atSolution, atInteractor⟩⟩)).map (·.1)

end Umpire.Trial.Wiring
