import Umpire.Bout.SignalPipe
import Umpire.Trial.Ground

/-! Trials of regions: entering and leaving regions around a signalling pipe's write end. -/

namespace Umpire.Trial.Region

open Host

/-- One step of a trial. -/
inductive Step where
  | enter
  /-- Leave the newest region, and hear of a failure. -/
  | release
  /-- Leave the newest region silently. -/
  | abandon
  /-- Close the descriptor itself. -/
  | close
  /-- Do nothing. -/
  | check
  deriving DecidableEq, Repr

/-- Where a trial stands. -/
structure Standing where
  writeEnd : Nat
  /-- The guards of the regions that have been entered and not left, the newest first. -/
  guards : List Bout.Inheritance.Guard := []
  closed : Bool := false
  deriving DecidableEq, Repr

/-- What is seen after a step. -/
structure Sight where
  /-- What came of the step; none if there was no region to leave. -/
  result : Option (Except Fault Unit)
  /-- Whether the descriptor is private now. -/
  isPrivate : Except Fault Bool
  regions : Nat
  told : List Entry

/-- Leave the newest region in some way, if there is one. -/
def leave (standing : Standing) (way : Bout.Inheritance.Guard → Bout.Conduct (Except Fault Unit)) :
    Bout.Conduct (Option (Except Fault Unit) × Standing) := do
  match standing.guards with
  | [] => return (none, standing)
  | newest :: others => return (some (← way newest), { standing with guards := others })

/-- Take a step. -/
def take (standing : Standing) : Step → Bout.Conduct (Option (Except Fault Unit) × Standing)
  | .enter => do
    match ← Bout.Inheritance.Guard.enter standing.writeEnd with
    | .ok guard => return (some (.ok ()), { standing with guards := guard :: standing.guards })
    | .error fault => return (some (.error fault), standing)
  | .release => leave standing (·.release)
  | .abandon => leave standing fun guard => do
      guard.drop
      return .ok ()
  | .close => do
    -- The trial closes the descriptor once.
    unless standing.closed do
      let _ ← Bout.ask (.close standing.writeEnd)
    return (some (.ok ()), { standing with closed := true })
  | .check => return (some (.ok ()), standing)

/-- Take steps one after the other, and look at the descriptor after each. -/
def takeAll (standing : Standing) : List Step → Talk (List Sight)
  | [] => return []
  | first :: rest => do
    let ((result, next), told) ← (take standing first).told
    let (isPrivate, _) ← (Bout.Inheritance.isPrivate standing.writeEnd).told
    return ⟨result, isPrivate, next.guards.length, told⟩ :: (← takeAll next rest)

/-- What is seen of a pipe and of the steps around its write end. -/
structure Account where
  /-- Whether the write end has a number that is no standard stream's. -/
  isBeyondStreams : Bool
  readEndIsPrivate : Except Fault Bool
  sights : List Sight

/-- Make a side's signalling pipe and take steps around its write end. -/
def trial (side : Side) (limit : Option Nat) (steps : List Step) :
    Option (Except Fault Account) :=
  (onGround [] [] (do
    match ← within limit (Bout.SignalPipe.create side).told with
    | (.error fault, _) => return .error fault
    | (.ok pipe, _) =>
      let (readEndIsPrivate, _) ← (Bout.Inheritance.isPrivate pipe.readEnd).told
      let sights ← takeAll { writeEnd := pipe.writeEnd } steps
      return .ok ⟨2 < pipe.writeEnd, readEndIsPrivate, sights⟩)).map (·.1)

end Umpire.Trial.Region
