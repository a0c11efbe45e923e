import Umpire.Dialogue
import Umpire.Journal.Entry
import Umpire.WaitStatus

/-! Taking both sides' statuses, the winner's first; a winner that failed has the other asked to end. -/

namespace Umpire.Cascade

/-- What is asked of the two processes while their statuses are taken. -/
inductive Request where
  /-- Wait until a side has ended and take its status. -/
  | wait (side : Side)
  /-- Ask a side to end. -/
  | terminate (side : Side)
  /-- Tell something. -/
  | note (entry : Entry)
  deriving DecidableEq, Repr

/-- The answer to each request. -/
abbrev Answer : Request → Type
  | .wait _ => Except IoFault WaitStatus
  | .terminate _ => Except IoFault Unit
  | .note _ => Unit

/-- The vocabulary in which statuses are taken. -/
abbrev vocabulary : Signature :=
  ⟨Request, Answer⟩

/-- A part of the talk with the two processes. -/
abbrev Talk (α : Type) := Dialogue vocabulary α

/-- Ask for one thing. -/
abbrev ask (wanted : Request) : Talk (Answer wanted) :=
  Dialogue.request (S := vocabulary) wanted

/-- Take a side's status in the form that shells show. -/
def take (side : Side) : Talk (Except Fault Nat) := do
  match ← ask (.wait side) with
  | .error cause => return .error (.wait side cause)
  | .ok status =>
    ask (.note (.ended side status.shell))
    return .ok status.shell

/-- Ask a side to end; failing to is told and changes nothing else. -/
def endSide (side : Side) : Talk Unit := do
  match ← ask (.terminate side) with
  | .ok () => ask (.note (.signalled side))
  | .error cause => ask (.note (.signalFailed side cause))

/-- What is known while statuses are taken: those taken so far, and whose they are. -/
structure Tally where
  statuses : PerSide Int32 := ⟨0, 0⟩
  /-- Whose status has been taken, which leaves no process to signal. -/
  reaped : PerSide Bool := ⟨false, false⟩
  deriving DecidableEq, Repr

/-- The tally once a side's status has been taken. -/
def Tally.reap (tally : Tally) (side : Side) (status : Nat) : Tally :=
  { statuses := tally.statuses.set side (Int32.ofNat status), reaped := tally.reaped.set side true }

/-- Have the other side asked to end if a side failed, unless the other's status has been taken. -/
def react (tally : Tally) (side : Side) (status : Nat) : Talk Unit := do
  -- A side that succeeded leaves the other to end by itself.
  if status ≠ 0 then
    if tally.reaped.get side.other then ask (.note (.notSignalling side.other))
    else endSide side.other

/-- Take one side's status, and react to it. -/
def round (tally : Tally) (side : Side) : Talk (Except Fault Tally) := do
  match ← take side with
  | .error fault => return .error fault
  | .ok status =>
    let known := tally.reap side status
    react known side status
    return .ok known

/-- Take the statuses of some sides in order, up to the first that cannot be taken. -/
def rounds (tally : Tally) : List Side → Talk (Except Fault Tally)
  | [] => return .ok tally
  | side :: rest => do
    match ← round tally side with
    | .error fault => return .error fault
    | .ok known => rounds known rest

/-- Both statuses, given which side finished first; its status is taken first. -/
def resolve (winner : Side) : Talk (Except Fault (PerSide Int32)) := do
  return (← rounds {} [winner, winner.other]).map (·.statuses)

end Umpire.Cascade
