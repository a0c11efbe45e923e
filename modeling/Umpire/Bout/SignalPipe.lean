import Umpire.Bout.Conduct

/-! Signalling pipes: a side holds the write end, and its end is seen as a hang-up of the read end. The write end is
kept by new programs only inside a region around one start. -/

namespace Umpire.Bout

/-- The two descriptors of a pipe that carries no data. -/
structure SignalPipe where
  /-- Kept by the umpire and watched. -/
  readEnd : Nat
  /-- Handed to the side's process. -/
  writeEnd : Nat
  deriving DecidableEq, Repr

/-- Make a side's signalling pipe. -/
def SignalPipe.create (side : Side) : Conduct (Except Fault SignalPipe) := do
  match ← ask .pipe with
  | .error errno => return .error (.os "pipe failed" errno)
  | .ok (readEnd, writeEnd) =>
    tell (.pipeCreated side readEnd writeEnd)
    return .ok ⟨readEnd, writeEnd⟩

end Umpire.Bout

namespace Umpire.Bout.Inheritance

/-- Whether a descriptor goes away when another program is run. -/
def isPrivate (fd : Nat) : Conduct (Except Fault Bool) := do
  match ← ask (.closeOnExec fd) with
  | .error errno => return .error (.os "fcntl(F_GETFD) failed" errno)
  | .ok flag => return .ok flag

/-- Set whether a descriptor goes away when another program is run. -/
def setPrivate (fd : Nat) (flag : Bool) : Conduct (Except Fault Unit) := do
  match ← isPrivate fd with
  | .error fault => return .error fault
  -- The flag is the only one there is, so nothing of the old value has to be kept.
  | .ok _ =>
    match ← ask (.setCloseOnExec fd flag) with
    | .error errno => return .error (.os "fcntl(F_SETFD) failed" errno)
    | .ok () => return .ok ()

/-- Enter a region in which new programs keep a descriptor. -/
def enter (fd : Nat) : Conduct (Except Fault Unit) :=
  setPrivate fd false

/-- Leave a region; failing to is a fault. -/
def release (fd : Nat) : Conduct (Except Fault Unit) :=
  setPrivate fd true

/-- Leave a region where no fault can be told; failing to is noted. -/
def abandon (fd : Nat) : Conduct Unit := do
  match ← setPrivate fd true with
  | .ok () => return ()
  | .error fault => tell (.restoreFailed fd fault)

/-- A guard stands for a region that has been entered. As long as it is armed, letting go of it leaves the region. -/
structure Guard where
  fd : Nat
  armed : Bool := true
  deriving DecidableEq, Repr

namespace Guard

/-- Enter a region; there is no guard if that fails. -/
def enter (fd : Nat) : Conduct (Except Fault Guard) := do
  match ← Inheritance.enter fd with
  | .error fault => return .error fault
  | .ok () => return .ok { fd }

/-- Let go of a guard. -/
def drop (guard : Guard) : Conduct Unit := do
  if guard.armed then abandon guard.fd

/-- Leave a guard's region now, and hear of a failure. -/
def release (guard : Guard) : Conduct (Except Fault Unit) := do
  let disarmed := { guard with armed := false }
  let left ← Inheritance.release disarmed.fd
  -- The guard is let go of on this path too, when it has nothing left to do.
  disarmed.drop
  return left

end Guard

end Umpire.Bout.Inheritance
