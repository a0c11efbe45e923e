import Umpire.Bout.Conduct

/-! Handles on started sides: their status is taken once and kept, and none that has ended is signalled. -/

namespace Umpire.Bout

/-- A side that has been started. -/
structure Handle where
  side : Side
  pid : Nat
  /-- Its status, once it has been taken. -/
  status : Option WaitStatus := none
  deriving DecidableEq, Repr

namespace Handle

/-- The highest process number that a signal can be sent to. -/
def highestPid : Nat := 2147483647

/-- The process number, as long as the process has not been waited for. -/
def pid? (handle : Handle) : Option Nat :=
  if handle.status.isSome then none else some handle.pid

/-- Wait until the process has ended; the status is kept, so that later waits give it again. -/
def wait (handle : Handle) : Conduct (Except IoFault WaitStatus × Handle) := do
  match handle.status with
  | some status => return (.ok status, handle)
  | none =>
    match ← ask (.reap (some handle.pid) true) with
    | .ok (some (_, status)) => return (.ok status, { handle with status := some status })
    -- A call that waits always brings a status with it.
    | .ok none => return (.error (.host Errno.noChild), handle)
    | .error errno => return (.error (.host errno), handle)

/-- Ask the process to end. The number of one that has been waited for may be another's by now. -/
def terminate (handle : Handle) : Conduct (Except IoFault Unit) := do
  match handle.pid? with
  | none => return .error .reaped
  | some pid =>
    -- A number that a signal cannot be given is not tried.
    if highestPid < pid then return .error .pidOutOfRange
    else
      tell (.signalling handle.side pid)
      match ← ask (.signal pid Host.Signal.term) with
      | .ok () => return .ok ()
      | .error errno => return .error (.host errno)

/-- Let go of the process; it is ended if it has not been waited for. -/
def drop (handle : Handle) : Conduct Unit := do
  match handle.pid? with
  | none => return ()
  | some pid =>
    let _ ← ask (.signal pid Host.Signal.kill)
    return ()

end Handle

end Umpire.Bout
