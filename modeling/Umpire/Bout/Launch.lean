import Umpire.Bout.Handle
import Umpire.Bout.Redirection
import Umpire.Bout.SignalPipe
import Umpire.Bout.Wiring

/-! Launching a side: its private descriptor is inherited by it alone, and the umpire keeps no copy. -/

namespace Umpire.Bout

/-- The order by which a side is started. -/
def order (contestant : Contestant) (ends : Ends) (redirects : List Host.Redirect) : Host.Order :=
  { words := contestant.words, stdin := ends.stdin, stdout := ends.stdout, redirects }

/-- Start a side inside a region in which its private descriptor is inherited. If the region cannot
be left, that is the fault, and a process that has been started is ended. -/
def startInside (contestant : Contestant) (privateEnd : Nat) (ends : Ends)
    (redirects : List Host.Redirect) : Conduct (Except Fault (Except IoFault Nat)) := do
  match ← Inheritance.enter privateEnd with
  | .error fault => return .error fault
  | .ok () =>
    let started ← ask (.spawn (order contestant ends redirects))
    -- The region is left before the start is judged, so that a failed start leaves it too.
    match ← Inheritance.release privateEnd with
    | .ok () => return .ok started
    | .error fault =>
      match started with
      | .error _ => return .error fault
      -- Nobody will get a handle on the process, so it is not left running.
      | .ok pid =>
        let _ ← ask (.signal pid Host.Signal.kill)
        return .error fault

/-- Start a side, with a word on it before. -/
def start (side : Side) (contestant : Contestant) (privateEnd : Nat) (ends : Ends) :
    Conduct (Except Fault (Except IoFault Nat)) := do
  match contestant.redirects with
  | .error fault => return .error fault
  -- The words are told as they will be run, with the number of the private descriptor in them.
  | .ok redirects =>
    tell (.starting side contestant.program contestant.args privateEnd)
    unless redirects.isEmpty do
      tell (.redirecting side (redirects.map (·.stream)))
    startInside contestant privateEnd ends redirects

/-- Launch a side. Its private descriptor and the ends of its pipes are given up whatever happens. -/
def launch (side : Side) (contestant : Contestant) (privateEnd : Nat) (ends : Ends) :
    Conduct (Except Fault Handle) := do
  let result ← start side contestant privateEnd ends
  -- The umpire's own copies would keep the side from ever being seen to hang up.
  closeAll (privateEnd :: ends.toList)
  match result with
  | .error fault => return .error fault
  | .ok (.error cause) => return .error (.launch side cause)
  | .ok (.ok pid) =>
    tell (.started side (some pid))
    return .ok { side, pid }

end Umpire.Bout
