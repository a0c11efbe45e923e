import Umpire.Bout.Holdings
import Umpire.Bout.Launch
import Umpire.Bout.SignalPipe
import Umpire.Bout.Wiring
import Umpire.Cascade
import Umpire.Race.Detector
import Umpire.Report

/-! A bout from its first descriptor to its report. -/

namespace Umpire.Bout

/-- Have the read end of a side's signalling pipe watched. -/
def watch (side : Side) (pipe : SignalPipe) : Conduct (Except Fault Unit) := do
  match ← ask (.watch pipe.readEnd) with
  | .error errno => return .error (.watch side (.host errno))
  | .ok () =>
    tell (.watching side pipe.readEnd)
    return .ok ()

/-- Make and watch both sides' signalling pipes. -/
def arm : Work (PerSide SignalPipe) := do
  let solution ← Work.gain (SignalPipe.create .solution) fun pipe => [pipe.readEnd, pipe.writeEnd]
  let interactor ← Work.gain (SignalPipe.create .interactor) fun pipe => [pipe.readEnd, pipe.writeEnd]
  Work.ofConduct (watch .solution solution)
  Work.ofConduct (watch .interactor interactor)
  return ⟨solution, interactor⟩

/-- Launch a side with the ends of its pipes; its descriptors are its launch's to give up. -/
def launchSide (contest : Contest) (pipes : PerSide SignalPipe) (wiring : Wiring) (side : Side) :
    Work Handle := do
  let privateEnd := (pipes.get side).writeEnd
  let ends := (wiring.take side).1
  -- The launch closes these itself, whatever comes of it.
  Work.handOver (privateEnd :: ends.toList)
  let contestant := (contest.contestant side).bind (Int32.ofNat privateEnd)
  let handle ← Work.ofConduct (launch side contestant privateEnd ends)
  modify fun holdings => { holdings with handles := holdings.handles ++ [handle] }
  return handle

/-- Wait until a side has hung up. The solution is asked first; if it has not, the interactor has. -/
def firstHangUp (pipes : PerSide SignalPipe) : Conduct (Except Fault Side) := do
  match ← ask (.hangUp [pipes.solution.readEnd, pipes.interactor.readEnd] none) with
  | .error (fd, errno) =>
    let side := if fd = pipes.solution.readEnd then Side.solution else Side.interactor
    return .error (.watch side (.host errno))
  -- The host wakes the umpire only once a side has hung up.
  | .ok hungUp =>
    let verdict := Race.Verdict.ofHangUps ⟨hungUp.headD false, (hungUp.drop 1).headD false⟩
    if verdict.both then
      tell (.bothHungUp verdict.winner)
    return .ok verdict.winner

/-- Do to the started sides what taking their statuses asks for. -/
def attend : (wanted : Cascade.Request) → StateT (PerSide Handle) Conduct (Cascade.Answer wanted)
  | .wait side => fun handles => do
    let (result, handle) ← (handles.get side).wait
    return (result, handles.set side handle)
  | .terminate side => fun handles => do return (← (handles.get side).terminate, handles)
  | .note entry => fun handles => do return (← tell entry, handles)

/-- Take both sides' statuses, the winner's first. -/
def settle (winner : Side) (handles : PerSide Handle) : Work (PerSide Int32) := fun holdings => do
  let (result, left) ← ((Cascade.resolve winner).answerWith attend).run handles
  return (result, { holdings with handles := left.toList })

/-- The work of a bout. -/
def work (contest : Contest) : Work Report := do
  let pipes ← arm
  let wiring ← Work.gain (Wiring.create contest) Wiring.toList
  let anchors ← Work.gain (Anchors.hold contest) id
  let solution ← launchSide contest pipes wiring .solution
  let interactor ← launchSide contest pipes wiring .interactor
  -- Both sides have opened their files by now; held any longer, no end of input would be seen.
  Work.release anchors
  Work.note .bothRunning
  let winner ← Work.ofConduct (firstHangUp pipes)
  Work.note (.finishedFirst winner)
  let statuses ← settle winner ⟨solution, interactor⟩
  return ⟨winner, statuses⟩

/-- Run a contest to its report. -/
def run (contest : Contest) : Conduct (Except Fault Report) :=
  (work contest).perform

end Umpire.Bout
