import Umpire.Bout.Launch
import Umpire.Bout.SignalPipe
import Umpire.Trial.Ground

/-! Trials of a launch: a side is started, and its life is followed step by step. -/

namespace Umpire.Trial.Launch

open Host

/-- One step of a trial. -/
inductive Step where
  /-- Ask whether the side has a process number. -/
  | id
  | wait
  | terminate
  /-- Let go of the side. -/
  | drop
  /-- Ask whether the side has hung up, with patience for so many millionths of a second. -/
  | hangUp (patience : Nat)
  | write (data : Bytes)
  | closeInput
  | closeOutput
  | readLine
  | readAll
  deriving DecidableEq, Repr

/-- What came of a step. -/
inductive Result where
  | done
  | truth (holds : Bool)
  | status (status : WaitStatus)
  | data (bytes : Bytes)
  /-- The end of the pipe is closed already. -/
  | closed
  /-- The side has been let go of. -/
  | dropped
  | failed (cause : IoFault)

/-- What is held of a launched side. -/
structure Standing where
  readEnd : Nat
  /-- The end that the side's input comes from. -/
  input : Option Nat
  /-- The end that the side's output goes to. -/
  output : Option Nat
  handle : Option Bout.Handle

/-- The result of something that the host may refuse. -/
def Result.ofExcept {α : Type} (shown : α → Result) : Except Errno α → Result
  | .ok value => shown value
  | .error errno => .failed (.host errno)

/-- Do something on the host without a word. -/
def silently {α : Type} (talk : Talk α) : Talk (α × List Entry) := do
  return (← talk, [])

/-- Close an end that may be held. -/
def closeEnd (fd : Option Nat) : Talk Unit := do
  match fd with
  | none => return ()
  | some fd =>
    let _ ← call (.close fd)

/-- Whether the side has hung up. -/
def hasHungUp (readEnd patience : Nat) : Talk Bool := do
  match ← call (.hangUp [readEnd] (some patience)) with
  | .ok flags => return flags.any id
  | .error _ => return false

/-- Read from the side's output, if its end is held. -/
def readFrom (output : Option Nat) (read : Nat → Talk (Except Errno Bytes)) : Talk Result := do
  match output with
  | none => return .data []
  | some fd => return .ofExcept .data (← read fd)

/-- Take a step; the answer is what came of it, where the trial stands then, and what was told. -/
def take (standing : Standing) : Step → Talk ((Result × Standing) × List Entry)
  | .id =>
    return ((.truth ((standing.handle.bind Bout.Handle.pid?).isSome), standing), [])
  | .wait =>
    match standing.handle with
    | none => return ((.dropped, standing), [])
    | some handle => (do
        let (result, left) ← handle.wait
        let shown : Result := match result with
          | .ok status => .status status
          | .error cause => .failed cause
        return (shown, { standing with handle := some left })).told
  | .terminate =>
    match standing.handle with
    | none => return ((.dropped, standing), [])
    | some handle => (do
        match ← handle.terminate with
        | .ok () => return (Result.done, standing)
        | .error cause => return (Result.failed cause, standing)).told
  | .drop =>
    match standing.handle with
    | none => return ((.done, standing), [])
    | some handle => (do
        handle.drop
        return (Result.done, { standing with handle := none })).told
  | .hangUp patience => silently do
    return (.truth (← hasHungUp standing.readEnd patience), standing)
  | .write data => silently do
    match standing.input with
    | none => return (.closed, standing)
    | some fd => return (.ofExcept (fun _ => .done) (← writeAll fd data), standing)
  | .closeInput => silently do
    closeEnd standing.input
    return (.done, { standing with input := none })
  | .closeOutput => silently do
    closeEnd standing.output
    return (.done, { standing with output := none })
  | .readLine => silently do
    return (← readFrom standing.output Host.readLine, standing)
  | .readAll => silently do
    return (← readFrom standing.output Host.readAll, standing)

/-- Take steps one after the other. -/
def takeAll (standing : Standing) : List Step → Talk (List (Result × List Entry))
  | [] => return []
  | first :: rest => do
    let ((result, next), told) ← take standing first
    return (result, told) :: (← takeAll next rest)

/-- A pipe for a stream that is given no file: first the side's end, then the other one. -/
def pipeUnless (given : Option Bytes) (flip : Bool) : Talk (Option Nat × Option Nat) := do
  match given with
  | some _ => return (none, none)
  | none =>
    match ← call .pipe with
    | .error _ => return (none, none)
    | .ok (readEnd, writeEnd) =>
      return if flip then (some writeEnd, some readEnd) else (some readEnd, some writeEnd)

/-- What is seen of a launch. -/
structure Account where
  /-- What was told during the launch. -/
  told : List Entry
  /-- Why there was none, and whether the side has hung up then; else the steps' results. -/
  outcome : Except (Fault × Bool) (List (Result × List Entry))

/-- Launch a side and follow it. -/
def trial (side : Side) (contestant : Contestant) (fixtures : List Fixture) (steps : List Step) :
    Option (Except Fault Account × List Leaf) :=
  onGround fixtures [] (do
    match (← (Bout.SignalPipe.create side).told).1 with
    | .error fault => return .error fault
    | .ok pipe =>
      let (stdin, input) ← pipeUnless contestant.stdin false
      let (stdout, output) ← pipeUnless contestant.stdout true
      let bound := contestant.bind (Int32.ofNat pipe.writeEnd)
      match ← (Bout.launch side bound pipe.writeEnd ⟨stdin, stdout⟩).told with
      | (.error fault, told) =>
        -- After a failure nobody may hold the write end any more.
        let hungUp ← hasHungUp pipe.readEnd 0
        return .ok ⟨told, .error (fault, hungUp)⟩
      | (.ok handle, told) =>
        let results ← takeAll ⟨pipe.readEnd, input, output, some handle⟩ steps
        return .ok ⟨told, .ok results⟩)

end Umpire.Trial.Launch
