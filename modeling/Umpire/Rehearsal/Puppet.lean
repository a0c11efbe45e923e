import Umpire.Cascade

/-! Scripted processes: stand-ins that answer as they are told and record what is asked of them. -/

namespace Umpire.Rehearsal

/-- A process whose answers are fixed beforehand. -/
structure Puppet where
  /-- The status it ends with by itself. -/
  status : WaitStatus
  /-- The status it ends with once it has been asked to end. -/
  afterTerm : WaitStatus
  /-- Why taking its status fails, if it does. -/
  waitFault : Option IoFault := none
  /-- Why asking it to end fails, if it does. -/
  termFault : Option IoFault := none
  /-- Whether it has been asked to end with success. -/
  terminated : Bool := false
  deriving DecidableEq, Repr

/-- Something that was asked of a puppet. -/
inductive Event where
  | waited (side : Side)
  | terminated (side : Side)
  deriving DecidableEq, Repr

namespace Puppet

/-- A process with a packed status, which the signal that asks it to end does end. -/
def ofRaw (raw : Int32) : Puppet :=
  { status := ⟨raw⟩, afterTerm := .ofSignal 15 }

/-- A process that ends with an exit code, of which the packed status keeps the low bits. -/
def exitsWith (code : Int32) : Puppet :=
  ofRaw (code <<< 8)

/-- A process that is ended by a signal. -/
def killedBy (signal : Int32) : Puppet :=
  ofRaw signal

/-- The same process, deaf to being asked to end. -/
def refusing (puppet : Puppet) : Puppet :=
  { puppet with termFault := some (.worded "no such process") }

/-- The status that a wait gives. -/
def wait (puppet : Puppet) : Except IoFault WaitStatus :=
  match puppet.waitFault with
  | some cause => .error cause
  | none => .ok (if puppet.terminated then puppet.afterTerm else puppet.status)

/-- What asking the process to end gives, and the process afterwards. -/
def terminate (puppet : Puppet) : Except IoFault Unit × Puppet :=
  match puppet.termFault with
  | some cause => (.error cause, puppet)
  | none => (.ok (), { puppet with terminated := true })

end Puppet

/-- Two puppets, and what has been asked of them and told so far. -/
structure Stage where
  puppets : PerSide Puppet
  /-- The side that each puppet is recorded as, whichever it stands for. -/
  roles : PerSide Side := ⟨.solution, .interactor⟩
  events : List Event := []
  journal : List Entry := []

namespace Stage

/-- Have a side's puppet waited for. -/
def wait (stage : Stage) (side : Side) : Except IoFault WaitStatus × Stage :=
  ((stage.puppets.get side).wait, { stage with events := stage.events ++ [.waited (stage.roles.get side)] })

/-- Have a side's puppet asked to end. -/
def terminate (stage : Stage) (side : Side) : Except IoFault Unit × Stage :=
  let (answer, puppet) := (stage.puppets.get side).terminate
  (answer, { stage with
    puppets := stage.puppets.set side puppet
    events := stage.events ++ [.terminated (stage.roles.get side)] })

/-- The answer to a request and the stage afterwards. -/
def answer (wanted : Cascade.Request) : StateM Stage (Cascade.Answer wanted) :=
  match wanted with
  | .wait side => fun stage => stage.wait side
  | .terminate side => fun stage => stage.terminate side
  | .note entry => fun stage => ((), { stage with journal := stage.journal ++ [entry] })

/-- Take both puppets' statuses, given which side finished first. -/
def resolve (stage : Stage) (winner : Side) : Except Fault (PerSide Int32) × Stage :=
  ((Cascade.resolve winner).answerWith answer).run stage

end Stage

end Umpire.Rehearsal
