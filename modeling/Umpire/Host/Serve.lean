import Umpire.Host.Ends
import Umpire.Host.Image
import Umpire.Host.Life

/-! Answering calls: what each call of a process does to the host, and what it is answered. -/

namespace Umpire.Host

/-- What comes of a process's turn. -/
inductive Turn (α : Type) where
  /-- Its call is answered. -/
  | answered (value : α) (kernel : Kernel)
  /-- Its call has to be made again later. -/
  | waiting (kernel : Kernel)
  /-- The process is no more. -/
  | gone (kernel : Kernel)
  /-- It runs another program from now on. -/
  | replaced (image : Image) (kernel : Kernel)
  /-- It has become two, each with an answer of its own. -/
  | forked (child : Nat) (mine its : α) (kernel : Kernel)
  /-- It has ordered a new process and waits for it. -/
  | ordered (child : Nat) (order : Order) (kernel : Kernel)

namespace Kernel

/-- Answer a call that changes the host only if it succeeds. -/
def done (kernel : Kernel) : Except Errno Kernel → Turn (Except Errno Unit)
  | .ok changed => .answered (.ok ()) changed
  | .error errno => .answered (.error errno) kernel

/-- Answer a call with a result that changes the host only if it succeeds. -/
def gained {α : Type} (kernel : Kernel) : Except Errno (α × Kernel) → Turn (Except Errno α)
  | .ok (value, changed) => .answered (.ok value) changed
  | .error errno => .answered (.error errno) kernel

/-- Answer a call, or have it made again. -/
def replied {α : Type} : Reply α → Turn α
  | .answer value kernel => .answered value kernel
  | .later kernel => .waiting kernel

/-- Change the descriptors of a process. -/
def withTable (kernel : Kernel) (self : Nat) (change : Table → Except Errno Table) :
    Except Errno Kernel :=
  match kernel.process? self with
  | none => .error Errno.noProcess
  | some process =>
    match change process.table with
    | .error errno => .error errno
    | .ok table => .ok (kernel.setTable self table)

/-- Whether a process rests until some time, which it is told once. -/
def rests (kernel : Kernel) (self micros : Nat) : Option Kernel :=
  match (kernel.process? self).bind (·.alarm) with
  | none => some (kernel.update self fun process =>
      { process with alarm := some (kernel.clock + micros) })
  | some time => if kernel.clock < time then some kernel else none

/-- The kernel with a process's rest over. -/
def rested (kernel : Kernel) (self : Nat) : Kernel :=
  kernel.update self fun process => { process with alarm := none }

/-- Whether the end of a pipe that a process has under a number has been left by all writers. -/
def hasHungUp (kernel : Kernel) (self fd : Nat) : Bool :=
  match kernel.openFile? self fd with
  | none => false
  | some (_, file) =>
    match kernel.channelOf file.place with
    | some channel => !kernel.hasWriter channel
    | none => false

/-- Whether a descriptor can be watched: files that are always ready cannot. -/
def watch (kernel : Kernel) (self fd : Nat) : Except Errno Unit :=
  match kernel.openFile? self fd with
  | none => .error Errno.badDescriptor
  | some (_, file) =>
    match kernel.channelOf file.place with
    | some _ => .ok ()
    | none => .error Errno.notPermitted

/-- Wait for hang-ups. -/
def awaitHangUp (kernel : Kernel) (self : Nat) (ends : List Nat) (patience : Option Nat) :
    Turn (Except (Nat × Errno) (List Bool)) :=
  let flags := ends.map (kernel.hasHungUp self)
  if flags.any id then .answered (.ok flags) (kernel.rested self)
  else
    match patience with
    | none => .waiting kernel
    | some micros =>
      match kernel.rests self micros with
      | some resting => .waiting resting
      | none => .answered (.ok flags) (kernel.rested self)

/-- Follow an order: start the process, and wait until it runs or has given up. -/
def follow (kernel : Kernel) (self : Nat) (order : Order) : Turn (Except IoFault Nat) :=
  let free (host : Kernel) : Kernel := host.update self fun process => { process with ordered := none }
  match (kernel.process? self).bind (·.ordered) with
  | none =>
    if order.words.any Bytes.hasNul then .answered (.error .nulByte) kernel
    else
      match kernel.fork self with
      | none => .answered (.error (.host Errno.noProcess)) kernel
      | some (child, grown) =>
        let waiting := (grown.update child fun process => { process with start := .preparing }).update
          self fun process => { process with ordered := some child }
        .ordered child order waiting
  | some child =>
    match kernel.process? child with
    | none => .answered (.ok child) (free kernel)
    | some started =>
      match started.start with
      | .preparing => if started.isLive then .waiting kernel else .answered (.ok child) (free kernel)
      | .running => .answered (.ok child) (free kernel)
      | .refused cause =>
        -- The process that could not run its program is waited for at once.
        let reaped : Kernel := { kernel with processes := kernel.processes.erase child }
        .answered (.error (.host cause)) (free reaped)

/-- Do what a process asks. -/
def attend (kernel : Kernel) (self : Nat) : (wanted : Call) → Turn wanted.Answer
  | .pipe => kernel.gained (kernel.makePipe self)
  | .openFile path access closeOnExec => replied (kernel.openPath self path access closeOnExec)
  | .close fd => kernel.done (kernel.withTable self fun table => table.close fd)
  | .duplicateTo fd target => kernel.done (kernel.withTable self fun table => table.duplicateTo fd target)
  | .duplicateFrom fd least closeOnExec =>
    match kernel.process? self with
    | none => .answered (.error Errno.noProcess) kernel
    | some process =>
      match process.table.duplicateFrom fd least closeOnExec with
      | .error errno => .answered (.error errno) kernel
      | .ok (number, table) => .answered (.ok number) (kernel.setTable self table)
  | .closeOnExec fd =>
    match kernel.slot? self fd with
    | none => .answered (.error Errno.badDescriptor) kernel
    | some slot => .answered (.ok slot.closeOnExec) kernel
  | .setCloseOnExec fd flag =>
    kernel.done (kernel.withTable self fun table => table.setCloseOnExec fd flag)
  | .read fd count => replied (kernel.read self fd count)
  | .goBack fd count => kernel.done (kernel.goBack self fd count)
  | .write fd data => replied (kernel.write self fd data)
  | .info path follow =>
    match kernel.reach self path (if follow then .target else .entry) with
    | .error errno => .answered (.error errno) kernel
    | .ok place => .answered (kernel.infoOf place) kernel
  | .list path =>
    match kernel.reach self path .target with
    | .error errno => .answered (.error errno) kernel
    | .ok place => .answered (kernel.namesIn self place) kernel
  | .readLink path =>
    match kernel.reach self path .entry with
    | .error errno => .answered (.error errno) kernel
    | .ok place => .answered (kernel.linkText place) kernel
  | .create path novelty mode => kernel.done (kernel.create self path novelty mode)
  | .setMode path mode => kernel.done (kernel.setMode self path mode)
  | .remove path => kernel.done (kernel.remove self path false)
  | .removeDirectory path => kernel.done (kernel.remove self path true)
  | .rename path target => kernel.done (kernel.rename self path target)
  | .link path target => kernel.done (kernel.link self path target)
  | .enterDirectory path =>
    match kernel.reach self path .target with
    | .error errno => .answered (.error errno) kernel
    | .ok place =>
      if kernel.isDirectory place then
        .answered (.ok ()) (kernel.update self fun process => { process with directory := place })
      else .answered (.error Errno.notDirectory) kernel
  | .setMask mask =>
    let old := ((kernel.process? self).map (·.mask)).getD 0
    .answered old (kernel.update self fun process => { process with mask := mask &&& 0o777 })
  | .setLimit limit =>
    let old := ((kernel.process? self).map (·.table.limit)).getD 0
    .answered old (kernel.update self fun process =>
      { process with table := { process.table with limit } })
  | .fork =>
    match kernel.fork self with
    | none => .answered (.error Errno.noProcess) kernel
    | some (child, grown) => .forked child (.ok (some child)) (.ok none) grown
  | .exec path words environment =>
    match kernel.loadImage self path words with
    | .error errno => .answered errno kernel
    | .ok image =>
      .replaced image (kernel.update self fun process =>
        { process.afterExec with environment, words := image.words })
  | .spawn order => kernel.follow self order
  | .giveUp cause =>
    let told := kernel.update self fun process => { process with start := .refused cause }
    .gone (told.finish self (.ofExit 1))
  | .reap child wait =>
    match kernel.reap self child with
    | .error errno => .answered (.error errno) kernel
    | .ok (some (found, left)) => .answered (.ok (some found)) left
    | .ok none => if wait then .waiting kernel else .answered (.ok none) kernel
  | .signal process number => kernel.done (kernel.signal process number)
  | .leadGroup =>
    .answered (.ok ()) (kernel.update self fun process => { process with group := self })
  | .signalGroup leader number => kernel.done (kernel.signalGroup self leader number)
  | .setAction number action =>
    if number = 0 || Signal.highest < number || !Signal.isFree number then
      .answered (.error Errno.invalid) kernel
    else .answered (.ok ()) (kernel.update self fun process => process.setAction number action)
  | .action number =>
    .answered (((kernel.process? self).map fun process => process.action number).getD .standard) kernel
  | .takeSignal =>
    match ((kernel.process? self).map (·.remembered)).getD [] with
    | [] => .answered none kernel
    | first :: rest =>
      .answered (some first) (kernel.update self fun process => { process with remembered := rest })
  | .sleep micros =>
    match kernel.rests self micros with
    | some resting => .waiting resting
    | none => .answered (.ok ()) (kernel.rested self)
  | .identity => .answered (self, ((kernel.process? self).map (·.parent)).getD 0) kernel
  | .words => .answered (((kernel.process? self).map (·.words)).getD []) kernel
  | .environment => .answered (((kernel.process? self).map (·.environment)).getD []) kernel
  | .clock => .answered kernel.clock kernel
  | .watch fd => .answered (kernel.watch self fd) kernel
  | .hangUp ends patience => kernel.awaitHangUp self ends patience

/-- The answer to a call that a remembered signal breaks off. -/
def brokenOff : (wanted : Call) → Option wanted.Answer
  | .openFile .. | .read .. | .write .. | .sleep _ | .reap .. => some (.error Errno.interrupted)
  | _ => none

/-- How many signals a process remembers. -/
def rememberedCount (kernel : Kernel) (self : Nat) : Nat :=
  ((kernel.process? self).map (·.remembered.length)).getD 0

/-- Let a process have its turn: its signals take effect first, and a call that would have to wait
is broken off by one that the process remembers. -/
def turn (kernel : Kernel) (self : Nat) (wanted : Call) : Turn wanted.Answer :=
  let felt := kernel.takeAll self
  match felt.process? self with
  | none => .gone felt
  | some process =>
    if !process.isLive then .gone felt
    else if process.stopped then .waiting felt
    else
      match felt.attend self wanted with
      -- Only a signal that the program hears of breaks a call off; others let it go on.
      | .waiting host =>
        if kernel.rememberedCount self < felt.rememberedCount self then
          match brokenOff wanted with
          | some answer => .answered answer (host.update self fun known =>
              { known with alarm := none, opening := none })
          | none => .waiting host
        else .waiting host
      | other => other

end Kernel

end Umpire.Host
