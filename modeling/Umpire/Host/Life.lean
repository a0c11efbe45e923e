import Umpire.Host.Kernel

/-! The life of processes: their start, signals, their end, and taking their statuses. -/

namespace Umpire.Host

namespace Kernel

/-- A second process like a first: it shares the open files and starts without signals and rests. -/
def fork (kernel : Kernel) (self : Nat) : Option (Nat × Kernel) :=
  (kernel.process? self).map fun process =>
    -- What is open, the signals' actions and the bound of numbers are the first one's.
    let (child, processes) := kernel.processes.add { process with
      parent := self
      pending := []
      remembered := []
      alarm := none
      ordered := none
      opening := none
      start := .running }
    (child, { kernel with processes := processes })

/-- Some signals with one more; one that is among them already counts only once. -/
def withSignal (signals : List Nat) (number : Nat) : List Nat :=
  if signals.contains number then signals else signals ++ [number]

/-- Send a signal; number zero only asks whether the process is there. -/
def signal (kernel : Kernel) (process number : Nat) : Except Errno Kernel :=
  if Signal.highest < number then .error Errno.invalid
  else
    match kernel.process? process with
    | none => .error Errno.noProcess
    | some known =>
      -- A process that has ended but was not waited for can still be named.
      if number = 0 || !known.isLive then .ok kernel
      else .ok (kernel.update process fun target =>
        { target with pending := withSignal target.pending number })

/-- Send a signal to the group that a process leads; zero means the group of the sender. -/
def signalGroup (kernel : Kernel) (self leader number : Nat) : Except Errno Kernel :=
  let own := ((kernel.process? self).map (·.group)).getD 0
  let wanted := if leader = 0 then own else leader
  let members := kernel.processes.entries.filter fun entry => entry.2.group = wanted
  if Signal.highest < number then .error Errno.invalid
  else if members.isEmpty then .error Errno.noProcess
  else if number = 0 then .ok kernel
  else
    .ok (members.foldl (fun reached entry =>
      if entry.2.isLive then
        reached.update entry.1 fun target => { target with pending := withSignal target.pending number }
      else reached) kernel)

/-- Let one signal take effect. -/
def take (kernel : Kernel) (self number : Nat) : Kernel :=
  match kernel.process? self with
  | none => kernel
  | some process =>
    if !process.isLive then kernel else
    -- A signal that resumes does so even if it is ignored.
    let awake := if Signal.meaning number = .resumes then
        kernel.update self fun known => { known with stopped := false }
      else kernel
    match process.action number with
    | .ignore => awake
    -- The program hears of it when it asks.
    | .remember =>
      awake.update self fun known => { known with remembered := withSignal known.remembered number }
    | .standard =>
      match Signal.meaning number with
      | .ends => awake.finish self (.ofSignal number)
      | .stops => awake.update self fun known => { known with stopped := true }
      | .resumes | .nothing => awake

/-- Let all signals that wait for a process take effect in turn. -/
def takeAll (kernel : Kernel) (self : Nat) : Kernel :=
  match kernel.process? self with
  | none => kernel
  | some process =>
    if process.pending.isEmpty then kernel
    else
      -- A stopped process only feels what ends it or resumes it.
      let feels (number : Nat) : Bool :=
        !process.stopped || number == Signal.kill || Signal.meaning number == .resumes
      let spared := kernel.update self fun known =>
        { known with pending := known.pending.filter fun number => !feels number }
      (process.pending.filter feels).foldl (fun reached number => reached.take self number) spared

/-- Take the status of an ended child: of one, or of any. None means that there is none yet. -/
def reap (kernel : Kernel) (self : Nat) (child : Option Nat) :
    Except Errno (Option ((Nat × WaitStatus) × Kernel)) :=
  let candidates := (kernel.children self).filter fun entry =>
    match child with
    | some number => entry.1 == number
    | none => true
  if candidates.isEmpty then .error Errno.noChild
  else
    -- The eldest child comes first.
    let ended := candidates.reverse.findSome? fun entry => entry.2.status.map fun status => (entry.1, status)
    match ended with
    | none => .ok none
    | some (number, status) =>
      .ok (some ((number, status), { kernel with processes := kernel.processes.erase number }))

end Kernel

end Umpire.Host
