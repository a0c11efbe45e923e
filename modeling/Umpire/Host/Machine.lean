import Umpire.Host.Install
import Umpire.Host.Serve

/-! Running processes side by side: each in turn makes one call, until a chosen one has its result. -/

namespace Umpire.Host

/-- What the host's programs do. -/
abbrev Programs := Image → Talk Nat

/-- A process and what it still has to do. -/
structure Task where
  self : Nat
  talk : Talk Nat

/-- What is left of a task after its turn. -/
structure Passed where
  kernel : Kernel
  /-- The task itself, unless it is over, and the tasks that it has started. -/
  tasks : List Task
  /-- Whether anything but waiting was done. -/
  moved : Bool

/-- Let a task have its turn. -/
def Task.pass (task : Task) (programs : Programs) (kernel : Kernel) : Passed :=
  match task.talk with
  | .done code =>
    -- A signal that arrived before the end decides the status.
    let felt := kernel.takeAll task.self
    ⟨felt.finish task.self (.ofExit code), [], true⟩
  | .ask wanted next =>
    match kernel.turn task.self wanted with
    | .answered value host => ⟨host, [⟨task.self, next value⟩], true⟩
    | .waiting host => ⟨host, [task], false⟩
    | .gone host => ⟨host, [], true⟩
    | .replaced image host => ⟨host, [⟨task.self, programs image⟩], true⟩
    | .forked child mine its host => ⟨host, [⟨task.self, next mine⟩, ⟨child, next its⟩], true⟩
    | .ordered child order host => ⟨host, [task, ⟨child, order.obey⟩], true⟩

/-- Let every task have its turn; tasks that are started have theirs in the next round. -/
def passAll (programs : Programs) (kernel : Kernel) (tasks : List Task) : Passed :=
  tasks.foldl (fun reached task =>
    let passed := task.pass programs reached.kernel
    ⟨passed.kernel, reached.tasks ++ passed.tasks, reached.moved || passed.moved⟩) ⟨kernel, [], false⟩

/-- How the host's run ends. -/
inductive Outcome (α : Type) where
  /-- The chosen process has its result. -/
  | finished (value : α) (kernel : Kernel)
  /-- It had none when the time was over, or can never have one. -/
  | stuck

namespace Machine

/-- How long a round lasts, in millionths of a second. -/
def tick : Nat := 20

/-- When the time is over: after eight seconds. -/
def bedtime : Nat := 8000000

/-- More rounds than there are before the time is over. -/
def rounds : Nat := 500000

/-- The earliest time at which a rest is over. -/
def nextAlarm (kernel : Kernel) : Option Nat :=
  (kernel.processes.entries.filterMap fun entry => entry.2.alarm).min?

/-- The time after a round. If nothing moves it is the end of the next rest. -/
def later (kernel : Kernel) (idle : Nat) : Option Nat :=
  -- One calm round may only mean that a process reads what another has just written.
  if idle < 2 then some (kernel.clock + tick)
  else (nextAlarm kernel).map fun time => max time (kernel.clock + tick)

/-- Run a chosen process beside others until it has its result. The chosen one does not fork and
runs no other program; a process that it forks ends at once. -/
def drive {α : Type} (programs : Programs) (self : Nat) :
    Nat → Kernel → List Task → Nat → Talk α → Outcome α
  | 0, _, _, _, _ => .stuck
  | fuel + 1, kernel, tasks, idle, talk =>
    match talk with
    | .done value => .finished value kernel
    | .ask wanted next =>
      let goOn (rest : Talk α) (host : Kernel) (started : List Task) (moved : Bool) : Outcome α :=
        let passed := passAll programs host tasks
        let calm := if moved || passed.moved then 0 else idle + 1
        match later passed.kernel calm with
        | none => .stuck
        | some time =>
          if bedtime < time then .stuck
          else
            drive programs self fuel { passed.kernel with clock := time } (passed.tasks ++ started)
              calm rest
      match kernel.turn self wanted with
      | .answered value host => goOn (next value) host [] true
      | .waiting host => goOn talk host [] false
      | .forked child mine _ host => goOn (next mine) (host.finish child (.ofExit 1)) [] true
      | .ordered child order host => goOn talk host [⟨child, order.obey⟩] true
      | .gone _ | .replaced _ _ => .stuck

/-- Run a chosen process of a host. -/
def run {α : Type} (programs : Programs) (kernel : Kernel) (self : Nat) (talk : Talk α) : Outcome α :=
  drive programs self rounds kernel [] 0 talk

end Machine

end Umpire.Host
