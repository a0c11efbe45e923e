import Mathlib.Logic.Function.Basic
import Mathlib.Logic.Relation
import Umpire.Host.Machine
import Umpire.Proofs.Bout.Record

/-! Scenes: a bout among all processes of its host, whose turns come in any order. -/

namespace Umpire.Bout

open Host (Call Kernel Programs Station Talk Turn)

/-- An order that the umpire has given: the process that was started on it, and the number from which on
open files are newer. -/
structure Enrolment where
  child : Nat
  commission : Commission
  bound : Nat

/-- A bout among all processes of its host. -/
structure Scene where
  kernel : Kernel
  /-- What the umpire still has to do. -/
  rest : Conduct (Except Fault Report)
  /-- What each other process still has to do. -/
  tasks : Nat → Option (Talk Nat)
  /-- What is on record of the bout. -/
  record : Record := {}
  /-- The orders that the umpire has given. -/
  enrolled : List Enrolment := []
  /-- Which process was started by which, the younger one first. -/
  births : List (Nat × Nat) := []

/-- A process descends from another that it is, or that one of its elders is. -/
inductive Descends (births : List (Nat × Nat)) (elder : Nat) : Nat → Prop where
  | itself : Descends births elder elder
  | born {child parent : Nat} (birth : (child, parent) ∈ births) (older : Descends births elder parent) :
      Descends births elder child

/-- A younger process's elders are its elders whoever else is born. -/
theorem Descends.mono {births more : List (Nat × Nat)} {elder younger : Nat}
    (descends : Descends births elder younger) (fewer : births ⊆ more) : Descends more elder younger := by
  -- By induction on the line of elders, each birth of which is among the more.
  induction descends with
  | itself => exact .itself
  | born birth _ ih => exact .born (fewer birth) ih

/-- What all others have to do once a process has had its turn. -/
def tasksAfter (programs : Programs) (tasks : Nat → Option (Talk Nat)) (who : Nat) {wanted : Call}
    (next : wanted.Answer → Talk Nat) : Turn wanted.Answer → Nat → Option (Talk Nat)
  | .answered value _ => Function.update tasks who (some (next value))
  -- Who waits asks for the same again.
  | .waiting _ => tasks
  | .gone _ => Function.update tasks who none
  | .replaced image _ => Function.update tasks who (some (programs image))
  -- Both go on after the call, each with its own answer.
  | .forked child mine its _ => Function.update (Function.update tasks who (some (next mine))) child (some (next its))
  | .ordered child order _ => Function.update tasks child (some order.obey)

/-- One process has its turn, or time passes. -/
inductive Step (programs : Programs) (umpire : Nat) (scene : Scene) : Scene → Prop where
  /-- The umpire tells something. -/
  | told {entry : Entry} {next : Unit → Conduct (Except Fault Report)} {was : Station}
      (rest : scene.rest = .ask (.note entry) next) (there : scene.kernel.station? umpire = some was)
      (live : was.live = true) :
      Step programs umpire scene { scene with
        rest := next ()
        record := scene.record.after was.table (.note entry) () }
  /-- The umpire is answered. -/
  | answered {wanted : Call} {next : wanted.Answer → Conduct (Except Fault Report)} {value : wanted.Answer}
      {after : Kernel} {left : Station} (rest : scene.rest = .ask (.call wanted) next)
      (may : scene.kernel.May umpire wanted (.answered value after))
      (there : after.station? umpire = some left) :
      Step programs umpire scene { scene with
        kernel := after
        rest := next value
        record := scene.record.after left.table (.call wanted) value }
  /-- The umpire waits, or is no more. -/
  | idle {wanted : Call} {next : wanted.Answer → Conduct (Except Fault Report)}
      {turn : Turn wanted.Answer} (rest : scene.rest = .ask (.call wanted) next)
      (may : scene.kernel.May umpire wanted turn)
      (idle : turn = .waiting turn.kernel ∨ turn = .gone turn.kernel) :
      Step programs umpire scene { scene with kernel := turn.kernel }
  /-- The umpire orders a process to be started. -/
  | ordered {order given : Host.Order} {next : Except IoFault Nat → Conduct (Except Fault Report)}
      {child : Nat} {after : Kernel} {was : Station} (rest : scene.rest = .ask (.call (.spawn order)) next)
      (may : scene.kernel.May umpire (.spawn order) (.ordered child given after))
      (there : scene.kernel.station? umpire = some was) :
      Step programs umpire scene { scene with
        kernel := after
        tasks := Function.update scene.tasks child (some given.obey)
        enrolled := ⟨child, ⟨scene.record.starting, ⟨given, was.table⟩⟩, after.opens.next⟩ :: scene.enrolled
        births := (child, umpire) :: scene.births }
  /-- Another process has its turn. -/
  | moved {who : Nat} {wanted : Call} {next : wanted.Answer → Talk Nat} {turn : Turn wanted.Answer}
      (asks : scene.tasks who = some (.ask wanted next)) (may : scene.kernel.May who wanted turn) :
      Step programs umpire scene { scene with
        kernel := turn.kernel
        tasks := tasksAfter programs scene.tasks who next turn
        births := turn.born.map (·, who) ++ scene.births }
  /-- Another process ends. -/
  | ended {who code : Nat} (ends : scene.tasks who = some (.done code)) :
      Step programs umpire scene { scene with
        kernel := (scene.kernel.takeAll who).finish who (.ofExit code)
        tasks := Function.update scene.tasks who none }
  /-- Time passes. -/
  | later (clock : Nat) : Step programs umpire scene { scene with kernel := { scene.kernel with clock } }

/-- The scenes that a scene can lead to. -/
def Reaches (programs : Programs) (umpire : Nat) : Scene → Scene → Prop :=
  Relation.ReflTransGen (Step programs umpire)

/-- The scene in which a bout begins. -/
def Scene.opening (contest : Contest) (kernel : Kernel) (tasks : Nat → Option (Talk Nat)) : Scene :=
  { kernel, rest := run contest, tasks }

/-- A bout can begin: the umpire is a process that has its standard streams open and has started nobody,
and only others have anything else to do. -/
structure Ready (umpire : Nat) (kernel : Kernel) (tasks : Nat → Option (Talk Nat)) : Prop where
  sound : kernel.Sound
  others : ∀ who, tasks who ≠ none → who ≠ umpire ∧ who < kernel.processes.next
  umpire : ∃ was, kernel.station? umpire = some was ∧ was.live = true ∧ was.ordered = none ∧
    (∀ fd, fd < 3 → (was.table.get? fd).isSome) ∧ was.table.limit ≤ 2147483648

end Umpire.Bout
