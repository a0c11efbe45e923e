import Umpire.Host.Machine
import Umpire.Host.Setup
import Umpire.Tool.Catalogue

/-! The ground on which trials are made: a fresh host whose first process does what is tried. -/

namespace Umpire.Trial

open Host

/-- Let the first process of a fresh host do something, with some fixtures in its directory and some
more variables in its environment. The answer is what came of it and what is left in the directory;
none if it comes to no end. -/
def onGround {α : Type} (fixtures : List Fixture) (additions : List (Bytes × Bytes)) (talk : Talk α) :
    Option (α × List Leaf) :=
  let (kernel, directory) := Setup.host (Tool.Catalogue.common.map (·.1)) Tool.Catalogue.umpire fixtures
  let ready := kernel.update Setup.firstProcess fun process =>
    { process with environment := process.environment ++ additions }
  match Machine.run Tool.Catalogue.programs ready Setup.firstProcess talk with
  | .finished value host => some (value, host.tree directory)
  | .stuck => none

/-- Do something while descriptors can only be had below a limit, if there is one. -/
def within {α : Type} (limit : Option Nat) (talk : Talk α) : Talk α := do
  match limit with
  | none => talk
  | some least =>
    let before ← call (.setLimit least)
    let result ← talk
    let _ ← call (.setLimit before)
    return result

end Umpire.Trial
