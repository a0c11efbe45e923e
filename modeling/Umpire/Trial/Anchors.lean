import Umpire.Bout.Wiring
import Umpire.Trial.Ground

/-! Trials of anchors: which named pipes a contest holds open. -/

namespace Umpire.Trial.Anchors

open Host

/-- Hold a contest's named pipes; the answer is how many are held, what was told, and what stands in
the directory meanwhile. -/
def trial (contest : Contest) (fixtures : List Fixture) (limit : Option Nat) :
    Option (Except Fault (Nat × List Entry) × List Leaf) :=
  onGround fixtures [] (do
    let (result, told) ← within limit (Bout.Anchors.hold contest).told
    return result.map fun held => (held.length, told))

end Umpire.Trial.Anchors
