import Umpire.Bout.Run
import Umpire.Trial.Ground

/-! Trials of whole bouts. -/

namespace Umpire.Trial.Run

open Host

/-- Run a contest; the answer is its result, what was told, and what is left in the directory. -/
def trial (contest : Contest) (fixtures : List Fixture) (limit : Option Nat) :
    Option ((Except Fault Report × List Entry) × List Leaf) :=
  onGround fixtures [] (within limit (Bout.run contest).told)

end Umpire.Trial.Run
