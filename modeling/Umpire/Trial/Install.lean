import Umpire.Bout.Redirection
import Umpire.Host.Install
import Umpire.Host.Transfer
import Umpire.Trial.Ground

/-! Trials of redirects: putting files in the place of standard streams, and using the streams. -/

namespace Umpire.Trial.Install

open Host

/-- Close descriptors. -/
def closeEach : List Nat → Talk Unit
  | [] => return ()
  | fd :: rest => do
    let _ ← call (.close fd)
    closeEach rest

/-- Write on descriptors. -/
def writeEach : List (Nat × Bytes) → Talk Unit
  | [] => return ()
  | (fd, data) :: rest => do
    let _ ← writeAll fd data
    writeEach rest

/-- What is tried. -/
structure Plan where
  redirects : List Redirect
  /-- Whether standard input is read to its end once all redirects are installed. -/
  reads : Bool
  /-- What is written then. -/
  writes : List (Nat × Bytes)
  /-- What is closed before. -/
  closed : List Nat
  /-- The limit of descriptors while redirects are installed. -/
  limit : Option Nat

/-- Whether all redirects were installed, and what was read. -/
structure Account where
  result : Except Errno Unit
  read : Option (Except Errno Bytes)

/-- Install redirects in the first process and use its streams. -/
def trial (plan : Plan) (fixtures : List Fixture) : Option (Account × List Leaf) :=
  onGround fixtures [] (do
    closeEach plan.closed
    match ← within plan.limit (install plan.redirects) with
    | .error errno => return ⟨.error errno, none⟩
    | .ok () =>
      let read ← if plan.reads then some <$> readAll 0 else pure none
      writeEach plan.writes
      return ⟨.ok (), read⟩)

end Umpire.Trial.Install
