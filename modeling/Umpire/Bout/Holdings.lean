import Umpire.Bout.Handle

/-! Holdings: the descriptors and started sides that the umpire is to let go of, however a bout ends. -/

namespace Umpire.Bout

/-- What the umpire has in hand. -/
structure Holdings where
  descriptors : List Nat := []
  handles : List Handle := []
  deriving DecidableEq, Repr

/-- A part of a bout: it may end in a fault, and keeps account of what is in hand. -/
abbrev Work (α : Type) := ExceptT Fault (StateT Holdings Conduct) α

namespace Holdings

/-- The holdings with more descriptors. -/
def keep (holdings : Holdings) (fds : List Nat) : Holdings :=
  { holdings with descriptors := holdings.descriptors ++ fds }

/-- The holdings without some descriptors. -/
def without (holdings : Holdings) (fds : List Nat) : Holdings :=
  { holdings with descriptors := holdings.descriptors.filter fun fd => !fds.contains fd }

/-- Let go of started sides. -/
def dropAll : List Handle → Conduct Unit
  | [] => return ()
  | handle :: rest => do
    handle.drop
    dropAll rest

/-- Let go of everything. -/
def dissolve (holdings : Holdings) : Conduct Unit := do
  -- Sides are ended before their pipes are closed under them.
  dropAll holdings.handles
  closeAll holdings.descriptors

end Holdings

namespace Work

/-- Do something that may end in a fault and needs nothing in hand. -/
def ofConduct {α : Type} (conduct : Conduct (Except Fault α)) : Work α :=
  fun holdings => do return (← conduct, holdings)

/-- Do something, and take the descriptors that come of it in hand. -/
def gain {α : Type} (conduct : Conduct (Except Fault α)) (fds : α → List Nat) : Work α := do
  let value ← ofConduct conduct
  modify fun holdings => holdings.keep (fds value)
  return value

/-- Leave descriptors to others. -/
def handOver (fds : List Nat) : Work Unit :=
  modify fun holdings => holdings.without fds

/-- Close descriptors that were in hand. -/
def release (fds : List Nat) : Work Unit := do
  ofConduct (do
    closeAll fds
    return .ok ())
  handOver fds

/-- Tell something. -/
def note (entry : Entry) : Work Unit :=
  ofConduct (do
    tell entry
    return .ok ())

/-- Do the work, and let go of all that is in hand at its end. -/
def perform {α : Type} (work : Work α) : Conduct (Except Fault α) := do
  let (result, holdings) ← work {}
  holdings.dissolve
  return result

end Work

end Umpire.Bout
