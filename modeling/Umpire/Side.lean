import Umpire.Text.Numeral

/-! The two sides of a contest, their tags, and values kept for each of them. -/

namespace Umpire

/-- One of the two processes that run against each other. -/
inductive Side where
  | solution
  | interactor
  deriving DecidableEq, Repr

namespace Side

/-- Both sides in the order in which they are launched. -/
def all : List Side :=
  [.solution, .interactor]

/-- The number by which a report names the side. -/
def tag : Side → UInt8
  | .solution => 1
  | .interactor => 2

/-- The side that plays against this one. -/
def other : Side → Side
  | .solution => .interactor
  | .interactor => .solution

/-- The side that plays against the other side is the side itself. -/
@[simp] theorem other_other (side : Side) : side.other.other = side := by
  cases side <;> rfl

/-- No side plays against itself. -/
@[simp] theorem other_ne (side : Side) : side.other ≠ side := by
  cases side <;> decide

/-- A side that is not the one is the other. -/
theorem eq_other_of_ne {side any : Side} (different : any ≠ side) : any = side.other := by
  -- There are only two sides.
  cases side <;> cases any <;> simp_all [other]

/-- The word for the side. -/
def name : Side → String
  | .solution => "solution"
  | .interactor => "interactor"

/-- A number that is no side's tag. -/
structure UnknownTag where
  tag : UInt8
  deriving DecidableEq, Repr

/-- The wording of the complaint about a number that is no tag. -/
def UnknownTag.message (unknown : UnknownTag) : String :=
  s!"invalid side tag: {unknown.tag.toNat} (expected 1 or 2)"

/-- The side with a given tag. -/
def ofTag (tag : UInt8) : Except UnknownTag Side :=
  if tag = 1 then .ok .solution
  else if tag = 2 then .ok .interactor
  else .error ⟨tag⟩

/-- Sides are ordered by tag, which is how a tie is broken. -/
instance : LT Side where
  lt a b := a.tag < b.tag

instance (a b : Side) : Decidable (a < b) :=
  inferInstanceAs (Decidable (a.tag < b.tag))

end Side

/-- A value for each side. -/
structure PerSide (α : Type) where
  solution : α
  interactor : α
  deriving DecidableEq, Repr

namespace PerSide

variable {α β : Type}

/-- The value kept for a side. -/
def get (values : PerSide α) : Side → α
  | .solution => values.solution
  | .interactor => values.interactor

/-- The same values with the one of a side replaced. -/
def set (values : PerSide α) (side : Side) (value : α) : PerSide α :=
  match side with
  | .solution => { values with solution := value }
  | .interactor => { values with interactor := value }

/-- A value computed for each side. -/
def ofFn (value : Side → α) : PerSide α :=
  ⟨value .solution, value .interactor⟩

/-- Each side's value under a function. -/
def map (f : α → β) (values : PerSide α) : PerSide β :=
  ⟨f values.solution, f values.interactor⟩

/-- Both values in launch order. -/
def toList (values : PerSide α) : List α :=
  [values.solution, values.interactor]

/-- The value of a side that was set is the new one. -/
@[simp] theorem get_set_same (values : PerSide α) (side : Side) (value : α) :
    (values.set side value).get side = value := by
  cases side <;> rfl

/-- The value of the other side stays. -/
@[simp] theorem get_set_other (values : PerSide α) (side : Side) (value : α) :
    (values.set side value).get side.other = values.get side.other := by
  cases side <;> rfl

/-- Setting a side to the value it has changes nothing. -/
@[simp] theorem set_get (values : PerSide α) (side : Side) :
    values.set side (values.get side) = values := by
  cases side <;> rfl

/-- Setting the other side leaves a side's value. -/
@[simp] theorem get_set_of_other (values : PerSide α) (side : Side) (value : α) :
    (values.set side.other value).get side = values.get side := by
  cases side <;> rfl

end PerSide

end Umpire
