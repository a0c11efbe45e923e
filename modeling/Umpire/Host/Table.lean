import Umpire.Host.Errno

/-! Descriptor tables: which open file each number of a process refers to, and what each operation does to each
number. -/

namespace Umpire.Host

/-- What a descriptor number stands for. -/
structure Slot where
  /-- The number of the open file. -/
  file : Nat
  /-- Whether the descriptor goes away when the process runs another program. -/
  closeOnExec : Bool
  deriving DecidableEq, Repr

/-- The descriptors of a process, by number. -/
structure Table where
  slots : List (Option Slot) := []
  /-- Numbers from this one on cannot be taken. -/
  limit : Nat := 1024
  deriving DecidableEq, Repr

namespace Table

/-- What a number stands for, if it is open. -/
def get? (table : Table) (fd : Nat) : Option Slot :=
  (table.slots[fd]?).join

/-- A list of slots with one of them replaced; missing ones before it are free. -/
def replaceAt : List (Option Slot) → Nat → Option Slot → List (Option Slot)
  | [], 0, slot => [slot]
  | [], fd + 1, slot => none :: replaceAt [] fd slot
  | _ :: rest, 0, slot => slot :: rest
  | first :: rest, fd + 1, slot => first :: replaceAt rest fd slot

/-- The table with one number replaced. -/
def put (table : Table) (fd : Nat) (slot : Option Slot) : Table :=
  { table with slots := replaceAt table.slots fd slot }

/-- The lowest free number that is not below a given one. -/
def lowestFree (table : Table) (least : Nat) : Nat :=
  least + ((table.slots.drop least).takeWhile Option.isSome).length

/-- Take the lowest free number for a slot. -/
def insert (table : Table) (least : Nat) (slot : Slot) : Except Errno (Nat × Table) :=
  let fd := table.lowestFree least
  if fd < table.limit then .ok (fd, table.put fd (some slot)) else .error Errno.tooManyOpen

/-- Free a number. -/
def close (table : Table) (fd : Nat) : Except Errno Table :=
  match table.get? fd with
  | none => .error Errno.badDescriptor
  | some _ => .ok (table.put fd none)

/-- Let a second number stand for the same open file, whatever it stood for before. -/
def duplicateTo (table : Table) (fd target : Nat) : Except Errno Table :=
  match table.get? fd with
  | none => .error Errno.badDescriptor
  | some slot =>
    if table.limit ≤ target then .error Errno.badDescriptor
    else if fd = target then .ok table
    else .ok (table.put target (some { slot with closeOnExec := false }))

/-- Let the lowest free number, not below a given one, stand for the same open file. -/
def duplicateFrom (table : Table) (fd least : Nat) (closeOnExec : Bool) :
    Except Errno (Nat × Table) :=
  match table.get? fd with
  | none => .error Errno.badDescriptor
  | some slot =>
    if table.limit ≤ least then .error Errno.invalid
    else table.insert least { slot with closeOnExec }

/-- Set whether a descriptor goes away when the process runs another program. -/
def setCloseOnExec (table : Table) (fd : Nat) (closeOnExec : Bool) : Except Errno Table :=
  match table.get? fd with
  | none => .error Errno.badDescriptor
  | some slot => .ok (table.put fd (some { slot with closeOnExec }))

/-- The table after the process has started to run another program. -/
def afterExec (table : Table) : Table :=
  { table with slots := table.slots.map fun slot => slot.filter fun kept => !kept.closeOnExec }

/-- The open files that the table refers to. -/
def files (table : Table) : List Nat :=
  table.slots.filterMap fun slot => slot.map (·.file)

/-- The open numbers in ascending order. -/
def numbers (table : Table) : List Nat :=
  (List.range table.slots.length).filter fun fd => (table.get? fd).isSome

/-- The table of a process that has ended. -/
def cleared (table : Table) : Table :=
  { table with slots := [] }

/-- Replacing a slot changes what stands at its place only. -/
theorem getElem?_replaceAt (slots : List (Option Slot)) (fd number : Nat) (slot : Option Slot) :
    ((replaceAt slots fd slot)[number]?).join =
      if number = fd then slot else (slots[number]?).join := by
  -- Along the list to the place, which may lie beyond its end.
  induction slots, fd, slot using replaceAt.induct generalizing number with
  | case1 slot => cases number <;> simp [replaceAt]
  | case2 slot fd ih => cases number <;> simp [replaceAt, ih]
  | case3 slot first rest => cases number <;> simp [replaceAt]
  | case4 slot first rest fd ih => cases number <;> simp [replaceAt, ih]

/-- Putting something under a number changes what that number stands for only. -/
@[simp] theorem get?_put (table : Table) (fd number : Nat) (slot : Option Slot) :
    (table.put fd slot).get? number = if number = fd then slot else table.get? number :=
  getElem?_replaceAt table.slots fd number slot

variable {table after : Table} {fd number : Nat}

/-- A table with nothing in it has nothing under any number. -/
@[simp] theorem get?_cleared (table : Table) (fd : Nat) : table.cleared.get? fd = none := rfl

/-- What a number stands for is one of the open files that the table refers to. -/
theorem mem_files {table : Table} {fd : Nat} {slot : Slot} (held : table.get? fd = some slot) :
    slot.file ∈ table.files := by
  -- The slot stands in the list at its number.
  refine List.mem_filterMap.mpr ⟨some slot, ?_, rfl⟩
  exact List.mem_of_getElem? (Option.join_eq_some_iff.mp held)

/-- The first place that is not taken in a list of slots is free, or beyond its end. -/
theorem join_takeWhile (slots : List (Option Slot)) :
    (slots[(slots.takeWhile Option.isSome).length]?).join = none := by
  induction slots with
  | nil => rfl
  | cons slot rest ih => cases slot <;> simp [ih]

/-- The lowest free number is free. -/
theorem get?_lowestFree (table : Table) (least : Nat) :
    table.get? (table.lowestFree least) = none := by
  -- Numbers below the bound are left out, and the first free one among the others is counted from there.
  rw [get?, lowestFree, ← List.getElem?_drop]
  exact join_takeWhile (table.slots.drop least)

/-- What is taken is a number that was free and is below the bound. -/
theorem insert_ok {least : Nat} {slot : Slot} (taken : table.insert least slot = .ok (fd, after)) :
    table.get? fd = none ∧ fd < table.limit ∧ after = table.put fd (some slot) := by
  simp only [insert] at taken
  -- Only the limit can stand in the way.
  split at taken
  · rename_i room
    cases taken
    exact ⟨table.get?_lowestFree least, room, rfl⟩
  · cases taken

/-- A number that is freed stands for nothing any more, and all others for what they did. -/
theorem close_ok (closed : table.close fd = .ok after) :
    after = table.put fd none := by
  rw [close] at closed
  split at closed
  · cases closed
  · exact (Except.ok.inj closed).symm

/-- Only a number that stands for nothing cannot be freed. -/
theorem close_error {errno : Errno} (refused : table.close fd = .error errno) :
    table.get? fd = none := by
  rw [close] at refused
  split at refused
  · assumption
  · cases refused

/-- What is duplicated onto a number stands under it, to be kept by new programs. If the numbers are
the same nothing is done. -/
theorem duplicateTo_ok {target : Nat} (copied : table.duplicateTo fd target = .ok after) :
    ∃ slot, table.get? fd = some slot ∧
      after = if fd = target then table else table.put target (some { slot with closeOnExec := false }) := by
  rw [duplicateTo] at copied
  split at copied
  · cases copied
  · rename_i slot found
    refine ⟨slot, found, ?_⟩
    split at copied
    · cases copied
    · -- The number was free to take, and is another one or the same.
      split at copied <;> rename_i same
      · rw [if_pos same]
        exact (Except.ok.inj copied).symm
      · rw [if_neg same]
        exact (Except.ok.inj copied).symm

/-- What is duplicated takes a free number. -/
theorem duplicateFrom_ok {least : Nat} {closeOnExec : Bool}
    (copied : table.duplicateFrom fd least closeOnExec = .ok (number, after)) :
    ∃ slot, table.get? fd = some slot ∧
      table.insert least { slot with closeOnExec } = .ok (number, after) := by
  rw [duplicateFrom] at copied
  split at copied
  · cases copied
  · split at copied
    · cases copied
    · exact ⟨_, ‹_›, copied⟩

/-- Whether a number is kept by new programs is set for the slot that stands under it. -/
theorem setCloseOnExec_ok {flag : Bool} (set : table.setCloseOnExec fd flag = .ok after) :
    ∃ slot, table.get? fd = some slot ∧ after = table.put fd (some { slot with closeOnExec := flag }) := by
  rw [setCloseOnExec] at set
  split at set
  · cases set
  · exact ⟨_, ‹_›, (Except.ok.inj set).symm⟩

/-- Only for a number that stands for nothing it cannot be set. -/
theorem setCloseOnExec_error {flag : Bool} {errno : Errno}
    (refused : table.setCloseOnExec fd flag = .error errno) : table.get? fd = none := by
  rw [setCloseOnExec] at refused
  split at refused
  · assumption
  · cases refused

/-- A new program keeps what is not marked to go away, under the same numbers. -/
theorem get?_afterExec (table : Table) (fd : Nat) :
    table.afterExec.get? fd = (table.get? fd).filter fun slot => !slot.closeOnExec := by
  simp only [get?, afterExec, List.getElem?_map]
  -- Each slot is kept or dropped by itself.
  cases table.slots[fd]? with
  | none => rfl
  | some slot => rfl

end Table

end Umpire.Host
