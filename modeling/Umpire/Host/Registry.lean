/-! Registries: records that are given numbers, never the same number twice. -/

namespace Umpire.Host

/-- Records by number, the latest first. -/
structure Registry (α : Type) where
  entries : List (Nat × α) := []
  /-- The number for the next record. -/
  next : Nat := 0
  deriving Repr

namespace Registry

variable {α : Type}

/-- The record with a number. -/
def get? (registry : Registry α) (number : Nat) : Option α :=
  registry.entries.lookup number

/-- Give a record the next number. -/
def add (registry : Registry α) (record : α) : Nat × Registry α :=
  (registry.next, ⟨(registry.next, record) :: registry.entries, registry.next + 1⟩)

/-- Change the record with a number. -/
def modify (registry : Registry α) (number : Nat) (change : α → α) : Registry α :=
  { registry with
    entries := registry.entries.map fun entry =>
      if entry.1 = number then (entry.1, change entry.2) else entry }

/-- Remove the record with a number. -/
def erase (registry : Registry α) (number : Nat) : Registry α :=
  { registry with entries := registry.entries.filter fun entry => entry.1 != number }

/-- Changing the entry of one number changes what is found under that number only. -/
theorem lookup_map_entry (entries : List (Nat × α)) (number wanted : Nat) (change : α → α) :
    (entries.map fun entry =>
      if entry.1 = number then (entry.1, change entry.2) else entry).lookup wanted =
      (entries.lookup wanted).map fun record => if wanted = number then change record else record := by
  induction entries with
  | nil => rfl
  | cons entry rest ih =>
    obtain ⟨key, record⟩ := entry
    by_cases found : wanted = key
    · by_cases changed : key = number <;> simp [found, changed]
    · have missed : (wanted == key) = false := by simpa using found
      by_cases changed : key = number
      · simpa [List.lookup_cons, changed, changed ▸ missed] using ih
      · simpa [List.lookup_cons, changed, missed] using ih

/-- Changing the record with a number leaves all others as they are. -/
theorem get?_modify (registry : Registry α) (number wanted : Nat) (change : α → α) :
    (registry.modify number change).get? wanted =
      (registry.get? wanted).map fun record =>
        if wanted = number then change record else record :=
  lookup_map_entry registry.entries number wanted change

end Registry

end Umpire.Host
