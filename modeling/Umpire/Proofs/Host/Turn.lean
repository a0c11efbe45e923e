import Umpire.Proofs.Host.Quiet

/-! What a turn of one process does to the descriptors of all: its own change as its call asks for, a
process that it starts gets a copy, and all others keep theirs. -/

namespace Umpire.Host

/-- What an answered call has done to the descriptors of the process that made it. Open files that are
new have the numbers from `next` on, up to `later`. -/
def Effect (next : Nat) (table : Table) (wanted : Call) (value : wanted.Answer) (later : Nat)
    (after : Table) : Prop :=
  match wanted, value with
  | .pipe, .ok (readEnd, writeEnd) =>
    ∃ between, table.insert 0 ⟨next, true⟩ = .ok (readEnd, between) ∧
      between.insert 0 ⟨next + 1, true⟩ = .ok (writeEnd, after) ∧ later = next + 2
  | .openFile _ _ closeOnExec, .ok fd =>
    table.insert 0 ⟨next, closeOnExec⟩ = .ok (fd, after) ∧ later = next + 1
  | .close fd, .ok () => table.close fd = .ok after ∧ later = next
  -- These fail only for a number that is not open.
  | .close fd, .error _ => table.get? fd = none ∧ after = table ∧ later = next
  | .duplicateTo fd target, .ok () => table.duplicateTo fd target = .ok after ∧ later = next
  | .duplicateFrom fd least closeOnExec, .ok number =>
    table.duplicateFrom fd least closeOnExec = .ok (number, after) ∧ later = next
  | .closeOnExec fd, .ok flag =>
    (∃ slot, table.get? fd = some slot ∧ flag = slot.closeOnExec) ∧ after = table ∧ later = next
  | .closeOnExec fd, .error _ => table.get? fd = none ∧ after = table ∧ later = next
  | .setCloseOnExec fd flag, .ok () => table.setCloseOnExec fd flag = .ok after ∧ later = next
  | .setCloseOnExec fd _, .error _ => table.get? fd = none ∧ after = table ∧ later = next
  | .setLimit limit, _ => after = { table with limit } ∧ later = next
  -- No other call, and no other failure, touches a descriptor.
  | _, _ => after = table ∧ later = next

/-- The kernel after a turn. -/
def Turn.kernel {α : Type} : Turn α → Kernel
  | .answered _ kernel | .waiting kernel | .gone kernel | .replaced _ kernel | .forked _ _ _ kernel
  | .ordered _ _ kernel => kernel

/-- The process that a turn has started. -/
def Turn.born {α : Type} : Turn α → List Nat
  | .forked child .. | .ordered child .. => [child]
  | _ => []

/-- A station whose descriptors are of open files below a bound, and of a process that has none once it
has ended, which it has if it could not run its program. -/
structure Station.Sound (bound : Nat) (station : Station) : Prop where
  opened : ∀ fd slot, station.table.get? fd = some slot → slot.file < bound
  buried : station.live = false → ∀ fd, station.table.get? fd = none
  refused : ∀ cause, station.start = .refused cause → station.live = false

/-- A station that is sound is so under any higher bound. -/
theorem Station.Sound.mono {bound higher : Nat} {station : Station} (sound : station.Sound bound)
    (le : bound ≤ higher) : station.Sound higher where
  -- Only the bound on open files is about the kernel.
  opened fd slot found := Nat.lt_of_lt_of_le (sound.opened fd slot found) le
  buried := sound.buried
  refused := sound.refused

namespace Kernel

/-- A kernel that has given no number twice and whose stations are sound. -/
structure Sound (kernel : Kernel) : Prop where
  processes : kernel.processes.Sound
  stations : ∀ number station, kernel.station? number = some station →
    station.Sound kernel.opens.next

/-- Signals leave a kernel sound. -/
theorem Sound.felt {before after : Kernel} (sound : before.Sound) {who : Nat}
    (felt : Felt who before after) : after.Sound where
  processes := felt.sound sound.processes
  stations number station found := by
    rw [felt.opens]
    by_cases own : number = who
    · subst own
      -- Its own station is what it was, or the signals have ended it.
      rcases felt.own with same | gone
      · exact sound.stations number station (same ▸ found)
      · -- A process that is gone has nothing open.
        obtain ⟨ended, empty⟩ := gone station found
        refine ⟨fun fd slot taken => ?_, fun _ => empty, fun _ _ => ended⟩
        rw [empty fd] at taken
        cases taken
    · -- Any other is what it was, or is not there any more.
      rcases felt.spares number (by simpa using own) with same | ⟨gone, -⟩
      · exact sound.stations number station (same ▸ found)
      · rw [gone] at found
        cases found

/-- How a process's turn can end, and what has become of its station then. -/
inductive Took (kernel : Kernel) (who : Nat) : (wanted : Call) → Turn wanted.Answer → Prop where
  /-- Its call is answered; only its descriptors have changed. -/
  | answered {wanted : Call} {value : wanted.Answer} {after : Kernel} {was : Station} {table : Table}
      (plain : ∀ order, wanted ≠ .spawn order)
      (there : kernel.station? who = some was) (live : was.live = true)
      (left : after.station? who = some { was with table })
      (effect : Effect kernel.opens.next was.table wanted value after.opens.next table) :
      Took kernel who wanted (.answered value after)
  /-- It waits. -/
  | waiting {wanted : Call} {after : Kernel} (same : after.station? who = kernel.station? who)
      (opens : after.opens.next = kernel.opens.next) :
      Took kernel who wanted (.waiting after)
  /-- It is no more. -/
  | gone {wanted : Call} {after : Kernel} (gone : Gone after who)
      (opens : after.opens.next = kernel.opens.next) :
      Took kernel who wanted (.gone after)
  /-- It runs another program, for which some descriptors are kept. -/
  | replaced {path : Bytes} {words : List Bytes} {environment : List (Bytes × Bytes)} {image : Image}
      {after : Kernel} {was : Station}
      (there : kernel.station? who = some was) (live : was.live = true)
      (left : after.station? who = some ⟨was.table.afterExec, true, was.ordered, .running⟩)
      (opens : after.opens.next = kernel.opens.next) :
      Took kernel who (.exec path words environment) (.replaced image after)
  /-- It has become two, which have the same open. -/
  | forked {child : Nat} {mine its : Except Errno (Option Nat)} {after : Kernel} {was : Station}
      (there : kernel.station? who = some was) (live : was.live = true)
      (number : child = kernel.processes.next) (left : after.station? who = some was)
      (born : after.station? child = some ⟨was.table, true, none, .running⟩)
      (opens : after.opens.next = kernel.opens.next) :
      Took kernel who .fork (.forked child mine its after)
  /-- It has ordered a process, which starts with the same open. -/
  | ordered {order : Order} {child : Nat} {after : Kernel} {was : Station}
      (there : kernel.station? who = some was) (live : was.live = true) (idle : was.ordered = none)
      (number : child = kernel.processes.next)
      (left : after.station? who = some { was with ordered := some child })
      (born : after.station? child = some ⟨was.table, true, none, .preparing⟩)
      (opens : after.opens.next = kernel.opens.next) :
      Took kernel who (.spawn order) (.ordered child order after)
  /-- Its order was not taken. -/
  | declined {order : Order} {cause : IoFault} {after : Kernel} {was : Station}
      (there : kernel.station? who = some was) (live : was.live = true) (idle : was.ordered = none)
      (left : after.station? who = some was) (opens : after.opens.next = kernel.opens.next) :
      Took kernel who (.spawn order) (.answered (.error cause) after)
  /-- The process that it ordered runs its program, or has ended before it could. -/
  | started {order : Order} {child : Nat} {after : Kernel} {was : Station}
      (there : kernel.station? who = some was) (live : was.live = true)
      (waits : was.ordered = some child)
      (left : after.station? who = some { was with ordered := none })
      (runs : ∀ station, kernel.station? child = some station →
        station.live = false ∨ station.start = .running)
      (opens : after.opens.next = kernel.opens.next) :
      Took kernel who (.spawn order) (.answered (.ok child) after)
  /-- The process that it ordered could not run its program. -/
  | failed {order : Order} {child : Nat} {cause : IoFault} {errno : Errno} {after : Kernel}
      {was station : Station}
      (there : kernel.station? who = some was) (live : was.live = true)
      (waits : was.ordered = some child)
      (left : after.station? who = some { was with ordered := none })
      (found : kernel.station? child = some station) (gaveUp : station.start = .refused errno)
      (opens : after.opens.next = kernel.opens.next) :
      Took kernel who (.spawn order) (.answered (.error cause) after)

/-- What a process's turn does: what it does to its own station, and that it starts a process at most
and touches no other station. -/
structure Turned (kernel : Kernel) (who : Nat) (wanted : Call) (turn : Turn wanted.Answer) : Prop where
  spares : Spares (who :: turn.born) kernel turn.kernel
  processes : turn.kernel.processes.Sound
  numbers : turn.kernel.processes.next = kernel.processes.next + turn.born.length
  took : Took kernel who wanted turn

/-- Only the descriptors of one process have changed. -/
structure Retabled (kernel : Kernel) (who : Nat) (table : Table) (after : Kernel) : Prop where
  stations : ∀ number, after.station? number =
    (kernel.station? number).map fun station => if number = who then { station with table } else station
  numbers : after.processes.next = kernel.processes.next
  sound : kernel.processes.Sound → after.processes.Sound

/-- Setting what a process has open changes nothing else. -/
theorem retabled_setTable (kernel : Kernel) (who : Nat) (table : Table) :
    Retabled kernel who table (kernel.setTable who table) where
  stations number := by
    -- Of what a station shows only the table changes.
    rw [setTable, station?_update, station?, Option.map_map]
    congr 1
    funext process
    dsimp only [Function.comp]
    split <;> rfl
  numbers := rfl
  sound sound := sound.modify who fun process => { process with table }

/-- What a process is granted is put under a number that was free. -/
theorem retabled_grant {kernel after : Kernel} {who fd : Nat} {file : OpenFile} {closeOnExec : Bool}
    (granted : kernel.grant who file closeOnExec = .ok (fd, after)) :
    ∃ process table, kernel.process? who = some process ∧
      process.table.insert 0 ⟨kernel.opens.next, closeOnExec⟩ = .ok (fd, table) ∧
      Retabled kernel who table after ∧ after.opens.next = kernel.opens.next + 1 := by
  -- It is granted to a process that is there and has a number free.
  rw [grant] at granted
  split at granted
  · cases granted
  · rename_i process found
    dsimp only [Registry.add] at granted
    split at granted
    · cases granted
    · rename_i number table taken
      cases granted
      -- A new open file shows in no station until it is under a number.
      have retabled := retabled_setTable
        { kernel with opens := (kernel.opens.add file).2 } who table
      exact ⟨process, table, found, taken, ⟨retabled.stations, rfl, retabled.sound⟩, rfl⟩

namespace Turned

variable {kernel after : Kernel} {who : Nat} {wanted : Call} {was : Station}

/-- A call that is answered without anything that shows in a station. -/
theorem of_same {value : wanted.Answer} (sound : kernel.Sound) (plain : ∀ order, wanted ≠ .spawn order)
    (there : kernel.station? who = some was) (live : was.live = true) (same : Same kernel after)
    (effect : Effect kernel.opens.next was.table wanted value kernel.opens.next was.table) :
    Turned kernel who wanted (.answered value after) where
  spares := .of_same same
  processes := same.sound sound.processes
  numbers := same.numbers
  took := by
    -- It is put as an answer that leaves the table it finds.
    have left : after.station? who = some { was with table := was.table } :=
      (same.stations who).trans there
    exact .answered plain there live left (same.opens.symm ▸ effect)

/-- A call that waits without anything that shows in a station. -/
theorem of_waiting (sound : kernel.Sound) (same : Same kernel after) :
    Turned kernel who wanted (.waiting after) where
  spares := .of_same same
  processes := same.sound sound.processes
  numbers := same.numbers
  took := .waiting (same.stations who) same.opens

/-- A call that is answered with a change of the descriptors of the process that made it. -/
theorem of_retabled {value : wanted.Answer} {table : Table} (sound : kernel.Sound)
    (plain : ∀ order, wanted ≠ .spawn order) (there : kernel.station? who = some was)
    (live : was.live = true) (retabled : Retabled kernel who table after)
    (effect : Effect kernel.opens.next was.table wanted value after.opens.next table) :
    Turned kernel who wanted (.answered value after) where
  spares number other := by
    -- Nobody else's table is touched.
    have different : number ≠ who := List.ne_of_not_mem_cons other
    refine .inl ((retabled.stations number).trans ?_)
    simp only [if_neg different, Option.map_id_fun', id]
  processes := retabled.sound sound.processes
  numbers := retabled.numbers
  took := .answered plain there live
    (by rw [retabled.stations, there, Option.map_some, if_pos rfl]) effect

end Turned

end Kernel

end Umpire.Host
