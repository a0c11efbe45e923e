import Umpire.Host.Serve
import Umpire.Proofs.Host.Registry

/-! Stations: what of a process decides which descriptors it has. Most calls leave all stations as they
are, and a signal that ends a process touches no other station. -/

namespace Umpire.Host

/-- What of a process decides which descriptors it has, now and later. -/
structure Station where
  table : Table
  live : Bool
  /-- The process that it has ordered and waits for. -/
  ordered : Option Nat
  start : Start

/-- The station of a process. -/
def Process.station (process : Process) : Station :=
  ⟨process.table, process.isLive, process.ordered, process.start⟩

namespace Kernel

/-- The station of the process with a number. -/
def station? (kernel : Kernel) (number : Nat) : Option Station :=
  (kernel.process? number).map Process.station

/-- A process's slots are those of its station. -/
theorem slot?_eq (kernel : Kernel) (number fd : Nat) :
    kernel.slot? number fd = (kernel.station? number).bind fun station => station.table.get? fd := by
  simp only [slot?, station?, Option.bind_map]
  rfl

/-- A process that is found has its station. -/
theorem station?_of_process? {kernel : Kernel} {number : Nat} {process : Process}
    (found : kernel.process? number = some process) :
    kernel.station? number = some process.station := by
  rw [station?, found, Option.map_some]

/-- A process that is changed has another station, and no other process has. -/
theorem station?_update (kernel : Kernel) (self number : Nat) (change : Process → Process) :
    (kernel.update self change).station? number =
      (kernel.process? number).map fun process =>
        (if number = self then change process else process).station := by
  simp only [station?, process?, update, Registry.get?_modify, Option.map_map, Function.comp_def]

/-- A change that shows in a station shows in that of the process changed only. -/
theorem station?_update_map (kernel : Kernel) (self number : Nat) (change : Process → Process)
    (shown : Station → Station) (shows : ∀ process, (change process).station = shown process.station) :
    (kernel.update self change).station? number =
      if number = self then (kernel.station? number).map shown else kernel.station? number := by
  rw [station?_update, station?]
  -- For the process itself the change shows as it says, and for any other nothing has changed.
  split
  · rw [Option.map_map]
    congr 1
    exact funext shows
  · rfl

/-- A process that is not the one changed keeps its station. -/
theorem station?_update_of_ne (kernel : Kernel) {self number : Nat} (change : Process → Process)
    (other : number ≠ self) : (kernel.update self change).station? number = kernel.station? number := by
  rw [station?_update, station?]
  simp only [if_neg other]

/-- A process that is changed is found so. -/
theorem process?_update {kernel : Kernel} {self : Nat} {process : Process}
    (found : kernel.process? self = some process) (change : Process → Process) :
    (kernel.update self change).process? self = some (change process) := by
  -- A change is applied to what is found under the number.
  have seen := Registry.get?_modify kernel.processes self self change
  rw [show kernel.processes.get? self = some process from found, Option.map_some, if_pos rfl] at seen
  exact seen

/-- Changing a process changes no number. -/
theorem sound_update {kernel : Kernel} (sound : kernel.processes.Sound) (self : Nat)
    (change : Process → Process) : (kernel.update self change).processes.Sound :=
  sound.modify self change

/-- Nothing happened that a station shows: no descriptor, no process and no open file is new. -/
structure Same (before after : Kernel) : Prop where
  stations : ∀ number, after.station? number = before.station? number
  opens : after.opens.next = before.opens.next
  numbers : after.processes.next = before.processes.next
  sound : before.processes.Sound → after.processes.Sound

namespace Same

variable {before middle after : Kernel}

/-- Nothing happened if nothing was done. -/
theorem refl (kernel : Kernel) : Same kernel kernel :=
  ⟨fun _ => rfl, rfl, rfl, id⟩

/-- Nothing happened if twice nothing happened. -/
theorem trans (first : Same before middle) (second : Same middle after) : Same before after where
  stations number := (second.stations number).trans (first.stations number)
  opens := second.opens.trans first.opens
  numbers := second.numbers.trans first.numbers
  sound := second.sound ∘ first.sound

/-- Nothing happened if neither a process nor the number of open files has changed. -/
theorem of_processes (processes : after.processes = before.processes)
    (opens : after.opens.next = before.opens.next) : Same before after where
  -- A station is a view of a process.
  stations number := by rw [station?, station?, process?, process?, processes]
  opens := opens
  numbers := by rw [processes]
  sound := by rw [processes]; exact id

/-- Nothing happened if one process has changed, but not its station. -/
theorem of_update (kernel : Kernel) (self : Nat) {change : Process → Process}
    (keeps : ∀ process, (change process).station = process.station) :
    Same kernel (kernel.update self change) where
  stations number := by
    rw [station?_update, station?]
    -- Both sides show a station of the same process, changed or not.
    congr 1
    funext process
    split
    · exact keeps process
    · rfl
  opens := rfl
  numbers := rfl
  sound sound := sound.modify self change

end Same

/-- All stations but those of some processes are what they were, or were those of processes that had
ended and are gone. -/
def Spares (apart : List Nat) (before after : Kernel) : Prop :=
  ∀ number, number ∉ apart → after.station? number = before.station? number ∨
    after.station? number = none ∧
      ∃ station, before.station? number = some station ∧ station.live = false

namespace Spares

variable {apart : List Nat} {before middle after : Kernel}

/-- Where nothing happened all stations are spared. -/
theorem of_same (same : Same before after) : Spares apart before after :=
  fun number _ => .inl (same.stations number)

/-- Stations that are spared twice are spared. -/
theorem trans (first : Spares apart before middle) (second : Spares apart middle after) :
    Spares apart before after := by
  intro number other
  -- A station that is there at the end was there in between; one that is gone was gone already or ended in between.
  rcases second number other with same | ⟨gone, station, found, ended⟩
  · rcases first number other with known | ⟨gone, was⟩
    · exact .inl (same.trans known)
    · exact .inr ⟨same.trans gone, was⟩
  · rcases first number other with known | ⟨gone', -⟩
    · exact .inr ⟨gone, station, known ▸ found, ended⟩
    · rw [gone'] at found
      cases found

/-- Stations that are spared are so if more are left aside. -/
theorem mono {more : List Nat} (spared : Spares apart before after) (wider : apart ⊆ more) :
    Spares more before after :=
  fun number other => spared number fun member => other (wider member)

end Spares

/-- A process has ended or is not there at all, and has nothing open. -/
def Gone (kernel : Kernel) (number : Nat) : Prop :=
  ∀ station, kernel.station? number = some station →
    station.live = false ∧ ∀ fd, station.table.get? fd = none

/-- What signals do to the stations: that of the process that feels them is what it was, or the process
is gone. -/
structure Felt (who : Nat) (before after : Kernel) : Prop where
  spares : Spares [who] before after
  opens : after.opens.next = before.opens.next
  numbers : after.processes.next = before.processes.next
  sound : before.processes.Sound → after.processes.Sound
  own : after.station? who = before.station? who ∨ Gone after who

namespace Felt

variable {who : Nat} {before middle after : Kernel}

/-- A signal may have no effect that a station shows. -/
theorem of_same (same : Same before after) : Felt who before after where
  spares := .of_same same
  opens := same.opens
  numbers := same.numbers
  sound := same.sound
  own := .inl (same.stations who)

/-- Effects of signals add up. -/
theorem trans (first : Felt who before middle) (second : Felt who middle after) :
    Felt who before after where
  spares := first.spares.trans second.spares
  opens := second.opens.trans first.opens
  numbers := second.numbers.trans first.numbers
  sound := second.sound ∘ first.sound
  own := by
    -- Either both leave the process as it was, or one of them ends it.
    rcases second.own with same | gone
    · rcases first.own with known | gone
      · exact .inl (same.trans known)
      · exact .inr fun station found => gone station (same ▸ found)
    · exact .inr gone

end Felt

end Kernel

/-- An entry of a process whose parent ends: an orphan goes on without a parent, or is removed if it
has ended before. -/
def orphaned (parent : Nat) (entry : Nat × Process) : Option (Nat × Process) :=
  if entry.2.parent == parent then
    if entry.2.isLive then some (entry.1, { entry.2 with parent := 0 }) else none
  else some entry

/-- Orphans keep their numbers. -/
theorem orphaned_number {parent : Nat} {entry changed : Nat × Process}
    (kept : orphaned parent entry = some changed) : changed.1 = entry.1 := by
  rw [orphaned] at kept
  -- Of an orphan only the parent changes, and of others nothing does.
  split at kept
  · split at kept
    · exact (congrArg Prod.fst (Option.some.inj kept)).symm
    · cases kept
  · exact (congrArg Prod.fst (Option.some.inj kept)).symm

/-- The process once it has ended with a status that is still to be taken. -/
def Process.buried (process : Process) (status : WaitStatus) : Process :=
  { process with
    table := process.table.cleared
    opening := none
    alarm := none
    pending := []
    status := some status }

namespace Kernel

/-- The kernel whose processes have lost a parent. -/
def leftBy (kernel : Kernel) (parent : Nat) : Kernel :=
  { kernel with processes :=
    { kernel.processes with entries := kernel.processes.entries.filterMap (orphaned parent) } }

/-- The kernel without a process. -/
def without (kernel : Kernel) (number : Nat) : Kernel :=
  { kernel with processes := kernel.processes.erase number }

/-- A process that is removed has no station, and all others keep theirs. -/
theorem station?_without (kernel : Kernel) (removed number : Nat) :
    (kernel.without removed).station? number =
      if number = removed then none else kernel.station? number := by
  simp only [station?, process?, without, Registry.get?_erase]
  split <;> rfl

/-- A process that ends leaves its children, and is buried if its parent is there to take its status. -/
theorem finish_eq {kernel : Kernel} {self : Nat} {process : Process}
    (found : kernel.process? self = some process) (live : process.isLive = true)
    (status : WaitStatus) :
    kernel.finish self status = (kernel.leftBy self).update self (·.buried status) ∨
      kernel.finish self status = (kernel.leftBy self).without self := by
  rw [finish, found]
  -- The process lives, so its end has an effect.
  simp only [live, Bool.not_true, Bool.false_eq_true, if_false]
  -- Only a parent that lives can still take the status.
  cases kernel.process? process.parent with
  | none => exact .inr rfl
  | some parent =>
    cases living : parent.isLive with
    | true =>
      simp only [living, if_true]
      exact .inl rfl
    | false =>
      simp only [living, Bool.false_eq_true, if_false]
      exact .inr rfl

/-- Processes that lose their parent keep their stations, unless they have ended and are removed. -/
theorem spares_leftBy {kernel : Kernel} (sound : kernel.processes.Sound) (apart : List Nat)
    (parent : Nat) : Spares apart kernel (kernel.leftBy parent) := by
  intro number _
  -- Every entry is looked at by itself, and keeps its number.
  have looked : (kernel.leftBy parent).process? number =
      (kernel.process? number).bind fun known => (orphaned parent (number, known)).map Prod.snd :=
    Registry.lookup_filterMap sound.distinct (fun _ _ => orphaned_number) number
  rw [station?, station?, looked]
  cases known : kernel.process? number with
  | none => exact .inl rfl
  | some other =>
    simp only [Option.bind_some, orphaned]
    -- An orphan that lives goes on with its station; one that has ended is removed.
    split
    · cases living : other.isLive with
      | true => exact .inl rfl
      | false => exact .inr ⟨rfl, other.station, rfl, living⟩
    · exact .inl rfl

/-- A process that ends is gone, and with it children that had ended before; nothing else happens to
any station. -/
theorem felt_finish {kernel : Kernel} (sound : kernel.processes.Sound) {self : Nat} {process : Process}
    (found : kernel.process? self = some process) (live : process.isLive = true)
    (status : WaitStatus) :
    Felt self kernel (kernel.finish self status) ∧ Gone (kernel.finish self status) self := by
  have spared := spares_leftBy sound [self] self
  -- Losing a parent gives no number twice.
  have leftSound : (kernel.leftBy self).processes.Sound := sound.filterMap fun _ _ => orphaned_number
  rcases finish_eq found live status with buried | removed
  · rw [buried]
    -- Whoever is buried has its table cleared.
    have gone : Gone ((kernel.leftBy self).update self (·.buried status)) self := by
      intro station seen
      rw [station?_update] at seen
      obtain ⟨known, -, rfl⟩ := Option.map_eq_some_iff.mp seen
      rw [if_pos rfl]
      exact ⟨rfl, fun fd => Table.get?_cleared known.table fd⟩
    refine ⟨⟨?_, rfl, rfl, fun _ => leftSound.modify self (·.buried status), .inr gone⟩,
      gone⟩
    intro number other
    rw [station?_update_of_ne _ _ (List.ne_of_not_mem_cons other)]
    exact spared number other
  · rw [removed]
    -- Whoever is removed is not there.
    have gone : Gone ((kernel.leftBy self).without self) self := by
      intro station seen
      rw [station?_without, if_pos rfl] at seen
      cases seen
    refine ⟨⟨?_, rfl, rfl, fun _ => leftSound.erase self, .inr gone⟩, gone⟩
    intro number other
    rw [station?_without, if_neg (by simpa using other)]
    exact spared number other

end Kernel

end Umpire.Host
