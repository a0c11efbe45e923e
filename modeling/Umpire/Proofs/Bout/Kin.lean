import Umpire.Proofs.Bout.Mooring
import Umpire.Proofs.Host.Doom
import Umpire.Proofs.Host.Passage

/-! Kin: an open file passes from a process to those that it starts and to nobody else, so that a pipe is left by its
writers when the kin of those who were given its write end have let go of it. -/

namespace Umpire

namespace Host

/-- An open file that a table refers to is one that some number stands for. -/
theorem Table.of_mem_files {table : Table} {file : Nat} (member : file ∈ table.files) :
    ∃ fd slot, table.get? fd = some slot ∧ slot.file = file := by
  -- The files are those of the slots that are taken.
  obtain ⟨some_, listed, same⟩ := List.mem_filterMap.mp member
  obtain ⟨slot, rfl, rfl⟩ := Option.map_eq_some_iff.mp same
  obtain ⟨fd, found⟩ := List.getElem?_of_mem listed
  exact ⟨fd, slot, Option.join_eq_some_iff.mpr found, rfl⟩

end Host

namespace Host.Kernel

variable {kernel : Kernel} {who : Nat}

/-- A process has an open file under some number. -/
def Holds (kernel : Kernel) (who file : Nat) : Prop :=
  ∃ fd slot, kernel.slot? who fd = some slot ∧ slot.file = file

/-- A process has an end of a pipe without a name under a number. -/
def HasEnd (kernel : Kernel) (who fd channel : Nat) : Prop :=
  ∃ slot access, kernel.slot? who fd = some slot ∧ kernel.seat? slot.file = some (.channel channel, access)

/-- Somebody can write to a pipe by another opening than a certain one: by an open file of another number, or by an
opening that he waits for. Whoever opens the path of a pipe that he has an end of comes to that. -/
def Reopened (kernel : Kernel) (channel file : Nat) : Prop :=
  (∃ who other place access, kernel.Holds who other ∧ other ≠ file ∧ kernel.seat? other = some (place, access) ∧
    kernel.channelOf place = some channel ∧ access.writes = true) ∨
  ∃ who opening, kernel.opening? who = some opening ∧ opening.channel = channel ∧ opening.access.writes = true

/-- A process that is there has under a number what its station says. -/
theorem slot?_of_station {station : Station} {fd : Nat} {slot : Slot} (found : kernel.station? who = some station)
    (held : station.table.get? fd = some slot) : kernel.slot? who fd = some slot := by
  rw [slot?_eq, found]
  exact held

/-- Who has something open has it by his station. -/
theorem station_of_slot? {fd : Nat} {slot : Slot} (held : kernel.slot? who fd = some slot) :
    ∃ station, kernel.station? who = some station ∧ station.table.get? fd = some slot := by
  rw [slot?_eq] at held
  exact Option.bind_eq_some_iff.mp held

/-- An end of a pipe is held exactly if a process has it open or waits for its opening. -/
theorem isHeld_iff (sound : kernel.processes.Sound) {channel : Nat} {wanted : Access → Bool} :
    kernel.isHeld channel wanted = true ↔
      (∃ who file place access, kernel.Holds who file ∧ kernel.seat? file = some (place, access) ∧
        kernel.channelOf place = some channel ∧ wanted access = true) ∨
      ∃ who opening, kernel.opening? who = some opening ∧ opening.channel = channel ∧
        wanted opening.access = true := by
  constructor
  · intro held
    -- The entry that holds the end is found under its number, since no other has that number.
    obtain ⟨⟨who, process⟩, listed, holds⟩ := List.any_eq_true.mp held
    have found : kernel.process? who = some process := Registry.lookup_of_mem sound.distinct listed
    rw [holdsEnd, Bool.or_eq_true] at holds
    rcases holds with open_ | waits
    · -- It has an open file that is the end, or waits for an opening that will be.
      obtain ⟨file, member, right⟩ := List.any_eq_true.mp open_
      obtain ⟨fd, slot, had, rfl⟩ := Table.of_mem_files member
      split at right
      · rename_i known there
        rw [Bool.and_eq_true, beq_iff_eq] at right
        refine .inl ⟨who, slot.file, known.place, known.access, ⟨fd, slot, ?_, rfl⟩, ?_, right.2, right.1⟩
        · rw [slot?, found]
          exact had
        · rw [seat?, there]
          rfl
      · cases right
    · split at waits
      · rename_i opening there
        rw [Bool.and_eq_true, beq_iff_eq] at waits
        refine .inr ⟨who, opening, ?_, waits⟩
        rw [opening?, found]
        exact there
      · cases waits
  · rintro (⟨who, file, place, access, ⟨fd, slot, held, rfl⟩, seat, named, right⟩ | ⟨who, opening, waits, rfl, right⟩)
    · exact isHeld_of_slot held seat named right
    · obtain ⟨process, found, there⟩ := Option.bind_eq_some_iff.mp waits
      obtain ⟨earlier, later, entries, -⟩ := List.lookup_eq_some_iff.mp found
      refine List.any_eq_true.mpr ⟨(who, process), by simp [entries], ?_⟩
      rw [holdsEnd, there]
      simp [right]

/-- The read end of a pipe has hung up exactly when nobody has the write end any more, and nobody can write to the
pipe by another opening. -/
theorem hasHungUp_iff (sound : kernel.processes.Sound) {fd channel file : Nat} {access : Access}
    (reads : kernel.HasEnd who fd channel) (seat : kernel.seat? file = some (.channel channel, access))
    (writes : access.writes = true) :
    kernel.hasHungUp who fd = true ↔ (∀ any, ¬ kernel.Holds any file) ∧ ¬ kernel.Reopened channel file := by
  obtain ⟨slot, own, held, there⟩ := reads
  obtain ⟨opened, known, same⟩ := Option.map_eq_some_iff.mp there
  obtain ⟨place, -⟩ := Prod.mk.inj same
  -- The watched descriptor is an end of the pipe, so what counts is whether anybody can write to that.
  have watched : kernel.hasHungUp who fd = !kernel.hasWriter channel := by
    simp [hasHungUp, openFile?, held, known, place, channelOf]
  have left : kernel.hasHungUp who fd = true ↔ ¬ kernel.isHeld channel (·.writes) = true := by
    rw [watched, hasWriter]
    simp
  rw [left, isHeld_iff sound]
  constructor
  · intro free
    refine ⟨fun any holds => free (.inl ⟨any, file, _, access, holds, seat, rfl, writes⟩), ?_⟩
    rintro (⟨any, other, place, wanted, holds, -, rest⟩ | waits)
    · exact free (.inl ⟨any, other, place, wanted, holds, rest⟩)
    · exact free (.inr waits)
  · rintro ⟨without, closed⟩ (⟨any, other, place, wanted, holds, rest⟩ | waits)
    · -- What is open is the write end itself, or another opening.
      have apart : other ≠ file := by
        rintro rfl
        exact without any holds
      exact closed (.inl ⟨any, other, place, wanted, holds, apart, rest⟩)
    · exact closed (.inr waits)

/-- Whoever has an old open file after a turn had it before, or was started in the turn by one who had it. -/
theorem holds_turned {wanted : Call} {turn : Turn wanted.Answer} (turned : Turned kernel who wanted turn) {file : Nat}
    (old : file < kernel.opens.next) {any : Nat} (holds : turn.kernel.Holds any file) :
    kernel.Holds any file ∨ any ∈ turn.born ∧ kernel.Holds who file := by
  obtain ⟨fd, slot, held, rfl⟩ := holds
  obtain ⟨station, found, had⟩ := station_of_slot? held
  -- It is the process's own, or that of one it started, or anybody else's.
  by_cases own : any = who
  · subst own
    refine .inl ?_
    rcases turned.own_cases found with gone | ⟨same, -⟩ | ⟨was, there, -, -, -, gains⟩
    · rw [(gone station found).2 fd] at had
      cases had
    · exact ⟨fd, slot, slot?_of_station same had, rfl⟩
    · -- What is new has a number that no open file had.
      rcases gains.from_old fd slot had with ⟨before, known, kept, same⟩ | ⟨new, -⟩
      · exact ⟨before, known, slot?_of_station there kept, same⟩
      · exact absurd old (Nat.not_lt.mpr new)
  · by_cases born : any ∈ turn.born
    · -- A process starts with what the one has that starts it.
      obtain ⟨-, was, start, there, -, copied, -⟩ := turned.born_eq born
      cases copied.symm.trans found
      exact .inr ⟨born, fd, slot, slot?_of_station there had, rfl⟩
    · have same := turned.station_of_apart (by simp [own, born]) found
      exact .inl ⟨fd, slot, slot?_of_station same had, rfl⟩

/-- Whoever has an open file after the end of a process had it before. -/
theorem holds_ended (sound : kernel.Sound) {status : WaitStatus} {any file : Nat}
    (holds : ((kernel.takeAll who).finish who status).Holds any file) : kernel.Holds any file := by
  -- It is as if the process had asked for something and had then been no more.
  obtain ⟨felt, gone⟩ := felt_end sound who status
  obtain ⟨fd, slot, held, rfl⟩ := holds
  obtain ⟨station, found, had⟩ := station_of_slot? held
  by_cases own : any = who
  · subst own
    rw [(gone station found).2 fd] at had
    cases had
  · rcases felt.spares any (by simpa using own) with same | ⟨absent, -⟩
    · exact ⟨fd, slot, slot?_of_station (same ▸ found) had, rfl⟩
    · rw [absent] at found
      cases found

end Host.Kernel

namespace Bout

open Host (Call Kernel Station Turn)

/-- Who descends from a process is that process, or descends from one that it has started. -/
theorem Descends.eq_or_child {births : List (Nat × Nat)} {elder who : Nat} (descends : Descends births elder who) :
    who = elder ∨ ∃ child, (child, elder) ∈ births ∧ Descends births child who := by
  -- The child is the first in the line from the elder.
  induction descends with
  | itself => exact .inl rfl
  | @born young parent birth older ih =>
    rcases ih with rfl | ⟨child, started, descends⟩
    · exact .inr ⟨young, birth, .itself⟩
    · exact .inr ⟨child, started, .born birth descends⟩

/-- The processes of a host, and which of them was started by which, the younger one first. -/
structure World where
  kernel : Kernel
  births : List (Nat × Nat) := []

namespace World

/-- What can happen in a world by a process: it has a turn, whatever it asks for, or ends, or lets time pass. -/
inductive Acts (who : Nat) (world : World) : World → Prop where
  | moved {wanted : Call} {turn : Turn wanted.Answer} (may : world.kernel.May who wanted turn) :
      Acts who world ⟨turn.kernel, turn.born.map (·, who) ++ world.births⟩
  | ended (status : WaitStatus) : Acts who world ⟨(world.kernel.takeAll who).finish who status, world.births⟩
  | later (clock : Nat) : Acts who world ⟨{ world.kernel with clock }, world.births⟩

/-- What happens by another process is others' doing. -/
theorem Acts.others {world later : World} {who self : Nat} (acts : world.Acts who later) (other : who ≠ self) :
    Host.Others self world.kernel later.kernel := by
  cases acts with
  | moved may => exact .moved other may
  | ended status => exact .ended other status
  | later clock => exact .later clock

/-- Whoever is born is of the process that has its turn. -/
theorem Acts.births_of_ne {world later : World} {who child parent : Nat} (acts : world.Acts who later)
    (other : parent ≠ who) (birth : (child, parent) ∈ later.births) : (child, parent) ∈ world.births := by
  -- Only a turn adds births, and all that it adds are of its process.
  cases acts with
  | @moved wanted turn may =>
    refine (List.mem_append.mp birth).resolve_left fun young => ?_
    obtain ⟨born, -, same⟩ := List.mem_map.mp young
    exact other (congrArg Prod.snd same).symm
  | ended | later => exact birth

/-- The worlds that a world can lead to. -/
def Leads : World → World → Prop :=
  Relation.ReflTransGen fun before after => ∃ who, Acts who before after

/-- Whoever has an open file descends from one of some processes. -/
def Confines (world : World) (roots : Nat → Prop) (file : Nat) : Prop :=
  ∀ who, world.kernel.Holds who file → ∃ root, roots root ∧ Descends world.births root who

/-- What lasts in a world whatever happens: beside what lasts in its kernel, births are remembered, open files stay with
kin, and who is doomed stays so. -/
structure Lasts (before after : World) : Prop where
  onward : Host.Onward before.kernel after.kernel
  births : before.births ⊆ after.births
  confines : ∀ roots file, file < before.kernel.opens.next → before.Confines roots file → after.Confines roots file
  doomed : ∀ who, who < before.kernel.processes.next → before.kernel.Doomed who → after.kernel.Doomed who

namespace Lasts

variable {before middle after : World}

/-- Everything lasts if nothing happens. -/
theorem refl (sound : before.kernel.Sound) : Lasts before before :=
  ⟨.refl sound, fun _ => id, fun _ _ _ => id, fun _ _ => id⟩

/-- What lasts twice lasts. -/
theorem trans (first : Lasts before middle) (second : Lasts middle after) : Lasts before after where
  onward := first.onward.trans second.onward
  births := List.Subset.trans first.births second.births
  -- What was old at first is old in the middle as well.
  confines roots file old confines :=
    second.confines roots file (Nat.lt_of_lt_of_le old first.onward.grows) (first.confines roots file old confines)
  doomed who old doomed :=
    second.doomed who (Nat.lt_of_lt_of_le old first.onward.numbers) (first.doomed who old doomed)

/-- Everything lasts when a process has its turn. -/
theorem of_may (sound : before.kernel.Sound) {who : Nat} {wanted : Call} {turn : Turn wanted.Answer}
    (may : before.kernel.May who wanted turn) :
    Lasts before ⟨turn.kernel, turn.born.map (·, who) ++ before.births⟩ where
  onward := .of_may sound may
  births := List.subset_append_right _ _
  confines roots file old confines := by
    intro any held
    -- Who has the file had it before, or was born to one who had.
    rcases Kernel.holds_turned (Kernel.turned_may sound may) old held with own | ⟨born, elder⟩
    · obtain ⟨root, listed, descends⟩ := confines any own
      exact ⟨root, listed, descends.mono (List.subset_append_right _ _)⟩
    · obtain ⟨root, listed, descends⟩ := confines who elder
      have birth : (any, who) ∈ turn.born.map (·, who) ++ before.births :=
        List.mem_append_left _ (List.mem_map_of_mem born)
      exact ⟨root, listed, .born birth (descends.mono (List.subset_append_right _ _))⟩
  doomed who' old doomed := doomed.may sound.processes old may

/-- Everything lasts whatever happens by a process. -/
theorem of_acts (sound : before.kernel.Sound) {who : Nat} (acts : before.Acts who after) : Lasts before after := by
  -- Only a turn starts anybody; at an end open files are let go of, and with time nothing changes.
  cases acts with
  | moved may => exact .of_may sound may
  | ended status =>
    exact ⟨.of_end sound who status, fun _ => id,
      fun _ _ _ confines any held => confines any (Kernel.holds_ended sound held),
      fun _ old doomed => doomed.ended sound.processes old who status⟩
  | later clock => exact ⟨.of_later sound clock, fun _ => id, fun _ _ _ => id, fun _ _ => id⟩

/-- Everything lasts whatever happens. -/
theorem of_leads (sound : before.kernel.Sound) (leads : before.Leads after) : Lasts before after := by
  -- What lasts is put together from one act to the next, each on a kernel that is still sound.
  induction leads with
  | refl => exact .refl sound
  | tail _ acts ih =>
    obtain ⟨who, acts⟩ := acts
    exact ih.trans (.of_acts ih.onward.sound acts)

end Lasts

/-- An open file is the write end of a pipe, and is held by some processes and their descendants only. -/
structure WriteEnd (world : World) (roots : Nat → Prop) (file channel : Nat) : Prop where
  sound : world.kernel.Sound
  old : file < world.kernel.opens.next
  seat : ∃ access, world.kernel.seat? file = some (.channel channel, access) ∧ access.writes = true
  confines : world.Confines roots file

namespace WriteEnd

variable {world : World} {roots : Nat → Prop} {file channel : Nat} (writeEnd : world.WriteEnd roots file channel)

include writeEnd

/-- The write end of a pipe remains so, and stays with kin. -/
theorem lasts {later : World} (lasts : Lasts world later) : later.WriteEnd roots file channel where
  sound := lasts.onward.sound
  old := Nat.lt_of_lt_of_le writeEnd.old lasts.onward.grows
  -- The file is old, so its seat is one that lasts.
  seat := by
    rw [lasts.onward.seats file writeEnd.old]
    exact writeEnd.seat
  confines := lasts.confines _ _ writeEnd.old writeEnd.confines

/-- The read end has hung up exactly when nobody of the kin has the write end, unless the pipe was opened anew. -/
theorem hangsUp_iff {reader fd : Nat} (reads : world.kernel.HasEnd reader fd channel) :
    world.kernel.hasHungUp reader fd = true ↔
      (∀ root who, roots root → Descends world.births root who → ¬ world.kernel.Holds who file) ∧
        ¬ world.kernel.Reopened channel file := by
  obtain ⟨access, seat, writes⟩ := writeEnd.seat
  -- Whoever has the write end is of the kin, so that it is enough to look there.
  rw [Kernel.hasHungUp_iff writeEnd.sound.processes reads seat writes]
  refine and_congr_left fun _ => ⟨fun nobody _ who _ _ => nobody who, fun none who holds => ?_⟩
  obtain ⟨root, listed, descends⟩ := writeEnd.confines who holds
  exact none root who listed descends holds

/-- Once a process that is doomed has had its turn, only its descendants are left to have the write end. -/
theorem hangsUp_of_doomed {child : Nat} (alone : ∀ root, roots root ↔ root = child)
    (doomed : world.kernel.Doomed child) {reader fd : Nat}
    (reads : (world.kernel.takeAll child).HasEnd reader fd channel) :
    (world.kernel.takeAll child).hasHungUp reader fd = true ↔
      (∀ who, who ≠ child → Descends world.births child who → ¬ (world.kernel.takeAll child).Holds who file) ∧
        ¬ (world.kernel.takeAll child).Reopened channel file := by
  -- Its turn is one of the things that can happen, whatever it asks for.
  have may : world.kernel.May child .clock (.gone (world.kernel.takeAll child)) :=
    doomed.turn writeEnd.sound.processes .clock ▸ .heard
  have turned := Kernel.turned_may writeEnd.sound may
  have later : WriteEnd ⟨world.kernel.takeAll child, world.births⟩ roots file channel :=
    writeEnd.lasts (.of_may writeEnd.sound may)
  -- The doomed process ends in that turn, and then has nothing.
  have empty : ¬ (world.kernel.takeAll child).Holds child file := by
    rintro ⟨fd, slot, held, -⟩
    obtain ⟨station, found, had⟩ := Kernel.station_of_slot? held
    cases turned.took with
    | gone gone _ =>
      rw [(gone station found).2 fd] at had
      cases had
  rw [later.hangsUp_iff reads]
  refine and_congr_left fun _ => ⟨fun none who _ descends => none child who ((alone child).mpr rfl) descends, ?_⟩
  intro none root who listed descends
  obtain rfl := (alone root).mp listed
  by_cases own : who = root
  · exact own ▸ empty
  · exact none who own descends

end WriteEnd

end World

end Bout

end Umpire
