import Umpire.Proofs.Bout.Play
import Umpire.Proofs.Bout.Presiding

/-! Ownership: which process holds which of the descriptors that the umpire has made. What is meant for a
side is held by the process that was started for the side and its descendants only. -/

namespace Umpire.Bout

open Host (Call Charge Kernel Programs Slot Station Table Talk Turn)

variable {contest : Contest} {programs : Programs} {umpire : Nat}

section Lineage

variable {births : List (Nat × Nat)} (lineage : (births.map Prod.fst).Nodup)

include lineage

/-- A process was started by one other only. -/
theorem parent_unique {child parent parent' : Nat} (birth : (child, parent) ∈ births)
    (birth' : (child, parent') ∈ births) : parent = parent' :=
  congrArg Prod.snd (List.inj_on_of_nodup_map lineage birth birth' rfl)

/-- Two processes that were started by the same one, which nobody has started, share no descendant. -/
theorem Descends.root_unique {root one other who : Nat} (orphan : ∀ birth ∈ births, birth.1 ≠ root)
    (first : (one, root) ∈ births) (second : (other, root) ∈ births) (descends : Descends births one who)
    (descends' : Descends births other who) : one = other := by
  -- What was started by the root does not descend from anybody that was.
  have apart {elder : Nat} (birth : (elder, root) ∈ births) : ¬ Descends births elder root := by
    rintro (_ | ⟨birth', -⟩)
    · exact orphan _ birth rfl
    · exact orphan _ birth' rfl
  induction descends with
  | itself =>
    cases descends' with
    | itself => rfl
    | born birth older =>
      -- One of the two started the other, which was started by the root.
      obtain rfl := parent_unique lineage birth first
      exact absurd older (apart second)
  | born birth older ih =>
    cases descends' with
    | itself =>
      obtain rfl := parent_unique lineage birth second
      exact absurd older (apart first)
    | born birth' older' => exact ih (parent_unique lineage birth' birth ▸ older')

end Lineage

namespace Record

/-- An open file is meant for a side: it is the write end of the side's signalling pipe, or is to become
one of the side's streams. -/
def Means (contest : Contest) (record : Record) (side : Side) (file : Nat) : Prop :=
  (∃ beacon, record.beacons.get side = some beacon ∧ beacon.writing = file) ∨
    ∃ stream, record.wire contest side stream = some file

/-- What is meant for a side depends on what was made and told of only. -/
theorem Means.congr {record later : Record} {side : Side} {file : Nat}
    (beacons : later.beacons = record.beacons) (made : later.made = record.made) :
    later.Means contest side file ↔ record.Means contest side file := by
  simp only [Means, wire, beacons, made]

end Record

namespace Ledger.Orders

variable {ledger : Ledger} {order : Host.Order} {side : Side} {beacon : Beacon}
  (orders : ledger.Orders contest order side beacon) {file : Nat}

include orders

/-- Of the umpire's making an order hands on what is meant for its side. -/
theorem means_of_hands (hands : Charge.Hands ⟨order, ledger.table⟩ file) (made : file ∈ ledger.record.made) :
    ledger.record.Means contest side file := by
  obtain ⟨fd, slot, held, rfl, exposed | given⟩ := hands
  · exact .inl ⟨beacon, orders.exposes.2.1, (orders.exposes.2.2 fd slot ⟨held, made⟩ exposed).2.symm⟩
  · -- What is given as a stream is an end of the wiring of this side.
    obtain ⟨choice, member, rfl⟩ := List.mem_map.mp given
    obtain ⟨slot', held', wire⟩ := orders.wired choice member
    cases held.symm.trans held'
    exact .inr ⟨choice.2, wire⟩

/-- All that is meant for a side is handed on by its order. -/
theorem hands_of_means (means : ledger.record.Means contest side file) :
    Charge.Hands ⟨order, ledger.table⟩ file := by
  -- The side's write end would be kept, and its ends of the wiring are given.
  rcases means with ⟨own, told, rfl⟩ | ⟨stream, wire⟩
  · cases told.symm.trans orders.exposes.2.1
    exact ⟨_, _, orders.kept, rfl, .inl rfl⟩
  · obtain ⟨fd, slot, given, held, same⟩ := orders.gives stream file wire
    exact ⟨fd, slot, held, same, .inr (List.mem_map_of_mem given)⟩

/-- What is meant for a side is of the umpire's making. -/
theorem made_of_means {which : Side} (means : ledger.record.Means contest which file) :
    file ∈ ledger.record.made := by
  -- It is the write end of the side's signalling pipe, or belongs to the wiring.
  rcases means with ⟨own, told, rfl⟩ | ⟨stream, wire⟩
  · exact List.mem_of_mem_take (orders.signals which own told).2
  · obtain ⟨number, -, found⟩ := Option.bind_eq_some_iff.mp wire
    exact List.mem_of_mem_drop (List.mem_of_getElem? found)

/-- The write ends of signalling pipes are no ends of the wiring. -/
theorem wire_ne {which other : Side} {stream : Stream} {told : Beacon}
    (known : ledger.record.beacons.get which = some told)
    (wire : ledger.record.wire contest other stream = some file) : file ∉ [told.reading, told.writing] := by
  -- Ends of the wiring come after the four ends of the signalling pipes.
  obtain ⟨number, -, found⟩ := Option.bind_eq_some_iff.mp wire
  have later := List.mem_of_getElem? found
  have early := orders.signals which told known
  -- Nothing was made twice, so that what was made first was not made later.
  have apart := List.disjoint_take_drop orders.distinct (Nat.le_refl 4)
  intro listed
  rcases List.mem_cons.mp listed with rfl | listed
  · exact apart early.1 later
  · obtain rfl := List.mem_singleton.mp listed
    exact apart early.2 later

/-- What is meant for one side is not meant for the other. -/
theorem means_unique {one other : Side} (first : ledger.record.Means contest one file)
    (second : ledger.record.Means contest other file) : one = other := by
  rcases first with ⟨told, known, rfl⟩ | ⟨stream, wire⟩ <;>
    rcases second with ⟨told', known', same⟩ | ⟨stream', wire'⟩
  · -- One of the two sides is that of the order.
    by_contra apart
    obtain rfl := Side.eq_other_of_ne (Ne.symm apart)
    by_cases own : one = side
    · subst own
      cases known.symm.trans orders.exposes.2.1
      exact orders.own told' known' same
    · obtain rfl := Side.eq_other_of_ne own
      rw [Side.other_other] at known'
      cases known'.symm.trans orders.exposes.2.1
      exact orders.own told known same.symm
  · -- No signalling pipe is part of the wiring.
    exact absurd (by simp) (orders.wire_ne known wire')
  · exact absurd (by simp [same]) (orders.wire_ne known' wire)
  · -- Each file of the wiring is for one stream of one side.
    exact Record.wire_inj orders.distinct wire wire'

end Ledger.Orders

namespace Enrolment.Fits

variable {record : Record} {enrolment : Enrolment} (fits : enrolment.Fits contest record) {file : Nat}

include fits

/-- What an order hands on of the umpire's making is what is meant for its side. -/
theorem hands_iff {side : Side} (given : enrolment.commission.side = some side) :
    enrolment.commission.charge.Hands file ∧ file ∈ record.made ↔ record.Means contest side file := by
  -- What is meant for a side is the same as when the order was given, for nothing it hangs on has changed since.
  obtain ⟨ledger, side', beacon, table, beacons, made, -, given', orders⟩ := fits
  cases given.symm.trans given'
  have same : ledger.record.Means contest side file ↔ record.Means contest side file :=
    Record.Means.congr beacons made
  have charge : enrolment.commission.charge = ⟨enrolment.commission.charge.order, ledger.table⟩ := by
    rw [table]
  rw [charge, ← same, ← made]
  exact ⟨fun handed => orders.means_of_hands handed.1 handed.2,
    fun means => ⟨orders.hands_of_means means, orders.made_of_means means⟩⟩

/-- What is meant for any side is of the umpire's making. -/
theorem made_of_means {side : Side} (means : record.Means contest side file) : file ∈ record.made := by
  obtain ⟨ledger, _, beacon, -, beacons, made, -, -, orders⟩ := fits
  exact made ▸ orders.made_of_means ((Record.Means.congr beacons made).mpr means)

/-- What is meant for one side is not meant for the other. -/
theorem means_unique {one other : Side} (first : record.Means contest one file)
    (second : record.Means contest other file) : one = other := by
  -- What is meant for whom was settled when the order was given, and the record still says so.
  obtain ⟨ledger, _, beacon, -, beacons, made, -, -, orders⟩ := fits
  exact orders.means_unique ((Record.Means.congr beacons made).mpr first)
    ((Record.Means.congr beacons made).mpr second)

end Enrolment.Fits

/-- A process is of a side: it is the one that was started for the side, or descends from it. -/
def Scene.Of (scene : Scene) (side : Side) (who : Nat) : Prop :=
  ∃ pid, scene.record.started.get side = some pid ∧ Descends scene.births pid who

/-- Whether an act belongs to the region around a start: to start a process, or to ask for a flag or give it
back, before and after. -/
def Act.AroundStart : Act → Prop
  | .call (.spawn _) | .call (.closeOnExec _) | .call (.setCloseOnExec _ true) => True
  | _ => False

/-- Where the umpire may do something although a new program would keep something of its making, it is in the
region around a start, and exposes one write end only. -/
theorem Ledger.exposes_of_allows {ledger : Ledger} {act : Act} (allows : ledger.Allows contest act) {fd : Nat}
    {slot : Slot} (made : ledger.Made fd slot) (flag : slot.closeOnExec = false) :
    act.AroundStart ∧ ∃ side beacon, ledger.Exposes side beacon := by
  -- The descriptor would be kept, so not all are private.
  have exposed : ¬ ledger.Private := by
    intro all
    rw [all fd slot made] at flag
    cases flag
  -- Anything else is allowed only where nothing would be kept.
  cases act with
  | note entry =>
    cases entry
    case pipeCreated | started | bothRunning => exact absurd allows.1 exposed
    all_goals exact absurd allows exposed
  | call wanted =>
    cases wanted
    case spawn order =>
      obtain ⟨side, beacon, orders⟩ := allows
      exact ⟨trivial, side, beacon, orders.exposes⟩
    case closeOnExec fd => exact ⟨trivial, allows⟩
    case setCloseOnExec fd given =>
      cases given with
      | true => exact ⟨trivial, allows⟩
      | false => exact absurd allows exposed
    case pipe | openFile => exact absurd allows.1 exposed
    case close | info | watch | hangUp | reap | signal => exact absurd allows exposed
    all_goals exact allows.elim

/-- What the umpire has made is kept by no new program, but for the write end of the signalling pipe of the
side that is being started, in the region around its start. -/
structure Guarded (umpire : Nat) (scene : Scene) : Prop where
  /-- What a new program would keep is the one write end, and the umpire is in the region. -/
  exposed : ∀ fd slot, scene.kernel.slot? umpire fd = some slot → slot.file ∈ scene.record.made →
    slot.closeOnExec = false → (∃ act next, scene.rest = .ask act next ∧ act.AroundStart) ∧
      ∃ side beacon, scene.record.starting = some side ∧ scene.record.beacons.get side = some beacon ∧
        fd = beacon.pipe.writeEnd ∧ slot.file = beacon.writing
  /-- When a process is started, the one write end would be kept. -/
  starting : ∀ order next, scene.rest = .ask (.call (.spawn order)) next →
    ∀ was, scene.kernel.station? umpire = some was → was.live = true →
    ∃ side beacon, scene.record.starting = some side ∧ scene.record.beacons.get side = some beacon ∧
      scene.kernel.slot? umpire beacon.pipe.writeEnd = some ⟨beacon.writing, false⟩ ∧
      beacon.writing ∈ scene.record.made

/-- Who has what of the umpire's making once both sides have been started. -/
structure Parted (contest : Contest) (umpire : Nat) (scene : Scene) : Prop where
  told : ∀ side, ∃ beacon, scene.record.beacons.get side = some beacon
  /-- The write end of a side's signalling pipe is the side's. -/
  signals : ∀ side beacon, scene.record.beacons.get side = some beacon → ∀ who fd slot,
    scene.kernel.slot? who fd = some slot → slot.file = beacon.writing → scene.Of side who
  /-- The ends of pipes that became a side's streams are the side's. -/
  streams : ∀ side stream file, scene.record.wire contest side stream = some file → ∀ who fd slot,
    scene.kernel.slot? who fd = some slot → slot.file = file → scene.Of side who
  /-- Nobody is of both sides. -/
  apart : ∀ who, scene.Of .solution who → ¬ scene.Of .interactor who
  /-- The umpire is of no side. -/
  neutral : ∀ side, ¬ scene.Of side umpire
  /-- The umpire has the read ends of the signalling pipes only, once it has let go of the named pipes that
  it held for the sides to open. -/
  kept : ∀ fd slot, scene.kernel.slot? umpire fd = some slot → slot.file ∈ scene.record.made →
    (∃ side beacon, scene.record.beacons.get side = some beacon ∧ fd = beacon.pipe.readEnd ∧
      slot.file = beacon.reading) ∨
      scene.record.running = false ∧ slot.file ∈ scene.record.anchored
  /-- Nobody else has anything that is not meant for a side. -/
  others : ∀ who, who ≠ umpire → ∀ fd slot, scene.kernel.slot? who fd = some slot →
    slot.file ∈ scene.record.made → ∃ side, scene.record.Means contest side slot.file ∧ scene.Of side who

/-- Who has something open is there and has not ended. -/
theorem holder_lives {kernel : Kernel} (sound : kernel.Sound) {who fd : Nat} {slot : Slot}
    (held : kernel.slot? who fd = some slot) :
    ∃ station, kernel.station? who = some station ∧ station.live = true ∧ station.table.get? fd = some slot := by
  rw [Kernel.slot?_eq] at held
  obtain ⟨station, there, had⟩ := Option.bind_eq_some_iff.mp held
  refine ⟨station, there, ?_, had⟩
  -- One that has ended has nothing open.
  cases ended : station.live with
  | true => rfl
  | false =>
    rw [(sound.stations who station there).buried ended] at had
    cases had

namespace Lawful

variable {scene : Scene} (lawful : Lawful contest umpire scene)

include lawful

/-- What the umpire has is that of one that lives, which does what its rules allow or has come to its end. -/
theorem holds {fd : Nat} {slot : Slot} (held : scene.kernel.slot? umpire fd = some slot) :
    ∃ was bound, scene.kernel.station? umpire = some was ∧ was.live = true ∧ was.table.get? fd = some slot ∧
      ((∃ act next, scene.rest = .ask act next ∧ (rules contest).may ⟨was.table, bound, scene.record⟩ act) ∨
        Ledger.Calm ⟨was.table, bound, scene.record⟩) := by
  obtain ⟨was, there, live, had⟩ := holder_lives lawful.sound held
  obtain ⟨bound, -, abides⟩ := lawful.conduct was there live
  refine ⟨was, bound, there, live, had, ?_⟩
  -- At its end the umpire is calm, and before that it is about to do what it may.
  cases rest : scene.rest with
  | done value =>
    rw [rest] at abides
    exact .inr abides
  | ask act next =>
    rw [rest] at abides
    exact .inl ⟨act, next, rfl, abides.1⟩

/-- At every step what the umpire has made is kept to itself, but for the one write end around a start. -/
theorem guarded : Guarded umpire scene where
  exposed fd slot held made flag := by
    -- What it may do next tells what it may have at this point.
    obtain ⟨was, bound, -, -, had, ⟨act, next, rest, -, allows⟩ | calm⟩ := lawful.holds held
    · obtain ⟨around, side, beacon, starting, told, only⟩ := Ledger.exposes_of_allows allows ⟨had, made⟩ flag
      exact ⟨⟨act, next, rest, around⟩, side, beacon, starting, told, only fd slot ⟨had, made⟩ flag⟩
    · have closed := calm.privately fd slot ⟨had, made⟩
      rw [flag] at closed
      cases closed
  -- An order is only given inside a region, and the rules say of which side.
  starting order next rest was there live := by
    obtain ⟨bound, -, ⟨-, side, beacon, orders⟩, -⟩ := lawful.allowed rest there live
    refine ⟨side, beacon, orders.exposes.1, orders.exposes.2.1, ?_, orders.made⟩
    rw [Kernel.slot?_eq, there]
    exact orders.kept

/-- A side was started by an order for it that was answered, and whose process is no longer preparing. -/
theorem enrolment_of_started {side : Side} {pid : Nat} (started : scene.record.started.get side = some pid) :
    ∃ enrolment ∈ scene.enrolled, enrolment.child = pid ∧ enrolment.commission.side = some side ∧
      (enrolment.commission, some pid) ∈ scene.record.spent := by
  -- That a side has been started is told after its order was answered with that process.
  obtain ⟨spent, member, given, number⟩ := lawful.started side pid started
  obtain ⟨enrolment, listed, child, commission⟩ := lawful.enrolled spent member pid number
  refine ⟨enrolment, listed, child, commission ▸ given, ?_⟩
  rw [commission, ← number]
  exact member

/-- Once both sides have been started, an order that was given is that of a side that was started. -/
theorem started_of_enrolment (both : scene.record.BothStarted) {enrolment : Enrolment}
    (listed : enrolment ∈ scene.enrolled) : ∃ side, enrolment.commission.side = some side ∧
      scene.record.started.get side = some enrolment.child ∧
      (enrolment.commission, some enrolment.child) ∈ scene.record.spent := by
  obtain ⟨-, side, -, -, -, -, -, given, -⟩ := lawful.fits enrolment listed
  obtain ⟨pid, started⟩ := Option.isSome_iff_exists.mp (both side)
  obtain ⟨other, listed', rfl, given', spent⟩ := lawful.enrolment_of_started started
  -- There is one order for each side.
  obtain rfl := (lawful.apart enrolment listed other listed').resolve_right
    fun apart => apart.sides (given.trans given'.symm)
  exact ⟨side, given, started, spent⟩

/-- Once both sides have been started, what another process has of the umpire's making is meant for the side
that it is of. -/
theorem others_hold (both : scene.record.BothStarted) {who : Nat} (other : who ≠ umpire) {fd : Nat}
    {slot : Slot} (held : scene.kernel.slot? who fd = some slot) (made : slot.file ∈ scene.record.made) :
    ∃ side, scene.record.Means contest side slot.file ∧ scene.Of side who := by
  obtain ⟨station, there, live, had⟩ := holder_lives lawful.sound held
  obtain ⟨enrolment, listed, descends, how⟩ := lawful.kin who other station there fd slot had made
  obtain ⟨side, given, started, spent⟩ := lawful.started_of_enrolment both listed
  refine ⟨side, ?_, enrolment.child, started, descends⟩
  -- It was handed on by the side's order, or its holder still prepares.
  rcases how with hands | ⟨rfl, prepares⟩
  · exact ((lawful.fits enrolment listed).hands_iff given).mp ⟨hands, made⟩
  · -- Nobody prepares whose order has been answered.
    exact absurd rfl ((lawful.preparing enrolment listed station there live prepares).unanswered _ spent)

/-- Once both sides have been started, the umpire has nothing that is meant for a side. -/
theorem umpire_holds (both : scene.record.BothStarted) {fd : Nat} {slot : Slot}
    (held : scene.kernel.slot? umpire fd = some slot) (made : slot.file ∈ scene.record.made) :
    ((∃ side beacon, scene.record.beacons.get side = some beacon ∧ fd = beacon.pipe.readEnd ∧
      slot.file = beacon.reading) ∨
      scene.record.running = false ∧ slot.file ∈ scene.record.anchored) ∧
    ∀ side, ¬ scene.record.Means contest side slot.file := by
  obtain ⟨was, bound, -, -, had, how⟩ := lawful.holds held
  -- Whatever it does next, and at its end as well, it is settled.
  have settled : Ledger.Settled ⟨was.table, bound, scene.record⟩ := by
    rcases how with ⟨-, -, -, settled, -⟩ | calm
    · exact settled
    · exact calm.settled
  obtain ⟨what, gone⟩ := settled both fd slot ⟨had, made⟩
  refine ⟨what, fun side means => ?_⟩
  -- What is meant for a side was handed on by its order, and none of that is left.
  obtain ⟨pid, started⟩ := Option.isSome_iff_exists.mp (both side)
  obtain ⟨enrolment, listed, -, given, spent⟩ := lawful.enrolment_of_started started
  exact gone _ spent (((lawful.fits enrolment listed).hands_iff given).mpr means).1

/-- Once both sides have been started, what is meant for a side is held by whoever is of that side only. -/
theorem holder_of_means (both : scene.record.BothStarted) {side : Side} {who fd : Nat} {slot : Slot}
    (means : scene.record.Means contest side slot.file) (held : scene.kernel.slot? who fd = some slot) :
    scene.Of side who := by
  obtain ⟨pid, started⟩ := Option.isSome_iff_exists.mp (both side)
  obtain ⟨enrolment, listed, -⟩ := lawful.enrolment_of_started started
  have fits := lawful.fits enrolment listed
  have made := fits.made_of_means means
  -- The umpire has none of it, and anybody else is of the side it is meant for.
  by_cases own : who = umpire
  · subst own
    exact absurd means ((lawful.umpire_holds both held made).2 side)
  · obtain ⟨which, means', of⟩ := lawful.others_hold both own held made
    exact fits.means_unique means' means ▸ of

/-- Once both sides have been started, each has what is meant for it to itself. -/
theorem parted (both : scene.record.BothStarted) : Parted contest umpire scene where
  told side := by
    obtain ⟨pid, started⟩ := Option.isSome_iff_exists.mp (both side)
    obtain ⟨enrolment, listed, -, given, -⟩ := lawful.enrolment_of_started started
    obtain ⟨ledger, side', beacon, -, beacons, -, -, given', orders⟩ := lawful.fits enrolment listed
    cases given.symm.trans given'
    -- The signalling pipe was told of before the order was given.
    exact ⟨beacon, beacons ▸ orders.exposes.2.1⟩
  signals side beacon told who fd slot held same :=
    lawful.holder_of_means both (.inl ⟨beacon, told, same.symm⟩) held
  streams side stream file wire who fd slot held same :=
    lawful.holder_of_means both (.inr ⟨stream, same ▸ wire⟩) held
  apart who := by
    rintro ⟨pid, started, descends⟩ ⟨pid', started', descends'⟩
    obtain ⟨one, listed, rfl, given, -⟩ := lawful.enrolment_of_started started
    obtain ⟨other, listed', rfl, given', -⟩ := lawful.enrolment_of_started started'
    -- Of the two processes that the umpire started at most one is an ancestor.
    have same := descends.root_unique lawful.lineage (fun birth member => (lawful.born birth member).2.2)
      (lawful.roots one listed) (lawful.roots other listed') descends'
    cases lawful.eq_of_child listed listed' same
    cases given.symm.trans given'
  neutral side := by
    rintro ⟨pid, started, descends⟩
    obtain ⟨enrolment, listed, rfl, -⟩ := lawful.enrolment_of_started started
    -- The umpire was started by nobody.
    cases descends with
    | itself => exact (lawful.born _ (lawful.roots enrolment listed)).2.2 rfl
    | born birth _ => exact (lawful.born _ birth).2.2 rfl
  kept fd slot held made := (lawful.umpire_holds both held made).1
  others who other fd slot held made := lawful.others_hold both other held made

end Lawful

/-- Descriptors stay with their owners, whatever the contest and whatever else runs on the host. At every
step of a bout what the umpire has made is kept by no new program, but for the write end of the signalling
pipe of the side that is being started, in the region around its start. Once both sides have been started,
the write end of a side's signalling pipe and the ends of pipes that became its streams are held by its
process and that one's descendants only, and the umpire is left with the read ends of the signalling pipes.
Named pipes that it held for the sides to open are let go of right after the second start, before both are
told to run. -/
theorem descriptors_have_owners {kernel : Kernel} {tasks : Nat → Option (Talk Nat)} {scene : Scene}
    (ready : Ready umpire kernel tasks)
    (reached : Reaches programs umpire (.opening contest kernel tasks) scene) :
    Guarded umpire scene ∧ (scene.record.BothStarted → Parted contest umpire scene) := by
  have lawful : Lawful contest umpire scene := lawful_of_reaches ready reached
  exact ⟨lawful.guarded, lawful.parted⟩

/-- Where the interactor of a contest is being started, the umpire would keep the sixth descriptor for it,
and the interactor's process has it. Where both sides run, each process has its write end and its ends of
the wiring, and the umpire has the read ends. -/
theorem descriptors_of_sample :
    Ready 1 Sample.host (fun _ => none) ∧ Reaches Sample.programs 1 Sample.opening Sample.interactorEnters ∧
      Reaches Sample.programs 1 Sample.opening Sample.bothRun ∧
      Guarded 1 Sample.interactorEnters ∧
      Sample.interactorEnters.kernel.slot? 1 6 = some ⟨4, false⟩ ∧
      Guarded 1 Sample.bothRun ∧ Parted Sample.contest 1 Sample.bothRun ∧
      Sample.bothRun.record.running = true ∧
      [3, 5].map (Sample.bothRun.kernel.slot? 1) = [some ⟨1, true⟩, some ⟨3, true⟩] ∧
      [0, 1, 4].map (Sample.bothRun.kernel.slot? 2) = [some ⟨7, false⟩, some ⟨6, false⟩, some ⟨2, false⟩] ∧
      [0, 1, 6].map (Sample.bothRun.kernel.slot? 3) = [some ⟨5, false⟩, some ⟨8, false⟩, some ⟨4, false⟩] := by
  -- Both sides are on record as started by then.
  have both : Sample.bothRun.record.BothStarted := by
    intro side
    cases side <;> decide +kernel
  have entering := descriptors_have_owners Sample.ready Sample.reaches_interactorEnters
  have running := descriptors_have_owners Sample.ready Sample.reaches_bothRun
  exact ⟨Sample.ready, Sample.reaches_interactorEnters, Sample.reaches_bothRun, entering.1, by decide +kernel,
    running.1, running.2 both, by decide +kernel, by decide +kernel, by decide +kernel, by decide +kernel⟩

end Umpire.Bout
