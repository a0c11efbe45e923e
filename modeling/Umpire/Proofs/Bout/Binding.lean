import Umpire.Proofs.Bout.Ownership

/-! Binding: the number that a side's program is told is that of the descriptor that it has. -/

namespace Umpire.Bout

open Host (Call Kernel Programs Slot Station Talk Turn)
open Host.Kernel (Took Turned)

variable {contest : Contest} {programs : Programs} {umpire : Nat}

/-- The decimal form of a number that a descriptor can have. -/
theorem decimal_ofNat {number : Nat} (small : number < 2147483648) :
    Placeholder.decimal (Int32.ofNat number) = Bytes.ofChars (Numeral.ofNat number) := by
  -- The number is not so large that it would count as negative.
  have value : (Int32.ofNat number).toInt = number := Int32.toInt_ofNat_of_lt small
  rw [Placeholder.decimal, value]
  rfl

/-- The words of a side with the decimal form of a number in place of each placeholder. -/
def wordsWith (contest : Contest) (side : Side) (number : Nat) : List Bytes :=
  (contest.contestant side).words.map (Placeholder.replace (Bytes.ofChars (Numeral.ofNat number)))

/-- Orders that have been given stay on record. -/
theorem enrolled_mono {scene later : Scene} (reached : Reaches programs umpire scene later) :
    scene.enrolled ⊆ later.enrolled := by
  induction reached with
  | refl => exact List.Subset.refl _
  | tail _ step more =>
    -- Only an order adds to them, and nothing takes any away.
    cases step with
    | ordered => exact List.subset_cons_of_subset _ more
    | _ => exact more

/-- What a process has that runs its program on the umpire's order, and what that program is told: a number
above those of the standard streams, in place of each placeholder in the side's words, under which the
process has the write end of the side's own signalling pipe, which its program keeps. It does not keep
the write end of the other side's. -/
structure Binds (contest : Contest) (scene : Scene) (child : Nat) (words : List Bytes) (side : Side)
    (beacon : Beacon) : Prop where
  told : scene.record.beacons.get side = some beacon
  beyond_streams : 2 < beacon.pipe.writeEnd
  words : words = wordsWith contest side beacon.pipe.writeEnd ∨
    ∃ path, words = Host.shellPath :: path :: (wordsWith contest side beacon.pipe.writeEnd).tail
  held : scene.kernel.slot? child beacon.pipe.writeEnd = some ⟨beacon.writing, false⟩
  uncrossed : ∀ other, scene.record.beacons.get side.other = some other → ∀ fd slot,
    scene.kernel.slot? child fd = some slot → slot.closeOnExec = false →
    slot.file ≠ other.writing

/-- A process that still prepares to run its program runs it with the number bound and its descriptor kept. -/
theorem Lawful.binds {scene : Scene} (lawful : Lawful contest umpire scene) {enrolment : Enrolment}
    (listed : enrolment ∈ scene.enrolled) {station : Station}
    (there : scene.kernel.station? enrolment.child = some station) (live : station.live = true)
    (prepares : station.start = .preparing) {path : Bytes} {words : List Bytes}
    {environment : List (Bytes × Bytes)} {next : Errno → Talk Nat}
    (asks : scene.tasks enrolment.child = some (.ask (.exec path words environment) next)) :
    ∃ side beacon, enrolment.commission.side = some side ∧
      Binds contest scene enrolment.child words side beacon := by
  obtain ⟨⟨suits, wording⟩, -⟩ := (lawful.preparing enrolment listed station there live prepares).obeys _ asks
  obtain ⟨-, newer⟩ := lawful.bounded enrolment listed
  obtain ⟨ledger, side, beacon, table, beacons, -, -, given, orders⟩ := lawful.fits enrolment listed
  -- The order's words are the side's with the number in place.
  have told : enrolment.commission.charge.order.words = wordsWith contest side beacon.pipe.writeEnd := by
    rw [orders.words, wordsWith, ← decimal_ofNat orders.in_range]
    rfl
  refine ⟨side, beacon, given, beacons ▸ orders.exposes.2.1, orders.beyond_streams, ?_, ?_, ?_⟩
  · rw [← told]
    exact wording
  · -- What the umpire had under the number when it gave the order has not been touched since.
    rw [Kernel.slot?_eq, there]
    exact suits.untouched _ _ orders.beyond_streams (table ▸ orders.kept)
  · intro other known fd slot held flag same
    have fits := lawful.fits enrolment listed
    rw [Kernel.slot?_eq, there, Option.bind_some] at held
    -- What the program keeps was handed on, or is newer than all that the umpire has made.
    have foreign : scene.record.Means contest side.other slot.file := .inl ⟨other, known, same.symm⟩
    have made := fits.made_of_means foreign
    have hands := (suits.kept fd slot held flag).resolve_right (Nat.not_le.mpr (newer _ made))
    exact side.other_ne (fits.means_unique foreign ((fits.hands_iff given).mp ⟨hands, made⟩))

/-- The number that a side is told is that of the descriptor that it has, whatever the contest and whatever
else runs on the host. A process that the umpire has started runs its program with the number of its side's
own signalling pipe's write end in place of each placeholder, and has that end under the number, whichever
streams and files were put in place before. The program keeps it and not the write end of the other side's
pipe, and the side is the one that the process is told to have been started for. -/
theorem told_number_is_held {kernel : Kernel} {tasks : Nat → Option (Talk Nat)} {scene : Scene}
    (ready : Ready umpire kernel tasks)
    (reached : Reaches programs umpire (.opening contest kernel tasks) scene) {child : Nat}
    (started : (child, umpire) ∈ scene.births) {station : Station}
    (there : scene.kernel.station? child = some station) (live : station.live = true)
    (prepares : station.start = .preparing) {path : Bytes} {words : List Bytes}
    {environment : List (Bytes × Bytes)} {next : Errno → Talk Nat}
    (asks : scene.tasks child = some (.ask (.exec path words environment) next)) :
    ∃ side beacon, Binds contest scene child words side beacon ∧
      (∀ image after, scene.kernel.May child (.exec path words environment) (.replaced image after) →
        after.slot? child beacon.pipe.writeEnd = some ⟨beacon.writing, false⟩ ∧
        ∀ other, scene.record.beacons.get side.other = some other → ∀ fd slot,
          after.slot? child fd = some slot → slot.file ≠ other.writing) ∧
      ∀ later, Reaches programs umpire scene later → ∀ which,
        later.record.started.get which = some child → which = side := by
  have lawful : Lawful contest umpire scene := lawful_of_reaches ready reached
  -- Whomever the umpire has started it has started by an order.
  obtain ⟨enrolment, listed, rfl⟩ := lawful.listed _ started rfl
  obtain ⟨side, beacon, given, binds⟩ := lawful.binds listed there live prepares asks
  refine ⟨side, beacon, binds, fun image after may => ?_, fun later goes which known => ?_⟩
  · cases (Kernel.turned_may lawful.sound may).took with
    | replaced there' _ left _ =>
      -- The program has what it keeps.
      have kept (fd : Nat) : after.slot? enrolment.child fd =
          (scene.kernel.slot? enrolment.child fd).filter fun slot => !slot.closeOnExec := by
        rw [Kernel.slot?_eq, Kernel.slot?_eq, left, there']
        exact Host.Table.get?_afterExec _ fd
      refine ⟨?_, fun other known fd slot held => ?_⟩
      · rw [kept, binds.held]
        rfl
      · rw [kept] at held
        obtain ⟨held, flag⟩ := Option.filter_eq_some_iff.mp held
        exact binds.uncrossed other known fd slot held (by simpa using flag)
  · -- The order on which the process was started tells the side.
    have lawful' : Lawful contest umpire later := lawful_of_reaches ready (reached.trans goes)
    obtain ⟨other, listed', same, given', -⟩ := lawful'.enrolment_of_started known
    cases lawful'.eq_of_child listed' (enrolled_mono goes listed) same
    exact Option.some.inj (given'.symm.trans given)

/-- The interactor of a contest is told the sixth descriptor, after the solution has been told the fourth,
and has the write end of its own signalling pipe there when it runs its program. -/
theorem number_told_in_sample : ∃ path words environment next station,
    (3, 1) ∈ Sample.interactorEnters.births ∧ Sample.interactorEnters.kernel.station? 3 = some station ∧
      station.live = true ∧ station.start = .preparing ∧
      Sample.interactorEnters.tasks 3 = some (.ask (.exec path words environment) next) ∧
      words = ["/a", "-6"].map Bytes.ofString ∧
      Sample.interactorEnters.record.beacons = ⟨some ⟨⟨3, 4⟩, 1, 2⟩, some ⟨⟨5, 6⟩, 3, 4⟩⟩ ∧
      ∃ side beacon, Binds Sample.contest Sample.interactorEnters 3 words side beacon := by
  have born : (3, 1) ∈ Sample.interactorEnters.births := by decide +kernel
  -- What the process is about to run can be computed, and so can what it has.
  have told : Sample.interactorEnters.wanted? 3 =
      some (.exec (Bytes.ofString "/a") (["/a", "-6"].map Bytes.ofString) []) := by decide +kernel
  have state : (Sample.interactorEnters.kernel.station? 3).map (fun station => (station.live, station.start)) =
      some (true, .preparing) := by decide +kernel
  obtain ⟨next, asks⟩ := asks_of_wanted told
  obtain ⟨station, there, same⟩ := Option.map_eq_some_iff.mp state
  obtain ⟨live, prepares⟩ := Prod.mk.inj same
  obtain ⟨side, beacon, binds, -⟩ :=
    told_number_is_held Sample.ready Sample.reaches_interactorEnters born there live prepares asks
  exact ⟨_, _, _, next, station, born, there, live, prepares, asks, rfl, by decide +kernel, side, beacon, binds⟩

end Umpire.Bout
