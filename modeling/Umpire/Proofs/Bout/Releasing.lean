import Umpire.Proofs.Bout.Ownership
import Umpire.Proofs.Host.Opening

/-! Releasing: what the umpire has opened at paths is held by itself only, by the processes that it has just started
until they run their programs, and by nobody once both sides are told to run. -/

namespace Umpire.Bout

open Host (Call Effect Kernel Programs Slot Station Table Talk Turn)
open Host.Kernel (Lasts Turned)

variable {contest : Contest} {programs : Programs} {umpire start : Nat}

namespace Enrolment.Fits

variable {record : Record} {enrolment : Enrolment} (fits : enrolment.Fits contest record) {file : Nat}

include fits

/-- What the umpire has opened at a path is no end of a signalling pipe, and meant for no side. -/
theorem unmeant (anchored : file ∈ record.anchored) :
    (∀ side beacon, record.beacons.get side = some beacon → file ≠ beacon.reading) ∧
      ∀ side, ¬ record.Means contest side file := by
  obtain ⟨ledger, _, _, -, beacons, made, anchors, -, orders⟩ := fits
  -- When the order was given, what was opened at a path was none of the first four files and on no wire.
  obtain ⟨late, unwired⟩ := orders.unmeant file (by rw [Record.anchored, anchors]; exact anchored)
  refine ⟨fun side beacon told same => ?_, fun side means => ?_⟩
  · exact late (same ▸ (orders.signals side beacon (beacons ▸ told)).1)
  · rcases (Record.Means.congr beacons made).mpr means with ⟨beacon, told, rfl⟩ | ⟨stream, wire⟩
    · exact late (orders.signals side beacon told).2
    · exact unwired side stream wire

end Enrolment.Fits

namespace Record

/-- Nothing that was opened at a path is forgotten. -/
theorem anchors_after {record : Record} {table : Table} {act : Act} {answer : act.Answer} :
    record.anchors ⊆ (record.after table act answer).anchors := by
  -- Acts add to what was opened at paths or leave it.
  cases act with
  | note entry => cases entry <;> exact List.Subset.refl _
  | call wanted =>
    cases wanted
    case pipe => cases answer <;> exact List.Subset.refl _
    case openFile => cases answer <;> first | exact List.Subset.refl _ | exact List.subset_append_left _ _
    all_goals exact List.Subset.refl _

/-- Nothing that was made is forgotten. -/
theorem made_after {record : Record} {table : Table} {act : Act} {answer : act.Answer} :
    record.made ⊆ (record.after table act answer).made := by
  -- Acts add to what was made or leave it.
  cases act with
  | note entry => cases entry <;> exact List.Subset.refl _
  | call wanted =>
    cases wanted
    case pipe | openFile => cases answer <;> first | exact List.Subset.refl _ | exact List.subset_append_left _ _
    all_goals exact List.Subset.refl _

/-- What an answer puts under a number is on record as made, unless it was under some number before. -/
theorem held_after {record : Record} {wanted : Call} {value : wanted.Answer} {next later fd : Nat} {slot : Slot}
    {before after : Table} (effect : Effect next before wanted value later after) (held : after.get? fd = some slot) :
    (∃ old known, before.get? old = some known ∧ known.file = slot.file) ∨
      slot.file ∈ (record.after after (.call wanted) value).made := by
  -- What is under one of the numbers that are answered is on record.
  have listed {fds : List Nat} (member : fd ∈ fds) : slot.file ∈ filesUnder after fds :=
    List.mem_filterMap.mpr ⟨fd, member, by rw [held]; rfl⟩
  cases wanted
  case pipe =>
    cases value with
    | error errno => exact .inl ⟨fd, slot, effect.1 ▸ held, rfl⟩
    | ok ends =>
      obtain ⟨readEnd, writeEnd⟩ := ends
      -- Under one of the two numbers there is an end of the pipe, and under any other what was there.
      by_cases new : fd ∈ [readEnd, writeEnd]
      · exact .inr (List.mem_append_right _ (listed new))
      · obtain ⟨between, first, second, -⟩ := effect
        obtain ⟨-, -, rfl⟩ := Table.insert_ok first
        obtain ⟨-, -, rfl⟩ := Table.insert_ok second
        simp only [List.mem_cons, List.not_mem_nil, or_false, not_or] at new
        simp only [Table.get?_put, new.1, new.2, if_false] at held
        exact .inl ⟨fd, slot, held, rfl⟩
  case openFile =>
    cases value with
    | error errno => exact .inl ⟨fd, slot, effect.1 ▸ held, rfl⟩
    | ok number =>
      by_cases new : fd ∈ [number]
      · exact .inr (List.mem_append_right _ (listed new))
      · obtain ⟨taken, -⟩ := effect
        obtain ⟨-, -, rfl⟩ := Table.insert_ok taken
        simp only [List.mem_singleton] at new
        simp only [Table.get?_put, new, if_false] at held
        exact .inl ⟨fd, slot, held, rfl⟩
  all_goals
    refine (effect.gains.from_old fd slot held).imp_right fun ⟨least, most⟩ => ?_
    -- No other call opens a file, so that nothing new can be under any number.
    have same : later = next := by
      simp only [Effect] at effect
      (repeat' split at effect) <;> simp_all
    omega

/-- What is opened at a path is made. -/
theorem anchored_after {record : Record} (known : ∀ file ∈ record.anchored, file ∈ record.made) {table : Table}
    {act : Act} {answer : act.Answer} :
    ∀ file ∈ (record.after table act answer).anchored, file ∈ (record.after table act answer).made := by
  -- What is opened at a path goes on both lists at once, and nothing else goes on that of the paths.
  cases act with
  | note entry => cases entry <;> exact known
  | call wanted =>
    cases wanted
    case pipe =>
      cases answer with
      | error errno => exact known
      | ok ends => exact fun file listed => List.mem_append_left _ (known file listed)
    case openFile path access closeOnExec =>
      cases answer with
      | error errno => exact known
      | ok fd =>
        intro file listed
        simp only [anchored, after, List.map_append, List.map_map] at listed
        refine List.mem_append.mpr ((List.mem_append.mp listed).imp (known file) fun new => ?_)
        simpa [Function.comp_def] using new
    all_goals exact known

/-- Only a word on both sides' running says that they run. -/
theorem running_after_call {record : Record} {table : Table} {wanted : Call} {answer : wanted.Answer} :
    (record.after table (.call wanted) answer).running = record.running := by
  cases wanted
  case pipe | openFile => cases answer <;> rfl
  all_goals rfl

end Record

/-- The end of a process is as if it had asked for something and had then been no more. -/
theorem Lawful.turned_end {scene : Scene} (lawful : Lawful contest umpire scene) (who code : Nat) :
    Turned scene.kernel who .clock (.gone ((scene.kernel.takeAll who).finish who (.ofExit code))) :=
  have ⟨feels, gone⟩ := Host.Kernel.felt_end lawful.sound who (.ofExit code)
  Host.Kernel.turned_gone lawful.sound feels gone

/-- What the umpire has made and what it had from the start, below which the numbers of open files were then. -/
structure Kept (umpire start : Nat) (scene : Scene) : Prop where
  anchored : ∀ file ∈ scene.record.anchored, file ∈ scene.record.made
  /-- What was not opened at a path is an end of a pipe without a name. -/
  seats : ∀ file ∈ scene.record.made, file ∈ scene.record.anchored ∨
    ∃ channel access, scene.kernel.seat? file = some (.channel channel, access)
  own : ∀ fd slot, scene.kernel.slot? umpire fd = some slot → slot.file < start ∨ slot.file ∈ scene.record.made
  runs : scene.record.running = true → scene.record.BothStarted

namespace Kept

variable {scene : Scene} (kept : Kept umpire start scene) (lawful : Lawful contest umpire scene)

include kept lawful

/-- What is kept is so in a later scene in which the umpire has nothing more. -/
theorem later {later : Scene} (record : later.record = scene.record) {apart : List Nat}
    (lasts : Lasts apart scene.kernel later.kernel)
    (fewer : ∀ fd slot, later.kernel.slot? umpire fd = some slot → scene.kernel.slot? umpire fd = some slot) :
    Kept umpire start later where
  anchored := record ▸ kept.anchored
  -- What was made stays where it is, whatever lasts.
  seats file made := by
    rw [record] at made ⊢
    rw [lasts.seats file (lawful.made file made)]
    exact kept.seats file made
  own fd slot held := record ▸ kept.own fd slot (fewer fd slot held)
  runs := record ▸ kept.runs

/-- What is kept is so after another's turn. -/
theorem turned {who : Nat} {wanted : Call} {turn : Turn wanted.Answer} (other : who ≠ umpire)
    (turned : Turned scene.kernel who wanted turn) {apart : List Nat} (lasts : Lasts apart scene.kernel turn.kernel)
    {later : Scene} (record : later.record = scene.record) (kernel : later.kernel = turn.kernel) :
    Kept umpire start later := by
  refine kept.later lawful record (kernel ▸ lasts) fun fd slot held => ?_
  -- Another's turn leaves the umpire its descriptors.
  rw [kernel, Kernel.slot?_eq] at held
  obtain ⟨station, there, held⟩ := Option.bind_eq_some_iff.mp held
  rw [Kernel.slot?_eq, lawful.umpire_stays other turned there]
  exact held

/-- What is kept is so after the umpire has been answered. -/
theorem answered {wanted : Call} {next : wanted.Answer → Conduct (Except Fault Report)} {value : wanted.Answer}
    {after : Kernel} {left : Station} (rest : scene.rest = .ask (.call wanted) next)
    (may : scene.kernel.May umpire wanted (.answered value after)) (found : after.station? umpire = some left) :
    Kept umpire start { scene with
      kernel := after
      rest := next value
      record := scene.record.after left.table (.call wanted) value } := by
  have turned := Host.Kernel.turned_may lawful.sound may
  obtain ⟨was, left', there, live, found', effect, -⟩ := turned.took.of_answered
  cases found.symm.trans found'
  obtain ⟨bound, -, ⟨-, allows⟩, -⟩ := lawful.allowed rest there live
  have lasts := (Kernel.lasts_may lawful.sound.processes may).2 value after rfl
  refine ⟨Record.anchored_after kept.anchored, fun file made => ?_, fun fd slot held => ?_, fun running => ?_⟩
  · -- What was made before has its seat still, and what is new got one by the call.
    rcases Record.mem_made_after effect made with old | ⟨least, most⟩
    · refine (kept.seats file old).imp (fun anchored => ?_) fun seat => ?_
      · exact List.map_subset Prod.snd Record.anchors_after anchored
      · rw [lasts.seats file (lawful.made file old)]
        exact seat
    · cases wanted
      case pipe =>
        cases value with
        | error errno => exact absurd most (Nat.not_lt.mpr (effect.2 ▸ least))
        | ok ends =>
          obtain ⟨between, -, -, grown⟩ := effect
          exact .inr (Kernel.seats_pipe lawful.sound.processes may file least (grown ▸ most))
      case openFile path access closeOnExec =>
        cases value with
        | error errno => exact absurd most (Nat.not_lt.mpr (effect.2 ▸ least))
        | ok fd =>
          rcases List.mem_append.mp made with old | new
          · exact absurd (lawful.made file old) (Nat.not_lt.mpr least)
          · refine .inl ?_
            simp only [Record.anchored, Record.after, List.map_append, List.map_map]
            exact List.mem_append_right _ (by simpa [Function.comp_def] using new)
      -- No other call has made anything.
      all_goals exact absurd (lawful.made file made) (Nat.not_lt.mpr least)
  · rw [Kernel.slot?_eq, found, Option.bind_some] at held
    -- What the umpire has was there before under some number, or is on record as made.
    rcases Record.held_after effect held with ⟨old, known, had, same⟩ | new
    · have before : scene.kernel.slot? umpire old = some known := by
        rw [Kernel.slot?_eq, there]
        exact had
      exact same ▸ (kept.own old known before).imp_right fun made => Record.made_after made
    · exact .inr new
  · -- A call tells nobody to run.
    rw [Record.running_after_call] at running
    intro side
    rw [Record.started_after_call]
    exact kept.runs running side

omit lawful in
/-- What is kept is so after the umpire has told something. -/
theorem told (lawful : Lawful contest umpire scene) {entry : Entry} {next : Unit → Conduct (Except Fault Report)}
    {was : Station} (rest : scene.rest = .ask (.note entry) next) (there : scene.kernel.station? umpire = some was)
    (live : was.live = true) : Kept umpire start { scene with
      rest := next ()
      record := scene.record.after was.table (.note entry) () } := by
  -- What may be told, and when, is a matter of the rules.
  obtain ⟨bound, -, ⟨-, allows⟩, -⟩ := lawful.allowed rest there live
  refine ⟨Record.anchored_after kept.anchored, ?_, ?_, ?_⟩
  · -- Of what is told, only a start and the word that both run bear on who runs.
    cases entry <;> exact kept.seats
  · cases entry <;> exact kept.own
  · cases entry
    case started which pid =>
      obtain ⟨-, -, -, -, -, known⟩ := allows
      intro running side
      by_cases same : side = which
      · subst same
        exact (PerSide.get_set_same _ side pid).symm ▸ known
      · obtain rfl := Side.eq_other_of_ne same
        exact (PerSide.get_set_other _ which pid).symm ▸ kept.runs running _
    case bothRunning => exact fun _ => allows.2
    all_goals exact kept.runs

/-- What is kept is so after the umpire has waited or is no more. -/
theorem idles {wanted : Call} {turn : Turn wanted.Answer} (may : scene.kernel.May umpire wanted turn)
    (idle : turn = .waiting turn.kernel ∨ turn = .gone turn.kernel) :
    Kept umpire start { scene with kernel := turn.kernel } := by
  have took := (Host.Kernel.turned_may lawful.sound may).took
  refine kept.later lawful rfl (Kernel.lasts_may lawful.sound.processes may).1 fun fd slot held => ?_
  -- A slot is had by a station, so it is seen through that.
  dsimp only at held
  rw [Kernel.slot?_eq] at held ⊢
  obtain ⟨station, there, held⟩ := Option.bind_eq_some_iff.mp held
  -- An umpire that waits has what it had, and one that is gone has nothing.
  rcases idle with eq | eq <;> rw [eq] at took
  · cases took with
    | waiting same _ => exact Option.bind_eq_some_iff.mpr ⟨station, same ▸ there, held⟩
  · cases took with
    | gone gone _ =>
      rw [(gone station there).2 fd] at held
      cases held

/-- What is kept is so after the umpire has ordered a process to be started. -/
theorem commissions {order given : Host.Order} {child : Nat} {after : Kernel}
    (may : scene.kernel.May umpire (.spawn order) (.ordered child given after)) {later : Scene}
    (record : later.record = scene.record) (kernel : later.kernel = after) : Kept umpire start later := by
  have turned := Host.Kernel.turned_may lawful.sound may
  -- The umpire has open what it had open before it gave the order.
  obtain ⟨-, -, was, there, -, -, left, -⟩ := turned.took.of_ordered
  refine kept.later lawful record (kernel ▸ (Kernel.lasts_may lawful.sound.processes may).1) fun fd slot held => ?_
  rw [kernel, Kernel.slot?_eq, left] at held
  rw [Kernel.slot?_eq, there]
  exact held

/-- What is kept is so after another process's end. -/
theorem ended {who code : Nat} (ends : scene.tasks who = some (.done code)) {later : Scene}
    (record : later.record = scene.record)
    (kernel : later.kernel = (scene.kernel.takeAll who).finish who (.ofExit code)) : Kept umpire start later := by
  -- Whoever ends had a task, and so is somebody else than the umpire.
  have busy : scene.tasks who ≠ none := by simp [ends]
  exact kept.turned lawful (lawful.peopled who busy).1 (lawful.turned_end who code)
    (Kernel.lasts_end lawful.sound.processes who (.ofExit code)) record kernel

/-- What is kept is so after every step. -/
theorem step {after : Scene} (step : Step programs umpire scene after) : Kept umpire start after := by
  -- What another process does reaches the umpire's descriptors only through the kernel, where they last.
  cases step with
  | told rest there live => exact kept.told lawful rest there live
  | answered rest may there => exact kept.answered lawful rest may there
  | idle rest may idle => exact kept.idles lawful may idle
  | ordered rest may there => exact kept.commissions lawful may rfl rfl
  | @moved who _ _ _ asks may =>
    have busy : scene.tasks who ≠ none := by simp [asks]
    exact kept.turned lawful (lawful.peopled who busy).1 (Host.Kernel.turned_may lawful.sound may)
      (Kernel.lasts_may lawful.sound.processes may).1 rfl rfl
  | ended ends => exact kept.ended lawful ends rfl rfl
  | later clock =>
    have lasts : Lasts [] scene.kernel { scene.kernel with clock } := .of_parts rfl rfl
    exact kept.later lawful rfl lasts fun _ _ held => held

end Kept

/-- At every step of a bout the umpire has what it has made and what it had from the start. -/
theorem kept_of_reaches {kernel : Kernel} {tasks : Nat → Option (Talk Nat)} {scene : Scene}
    (ready : Ready umpire kernel tasks) (reaches : Reaches programs umpire (.opening contest kernel tasks) scene) :
    Kept umpire kernel.opens.next scene := by
  -- By induction on the steps; what is lawful at each of them is known already.
  induction reaches with
  | refl =>
    -- At first nothing was made, so that all that is open is from the start.
    refine ⟨nofun, nofun, fun fd slot held => .inl ?_, nofun⟩
    rw [Kernel.slot?_eq] at held
    obtain ⟨station, there, held⟩ := Option.bind_eq_some_iff.mp held
    exact (ready.sound.stations umpire station there).opened fd slot held
  | tail reaches step kept => exact kept.step (lawful_of_reaches ready reaches) step

/-- Who has what of that which was opened at paths. -/
structure Released (umpire start : Nat) (scene : Scene) : Prop where
  /-- Nobody but the umpire has it, or a process that the umpire has started and that does not run its program yet. -/
  uninherited : ∀ who, who ≠ umpire → ∀ fd slot, scene.kernel.slot? who fd = some slot →
    slot.file ∈ scene.record.anchored → (who, umpire) ∈ scene.births ∧
      ∃ station, scene.kernel.station? who = some station ∧ station.start = .preparing
  /-- Once both sides are told to run nobody has it. What anybody has open then that has a name is not of the umpire's
  making, and the umpire has nothing of the kind but what it had from the start. -/
  let_go : scene.record.running = true → ∀ who fd slot, scene.kernel.slot? who fd = some slot →
    slot.file ∉ scene.record.anchored ∧
      ∀ place access, scene.kernel.seat? slot.file = some (place, access) → (∀ channel, place ≠ .channel channel) →
        slot.file ∉ scene.record.made ∧ (who = umpire → slot.file < start)

/-- What was opened at paths is let go of. -/
theorem Lawful.released {scene : Scene} (lawful : Lawful contest umpire scene) (kept : Kept umpire start scene) :
    Released umpire start scene where
  uninherited who other fd slot held anchored := by
    obtain ⟨station, there, live, had⟩ := holder_lives lawful.sound held
    have made := kept.anchored _ anchored
    -- Whoever has something of the umpire's making was handed it, or still prepares to run a program.
    obtain ⟨enrolment, listed, -, how⟩ := lawful.kin who other station there fd slot had made
    have fits := lawful.fits enrolment listed
    rcases how with hands | ⟨rfl, prepares⟩
    · obtain ⟨-, side, -, -, -, -, -, given, -⟩ := fits
      have fits := lawful.fits enrolment listed
      exact absurd ((fits.hands_iff given).mp ⟨hands, made⟩) ((fits.unmeant anchored).2 side)
    · exact ⟨lawful.roots enrolment listed, station, there, prepares⟩
  let_go running who fd slot held := by
    have both := kept.runs running
    have parted := lawful.parted both
    obtain ⟨pid, started⟩ := Option.isSome_iff_exists.mp (both .solution)
    obtain ⟨enrolment, listed, -⟩ := lawful.enrolment_of_started started
    have fits := lawful.fits enrolment listed
    -- By then every file of the umpire's making that is open is a read end or meant for a side.
    have unheld : slot.file ∉ scene.record.anchored := by
      intro anchored
      have made := kept.anchored _ anchored
      obtain ⟨unheard, unmeant⟩ := fits.unmeant anchored
      by_cases own : who = umpire
      · subst own
        rcases parted.kept fd slot held made with ⟨side, beacon, told, -, same⟩ | ⟨launching, -⟩
        · exact unheard side beacon told same
        · rw [running] at launching
          cases launching
      · obtain ⟨side, means, -⟩ := parted.others who own fd slot held made
        exact unmeant side means
    refine ⟨unheld, fun place access seat named => ?_⟩
    -- What was made and has a name was opened at a path.
    have foreign : slot.file ∉ scene.record.made := by
      intro made
      obtain ⟨channel, access', seat'⟩ := (kept.seats _ made).resolve_left unheld
      obtain ⟨same, -⟩ := Prod.mk.inj (Option.some.inj (seat.symm.trans seat'))
      exact named channel same
    refine ⟨foreign, ?_⟩
    rintro rfl
    exact (kept.own fd slot held).resolve_right foreign

end Umpire.Bout
