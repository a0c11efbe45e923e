import Umpire.Proofs.Bout.Progress
import Umpire.Proofs.Bout.Scene

/-! Lawful scenes: what holds of a bout and of all processes of its host at every step. The umpire keeps to
its rules, a process that follows one of its orders keeps to the order's, and what the umpire has made is
held by others only as an order hands it on. -/

namespace Umpire.Bout

open Host (Call Kernel Programs Slot Station Talk Turn)
open Host.Kernel (Gone Turned)

variable {contest : Contest} {programs : Programs} {umpire : Nat}

/-- What is right of an order that was given. -/
def Enrolment.Fits (contest : Contest) (record : Record) (enrolment : Enrolment) : Prop :=
  ∃ (ledger : Ledger) (side : Side) (beacon : Beacon), ledger.table = enrolment.commission.charge.table ∧
    ledger.record.beacons = record.beacons ∧ ledger.record.made = record.made ∧
    ledger.record.anchors = record.anchors ∧
    enrolment.commission.side = some side ∧ ledger.Orders contest enrolment.commission.charge.order side beacon

/-- Two orders started different processes for different sides, and handed on nothing that is the same. -/
structure Enrolment.Apart (made : List Nat) (one other : Enrolment) : Prop where
  children : one.child ≠ other.child
  sides : one.commission.side ≠ other.commission.side
  handed : ∀ file ∈ made, one.commission.charge.Hands file → ¬ other.commission.charge.Hands file

/-- Being apart is mutual. -/
theorem Enrolment.Apart.symm {made : List Nat} {one other : Enrolment} (apart : one.Apart made other) :
    other.Apart made one where
  children := apart.children.symm
  sides := apart.sides.symm
  handed file member hands hands' := apart.handed file member hands' hands

/-- What holds of a process that still prepares to run its program: it keeps to its order's rules, has
started nobody, and the umpire waits for it. -/
structure Prepares (umpire : Nat) (scene : Scene) (enrolment : Enrolment) (station : Station) : Prop where
  obeys : ∀ talk, scene.tasks enrolment.child = some talk →
    talk.Abides (enrolment.commission.charge.rules enrolment.bound) (fun _ _ => True) station.table
  childless : ∀ birth ∈ scene.births, birth.2 ≠ enrolment.child
  unanswered : ∀ spent ∈ scene.record.spent, spent.2 ≠ some enrolment.child
  awaited : ∀ was, scene.kernel.station? umpire = some was → was.live = true →
    was.ordered = some enrolment.child

/-- A process heeds its order: it prepares by the order's rules, or runs its program with what it was
handed. -/
def Enrolment.Heeds (enrolment : Enrolment) (task : Option (Talk Nat)) (station : Station) : Prop :=
  (station.start = .preparing ∧ ∀ talk, task = some talk →
    talk.Abides (enrolment.commission.charge.rules enrolment.bound) (fun _ _ => True) station.table) ∨
  (station.start = .running ∧ ∀ fd slot, station.table.get? fd = some slot →
    enrolment.commission.charge.Hands slot.file ∨ enrolment.bound ≤ slot.file)

/-- What holds of a bout at every step. -/
structure Lawful (contest : Contest) (umpire : Nat) (scene : Scene) : Prop where
  sound : scene.kernel.Sound
  present : umpire < scene.kernel.processes.next
  peopled : ∀ who, scene.tasks who ≠ none → who ≠ umpire ∧ who < scene.kernel.processes.next
  born : ∀ birth ∈ scene.births, birth.1 < scene.kernel.processes.next ∧
    birth.2 < scene.kernel.processes.next ∧ birth.1 ≠ umpire
  lineage : (scene.births.map Prod.fst).Nodup
  made : ∀ file ∈ scene.record.made, file < scene.kernel.opens.next
  started : ∀ side pid, scene.record.started.get side = some pid →
    ∃ spent ∈ scene.record.spent, spent.1.side = some side ∧ spent.2 = some pid
  /-- As long as the umpire lives, it keeps to its rules. -/
  conduct : ∀ was, scene.kernel.station? umpire = some was → was.live = true →
    ∃ next, next ≤ scene.kernel.opens.next ∧
      scene.rest.Abides (rules contest) (fun _ after => after.Calm) ⟨was.table, next, scene.record⟩
  /-- The umpire waits for a process only while its order is to be answered. -/
  pending : ∀ was child, scene.kernel.station? umpire = some was → was.live = true →
    was.ordered = some child → ∃ order next, scene.rest = .ask (.call (.spawn order)) next ∧
      ∃ enrolment ∈ scene.enrolled, enrolment.child = child ∧
        enrolment.commission = ⟨scene.record.starting, ⟨order, was.table⟩⟩
  roots : ∀ enrolment ∈ scene.enrolled, (enrolment.child, umpire) ∈ scene.births
  listed : ∀ birth ∈ scene.births, birth.2 = umpire → ∃ enrolment ∈ scene.enrolled, enrolment.child = birth.1
  bounded : ∀ enrolment ∈ scene.enrolled, enrolment.bound ≤ scene.kernel.opens.next ∧
    ∀ file ∈ scene.record.made, file < enrolment.bound
  fits : ∀ enrolment ∈ scene.enrolled, enrolment.Fits contest scene.record
  apart : ∀ one ∈ scene.enrolled, ∀ other ∈ scene.enrolled, one = other ∨ one.Apart scene.record.made other
  /-- An order has been answered, or the umpire waits for that. -/
  answered : ∀ enrolment ∈ scene.enrolled,
    (∃ child, (enrolment.commission, child) ∈ scene.record.spent) ∨
      ∀ was, scene.kernel.station? umpire = some was → was.live = true → was.ordered = some enrolment.child
  enrolled : ∀ spent ∈ scene.record.spent, ∀ child, spent.2 = some child →
    ∃ enrolment ∈ scene.enrolled, enrolment.child = child ∧ enrolment.commission = spent.1
  preparing : ∀ enrolment ∈ scene.enrolled, ∀ station,
    scene.kernel.station? enrolment.child = some station → station.live = true →
    station.start = .preparing → Prepares umpire scene enrolment station
  /-- What the umpire has made is held only by who descends from a process that it was handed to, or by a
  process that still prepares to run its program. -/
  kin : ∀ who, who ≠ umpire → ∀ station, scene.kernel.station? who = some station →
    ∀ fd slot, station.table.get? fd = some slot → slot.file ∈ scene.record.made →
    ∃ enrolment ∈ scene.enrolled, Descends scene.births enrolment.child who ∧
      (enrolment.commission.charge.Hands slot.file ∨
        who = enrolment.child ∧ station.start = .preparing)

/-- A bout that can begin is lawful. -/
theorem lawful_opening {kernel : Kernel} {tasks : Nat → Option (Talk Nat)}
    (ready : Ready umpire kernel tasks) : Lawful contest umpire (.opening contest kernel tasks) := by
  obtain ⟨was, there, live, idle, streams, limit⟩ := ready.umpire
  -- The umpire is there, and nothing has been made, told, started or handed on yet.
  have present : umpire < kernel.processes.next := by
    obtain ⟨process, found, -⟩ := Host.Kernel.process_of_station there
    exact ready.sound.processes.lt_next found
  refine {
    sound := ready.sound
    present := present
    peopled := ready.others
    born := nofun
    lineage := List.nodup_nil
    made := nofun
    started := fun side pid told => by cases side <;> cases told
    conduct := fun station found _ => ?_
    pending := fun station child found _ ordered => ?_
    roots := nofun
    listed := nofun
    bounded := nofun
    fits := nofun
    apart := nofun
    answered := nofun
    enrolled := nofun
    preparing := nofun
    kin := nofun }
  · cases there.symm.trans found
    -- The whole bout abides by its rules from here.
    refine ⟨kernel.opens.next, Nat.le_refl _, abides_run (arming_start ?_ streams limit) rfl⟩
    exact (ready.sound.stations umpire was there).opened
  · cases there.symm.trans found
    rw [idle] at ordered
    cases ordered

namespace Lawful

variable {scene : Scene} (lawful : Lawful contest umpire scene)

include lawful

/-- A process that still prepares to run its program starts nobody and heeds its order. -/
theorem heeds_turn {enrolment : Enrolment} (listed : enrolment ∈ scene.enrolled) {was : Station}
    (there : scene.kernel.station? enrolment.child = some was) (live : was.live = true)
    (prepares : was.start = .preparing) {wanted : Call} {next : wanted.Answer → Talk Nat}
    {turn : Turn wanted.Answer} (asks : scene.tasks enrolment.child = some (.ask wanted next))
    (turned : Turned scene.kernel enrolment.child wanted turn) :
    turn.born = [] ∧ ∀ station, turn.kernel.station? enrolment.child = some station → station.live = true →
      enrolment.Heeds (tasksAfter programs scene.tasks enrolment.child next turn enrolment.child) station := by
  have abides := (lawful.preparing enrolment listed was there live prepares).obeys _ asks
  have bound := (lawful.bounded enrolment listed).1
  -- By its order's rules a process that prepares makes no call that would start another one.
  cases turned.took with
  | answered plain there' _ left effect =>
    cases there.symm.trans there'
    refine ⟨rfl, fun station found lives => .inl ?_⟩
    cases left.symm.trans found
    refine ⟨prepares, fun talk assigned => ?_⟩
    -- Whatever it is answered, the rules are kept to from there on.
    rw [tasksAfter, Function.update_self] at assigned
    cases assigned
    exact abides.2 _ _ ⟨_, _, bound, effect⟩
  | waiting same _ =>
    refine ⟨rfl, fun station found lives => .inl ?_⟩
    cases (same.trans there).symm.trans found
    refine ⟨prepares, fun talk assigned => ?_⟩
    cases asks.symm.trans assigned
    exact abides
  | gone gone _ =>
    refine ⟨rfl, fun station found lives => ?_⟩
    rw [(gone station found).1] at lives
    cases lives
  | replaced there' _ left _ =>
    cases there.symm.trans there'
    refine ⟨rfl, fun station found _ => .inr ?_⟩
    cases left.symm.trans found
    refine ⟨rfl, fun fd slot held => ?_⟩
    -- The new program has what was kept for it, which is what the order allows.
    rw [Host.Table.get?_afterExec] at held
    obtain ⟨held, kept⟩ := Option.filter_eq_some_iff.mp held
    exact abides.1.1.kept fd slot held (by simpa using kept)
  | forked | ordered | declined | started | failed => exact abides.1.elim

section Others

variable {who : Nat} {wanted : Call} {turn : Turn wanted.Answer} (other : who ≠ umpire)
  (turned : Turned scene.kernel who wanted turn)

include other turned

omit other in
/-- A process that is started has a number that nobody has had. -/
theorem fresh {child : Nat} (member : child ∈ turn.born) : child = scene.kernel.processes.next ∧
    child ≠ umpire ∧ child < turn.kernel.processes.next := by
  -- Numbers of processes are given in ascending order.
  have number := (turned.born_eq member).1
  have present := lawful.present
  have more := turned.numbers
  have some_born := List.length_pos_of_mem member
  omega

/-- The umpire is what it was when another has had its turn. -/
theorem umpire_stays {station : Station} (found : turn.kernel.station? umpire = some station) :
    scene.kernel.station? umpire = some station := by
  refine turned.station_of_apart (fun member => ?_) found
  -- The umpire neither had the turn nor was started in it.
  rcases List.mem_cons.mp member with same | member
  · exact other same.symm
  · exact (lawful.fresh turned member).2.1 rfl

omit other in
/-- Those who are born have elders who were born before them. -/
theorem lineage_turn : ((turn.born.map (·, who) ++ scene.births).map Prod.fst).Nodup := by
  have numbers : (turn.born.map (·, who)).map Prod.fst = turn.born := by
    simp [Function.comp_def]
  rw [List.map_append, numbers, List.nodup_append]
  refine ⟨?_, lawful.lineage, fun child member elder member' same => ?_⟩
  · -- A turn starts at most one process.
    cases turn <;> simp [Turn.born]
  · -- Its number is new, and those of all others are older.
    obtain ⟨birth, known, rfl⟩ := List.mem_map.mp member'
    have number := (lawful.fresh turned member).1
    have old := (lawful.born birth known).1
    omega

/-- What the umpire has made is held by the kin of those it was handed to after another's turn as well. -/
theorem kin_turn {task : Option (Talk Nat)} (heeds : ∀ enrolment ∈ scene.enrolled, enrolment.child = who →
      ∀ was, scene.kernel.station? who = some was → was.live = true → was.start = .preparing →
      turn.born = [] ∧ ∀ station, turn.kernel.station? who = some station → station.live = true →
        enrolment.Heeds task station)
    {any : Nat} (apart : any ≠ umpire) {station : Station} (found : turn.kernel.station? any = some station)
    {fd : Nat} {slot : Slot} (held : station.table.get? fd = some slot)
    (made : slot.file ∈ scene.record.made) :
    ∃ enrolment ∈ scene.enrolled,
      Descends (turn.born.map (·, who) ++ scene.births) enrolment.child any ∧
      (enrolment.commission.charge.Hands slot.file ∨
        any = enrolment.child ∧ station.start = .preparing) := by
  have more : scene.births ⊆ turn.born.map (·, who) ++ scene.births := List.subset_append_right _ _
  have old := lawful.made slot.file made
  by_cases own : any = who
  · subst own
    -- Of its own it has what it had before the turn, or what is new.
    rcases turned.own_cases found with gone | ⟨same, -⟩ | ⟨was, there, lived, lives, start, gains⟩
    · rw [(gone station found).2 fd] at held
      cases held
    · obtain ⟨enrolment, listed, descends, how⟩ := lawful.kin any apart station same fd slot held made
      exact ⟨enrolment, listed, descends.mono more, how⟩
    · rcases gains.from_old fd slot held with ⟨before, known, had, same⟩ | ⟨new, -⟩
      · obtain ⟨enrolment, listed, descends, how⟩ :=
          lawful.kin any apart was there before known had (same ▸ made)
        refine ⟨enrolment, listed, descends.mono more, ?_⟩
        rcases how with hands | ⟨child, prepares⟩
        · exact .inl (same ▸ hands)
        · -- It may have run its program, with what it was handed only.
          obtain ⟨-, after⟩ := heeds enrolment listed child.symm was there lived prepares
          rcases after station found lives with ⟨still, -⟩ | ⟨-, kept⟩
          · exact .inr ⟨child, still⟩
          · have below := (lawful.bounded enrolment listed).2 slot.file made
            exact .inl ((kept fd slot held).resolve_right (Nat.not_le.mpr below))
      · exact absurd old (Nat.not_lt.mpr new)
  · by_cases member : any ∈ turn.born
    · -- A process that is born has what the one has that starts it, so it descends from whom that one descends from.
      obtain ⟨-, was, start, there, lived, born, -⟩ := turned.born_eq member
      cases born.symm.trans found
      obtain ⟨enrolment, listed, descends, how⟩ := lawful.kin who other was there fd slot held made
      have birth : (any, who) ∈ turn.born.map (·, who) ++ scene.births :=
        List.mem_append_left _ (List.mem_map.mpr ⟨any, member, rfl⟩)
      refine ⟨enrolment, listed, .born birth (descends.mono more), .inl ?_⟩
      rcases how with hands | ⟨child, prepares⟩
      · exact hands
      · -- One that still prepares starts nobody.
        rw [(heeds enrolment listed child.symm was there lived prepares).1] at member
        cases member
    · have same := turned.station_of_apart (by simp [own, member]) found
      obtain ⟨enrolment, listed, descends, how⟩ := lawful.kin any apart station same fd slot held made
      exact ⟨enrolment, listed, descends.mono more, how⟩

/-- A process still prepares after another's turn, or after its own, as it did before. -/
theorem preparing_turn {tasks : Nat → Option (Talk Nat)}
    (idle : ∀ any, any ≠ who → any ∉ turn.born → tasks any = scene.tasks any)
    (heeds : ∀ enrolment ∈ scene.enrolled, enrolment.child = who → ∀ was,
      scene.kernel.station? who = some was → was.live = true → was.start = .preparing →
      turn.born = [] ∧ ∀ station, turn.kernel.station? who = some station → station.live = true →
        enrolment.Heeds (tasks who) station)
    {enrolment : Enrolment} (listed : enrolment ∈ scene.enrolled) {station : Station}
    (found : turn.kernel.station? enrolment.child = some station) (live : station.live = true)
    (prepares : station.start = .preparing) :
    Prepares umpire { scene with
      kernel := turn.kernel
      tasks := tasks
      births := turn.born.map (·, who) ++ scene.births } enrolment station := by
  by_cases own : enrolment.child = who
  · subst own
    -- It prepared before its own turn as well, and heeds its order after it.
    obtain ⟨was, there, lived, prepared⟩ := turned.prepared_before found live prepares
    have before := lawful.preparing enrolment listed was there lived prepared
    obtain ⟨unborn, after⟩ := heeds enrolment listed rfl was there lived prepared
    rcases after station found live with ⟨-, obeys⟩ | ⟨running, -⟩
    · refine ⟨obeys, ?_, before.unanswered,
        fun was there => before.awaited was (lawful.umpire_stays other turned there)⟩
      rw [unborn]
      exact before.childless
    · rw [running] at prepares
      cases prepares
  · have old := (lawful.born _ (lawful.roots enrolment listed)).1
    -- Anybody else's turn leaves it as it was, as it was there before.
    have unborn : enrolment.child ∉ turn.born := by
      intro member
      have number := (lawful.fresh turned member).1
      dsimp only at old
      omega
    have same := turned.station_of_apart (by simp [own, unborn]) found
    have before := lawful.preparing enrolment listed station same live prepares
    refine ⟨fun talk busy => before.obeys talk (idle _ own unborn ▸ busy), fun birth member => ?_,
      before.unanswered, fun was there => before.awaited was (lawful.umpire_stays other turned there)⟩
    rcases List.mem_append.mp member with young | old
    · obtain ⟨child, -, rfl⟩ := List.mem_map.mp young
      exact fun same => own same.symm
    · exact before.childless birth old

/-- A bout is lawful after another's turn. -/
theorem others {tasks : Nat → Option (Talk Nat)} (active : scene.tasks who ≠ none)
    (idle : ∀ any, any ≠ who → any ∉ turn.born → tasks any = scene.tasks any)
    (heeds : ∀ enrolment ∈ scene.enrolled, enrolment.child = who → ∀ was,
      scene.kernel.station? who = some was → was.live = true → was.start = .preparing →
      turn.born = [] ∧ ∀ station, turn.kernel.station? who = some station → station.live = true →
        enrolment.Heeds (tasks who) station) :
    Lawful contest umpire { scene with
      kernel := turn.kernel
      tasks := tasks
      births := turn.born.map (·, who) ++ scene.births } where
  sound := turned.sound lawful.sound
  present := Nat.lt_of_lt_of_le lawful.present (by rw [turned.numbers]; omega)
  -- Whoever has a task had it before, or has been born in this turn.
  peopled any busy := by
    have number := (lawful.peopled who active).2
    have more := turned.numbers
    by_cases own : any = who
    · subst own
      exact ⟨other, by dsimp only; omega⟩
    · by_cases member : any ∈ turn.born
      · exact (lawful.fresh turned member).2
      · have old := lawful.peopled any (idle any own member ▸ busy)
        exact ⟨old.1, by dsimp only; omega⟩
  born birth member := by
    have number := (lawful.peopled who active).2
    have more := turned.numbers
    rcases List.mem_append.mp member with young | old
    · obtain ⟨child, recent, rfl⟩ := List.mem_map.mp young
      obtain ⟨-, apart, known⟩ := lawful.fresh turned recent
      exact ⟨known, by dsimp only; omega, apart⟩
    · obtain ⟨child, parent, apart⟩ := lawful.born birth old
      exact ⟨by dsimp only; omega, by dsimp only; omega, apart⟩
  lineage := lawful.lineage_turn turned
  made file member := Nat.lt_of_lt_of_le (lawful.made file member) turned.opens_le
  started := lawful.started
  -- What concerns the umpire alone is as it was, for it has not had a turn.
  conduct was found live := by
    obtain ⟨next, le, abides⟩ := lawful.conduct was (lawful.umpire_stays other turned found) live
    exact ⟨next, Nat.le_trans le turned.opens_le, abides⟩
  pending was child found := lawful.pending was child (lawful.umpire_stays other turned found)
  roots enrolment listed := List.mem_append_right _ (lawful.roots enrolment listed)
  listed birth member from_umpire := by
    rcases List.mem_append.mp member with young | old
    · obtain ⟨child, -, rfl⟩ := List.mem_map.mp young
      exact absurd from_umpire other
    · exact lawful.listed birth old from_umpire
  bounded enrolment listed :=
    ⟨Nat.le_trans (lawful.bounded enrolment listed).1 turned.opens_le, (lawful.bounded enrolment listed).2⟩
  fits := lawful.fits
  apart := lawful.apart
  answered enrolment listed := (lawful.answered enrolment listed).imp_right fun waits was found =>
    waits was (lawful.umpire_stays other turned found)
  enrolled := lawful.enrolled
  preparing _ listed _ found live prepares :=
    lawful.preparing_turn other turned idle heeds listed found live prepares
  kin _ apart _ found _ _ held made := lawful.kin_turn other turned heeds apart found held made

end Others

/-- A bout is lawful after another process's turn. -/
theorem moved {who : Nat} {wanted : Call} {next : wanted.Answer → Talk Nat} {turn : Turn wanted.Answer}
    (asks : scene.tasks who = some (.ask wanted next)) (may : scene.kernel.May who wanted turn) :
    Lawful contest umpire { scene with
      kernel := turn.kernel
      tasks := tasksAfter programs scene.tasks who next turn
      births := turn.born.map (·, who) ++ scene.births } := by
  have active : scene.tasks who ≠ none := by simp [asks]
  have turned := Host.Kernel.turned_may lawful.sound may
  -- Tasks change of the one whose turn it was, and of those it has started.
  refine lawful.others (lawful.peopled who active).1 turned active (fun any own unborn => ?_) ?_
  · cases turn <;> simp_all [tasksAfter, Turn.born]
  · rintro enrolment listed rfl was there live prepares
    exact lawful.heeds_turn listed there live prepares asks turned

/-- A bout is lawful after another process's end. -/
theorem ended {who code : Nat} (ends : scene.tasks who = some (.done code)) :
    Lawful contest umpire { scene with
      kernel := (scene.kernel.takeAll who).finish who (.ofExit code)
      tasks := Function.update scene.tasks who none } := by
  have active : scene.tasks who ≠ none := by simp [ends]
  obtain ⟨feels, gone⟩ := Host.Kernel.felt_end lawful.sound who (.ofExit code)
  -- It is as if the process had asked for something and had then been no more.
  have turned : Turned scene.kernel who .clock (.gone ((scene.kernel.takeAll who).finish who (.ofExit code))) :=
    Host.Kernel.turned_gone lawful.sound feels gone
  refine lawful.others (lawful.peopled who active).1 turned active (fun any own _ => ?_) ?_
  · exact Function.update_of_ne own none scene.tasks
  · rintro enrolment listed rfl was there live prepares
    refine ⟨rfl, fun station found lives => ?_⟩
    -- It does not live any more, so there is nothing to heed.
    rw [(gone station found).1] at lives
    cases lives

end Lawful

end Umpire.Bout
