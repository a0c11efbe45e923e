import Umpire.Proofs.Bout.Lawful

/-! Presiding: the umpire's own steps keep a bout lawful, and so does every run of its host. -/

namespace Umpire.Bout

open Host (Call Effect Kernel Programs Slot Station Table Talk Turn)
open Host.Kernel (Gone Turned)

variable {contest : Contest} {programs : Programs} {umpire : Nat}

namespace Record

/-- An open file under one of some numbers is one of their slots'. -/
theorem mem_filesUnder {table : Table} {fds : List Nat} {file : Nat} (member : file ∈ filesUnder table fds) :
    ∃ fd ∈ fds, ∃ slot, table.get? fd = some slot ∧ slot.file = file := by
  obtain ⟨fd, listed, found⟩ := List.mem_filterMap.mp member
  obtain ⟨slot, found, same⟩ := Option.map_eq_some_iff.mp found
  exact ⟨fd, listed, slot, found, same⟩

/-- What is on record as made after an answer was on record before, or is new. -/
theorem mem_made_after {record : Record} {wanted : Call} {value : wanted.Answer} {next later file : Nat}
    {before after : Table} (effect : Effect next before wanted value later after)
    (member : file ∈ (record.after after (.call wanted) value).made) :
    file ∈ record.made ∨ next ≤ file ∧ file < later := by
  -- Only a pipe and an opening make anything.
  cases wanted
  case pipe =>
    cases value with
    | error errno => exact .inl member
    | ok ends =>
      obtain ⟨between, first, second, rfl⟩ := effect
      obtain ⟨-, -, rfl⟩ := Table.insert_ok first
      obtain ⟨-, -, rfl⟩ := Table.insert_ok second
      refine (List.mem_append.mp member).imp_right fun new => ?_
      obtain ⟨fd, listed, slot, found, rfl⟩ := mem_filesUnder new
      simp only [Table.get?_put] at found
      split at found
      · cases found
        exact ⟨Nat.le_succ _, Nat.lt_succ_self _⟩
      · rename_i other
        -- The number is the first one, since it is not the second.
        have first : fd = ends.1 := by simpa [other] using listed
        rw [if_pos first] at found
        cases found
        exact ⟨Nat.le_refl _, Nat.lt_add_of_pos_right (by decide)⟩
  case openFile =>
    cases value with
    | error errno => exact .inl member
    | ok fd =>
      -- The new file is under the one number that was answered.
      obtain ⟨taken, rfl⟩ := effect
      obtain ⟨-, -, rfl⟩ := Table.insert_ok taken
      refine (List.mem_append.mp member).imp_right fun new => ?_
      obtain ⟨number, listed, slot, found, rfl⟩ := mem_filesUnder new
      rw [List.mem_singleton.mp listed, Table.get?_put, if_pos rfl] at found
      cases found
      exact ⟨Nat.le_refl _, Nat.lt_succ_self _⟩
  all_goals exact .inl member

/-- Only an answer to an order is an order that was answered. -/
theorem spent_after {record : Record} {table : Table} {act : Act} {answer : act.Answer}
    (plain : ∀ order, act ≠ .call (.spawn order)) : (record.after table act answer).spent = record.spent := by
  -- All other answers go into other parts of the record, or into none.
  cases act with
  | note entry => cases entry <;> rfl
  | call wanted =>
    cases wanted
    case spawn order => exact absurd rfl (plain order)
    case pipe | openFile => cases answer <;> rfl
    all_goals rfl

/-- Only a word on a start says that a side was started. -/
theorem started_after_call {record : Record} {table : Table} {wanted : Call} {answer : wanted.Answer} :
    (record.after table (.call wanted) answer).started = record.started := by
  cases wanted
  -- What a call was answered is put down elsewhere.
  case pipe | openFile => cases answer <;> rfl
  all_goals rfl

end Record

/-- What is right of an order stays right as long as nothing more is made and told of. -/
theorem Enrolment.Fits.of_frozen {record later : Record} {enrolment : Enrolment}
    (fits : enrolment.Fits contest record)
    (frozen : later.made = record.made ∧ later.beacons = record.beacons ∧ later.anchors = record.anchors) :
    enrolment.Fits contest later := by
  -- What was right is about the record at the order, which agrees with the later one in all that counts.
  obtain ⟨ledger, side, beacon, table, beacons, made, anchors, given, orders⟩ := fits
  exact ⟨ledger, side, beacon, table, beacons.trans frozen.2.1.symm, made.trans frozen.1.symm,
    anchors.trans frozen.2.2.symm, given, orders⟩

namespace Lawful

variable {scene : Scene} (lawful : Lawful contest umpire scene)

include lawful

/-- An umpire that lives does only what its rules allow. -/
theorem allowed {act : Act} {next : act.Answer → Conduct (Except Fault Report)} {was : Station}
    (rest : scene.rest = .ask act next) (there : scene.kernel.station? umpire = some was)
    (live : was.live = true) : ∃ bound, bound ≤ scene.kernel.opens.next ∧
      (rules contest).may ⟨was.table, bound, scene.record⟩ act ∧
      ∀ answer after, (rules contest).leads ⟨was.table, bound, scene.record⟩ act answer after →
        (next answer).Abides (rules contest) (fun _ after => after.Calm) after := by
  -- What it still has to do abides by its rules, the next act first.
  obtain ⟨bound, le, abides⟩ := lawful.conduct was there live
  rw [rest] at abides
  exact ⟨bound, le, abides⟩

/-- The umpire waits for nobody as long as it asks for anything but a start. -/
theorem unordered {act : Act} {next : act.Answer → Conduct (Except Fault Report)} {was : Station}
    (rest : scene.rest = .ask act next) (plain : ∀ order, act ≠ .call (.spawn order))
    (there : scene.kernel.station? umpire = some was) (live : was.live = true) : was.ordered = none := by
  -- It waits for somebody only in the middle of a start.
  cases ordered : was.ordered with
  | none => rfl
  | some child =>
    obtain ⟨order, _, waits, -⟩ := lawful.pending was child there live ordered
    rw [rest] at waits
    cases waits
    exact absurd rfl (plain order)

/-- Every order has been answered as long as the umpire waits for nobody. -/
theorem answered_of_idle {was : Station} (there : scene.kernel.station? umpire = some was)
    (live : was.live = true) (idle : was.ordered = none) {enrolment : Enrolment}
    (listed : enrolment ∈ scene.enrolled) : ∃ child, (enrolment.commission, child) ∈ scene.record.spent := by
  -- An order without an answer is one that the umpire would be waiting for.
  refine (lawful.answered enrolment listed).resolve_right fun waits => ?_
  have awaited := waits was there live
  rw [idle] at awaited
  cases awaited

/-- Nobody prepares to run a program as long as the umpire waits for nobody. -/
theorem unprepared_of_idle {was : Station} (there : scene.kernel.station? umpire = some was)
    (live : was.live = true) (idle : was.ordered = none) {enrolment : Enrolment}
    (listed : enrolment ∈ scene.enrolled) {station : Station}
    (seen : scene.kernel.station? enrolment.child = some station) (lives : station.live = true) :
    station.start ≠ .preparing := by
  -- Whoever prepares is the one that the umpire waits for.
  intro prepares
  have waits := (lawful.preparing enrolment listed station seen lives prepares).awaited was there live
  rw [idle] at waits
  cases waits

/-- Once an order has been given, nothing more is made and no signalling pipe is told of. -/
theorem frozen {act : Act} {next : act.Answer → Conduct (Except Fault Report)} {was : Station}
    (rest : scene.rest = .ask act next) (there : scene.kernel.station? umpire = some was)
    (live : was.live = true) {enrolment : Enrolment} (listed : enrolment ∈ scene.enrolled) (table : Table)
    (answer : act.Answer) :
    (scene.record.after table act answer).made = scene.record.made ∧
      (scene.record.after table act answer).beacons = scene.record.beacons ∧
      (scene.record.after table act answer).anchors = scene.record.anchors := by
  obtain ⟨bound, -, ⟨-, allows⟩, -⟩ := lawful.allowed rest there live
  -- Whatever makes something is allowed only as long as no order has been answered.
  have spent (plain : ∀ order, act ≠ .call (.spawn order)) : scene.record.spent ≠ [] := by
    obtain ⟨child, member⟩ := lawful.answered_of_idle there live (lawful.unordered rest plain there live) listed
    exact List.ne_nil_of_mem member
  -- What makes nothing changes none of the three.
  cases act with
  | note entry =>
    cases entry
    case pipeCreated => exact absurd allows.2 (spent nofun)
    all_goals exact ⟨rfl, rfl, rfl⟩
  | call wanted =>
    cases wanted
    case pipe => exact absurd allows.2 (spent nofun)
    case openFile => exact absurd allows.2.1 (spent nofun)
    all_goals exact ⟨rfl, rfl, rfl⟩

/-- A bout is lawful after the umpire has told something. -/
theorem told {entry : Entry} {next : Unit → Conduct (Except Fault Report)} {was : Station}
    (rest : scene.rest = .ask (.note entry) next) (there : scene.kernel.station? umpire = some was)
    (live : was.live = true) :
    Lawful contest umpire { scene with
      rest := next ()
      record := scene.record.after was.table (.note entry) () } := by
  obtain ⟨bound, le, ⟨-, allows⟩, goes⟩ := lawful.allowed rest there live
  -- To tell something is no call, so only the record and what is left to do change.
  have idle := lawful.unordered rest nofun there live
  have spent : (scene.record.after was.table (.note entry) ()).spent = scene.record.spent :=
    Record.spent_after nofun
  have made : (scene.record.after was.table (.note entry) ()).made = scene.record.made := by
    cases entry <;> rfl
  refine {
    sound := lawful.sound
    present := lawful.present
    peopled := lawful.peopled
    born := lawful.born
    lineage := lawful.lineage
    made := made ▸ lawful.made
    started := ?_
    conduct := fun station found _ => ?_
    pending := fun station child found _ ordered => ?_
    roots := lawful.roots
    listed := lawful.listed
    bounded := made ▸ lawful.bounded
    fits := fun enrolment listed => ?_
    apart := made ▸ lawful.apart
    answered := spent ▸ lawful.answered
    enrolled := spent ▸ lawful.enrolled
    preparing := fun enrolment listed station found lives prepares => ?_
    kin := made ▸ lawful.kin }
  · intro side pid known
    rw [spent]
    cases entry
    case started which number =>
      -- The side that is told to be started now is one for which an order has been answered.
      by_cases same : side = which
      · subst same
        obtain ⟨-, order, listed, sides, pids, -⟩ := allows
        exact ⟨order, listed, sides, pids.trans ((PerSide.get_set_same _ side number).symm.trans known)⟩
      · obtain rfl := Side.eq_other_of_ne same
        exact lawful.started _ pid ((PerSide.get_set_other _ which number).symm.trans known)
    all_goals exact lawful.started side pid known
  · cases there.symm.trans found
    exact ⟨bound, le, goes () _ rfl⟩
  · cases there.symm.trans found
    rw [idle] at ordered
    cases ordered
  · exact (lawful.fits enrolment listed).of_frozen (lawful.frozen rest there live listed was.table ())
  · have before := lawful.preparing enrolment listed station found lives prepares
    exact ⟨before.obeys, before.childless, spent ▸ before.unanswered, before.awaited⟩

/-- A bout is lawful after the umpire has waited or is no more. -/
theorem idles {wanted : Call} {turn : Turn wanted.Answer} (turned : Turned scene.kernel umpire wanted turn)
    (idle : turn = .waiting turn.kernel ∨ turn = .gone turn.kernel) :
    Lawful contest umpire { scene with kernel := turn.kernel } := by
  -- Nobody is started by waiting, nor by an end.
  have unborn : turn.born = [] := by rcases idle with eq | eq <;> rw [eq] <;> rfl
  have numbers : turn.kernel.processes.next = scene.kernel.processes.next := by
    rw [turned.numbers, unborn]
    rfl
  have more := turned.opens_le
  -- If the umpire still lives, it is what it was, and so is everybody else.
  have own (station : Station) (found : turn.kernel.station? umpire = some station)
      (live : station.live = true) : scene.kernel.station? umpire = some station := by
    have took := turned.took
    rcases idle with eq | eq <;> rw [eq] at took
    · cases took with
      | waiting same _ => exact same ▸ found
    · cases took with
      | gone gone _ =>
        rw [(gone station found).1] at live
        cases live
  have others (who : Nat) (apart : who ≠ umpire) (station : Station)
      (found : turn.kernel.station? who = some station) : scene.kernel.station? who = some station :=
    turned.station_of_apart (by simpa [unborn] using apart) found
  refine {
    sound := turned.sound lawful.sound
    present := numbers ▸ lawful.present
    peopled := numbers ▸ lawful.peopled
    born := numbers ▸ lawful.born
    lineage := lawful.lineage
    made := fun file member => Nat.lt_of_lt_of_le (lawful.made file member) more
    started := lawful.started
    conduct := fun was found live => ?_
    pending := fun was child found live => lawful.pending was child (own was found live) live
    roots := lawful.roots
    listed := lawful.listed
    bounded := fun enrolment listed =>
      ⟨Nat.le_trans (lawful.bounded enrolment listed).1 more, (lawful.bounded enrolment listed).2⟩
    fits := lawful.fits
    apart := lawful.apart
    answered := fun enrolment listed => (lawful.answered enrolment listed).imp_right fun waits was found live =>
      waits was (own was found live) live
    enrolled := lawful.enrolled
    preparing := fun enrolment listed station found lives prepares => ?_
    kin := fun who apart station found => lawful.kin who apart station (others who apart station found) }
  · obtain ⟨next, le, abides⟩ := lawful.conduct was (own was found live) live
    exact ⟨next, Nat.le_trans le more, abides⟩
  · have apart := (lawful.born _ (lawful.roots enrolment listed)).2.2
    have before := lawful.preparing enrolment listed station (others _ apart station found) lives prepares
    exact ⟨before.obeys, before.childless, before.unanswered, fun was found live =>
      before.awaited was (own was found live) live⟩

/-- A bout is lawful after some time. -/
theorem later (clock : Nat) :
    Lawful contest umpire { scene with kernel := { scene.kernel with clock } } := by
  -- Nothing happens, as if the umpire had waited.
  have turned : Turned scene.kernel umpire .clock (.waiting { scene.kernel with clock }) :=
    .of_waiting lawful.sound (.of_processes rfl rfl)
  exact lawful.idles turned (.inl rfl)

section Answers

variable {wanted : Call} {next : wanted.Answer → Conduct (Except Fault Report)} {value : wanted.Answer}
  {after : Kernel} {left : Station} (rest : scene.rest = .ask (.call wanted) next)
  (turned : Turned scene.kernel umpire wanted (.answered value after))
  (found : after.station? umpire = some left)

include rest turned found

/-- The umpire waits for nobody once it has been answered. -/
theorem idle_of_answered : left.ordered = none := by
  obtain ⟨was, left', there, live, found', -, ordered⟩ := turned.took.of_answered
  cases found.symm.trans found'
  -- A wait ends with the answer to its order, and before any other call there is none.
  rcases ordered with ⟨plain, same⟩ | idle
  · exact same.trans (lawful.unordered rest (fun order same => plain order (Act.call.inj same)) there live)
  · exact idle

omit rest in
/-- What the umpire has made is open before the next open file is, an answer's included. -/
theorem made_of_answered {file : Nat}
    (member : file ∈ (scene.record.after left.table (.call wanted) value).made) : file < after.opens.next := by
  obtain ⟨was, left', -, -, found', effect, -⟩ := turned.took.of_answered
  cases found.symm.trans found'
  -- It was made before, or by the call that was answered.
  rcases Record.mem_made_after effect member with old | ⟨-, new⟩
  · exact Nat.lt_of_lt_of_le (lawful.made file old) turned.opens_le
  · exact new

omit rest in
/-- What the umpire has made is held by the kin of those it was handed to after an answer as well. -/
theorem kin_of_answered {who : Nat} (apart : who ≠ umpire) {station : Station}
    (seen : after.station? who = some station) {fd : Nat} {slot : Slot}
    (held : station.table.get? fd = some slot)
    (made : slot.file ∈ (scene.record.after left.table (.call wanted) value).made) :
    ∃ enrolment ∈ scene.enrolled, Descends scene.births enrolment.child who ∧
      (enrolment.commission.charge.Hands slot.file ∨ who = enrolment.child ∧ station.start = .preparing) := by
  obtain ⟨was, left', -, -, found', effect, -⟩ := turned.took.of_answered
  cases found.symm.trans found'
  have before : scene.kernel.station? who = some station :=
    turned.station_of_apart (by simpa [Turn.born] using apart) seen
  -- What another holds was there before, so that it is not what has just been made.
  have old := (lawful.sound.stations who station before).opened fd slot held
  rcases Record.mem_made_after effect made with known | ⟨new, -⟩
  · exact lawful.kin who apart station before fd slot held known
  · exact absurd old (Nat.not_lt.mpr new)

/-- A bout is lawful after the umpire has been answered, if its orders are accounted for. -/
theorem answers
    (answered : ∀ enrolment ∈ scene.enrolled,
      ∃ child, (enrolment.commission, child) ∈ (scene.record.after left.table (.call wanted) value).spent)
    (enrolled : ∀ spent ∈ (scene.record.after left.table (.call wanted) value).spent, ∀ child,
      spent.2 = some child → ∃ enrolment ∈ scene.enrolled, enrolment.child = child ∧
        enrolment.commission = spent.1)
    (spent : scene.record.spent ⊆ (scene.record.after left.table (.call wanted) value).spent)
    (ready : ∀ enrolment ∈ scene.enrolled, ∀ station, scene.kernel.station? enrolment.child = some station →
      station.live = true → station.start ≠ .preparing) :
    Lawful contest umpire { scene with
      kernel := after
      rest := next value
      record := scene.record.after left.table (.call wanted) value } := by
  obtain ⟨was, left', there, live, found', effect, -⟩ := turned.took.of_answered
  cases found.symm.trans found'
  obtain ⟨bound, le, -, goes⟩ := lawful.allowed rest there live
  have numbers : after.processes.next = scene.kernel.processes.next := turned.numbers
  have more : scene.kernel.opens.next ≤ after.opens.next := turned.opens_le
  have frozen {enrolment : Enrolment} (listed : enrolment ∈ scene.enrolled) :=
    lawful.frozen rest there live listed left.table value
  refine {
    sound := turned.sound lawful.sound
    present := numbers ▸ lawful.present
    peopled := numbers ▸ lawful.peopled
    born := numbers ▸ lawful.born
    lineage := lawful.lineage
    made := fun _ member => lawful.made_of_answered turned found member
    started := fun side pid known => ?_
    conduct := fun station seen _ => ?_
    pending := fun station child seen _ awaited => ?_
    roots := lawful.roots
    listed := lawful.listed
    bounded := fun enrolment listed => ?_
    fits := fun enrolment listed => (lawful.fits enrolment listed).of_frozen (frozen listed)
    apart := fun one listed other listed' => ?_
    answered := fun enrolment listed => .inl (answered enrolment listed)
    enrolled := enrolled
    preparing := fun enrolment listed station seen lives prepares => ?_
    kin := fun _ apart _ seen _ _ held made => lawful.kin_of_answered turned found apart seen held made }
  · -- A side that was started stays so, and its order stays on record.
    rw [Record.started_after_call] at known
    obtain ⟨order, listed, sides⟩ := lawful.started side pid known
    exact ⟨order, spent listed, sides⟩
  · cases found.symm.trans seen
    exact ⟨after.opens.next, Nat.le_refl _, goes value _ ⟨⟨_, le, effect⟩, rfl⟩⟩
  · cases found.symm.trans seen
    rw [lawful.idle_of_answered rest turned found] at awaited
    cases awaited
  · rw [(frozen listed).1]
    exact ⟨Nat.le_trans (lawful.bounded enrolment listed).1 more, (lawful.bounded enrolment listed).2⟩
  · rw [(frozen listed).1]
    exact lawful.apart one listed other listed'
  · -- Nobody prepares at this point, neither before the answer nor after it.
    have apart := (lawful.born _ (lawful.roots enrolment listed)).2.2
    have before := turned.station_of_apart (by simpa [Turn.born] using apart) seen
    exact absurd prepares (ready enrolment listed station before lives)

/-- A bout is lawful after the umpire has been answered something else than what became of an order. -/
theorem replied (plain : ∀ order, wanted ≠ .spawn order) :
    Lawful contest umpire { scene with
      kernel := after
      rest := next value
      record := scene.record.after left.table (.call wanted) value } := by
  -- Nothing but an order is answered as one, so all orders have been answered before.
  have other : ∀ order, Act.call wanted ≠ .call (.spawn order) :=
    fun order same => plain order (Act.call.inj same)
  have spent : (scene.record.after left.table (.call wanted) value).spent = scene.record.spent :=
    Record.spent_after other
  obtain ⟨was, -, there, live, -⟩ := turned.took.of_answered
  have idle := lawful.unordered rest other there live
  -- The orders are as they were, and nobody prepares as long as none is pending.
  refine lawful.answers rest turned found (fun enrolment listed => ?_) (spent ▸ lawful.enrolled)
    (fun _ listed => spent ▸ listed) fun enrolment listed station seen lives => ?_
  · rw [spent]
    exact lawful.answered_of_idle there live idle listed
  · exact lawful.unprepared_of_idle there live idle listed seen lives

end Answers

/-- The order that the umpire waits for is the one that it asks for. -/
theorem pending_order {order : Host.Order} {next : Except IoFault Nat → Conduct (Except Fault Report)}
    (rest : scene.rest = .ask (.call (.spawn order)) next) {was : Station} {child : Nat}
    (there : scene.kernel.station? umpire = some was) (live : was.live = true)
    (ordered : was.ordered = some child) : ∃ enrolment ∈ scene.enrolled, enrolment.child = child ∧
      enrolment.commission = ⟨scene.record.starting, ⟨order, was.table⟩⟩ := by
  obtain ⟨order', next', rest', enrolment, listed, number, commission⟩ :=
    lawful.pending was child there live ordered
  -- It asks for one thing only.
  rw [rest] at rest'
  cases rest'
  exact ⟨enrolment, listed, number, commission⟩

/-- The process that the umpire waits for tells which order it was started on. -/
theorem eq_of_child {one other : Enrolment} (listed : one ∈ scene.enrolled) (listed' : other ∈ scene.enrolled)
    (same : one.child = other.child) : one = other :=
  (lawful.apart one listed other listed').resolve_right fun apart => apart.children same

section Told

variable {order : Host.Order} {next : Except IoFault Nat → Conduct (Except Fault Report)}
  {value : Except IoFault Nat} {after : Kernel}
  (rest : scene.rest = .ask (.call (.spawn order)) next)
  (turned : Turned scene.kernel umpire (.spawn order) (.answered value after))

include turned

/-- Nobody still prepares when the umpire is told what became of its order. -/
theorem unprepared_of_told {enrolment : Enrolment} (listed : enrolment ∈ scene.enrolled) {station : Station}
    (seen : scene.kernel.station? enrolment.child = some station) (lives : station.live = true) :
    station.start ≠ .preparing := by
  intro prepares
  obtain ⟨was, -, there, live, -⟩ := turned.took.of_answered
  -- Who prepares is waited for, and the answer is about who is waited for: it runs, or it gave up.
  have waits := (lawful.preparing enrolment listed station seen lives prepares).awaited was there live
  cases turned.took with
  | answered plain => exact absurd rfl (plain order)
  | declined there' _ idle =>
    cases there.symm.trans there'
    rw [idle] at waits
    cases waits
  | started there' _ waits' _ runs =>
    cases there.symm.trans there'
    obtain rfl := Option.some.inj (waits.symm.trans waits')
    rcases runs station seen with ended | running
    · rw [ended] at lives
      cases lives
    · rw [running] at prepares
      cases prepares
  -- A process that gave up does not prepare any more.
  | failed there' _ waits' _ found' gaveUp =>
    cases there.symm.trans there'
    obtain rfl := Option.some.inj (waits.symm.trans waits')
    cases seen.symm.trans found'
    rw [gaveUp] at prepares
    cases prepares

include rest

/-- A process that the umpire is told of was started on the order that it asks for. -/
theorem enrolled_of_told {was : Station} (there : scene.kernel.station? umpire = some was) {child : Nat}
    (told : value.toOption = some child) : ∃ enrolment ∈ scene.enrolled, enrolment.child = child ∧
      enrolment.commission = ⟨scene.record.starting, ⟨order, was.table⟩⟩ := by
  -- Only a process that was waited for is told to have been started.
  cases turned.took with
  | answered plain => exact absurd rfl (plain order)
  | declined | failed => cases told
  | started there' live waits =>
    cases there.symm.trans there'
    obtain rfl := Option.some.inj told
    exact lawful.pending_order rest there live waits

/-- A bout is lawful after the umpire has been told what became of an order. -/
theorem acknowledged {left : Station} (found : after.station? umpire = some left) :
    Lawful contest umpire { scene with
      kernel := after
      rest := next value
      record := scene.record.after left.table (.call (.spawn order)) value } := by
  obtain ⟨was, left', there, live, found', ⟨same, -⟩, -⟩ := turned.took.of_answered
  cases found.symm.trans found'
  -- With this answer all orders have been answered, and a side that it says was started has its enrolment.
  refine lawful.answers rest turned found (fun enrolment listed => ?_) (fun spent listed child started => ?_)
    (fun _ listed => List.mem_append_left _ listed)
    fun _ listed _ seen lives => lawful.unprepared_of_told turned listed seen lives
  · -- An order that had not been answered is the one that has been now.
    rcases lawful.answered enrolment listed with ⟨child, known⟩ | waits
    · exact ⟨child, List.mem_append_left _ known⟩
    · obtain ⟨pending, listed', number, commission⟩ :=
        lawful.pending_order rest there live (waits was there live)
      obtain rfl := lawful.eq_of_child listed listed' number.symm
      refine ⟨value.toOption, List.mem_append_right _ ?_⟩
      rw [commission, same]
      exact List.mem_singleton.mpr rfl
  · rcases List.mem_append.mp listed with old | new
    · exact lawful.enrolled spent old child started
    · obtain rfl := List.mem_singleton.mp new
      exact same ▸ lawful.enrolled_of_told rest turned there started

end Told

/-- What an order hands on that the umpire may give is apart from what was handed on before. -/
theorem apart_new {order : Host.Order} {was : Station} {bound : Nat} {side : Side} {beacon : Beacon}
    (there : scene.kernel.station? umpire = some was) (live : was.live = true) (idle : was.ordered = none)
    (orders : Ledger.Orders contest ⟨was.table, bound, scene.record⟩ order side beacon) {old : Enrolment}
    (listed : old ∈ scene.enrolled) {child limit : Nat} (fresh : old.child < child) :
    Enrolment.Apart scene.record.made
      ⟨child, ⟨scene.record.starting, ⟨order, was.table⟩⟩, limit⟩ old := by
  -- The old order has been answered, and so is among those that the rules compare the new one with.
  obtain ⟨answer, known⟩ := lawful.answered_of_idle there live idle listed
  refine ⟨Nat.ne_of_gt fresh, fun same => orders.once _ known (same ▸ orders.exposes.1), ?_⟩
  rintro file made ⟨fd, slot, held, rfl, -⟩ hands
  exact orders.apart _ known fd slot ⟨held, made⟩ hands

section Commission

variable {order given : Host.Order} {next : Except IoFault Nat → Conduct (Except Fault Report)}
  {child : Nat} {after : Kernel} {was : Station} (rest : scene.rest = .ask (.call (.spawn order)) next)
  (turned : Turned scene.kernel umpire (.spawn order) (.ordered child given after))
  (there : scene.kernel.station? umpire = some was)

omit lawful in
include turned in
/-- Only the umpire and the process that it has ordered are not what they were. -/
theorem kept_of_ordered {who : Nat} (own : who ≠ umpire) (young : who ≠ child) {station : Station}
    (seen : after.station? who = some station) : scene.kernel.station? who = some station :=
  turned.station_of_apart (by simp [Turn.born, own, young]) seen

include turned

/-- A process that is ordered has a number that nobody has had. -/
theorem fresh_of_ordered : child = scene.kernel.processes.next ∧ child ≠ umpire := by
  -- The number is the next one, and the umpire's was given before.
  obtain ⟨-, number, -⟩ := turned.took.of_ordered
  have present := lawful.present
  exact ⟨number, by omega⟩

/-- Whoever was started before has a lower number than the process that is ordered. -/
theorem lower_of_ordered {old : Enrolment} (listed : old ∈ scene.enrolled) : old.child < child :=
  (lawful.fresh_of_ordered turned).1 ▸ (lawful.born _ (lawful.roots old listed)).1

/-- An order starts a process that has not been started before, by an elder. -/
theorem born_of_ordered {birth : Nat × Nat} (member : birth ∈ (child, umpire) :: scene.births) :
    birth.1 < after.processes.next ∧ birth.2 < after.processes.next ∧ birth.1 ≠ umpire := by
  obtain ⟨number, other⟩ := lawful.fresh_of_ordered turned
  have numbers : after.processes.next = scene.kernel.processes.next + 1 := turned.numbers
  have present := lawful.present
  -- The new process has the next number, and the others had theirs before.
  rcases List.mem_cons.mp member with rfl | old
  · exact ⟨by dsimp only; omega, by dsimp only; omega, other⟩
  · obtain ⟨younger, elder, apart⟩ := lawful.born birth old
    exact ⟨by omega, by omega, apart⟩

/-- Only processes that were started have something to do once another is ordered as well. -/
theorem peopled_of_ordered {who : Nat} (busy : Function.update scene.tasks child (some given.obey) who ≠ none) :
    who ≠ umpire ∧ who < after.processes.next := by
  obtain ⟨number, other⟩ := lawful.fresh_of_ordered turned
  have numbers : after.processes.next = scene.kernel.processes.next + 1 := turned.numbers
  -- The new process has its order to follow, and all others have what they had.
  by_cases young : who = child
  · exact ⟨young ▸ other, by omega⟩
  · have old := lawful.peopled who (Function.update_of_ne young _ scene.tasks ▸ busy)
    exact ⟨old.1, by omega⟩

/-- Nobody is started twice, the process that is ordered included. -/
theorem lineage_of_ordered : (((child, umpire) :: scene.births).map Prod.fst).Nodup := by
  -- A process that was started before has a lower number.
  refine List.nodup_cons.mpr ⟨fun listed => ?_, lawful.lineage⟩
  obtain ⟨birth, known, same⟩ := List.mem_map.mp listed
  have lower := (lawful.born birth known).1
  have number := (lawful.fresh_of_ordered turned).1
  dsimp only at same
  omega

include there

/-- The order that is being given is apart from those that were given before, as these are from each other. -/
theorem apart_of_ordered {bound limit : Nat} {side : Side} {beacon : Beacon}
    (orders : Ledger.Orders contest ⟨was.table, bound, scene.record⟩ order side beacon)
    {one another : Enrolment}
    (listed : one ∈ ⟨child, ⟨scene.record.starting, ⟨order, was.table⟩⟩, limit⟩ :: scene.enrolled)
    (listed' : another ∈ ⟨child, ⟨scene.record.starting, ⟨order, was.table⟩⟩, limit⟩ :: scene.enrolled) :
    one = another ∨ one.Apart scene.record.made another := by
  obtain ⟨-, -, was', there', live, idle, -⟩ := turned.took.of_ordered
  cases there.symm.trans there'
  -- Each of the two is the new one or an old one, and only an old and a new one are yet to be compared.
  rcases List.mem_cons.mp listed with rfl | old <;> rcases List.mem_cons.mp listed' with rfl | old'
  · exact .inl rfl
  · exact .inr (lawful.apart_new there live idle orders old' (lawful.lower_of_ordered turned old'))
  · exact .inr (lawful.apart_new there live idle orders old (lawful.lower_of_ordered turned old)).symm
  · exact lawful.apart one old another old'

/-- The process that is ordered prepares to run its program, and nobody else does. -/
theorem preparing_of_ordered {enrolment : Enrolment}
    (listed : enrolment ∈
      ⟨child, ⟨scene.record.starting, ⟨given, was.table⟩⟩, after.opens.next⟩ :: scene.enrolled)
    {station : Station} (seen : after.station? enrolment.child = some station) (lives : station.live = true)
    (prepares : station.start = .preparing) :
    Prepares umpire { scene with
      kernel := after
      tasks := Function.update scene.tasks child (some given.obey)
      enrolled := ⟨child, ⟨scene.record.starting, ⟨given, was.table⟩⟩, after.opens.next⟩ :: scene.enrolled
      births := (child, umpire) :: scene.births } enrolment station := by
  obtain ⟨number, other⟩ := lawful.fresh_of_ordered turned
  obtain ⟨rfl, -, was', there', live, idle, left, born, -⟩ := turned.took.of_ordered
  cases there.symm.trans there'
  rcases List.mem_cons.mp listed with rfl | old
  · cases born.symm.trans seen
    refine ⟨fun talk busy => ?_, fun birth member => ?_, fun spent listed same => ?_, fun station seen _ => ?_⟩
    · obtain rfl : given.obey = talk :=
        Option.some.inj ((Function.update_self child (some given.obey) scene.tasks).symm.trans busy)
      -- Who follows an order keeps to the order's rules from the first.
      exact Host.Charge.abides_obey ⟨given, was.table⟩ after.opens.next
    · rcases List.mem_cons.mp member with rfl | known
      · exact other.symm
      · exact Nat.ne_of_lt (number ▸ (lawful.born birth known).2.1)
    · obtain ⟨enrolment, old, which, -⟩ := lawful.enrolled spent listed child same
      exact absurd which (Nat.ne_of_lt (lawful.lower_of_ordered turned old))
    · cases left.symm.trans seen
      rfl
  · -- The umpire waited for nobody when it gave the order, so that nobody before prepares still.
    have apart := (lawful.born _ (lawful.roots enrolment old)).2.2
    have before := kept_of_ordered turned apart (Nat.ne_of_lt (lawful.lower_of_ordered turned old)) seen
    exact absurd prepares (lawful.unprepared_of_idle there live idle old before lives)

omit there in
/-- What the umpire has made is held by the kin of those it was handed to once a process is ordered as well,
which holds all of it as long as it prepares. -/
theorem kin_of_ordered {who : Nat} (apart : who ≠ umpire) {station : Station}
    (seen : after.station? who = some station) {fd : Nat} {slot : Slot}
    (held : station.table.get? fd = some slot) (made : slot.file ∈ scene.record.made) :
    ∃ enrolment ∈
        (⟨child, ⟨scene.record.starting, ⟨given, was.table⟩⟩, after.opens.next⟩ : Enrolment) :: scene.enrolled,
      Descends ((child, umpire) :: scene.births) enrolment.child who ∧
        (enrolment.commission.charge.Hands slot.file ∨ who = enrolment.child ∧ station.start = .preparing) := by
  -- The new process holds what it is to hand on; whoever else holds something did so before.
  by_cases young : who = child
  · subst young
    obtain ⟨-, -, _, _, _, _, -, born, -⟩ := turned.took.of_ordered
    cases born.symm.trans seen
    exact ⟨_, List.mem_cons_self, .itself, .inr ⟨rfl, rfl⟩⟩
  · obtain ⟨enrolment, old, descends, how⟩ :=
      lawful.kin who apart station (kept_of_ordered turned apart young seen) fd slot held made
    exact ⟨enrolment, List.mem_cons_of_mem _ old, descends.mono (List.subset_cons_self _ _), how⟩

include rest

/-- A bout is lawful after the umpire has ordered a process to be started. -/
theorem commissions :
    Lawful contest umpire { scene with
      kernel := after
      tasks := Function.update scene.tasks child (some given.obey)
      enrolled := ⟨child, ⟨scene.record.starting, ⟨given, was.table⟩⟩, after.opens.next⟩ :: scene.enrolled
      births := (child, umpire) :: scene.births } := by
  have numbers : after.processes.next = scene.kernel.processes.next + 1 := turned.numbers
  -- The umpire has what it had, but waits for the process now.
  obtain ⟨rfl, -, was', there', live, idle, left, -, opens⟩ := turned.took.of_ordered
  cases there.symm.trans there'
  obtain ⟨bound, le, ⟨-, side, beacon, orders⟩, -⟩ := lawful.allowed rest there live
  refine {
    sound := turned.sound lawful.sound
    present := Nat.lt_of_lt_of_le lawful.present (numbers ▸ Nat.le_succ _)
    peopled := fun _ busy => lawful.peopled_of_ordered turned busy
    born := fun _ member => lawful.born_of_ordered turned member
    lineage := lawful.lineage_of_ordered turned
    made := fun file member => opens.symm ▸ lawful.made file member
    started := lawful.started
    conduct := fun station seen _ => ?_
    pending := fun station awaited seen _ ordered => ?_
    roots := fun enrolment listed => ?_
    listed := fun birth member from_umpire => ?_
    bounded := fun enrolment listed => ?_
    fits := fun enrolment listed => ?_
    apart := fun _ listed _ listed' => lawful.apart_of_ordered turned there orders listed listed'
    answered := fun enrolment listed => ?_
    enrolled := fun spent listed started same => ?_
    preparing := fun _ listed _ seen lives prepares =>
      lawful.preparing_of_ordered turned there listed seen lives prepares
    kin := fun _ apart _ seen _ _ held made => lawful.kin_of_ordered turned apart seen held made }
  · cases left.symm.trans seen
    -- It still has to do what it had to do before the order.
    obtain ⟨next, le, abides⟩ := lawful.conduct was there live
    exact ⟨next, opens.symm ▸ le, abides⟩
  · cases left.symm.trans seen
    -- What it waits for is this process, and its order is the first on record.
    obtain rfl := Option.some.inj ordered
    exact ⟨given, next, rest, _, List.mem_cons_self, rfl, rfl⟩
  · rcases List.mem_cons.mp listed with rfl | old
    · exact List.mem_cons_self
    · exact List.mem_cons_of_mem _ (lawful.roots enrolment old)
  · rcases List.mem_cons.mp member with rfl | old
    · exact ⟨_, List.mem_cons_self, rfl⟩
    · obtain ⟨enrolment, listed, same⟩ := lawful.listed birth old from_umpire
      exact ⟨enrolment, List.mem_cons_of_mem _ listed, same⟩
  · rcases List.mem_cons.mp listed with rfl | old
    · -- All that was made by now is older than what will be opened next.
      exact ⟨Nat.le_refl _, fun file member => opens.symm ▸ lawful.made file member⟩
    · exact opens.symm ▸ lawful.bounded enrolment old
  · rcases List.mem_cons.mp listed with rfl | old
    · -- The order fits because the rules allowed it.
      exact ⟨⟨was.table, bound, scene.record⟩, side, beacon, rfl, rfl, rfl, rfl, orders.exposes.1, orders⟩
    · exact lawful.fits enrolment old
  · rcases List.mem_cons.mp listed with rfl | old
    · -- The new order is the one that is not answered yet.
      refine .inr fun station seen _ => ?_
      cases left.symm.trans seen
      rfl
    · exact .inl (lawful.answered_of_idle there live idle old)
  · obtain ⟨enrolment, old, which⟩ := lawful.enrolled spent listed started same
    exact ⟨enrolment, List.mem_cons_of_mem _ old, which⟩

end Commission

/-- A bout is lawful after every step. -/
theorem step {after : Scene} (step : Step programs umpire scene after) : Lawful contest umpire after := by
  cases step with
  | told rest there live => exact lawful.told rest there live
  | @answered wanted next value after left rest may there =>
    have turned := Host.Kernel.turned_may lawful.sound may
    -- The answer to an order is a matter of its own.
    by_cases plain : ∀ order, wanted ≠ .spawn order
    · exact lawful.replied rest turned there plain
    · simp only [not_forall, Decidable.not_not] at plain
      obtain ⟨order, rfl⟩ := plain
      exact lawful.acknowledged rest turned there
  | idle rest may idle => exact lawful.idles (Host.Kernel.turned_may lawful.sound may) idle
  | ordered rest may there => exact lawful.commissions rest (Host.Kernel.turned_may lawful.sound may) there
  | moved asks may => exact lawful.moved asks may
  | ended ends => exact lawful.ended ends
  | later clock => exact lawful.later clock

end Lawful

/-- Every scene of a bout is lawful. -/
theorem lawful_of_reaches {kernel : Kernel} {tasks : Nat → Option (Talk Nat)} {scene : Scene}
    (ready : Ready umpire kernel tasks) (reaches : Reaches programs umpire (.opening contest kernel tasks) scene) :
    Lawful contest umpire scene := by
  -- The first scene is lawful, and every step keeps it so.
  induction reaches with
  | refl => exact lawful_opening ready
  | tail _ step lawful => exact lawful.step step

end Umpire.Bout
