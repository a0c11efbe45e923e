import Umpire.Proofs.Bout.Releasing
import Umpire.Proofs.Host.Installing
import Umpire.Proofs.Loading

/-! Mooring: as long as the sides are being launched, named pipes that they open for input and output are held open by
the umpire at both ends, so that no such opening waits. -/

namespace Umpire

namespace Host.Kernel

variable {kernel : Kernel} {who : Nat} {path : Bytes} {number : Nat}

/-- The named pipe that a process's path leads to. -/
def fifoAt? (kernel : Kernel) (who : Nat) (path : Bytes) : Option Nat :=
  match kernel.locate who path .target with
  | .ok (.here (.node number)) =>
    match kernel.nodes.get? number with
    | some ⟨.fifo _, _⟩ => some number
    | _ => none
  | _ => none

/-- Where a path leads to something that has a name and is a pipe, it leads to that named pipe. -/
theorem fifoAt?_of_channel {channel : Nat} (found : kernel.locate who path .target = .ok (.here (.node number)))
    (named : kernel.channelOf (.node number) = some channel) : kernel.fifoAt? who path = some number := by
  -- Only a node of this kind has a pipe.
  rw [channelOf] at named
  split at named
  · rename_i node
    simp only [fifoAt?, found, node]
  · cases named

/-- Whoever asks where a path to a named pipe leads is told of a named pipe. -/
theorem info_of_fifoAt? (leads : kernel.fifoAt? who path = some number) :
    kernel.locate who path .target = .ok (.here (.node number)) ∧
      ∀ info, kernel.infoOf (.node number) = .ok info → info.kind = .fifo := by
  -- It led to a named pipe, in the one branch that comes to something.
  rw [fifoAt?] at leads
  split at leads
  · rename_i found
    split at leads
    · rename_i node
      cases leads
      refine ⟨found, fun info told => ?_⟩
      -- What is told of a node is its kind among other things.
      simp only [infoOf, node] at told
      cases told
      rfl
    · cases leads
  · cases leads

/-- An end of a pipe is held if a process has it open. -/
theorem isHeld_of_slot {fd channel : Nat} {slot : Slot} {place : Place} {access : Access} {wanted : Access → Bool}
    (held : kernel.slot? who fd = some slot) (seat : kernel.seat? slot.file = some (place, access))
    (named : kernel.channelOf place = some channel) (right : wanted access = true) :
    kernel.isHeld channel wanted = true := by
  obtain ⟨process, found, had⟩ := Option.bind_eq_some_iff.mp held
  obtain ⟨file, known, same⟩ := Option.map_eq_some_iff.mp seat
  obtain ⟨rfl, rfl⟩ := Prod.mk.inj same
  obtain ⟨earlier, later, entries, -⟩ := List.lookup_eq_some_iff.mp found
  -- The process is one of the entries, and its slot one of its open files.
  refine List.any_eq_true.mpr ⟨(who, process), by simp [entries], ?_⟩
  rw [holdsEnd, Bool.or_eq_true]
  exact .inl (List.any_eq_true.mpr ⟨slot.file, Table.mem_files had, by simp [known, named, right]⟩)

end Host.Kernel

namespace Contest.Loadable

open Bout

variable {contest : Contest} (loadable : Loadable contest)

include loadable

/-- What a side reads its input from or writes its output to is opened by both. -/
theorem mem_paths {side : Side} {stream : Stream} (standard : stream ≠ .stderr) {path : Bytes}
    (given : (contest.contestant side).file? stream = some path) : path ∈ Anchors.paths contest := by
  have reads := loadable.interactor_reads
  have writes := loadable.interactor_writes
  -- The two files are crosswise, so either side's are both sides'.
  cases side <;> cases stream <;>
    simp_all [Anchors.paths, contestant, Contestant.file?, PerSide.get]

/-- A side opens what both open before anything else. -/
theorem sequenced {side : Side} {redirects : List Host.Redirect}
    (planned : (contest.contestant side).redirects = .ok redirects) :
    Host.Sequenced (Anchors.paths contest) false redirects where
  sorted := by
    obtain ⟨-, rfl⟩ := Contestant.redirects_eq_ok_iff.mp planned
    -- Only the redirect of standard error is to another file, and it is the last one.
    have first {stream : Stream} (standard : stream ≠ .stderr) {redirect : Host.Redirect}
        (given : ((contest.contestant side).file? stream).map (Host.Redirect.mk stream) = some redirect) :
        redirect.path ∈ Anchors.paths contest := by
      obtain ⟨path, named, rfl⟩ := Option.map_eq_some_iff.mp given
      exact loadable.mem_paths standard named
    have ordered : Stream.all.Pairwise fun one _ => one ≠ .stderr := by decide
    refine List.pairwise_filterMap.mpr (ordered.imp fun standard one given other _ strays => ?_)
    exact absurd (first standard given) strays
  passed := nofun

end Contest.Loadable

namespace Bout

open Host (Call Effect Kernel Programs Slot Station Table Talk Turn)
open Host.Kernel (Lasts Turned)

variable {contest : Contest} {programs : Programs} {umpire start : Nat} {fifo : Bytes → Option Nat}

/-- The sides are being launched: the umpire lives and has not told that both run. -/
def Scene.Launching (umpire : Nat) (scene : Scene) : Prop :=
  scene.record.running = false ∧ ∃ was, scene.kernel.station? umpire = some was ∧ was.live = true

/-- The paths that both sides open stay what they are as long as the sides are being launched: to the umpire and to
every process that it has started and that does not run its program yet, each leads to one named pipe whenever one of
them has its turn, or to none ever; and who asks of such a pipe is told of it. -/
structure Steady (contest : Contest) (umpire : Nat) (fifo : Bytes → Option Nat) (scene : Scene) : Prop where
  finds : scene.Launching umpire → ∀ path ∈ Anchors.paths contest, ∀ who station,
    (scene.kernel.takeAll who).station? who = some station → station.live = true →
    (who = umpire ∨ (who, umpire) ∈ scene.births ∧ station.start = .preparing) →
    (scene.kernel.takeAll who).fifoAt? who path = fifo path
  told : ∀ path told, (path, told) ∈ scene.record.probed → (fifo path).isSome → ∃ info, told = .ok info

/-- As long as the sides are being launched, a path that both sides open leads the umpire where it has always led. -/
theorem Steady.leads {scene : Scene} (steady : Steady contest umpire fifo scene)
    (launching : scene.Launching umpire) (survives : scene.kernel.Survives umpire) {path : Bytes}
    (shared : path ∈ Anchors.paths contest) : (scene.kernel.takeAll umpire).fifoAt? umpire path = fifo path := by
  obtain ⟨station, felt, live⟩ := survives
  exact steady.finds launching path shared umpire station felt live (.inl rfl)

/-- A process that prepares to run its program opens what both sides open before anything else, and waits for no
opening as long as it does. -/
def OnCourse (contest : Contest) (kernel : Kernel) (child : Nat) (task : Option (Talk Nat)) : Prop :=
  ∃ late, (∀ talk, task = some talk →
      talk.Abides (Host.latecomerRules (Anchors.paths contest)) (fun _ _ => True) late) ∧
    (late = false → kernel.opening? child = none)

/-- Who waits for no opening as long as that lasts stays on course. -/
theorem OnCourse.lasts {kernel later : Kernel} {child : Nat} {task : Option (Talk Nat)}
    (course : OnCourse contest kernel child task) {apart : List Nat} (lasts : Lasts apart kernel later)
    (spared : child ∉ apart) : OnCourse contest later child task := by
  -- It is as late as it was.
  obtain ⟨late, abides, idle⟩ := course
  exact ⟨late, abides, fun early => lasts.idle spared (idle early)⟩

/-- Whoever is on course and about to open what both sides open has not waited for any opening. -/
theorem OnCourse.idle_of_shared {kernel : Kernel} {child : Nat} {path : Bytes} {access : Host.Access}
    {closeOnExec : Bool} {next : Except Errno Nat → Talk Nat}
    (course : OnCourse contest kernel child (some (.ask (.openFile path access closeOnExec) next)))
    (shared : path ∈ Anchors.paths contest) : kernel.opening? child = none := by
  obtain ⟨late, abides, idle⟩ := course
  cases late with
  | false => exact idle rfl
  -- It would not open this after anything else.
  | true => exact absurd shared ((abides _ rfl).1 path rfl rfl)

/-- What holds as long as the sides are being launched: the umpire has been told of the named pipes, what it has
opened at their paths are these pipes, at both ends, and a process that it has started waits for none of them. -/
structure Mooring (contest : Contest) (fifo : Bytes → Option Nat) (scene : Scene) : Prop where
  probes : ∀ path ∈ Anchors.paths contest, (fifo path).isSome → ∀ info, (path, .ok info) ∈ scene.record.probed →
    info.kind = .fifo
  anchors : ∀ path ∈ Anchors.paths contest, ∀ number, fifo path = some number → ∀ file,
    (path, file) ∈ scene.record.anchors → scene.kernel.seat? file = some (.node number, Host.Access.both)
  courses : ∀ enrolment ∈ scene.enrolled, ∀ station, scene.kernel.station? enrolment.child = some station →
    station.live = true → station.start = .preparing →
    OnCourse contest scene.kernel enrolment.child (scene.tasks enrolment.child)

namespace Lawful

variable {scene : Scene} (lawful : Lawful contest umpire scene)

include lawful

/-- As long as a process prepares to run its program and the umpire lives, the umpire holds what it is to hold, and
has not told both sides to run. -/
theorem orders_of_preparing {enrolment : Enrolment} (listed : enrolment ∈ scene.enrolled) {station : Station}
    (there : scene.kernel.station? enrolment.child = some station) (live : station.live = true)
    (prepares : station.start = .preparing) {was : Station} (present : scene.kernel.station? umpire = some was)
    (lives : was.live = true) : ∃ bound order side beacon,
      Ledger.Orders contest ⟨was.table, bound, scene.record⟩ order side beacon := by
  -- The umpire waits for it, so it is in the middle of an order, for which its rules say what it holds.
  have awaited := (lawful.preparing enrolment listed station there live prepares).awaited was present lives
  obtain ⟨order, next, rest, -⟩ := lawful.pending was enrolment.child present lives awaited
  obtain ⟨bound, -, ⟨-, side, beacon, orders⟩, -⟩ := lawful.allowed rest present lives
  exact ⟨bound, order, side, beacon, orders⟩

/-- As long as a process prepares to run its program and the umpire lives, the sides are being launched. -/
theorem launching_of_preparing (kept : scene.record.running = true → scene.record.BothStarted)
    {enrolment : Enrolment} (listed : enrolment ∈ scene.enrolled) {station : Station}
    (there : scene.kernel.station? enrolment.child = some station) (live : station.live = true)
    (prepares : station.start = .preparing) {was : Station} (present : scene.kernel.station? umpire = some was)
    (lives : was.live = true) : scene.Launching umpire := by
  refine ⟨?_, was, present, lives⟩
  cases running : scene.record.running with
  | false => rfl
  | true =>
    obtain ⟨bound, order, side, beacon, orders⟩ := lawful.orders_of_preparing listed there live prepares present lives
    -- Each side has been started, and no side is started twice.
    obtain ⟨pid, started⟩ := Option.isSome_iff_exists.mp (kept running side)
    obtain ⟨spent, known, given, -⟩ := lawful.started side pid started
    exact absurd given (orders.once spent known)

/-- Sides that are being launched after a step were so before. -/
theorem launching_before {after : Scene} (step : Step programs umpire scene after)
    (launching : after.Launching umpire) : scene.Launching umpire := by
  obtain ⟨running, station, found, live⟩ := launching
  -- What is told of running is never taken back, and the umpire does not come to life.
  cases step with
  | @told entry _ was _ there lived =>
    refine ⟨?_, was, there, lived⟩
    cases entry
    case bothRunning => cases running
    all_goals exact running
  | answered rest may there =>
    obtain ⟨was, -, present, lived, -⟩ := (Host.Kernel.turned_may lawful.sound may).took.of_answered
    exact ⟨Record.running_after_call.symm.trans running, was, present, lived⟩
  -- A turn without an answer leaves the umpire as it was, or gone.
  | idle rest may idle =>
    have took := (Host.Kernel.turned_may lawful.sound may).took
    refine ⟨running, station, ?_, live⟩
    rcases idle with eq | eq <;> rw [eq] at took
    · cases took with
      | waiting same _ => exact same ▸ found
    · cases took with
      | gone gone _ =>
        rw [(gone station found).1] at live
        cases live
  | ordered rest may there =>
    obtain ⟨-, -, was, present, lived, -⟩ := (Host.Kernel.turned_may lawful.sound may).took.of_ordered
    exact ⟨running, was, present, lived⟩
  | @moved who _ _ _ asks may =>
    have busy : scene.tasks who ≠ none := by simp [asks]
    exact ⟨running, station, lawful.umpire_stays (lawful.peopled who busy).1
      (Host.Kernel.turned_may lawful.sound may) found, live⟩
  | @ended who code ends =>
    have busy : scene.tasks who ≠ none := by simp [ends]
    exact ⟨running, station, lawful.umpire_stays (lawful.peopled who busy).1 (lawful.turned_end who code) found, live⟩
  | later clock => exact ⟨running, station, found, live⟩

end Lawful

namespace Mooring

variable {scene : Scene} (mooring : Mooring contest fifo scene) (lawful : Lawful contest umpire scene)
  (steady : Steady contest umpire fifo scene) (launching : scene.Launching umpire)

include mooring lawful steady launching

/-- As long as a process prepares to run its program, a named pipe that both sides open is held at both ends. -/
theorem held {enrolment : Enrolment} (listed : enrolment ∈ scene.enrolled) {station : Station}
    (there : scene.kernel.station? enrolment.child = some station) (live : station.live = true)
    (prepares : station.start = .preparing) {path : Bytes} (shared : path ∈ Anchors.paths contest) {number : Nat}
    (leads : fifo path = some number) : ∃ fd slot, scene.kernel.slot? umpire fd = some slot ∧
      scene.kernel.seat? slot.file = some (.node number, Host.Access.both) := by
  obtain ⟨-, was, present, lives⟩ := launching
  obtain ⟨bound, _, _, _, orders⟩ := lawful.orders_of_preparing listed there live prepares present lives
  -- The umpire was told that there is no named pipe, which it cannot have been, or holds it.
  rcases orders.moored path shared with ⟨told, probed, plain⟩ | ⟨fd, slot, held, anchor⟩
  · have known : (fifo path).isSome := by rw [leads]; rfl
    obtain ⟨info, rfl⟩ := steady.told path told probed known
    exact absurd (mooring.probes path shared known info probed) plain
  · refine ⟨fd, slot, ?_, mooring.anchors path shared number leads slot.file anchor⟩
    rw [Kernel.slot?_eq, present]
    exact held

/-- As long as a process prepares to run its program, no opening of what both sides open makes it wait. -/
theorem unblocked {enrolment : Enrolment} (listed : enrolment ∈ scene.enrolled) {station : Station}
    (there : scene.kernel.station? enrolment.child = some station) (live : station.live = true)
    (prepares : station.start = .preparing) {path : Bytes} (shared : path ∈ Anchors.paths contest)
    (idle : scene.kernel.opening? enrolment.child = none) {access : Host.Access} {closeOnExec : Bool} {after : Kernel}
    (may : scene.kernel.May enrolment.child (.openFile path access closeOnExec) (.waiting after)) :
    ∃ process, (scene.kernel.takeAll enrolment.child).process? enrolment.child = some process ∧
      process.stopped = true ∧ after = scene.kernel.takeAll enrolment.child := by
  have sound := lawful.sound.processes
  -- If it is not stopped, it waits at a named pipe for somebody to open the other end.
  obtain ⟨survives, stopped | ⟨number, channel, found, named, waits⟩⟩ := Kernel.waits_openFile sound may idle
  · exact stopped
  · obtain ⟨felt, -⟩ := survives.station sound there
    have child := lawful.roots enrolment listed
    have leads : fifo path = some number :=
      (steady.finds launching path shared enrolment.child station felt live (.inr ⟨child, prepares⟩)).symm.trans
        (Kernel.fifoAt?_of_channel found named)
    obtain ⟨fd, slot, held, seat⟩ := mooring.held lawful steady launching listed there live prepares shared leads
    -- The signals that the process feels change nothing of what the umpire has.
    have other := (lawful.born _ child).2.2
    have feels := Host.Kernel.felt_takeAll sound enrolment.child
    obtain ⟨was, present, lives, had⟩ := holder_lives lawful.sound held
    have stays : (scene.kernel.takeAll enrolment.child).slot? umpire fd = some slot := by
      rcases feels.spares umpire (by simpa using other.symm) with same | ⟨-, gone, known, ended⟩
      · rw [Kernel.slot?_eq, same, present]
        exact had
      · cases present.symm.trans known
        rw [lives] at ended
        cases ended
    have seat' : (scene.kernel.takeAll enrolment.child).seat? slot.file = some (.node number, Host.Access.both) := by
      have old := (lawful.sound.stations umpire was present).opened fd slot had
      exact ((Kernel.lasts_takeAll sound enrolment.child).seats slot.file old).trans seat
    -- The umpire has both ends, so that nobody would have to wait there.
    have writer : (scene.kernel.takeAll enrolment.child).hasWriter channel = true :=
      Kernel.isHeld_of_slot stays seat' named rfl
    have reader : (scene.kernel.takeAll enrolment.child).hasReader channel = true :=
      Kernel.isHeld_of_slot stays seat' named rfl
    rw [Kernel.mustWait, writer, reader] at waits
    split at waits <;> cases waits

/-- A process that prepares to run its program stays on course in its turn. -/
theorem on_course_turn {enrolment : Enrolment} (listed : enrolment ∈ scene.enrolled) {was : Station}
    (there : scene.kernel.station? enrolment.child = some was) (live : was.live = true)
    (prepares : was.start = .preparing) {wanted : Call} {next : wanted.Answer → Talk Nat} {turn : Turn wanted.Answer}
    (asks : scene.tasks enrolment.child = some (.ask wanted next))
    (may : scene.kernel.May enrolment.child wanted turn) {station : Station}
    (found : turn.kernel.station? enrolment.child = some station) (lives : station.live = true)
    (still : station.start = .preparing) :
    OnCourse contest turn.kernel enrolment.child
      (tasksAfter programs scene.tasks enrolment.child next turn enrolment.child) := by
  have turned := Host.Kernel.turned_may lawful.sound may
  obtain ⟨lasts, answers⟩ := Kernel.lasts_may lawful.sound.processes may
  have course := mooring.courses enrolment listed was there live prepares
  have ⟨late, abides, idle⟩ := course
  have obeys := (lawful.preparing enrolment listed was there live prepares).obeys _ asks
  rw [asks] at course
  have abides := abides _ asks
  -- By its rules it starts nobody, and what it opens before anything else does not make it wait.
  cases turn with
  | answered value after =>
    refine ⟨late || wanted.opens?.any (!(Anchors.paths contest).contains ·), fun talk same => ?_, fun early => ?_⟩
    · rw [tasksAfter, Function.update_self] at same
      cases same
      exact abides.2 value _ rfl
    · exact (answers value after rfl).idle List.not_mem_nil (idle (Bool.or_eq_false_iff.mp early).1)
  | waiting after =>
    rw [tasksAfter, asks]
    cases wanted
    case openFile path access closeOnExec =>
      by_cases shared : path ∈ Anchors.paths contest
      · -- It does not wait for what both sides open, so that it must have been stopped.
        have idle := course.idle_of_shared shared
        obtain ⟨-, -, -, rfl⟩ :=
          mooring.unblocked lawful steady launching listed there live prepares shared idle may
        exact course.lasts (Kernel.lasts_takeAll lawful.sound.processes enrolment.child) List.not_mem_nil
      · refine ⟨true, fun talk same => ?_, fun early => by cases early⟩
        cases same
        exact Host.abides_late abides rfl shared
    all_goals exact course.lasts lasts List.not_mem_nil
  | gone after =>
    cases turned.took with
    | gone gone _ =>
      rw [(gone station found).1] at lives
      cases lives
  | replaced image after =>
    cases turned.took with
    | replaced _ _ left _ =>
      cases left.symm.trans found
      cases still
  | forked child mine its after =>
    cases turned.took with
    | forked => exact obeys.1.elim
  | ordered child order after =>
    cases turned.took with
    | ordered => exact obeys.1.elim

omit steady launching in
/-- What is moored is so after any step that leaves all processes on course which prepare to run their programs, and
puts nothing on record. -/
theorem drifts {later : Scene} (kept : Kept umpire start scene) (record : later.record = scene.record)
    {apart : List Nat} (lasts : Lasts apart scene.kernel later.kernel)
    (courses : ∀ enrolment ∈ later.enrolled, ∀ station, later.kernel.station? enrolment.child = some station →
      station.live = true → station.start = .preparing →
      OnCourse contest later.kernel enrolment.child (later.tasks enrolment.child)) : Mooring contest fifo later where
  probes := record ▸ mooring.probes
  anchors path shared number leads file anchor := by
    -- What holds an anchor was made before, so its seat lasts.
    rw [record] at anchor
    have old := lawful.made file (kept.anchored file (List.mem_map_of_mem anchor))
    exact (lasts.seats file old).trans (mooring.anchors path shared number leads file anchor)
  courses := courses

omit steady launching in
/-- A process that neither has its turn nor is started in it stays on course. -/
theorem on_course_apart {who : Nat} {wanted : Call} {turn : Turn wanted.Answer}
    (turned : Turned scene.kernel who wanted turn) {apart : List Nat} (lasts : Lasts apart scene.kernel turn.kernel)
    {enrolment : Enrolment} (listed : enrolment ∈ scene.enrolled) (other : enrolment.child ≠ who)
    (spared : enrolment.child ∉ apart) {station : Station}
    (found : turn.kernel.station? enrolment.child = some station) (live : station.live = true)
    (prepares : station.start = .preparing) :
    enrolment.child ∉ turn.born ∧ OnCourse contest turn.kernel enrolment.child (scene.tasks enrolment.child) := by
  -- It was there before the turn.
  have unborn : enrolment.child ∉ turn.born := by
    intro member
    have number := (lawful.fresh turned member).1
    have old := (lawful.born _ (lawful.roots enrolment listed)).1
    dsimp only at old
    omega
  have there := turned.station_of_apart (by simp [other, unborn]) found
  exact ⟨unborn, (mooring.courses enrolment listed station there live prepares).lasts lasts spared⟩

omit steady launching in
/-- Other processes stay on course in the umpire's turn. -/
theorem on_course_umpire {wanted : Call} {turn : Turn wanted.Answer} (may : scene.kernel.May umpire wanted turn)
    {enrolment : Enrolment} (listed : enrolment ∈ scene.enrolled) {station : Station}
    (found : turn.kernel.station? enrolment.child = some station) (live : station.live = true)
    (prepares : station.start = .preparing) :
    OnCourse contest turn.kernel enrolment.child (scene.tasks enrolment.child) := by
  have other : enrolment.child ≠ umpire := (lawful.born _ (lawful.roots enrolment listed)).2.2
  -- The umpire's own openings are the only ones that can begin in its turn.
  have spared : enrolment.child ∉ wanted.openers umpire := by
    cases wanted <;> simp [Call.openers, other]
  exact (mooring.on_course_apart lawful (Host.Kernel.turned_may lawful.sound may)
    (Kernel.lasts_may lawful.sound.processes may).1 listed other spared found live prepares).2

omit lawful in
/-- Whenever the umpire is told of a named pipe that both sides open, it is told that it is one. -/
theorem probed_pipe {wanted : Call} {value : wanted.Answer} {after : Kernel}
    (may : scene.kernel.May umpire wanted (.answered value after)) {table : Table} {path : Bytes}
    (shared : path ∈ Anchors.paths contest) (pipe : (fifo path).isSome) {info : Host.Info}
    (probed : (path, .ok info) ∈ (scene.record.after table (.call wanted) value).probed) : info.kind = .fifo := by
  cases wanted
  case info asked follow =>
    -- It was told of it before, or just now, by what the path leads to.
    rcases List.mem_append.mp probed with old | new
    · exact mooring.probes path shared pipe info old
    · cases follow with
      | false => cases new
      -- Nobody has changed where the path leads since the beginning.
      | true =>
        cases List.mem_singleton.mp new
        obtain ⟨number, pipe⟩ := Option.isSome_iff_exists.mp pipe
        obtain ⟨survives, place, reached, told⟩ := Kernel.told_info may
        obtain ⟨reached', fifo⟩ := Kernel.info_of_fifoAt? ((steady.leads launching survives shared).trans pipe)
        cases reached.symm.trans reached'
        exact fifo info told
  -- Only the answer to that call goes on the list of what was asked of paths.
  case pipe | openFile => cases value <;> exact mooring.probes path shared pipe info probed
  all_goals exact mooring.probes path shared pipe info probed

/-- Whatever the umpire opens at the path of a named pipe is that pipe, at both ends. -/
theorem anchored_pipe (kept : Kept umpire start scene) {wanted : Call}
    {next : wanted.Answer → Conduct (Except Fault Report)} {value : wanted.Answer} {after : Kernel} {left : Station}
    (rest : scene.rest = .ask (.call wanted) next) (may : scene.kernel.May umpire wanted (.answered value after))
    (found : after.station? umpire = some left) {path : Bytes} (shared : path ∈ Anchors.paths contest) {number : Nat}
    (pipe : fifo path = some number) {file : Nat}
    (anchor : (path, file) ∈ (scene.record.after left.table (.call wanted) value).anchors) :
    after.seat? file = some (.node number, Host.Access.both) := by
  have turned := Host.Kernel.turned_may lawful.sound may
  obtain ⟨was, left', there, live, found', effect, -⟩ := turned.took.of_answered
  cases found.symm.trans found'
  obtain ⟨bound, -, ⟨-, allows⟩, -⟩ := lawful.allowed rest there live
  have lasts := (Kernel.lasts_may lawful.sound.processes may).2 value after rfl
  -- What was opened earlier is what it was, for open files do not change.
  have old (anchor : (path, file) ∈ scene.record.anchors) :
      after.seat? file = some (.node number, Host.Access.both) := by
    have made := kept.anchored file (List.mem_map_of_mem anchor)
    exact (lasts.seats file (lawful.made file made)).trans (mooring.anchors path shared number pipe file anchor)
  cases wanted
  case openFile asked access closeOnExec =>
    cases value with
    | error errno => exact old anchor
    | ok fd =>
      rcases List.mem_append.mp anchor with known | new
      · exact old known
      · obtain ⟨number', member, same⟩ := List.mem_map.mp new
        obtain ⟨rfl, rfl⟩ := Prod.mk.inj same
        obtain ⟨-, -, rfl⟩ := allows
        -- It is what the path leads to, opened at both ends as the rules demand.
        obtain ⟨survives, place, reached, seat⟩ := Kernel.seat_openFile lawful.sound.processes may rfl
        obtain ⟨reached', -⟩ := Kernel.info_of_fifoAt? ((steady.leads launching survives shared).trans pipe)
        cases reached.symm.trans reached'
        -- The new open file is all that is under the number that is answered.
        obtain ⟨under, listed, slot, held, rfl⟩ := Record.mem_filesUnder member
        obtain rfl := List.mem_singleton.mp listed
        obtain ⟨taken, -⟩ := effect
        obtain ⟨-, -, same⟩ := Table.insert_ok taken
        rw [same, Table.get?_put, if_pos rfl] at held
        cases held
        exact seat
  case pipe => cases value <;> exact old anchor
  all_goals exact old anchor

/-- What is moored is so after the umpire has been answered. -/
theorem answered (kept : Kept umpire start scene) {wanted : Call}
    {next : wanted.Answer → Conduct (Except Fault Report)} {value : wanted.Answer} {after : Kernel} {left : Station}
    (rest : scene.rest = .ask (.call wanted) next) (may : scene.kernel.May umpire wanted (.answered value after))
    (found : after.station? umpire = some left) :
    Mooring contest fifo { scene with
      kernel := after
      rest := next value
      record := scene.record.after left.table (.call wanted) value } where
  -- What was asked of a path and what was opened may be on record only since this answer.
  probes _ shared pipe _ probed := mooring.probed_pipe steady launching may shared pipe probed
  anchors _ shared _ pipe _ anchor :=
    mooring.anchored_pipe lawful steady launching kept rest may found shared pipe anchor
  courses _ listed _ seen lives prepares := mooring.on_course_umpire lawful may listed seen lives prepares

/-- What is moored is so after another's turn. -/
theorem moved (kept : Kept umpire start scene) {who : Nat} {wanted : Call} {next : wanted.Answer → Talk Nat}
    {turn : Turn wanted.Answer} (asks : scene.tasks who = some (.ask wanted next))
    (may : scene.kernel.May who wanted turn) :
    Mooring contest fifo { scene with
      kernel := turn.kernel
      tasks := tasksAfter programs scene.tasks who next turn
      births := turn.born.map (·, who) ++ scene.births } := by
  have turned := Host.Kernel.turned_may lawful.sound may
  have lasts := (Kernel.lasts_may lawful.sound.processes may).1
  refine mooring.drifts lawful kept rfl lasts fun enrolment listed station found live prepares => ?_
  by_cases own : enrolment.child = who
  · subst own
    -- Nobody goes back to preparing.
    obtain ⟨was, there, lived, prepared⟩ := turned.prepared_before found live prepares
    exact mooring.on_course_turn lawful steady launching listed there lived prepared asks may found live prepares
  · have spared : enrolment.child ∉ wanted.openers who := by cases wanted <;> simp [Call.openers, own]
    -- All others have not moved, and nor has what they have to do.
    obtain ⟨unborn, course⟩ := mooring.on_course_apart lawful turned lasts listed own spared found live prepares
    have idle : tasksAfter programs scene.tasks who next turn enrolment.child = scene.tasks enrolment.child := by
      cases turn <;> simp_all [tasksAfter, Turn.born]
    dsimp only
    exact idle.symm ▸ course

omit steady launching in
/-- What is moored is so after another process's end. -/
theorem ended (kept : Kept umpire start scene) {who code : Nat} :
    Mooring contest fifo { scene with
      kernel := (scene.kernel.takeAll who).finish who (.ofExit code)
      tasks := Function.update scene.tasks who none } := by
  have turned := lawful.turned_end who code
  -- An end leaves all open files where they are.
  have lasts := Kernel.lasts_end lawful.sound.processes who (.ofExit code)
  refine mooring.drifts lawful kept rfl lasts fun enrolment listed station found live prepares => ?_
  -- Whoever has ended is not alive; all others are where they were.
  by_cases own : enrolment.child = who
  · subst own
    obtain ⟨-, gone⟩ := Host.Kernel.felt_end lawful.sound enrolment.child (.ofExit code)
    rw [(gone station found).1] at live
    cases live
  · obtain ⟨-, course⟩ := mooring.on_course_apart lawful turned lasts listed own List.not_mem_nil found live prepares
    have idle : Function.update scene.tasks who none enrolment.child = scene.tasks enrolment.child :=
      Function.update_of_ne own none scene.tasks
    dsimp only
    exact idle.symm ▸ course

omit steady launching in
/-- What is moored is so after the umpire has ordered a process to be started. -/
theorem commissions (loadable : contest.Loadable) (kept : Kept umpire start scene) {order given : Host.Order}
    {next : Except IoFault Nat → Conduct (Except Fault Report)} {child : Nat} {after : Kernel} {was : Station}
    (rest : scene.rest = .ask (.call (.spawn order)) next)
    (may : scene.kernel.May umpire (.spawn order) (.ordered child given after))
    (there : scene.kernel.station? umpire = some was) :
    Mooring contest fifo { scene with
      kernel := after
      tasks := Function.update scene.tasks child (some given.obey)
      enrolled := ⟨child, ⟨scene.record.starting, ⟨given, was.table⟩⟩, after.opens.next⟩ :: scene.enrolled
      births := (child, umpire) :: scene.births } := by
  have turned := Host.Kernel.turned_may lawful.sound may
  have lasts := (Kernel.lasts_may lawful.sound.processes may).1
  obtain ⟨rfl, number, was', there', live, -⟩ := turned.took.of_ordered
  cases there.symm.trans there'
  obtain ⟨bound, -, ⟨-, side, beacon, orders⟩, -⟩ := lawful.allowed rest there live
  refine mooring.drifts lawful kept rfl lasts fun enrolment listed station found lives prepares => ?_
  rcases List.mem_cons.mp listed with rfl | old
  · -- The new process begins with what both sides open, and waits for nothing yet.
    refine ⟨false, fun talk same => ?_, fun _ => lasts.idle List.not_mem_nil ?_⟩
    · obtain rfl : given.obey = talk :=
        Option.some.inj ((Function.update_self child (some given.obey) scene.tasks).symm.trans same)
      exact Host.abides_obey_sequenced (loadable.sequenced orders.redirects)
    · -- Nobody had the number before.
      dsimp only
      rw [number, Kernel.opening?]
      cases known : scene.kernel.process? scene.kernel.processes.next with
      | none => rfl
      | some process => exact absurd (lawful.sound.processes.lt_next known) (Nat.lt_irrefl _)
  · -- The ones before it go on as they were.
    have course := mooring.on_course_umpire lawful may old found lives prepares
    have lower := (lawful.born _ (lawful.roots enrolment old)).1
    have idle : Function.update scene.tasks child (some given.obey) enrolment.child = scene.tasks enrolment.child :=
      Function.update_of_ne (number ▸ Nat.ne_of_lt lower) _ scene.tasks
    dsimp only
    exact idle.symm ▸ course

/-- What is moored is so after every step. -/
theorem step (loadable : contest.Loadable) (kept : Kept umpire start scene) {after : Scene}
    (step : Step programs umpire scene after) : Mooring contest fifo after := by
  -- One case for each kind of step; only an answer puts anything on record but what is told.
  cases step with
  | @told entry =>
    refine ⟨?_, ?_, mooring.courses⟩
    · cases entry <;> exact mooring.probes
    · cases entry <;> exact mooring.anchors
  | answered rest may there => exact mooring.answered lawful steady launching kept rest may there
  | idle rest may idle =>
    refine mooring.drifts lawful kept rfl (Kernel.lasts_may lawful.sound.processes may).1 ?_
    exact fun enrolment listed station found => mooring.on_course_umpire lawful may listed found
  | ordered rest may there => exact mooring.commissions lawful loadable kept rest may there
  | moved asks may => exact mooring.moved lawful steady launching kept asks may
  | ended ends => exact mooring.ended lawful kept
  -- The clock is no part of what is moored.
  | later clock =>
    have lasts : Lasts [] scene.kernel { scene.kernel with clock } := .of_parts rfl rfl
    refine mooring.drifts lawful kept rfl lasts fun enrolment listed station found live prepares => ?_
    exact (mooring.courses enrolment listed station found live prepares).lasts lasts List.not_mem_nil

end Mooring

end Bout

end Umpire
