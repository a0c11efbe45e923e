import Umpire.Proofs.Bout.Play
import Umpire.Proofs.Host.Redirecting

/-! Installation: a contestant's redirects replace exactly the streams that are given files, and stop at the first
that fails. -/

namespace Umpire.Host

/-- A plain name in a directory that is not taken yet can be made there. -/
theorem Kernel.walk_free {kernel : Kernel} {who budget directory : Nat} {name : Bytes}
    (plain : name ∉ [Path.dot, Path.slash, Path.dots]) (short : name.length ≤ Path.longestName)
    (holds : kernel.isDirectory (.node directory) = true) (free : kernel.entry? who (.node directory) name = none) :
    kernel.walk who .creation budget (.node directory) [name] = .ok (.free directory name) := by
  simp only [List.mem_cons, List.not_mem_nil, or_false, not_or] at plain
  obtain ⟨dot, slash, dots⟩ := plain
  -- The walk ends with its one step: the name is none of the special ones, and nothing has it.
  rw [walk.eq_def]
  simp [holds, dot, slash, dots, Nat.not_lt.mpr short, free]

/-- A process that goes on makes a file in its next turn under a name in the root directory that is not taken. -/
theorem Kernel.turn_makes {kernel : Kernel} {who : Nat} (goes : kernel.goesOn who = true)
    (room : kernel.hasRoom who = true) {path name : Bytes} (absolute : Path.isAbsolute path = true)
    (steps : Path.steps path = [name]) (brief : path.length < Path.tooLong)
    (plain : name ∉ [Path.dot, Path.slash, Path.dots]) (short : name.length ≤ Path.longestName)
    (holds : kernel.isDirectory (.node root) = true) (free : kernel.entry? who (.node root) name = none)
    {access : Access} (creates : access.create = true) (closeOnExec : Bool) :
    kernel.turn who (.openFile path access closeOnExec) =
      replied ((kernel.plant root name (.file []) (kernel.masked who 0o666)).2.opened who
        (.node kernel.nodes.next) access closeOnExec) := by
  have full : path.isEmpty = false := by
    cases path with
    | nil => cases absolute
    | cons => rfl
  -- The path starts at the root and is the one name.
  have located : kernel.locate who path .creation = .ok (.free root name) := by
    simp only [locate, full, Bool.false_eq_true, if_false, if_neg (Nat.not_le.mpr brief), startOf, absolute, if_true,
      steps]
    exact walk_free plain short holds free
  -- What is not there is planted as an empty file and then opened.
  have opened : kernel.openPath who path access closeOnExec =
      (kernel.plant root name (.file []) (kernel.masked who 0o666)).2.opened who (.node kernel.nodes.next) access
        closeOnExec := by
    simp only [openPath, full, Bool.false_eq_true, if_false, if_neg (Nat.not_le.mpr brief), room, Bool.not_true,
      creates, if_true, located]
    rfl
  rw [turn_attend goes, attend, opened]

/-- A turn in which a process is answered is the first of its passage. -/
theorem Passage.turn {who : Nat} {α : Type} {kernel after last : Kernel} {wanted : Call}
    {next : wanted.Answer → Talk α} {answer : wanted.Answer} {deeds : List Deed} {value : α}
    (answered : kernel.turn who wanted = .answered answer after)
    (rest : Passage who after (next answer) deeds last value) :
    Passage who kernel (.ask wanted next) (⟨kernel, wanted, some answer, after⟩ :: deeds) last value :=
  .answered (answered ▸ .heard) rest

end Umpire.Host

namespace Umpire.Contestant

open Host (Redirect)

/-- The redirects of a contestant are in the order of their streams, of which each has one at most. -/
theorem sorted_of_redirects {contestant : Contestant} {redirects : List Redirect}
    (planned : contestant.redirects = .ok redirects) :
    redirects.Pairwise fun one other => one.stream.fd < other.stream.fd := by
  obtain ⟨-, rfl⟩ := redirects_eq_ok_iff.mp planned
  rw [plan]
  -- Redirects are planned stream by stream, in the order of their descriptors.
  have streams : Stream.all.Pairwise fun one other => one.fd < other.fd := by decide
  refine List.Pairwise.filterMap _ (fun one other before first here second there => ?_) streams
  obtain ⟨path, -, rfl⟩ := Option.map_eq_some_iff.mp here
  obtain ⟨path', -, rfl⟩ := Option.map_eq_some_iff.mp there
  exact before

variable {contestant : Contestant} {redirects : List Redirect} {who : Nat} {kernel last : Host.Kernel}
  {was : Host.Station} {deeds : List Host.Deed} {errno : Errno}

/-- Installing a contestant's redirects replaces exactly their streams: whatever a process has open and whatever
others do meanwhile, each stream stands for a new opening of its own file that new programs keep, and every other
number for what it did. -/
theorem install_replaces_streams (sound : kernel.Sound) (there : kernel.station? who = some was)
    (planned : contestant.redirects = .ok redirects)
    (passage : Host.Passage who kernel (Host.install redirects) deeds last (.ok ())) :
    Host.Installed who redirects kernel deeds last := by
  obtain ⟨process, found, -⟩ := Host.Kernel.process_of_station there
  have old := sound.processes.lt_next found
  -- Redirects of different streams are installed one by one.
  exact (Host.installed_or_stopped sound old (sorted_of_redirects planned) passage).1 rfl

namespace Sample

/-- A contestant that reads from one file and writes to another. -/
def filed : Contestant :=
  { words := [Bytes.ofString "/a"], stdin := some (Bytes.ofString "/i"), stdout := some (Bytes.ofString "/o") }

/-- A host with a process and some files, of which the process has opened the first so many. -/
def host (nodes : Host.Registry Host.Node) (opened : Nat) (slots : List (Option Host.Slot)) (limit : Nat) :
    Host.Kernel where
  nodes
  opens := ⟨[(2, ⟨.node 2, Host.Access.writing, 0⟩), (1, ⟨.node 1, Host.Access.reading, 0⟩),
    (0, ⟨.node 0, Host.Access.reading, 0⟩)].drop (3 - opened), opened⟩
  processes := ⟨[(1, { parent := 0, table := { slots, limit } })], 2⟩

/-- The files before: a root directory with the file for the input. -/
def before : Host.Registry Host.Node :=
  ⟨[(1, ⟨.file [], 0o644⟩), (0, ⟨.directory 0 [(Bytes.ofString "i", 1)], 0o755⟩)], 2⟩

/-- The files after: the file for the output has been made. -/
def after : Host.Registry Host.Node :=
  ⟨[(2, ⟨.file [], 0o644⟩), (1, ⟨.file [], 0o644⟩),
    (0, ⟨.directory 0 [(Bytes.ofString "i", 1), (Bytes.ofString "o", 2)], 0o755⟩)], 3⟩

/-- The contestant's files come to redirects. -/
theorem planned : filed.redirects = .ok filed.plan := rfl

/-- A host of which the process has nothing open but the first file is sound. -/
theorem sound {nodes : Host.Registry Host.Node} {slots : List (Option Host.Slot)} {limit : Nat}
    (known : ∀ slot, some slot ∈ slots → slot.file = 0) : (host nodes 1 slots limit).Sound := by
  refine ⟨⟨by simp [host], by simp [host]⟩, fun number station found => ?_⟩
  obtain ⟨process, there, rfl⟩ := Option.map_eq_some_iff.mp found
  -- There is one process, and all that it has open is the first file.
  obtain rfl := List.eq_of_mem_singleton (Host.Registry.mem_of_lookup there)
  cases there
  refine ⟨fun fd slot held => ?_, nofun, nofun⟩
  rw [known slot (List.mem_of_getElem? (Option.join_eq_some_iff.mp held))]
  exact Nat.one_pos

end Sample

open Sample in
/-- Where the output is closed, it is the number under which the input is opened first, and then that of the output's
own file. -/
theorem install_replaces_streams_sample : ∃ deeds last,
    (host before 1 [some ⟨0, true⟩] 8).Sound ∧ filed.redirects = .ok filed.plan ∧
      Host.Passage 1 (host before 1 [some ⟨0, true⟩] 8) (Host.install filed.plan) deeds last (.ok ()) ∧
      Host.Installed 1 filed.plan (host before 1 [some ⟨0, true⟩] 8) deeds last := by
  -- The input's file is there, and the lowest free number is that of the output.
  have leads : (host before 1 [some ⟨0, true⟩] 8).locate 1 (Bytes.ofString "/i") .target = .ok (.here (.node 1)) :=
    Host.Kernel.locate_name rfl rfl (by decide) (by decide) (by decide) rfl rfl rfl
  have input : (host before 1 [some ⟨0, true⟩] 8).turn 1 (.openFile (Bytes.ofString "/i") .reading false) =
      .answered (Except.ok 1) (host before 2 [some ⟨0, true⟩, some ⟨1, false⟩] 8) :=
    Host.Kernel.turn_finds rfl rfl leads rfl
  -- It is put in place of the input, and the number it was opened under is free again.
  have placed : (host before 2 [some ⟨0, true⟩, some ⟨1, false⟩] 8).turn 1 (.duplicateTo 1 0) =
      .answered (Except.ok ()) (host before 2 [some ⟨1, false⟩, some ⟨1, false⟩] 8) := rfl
  have closed : (host before 2 [some ⟨1, false⟩, some ⟨1, false⟩] 8).turn 1 (.close 1) =
      .answered (Except.ok ()) (host before 2 [some ⟨1, false⟩, none] 8) := rfl
  -- The output's file is new, and is opened where it belongs.
  have output : (host before 2 [some ⟨1, false⟩, none] 8).turn 1 (.openFile (Bytes.ofString "/o") .writing false) =
      .answered (Except.ok 1) (host after 3 [some ⟨1, false⟩, some ⟨2, false⟩] 8) :=
    Host.Kernel.turn_makes rfl rfl rfl rfl (by decide) (by decide) (by decide) rfl rfl rfl false
  obtain ⟨deeds, passage⟩ : ∃ deeds, Host.Passage 1 (host before 1 [some ⟨0, true⟩] 8) (Host.install filed.plan) deeds
      (host after 3 [some ⟨1, false⟩, some ⟨2, false⟩] 8) (.ok ()) :=
    ⟨_, .turn input <| .turn placed <| .turn closed <| .turn output <| .done _ _⟩
  exact ⟨deeds, _, sound (by simp), planned, passage, install_replaces_streams (sound (by simp)) rfl planned passage⟩

/-- An installation of a contestant's redirects that fails stops where it is: all redirects before are installed,
the stream of the one that fails is not replaced, and none that follows is tried. If that is the input's, no file is
made or emptied. -/
theorem install_stops_at_failure (sound : kernel.Sound) (there : kernel.station? who = some was)
    (planned : contestant.redirects = .ok redirects)
    (passage : Host.Passage who kernel (Host.install redirects) deeds last (.error errno)) :
    ∃ done failed rest, redirects = done ++ failed :: rest ∧
      Host.Stopped who done failed errno kernel deeds last ∧
      last.slot? who failed.stream.fd = kernel.slot? who failed.stream.fd ∧
      -- A stream that follows is what it was, unless it was closed and had the temporary number.
      (∀ redirect ∈ rest, last.slot? who redirect.stream.fd = kernel.slot? who redirect.stream.fd ∨
        kernel.slot? who redirect.stream.fd = none ∧ ∃ opening ∈ deeds, ∃ place,
          failed.Supplies who opening redirect.stream.fd place ∧
          last.slot? who redirect.stream.fd = some ⟨opening.before.opens.next, false⟩) ∧
      (∀ deed ∈ deeds, deed.opening? = none → deed.after.nodes = deed.before.nodes) ∧
      (failed.stream = .stdin → ∀ deed ∈ deeds, deed.after.nodes = deed.before.nodes) := by
  obtain ⟨process, found, -⟩ := Host.Kernel.process_of_station there
  have old := sound.processes.lt_next found
  have sorted := sorted_of_redirects planned
  obtain ⟨done, failed, rest, rfl, stopped⟩ := (Host.installed_or_stopped sound old sorted passage).2 errno rfl
  -- The streams of those before and after are others than the one that fails.
  obtain ⟨-, sorted, across⟩ := List.pairwise_append.mp sorted
  have before (known : Redirect) (listed : known ∈ done) (other : Redirect) (follows : other ∈ failed :: rest) :
      known.stream.fd ≠ other.stream.fd := Nat.ne_of_lt (across known listed other follows)
  have plain : ∀ deed ∈ deeds, deed.opening? = none → deed.after.nodes = deed.before.nodes :=
    fun deed listed => Host.Deed.nodes_of_places (passage.happens deed listed)
      (passage.asks (Host.abides_install_places _) deed listed)
  refine ⟨done, failed, rest, rfl, stopped, ?_, fun redirect listed => ?_, plain, fun input deed listed => ?_⟩
  · -- Its own stream is not one of those that were replaced, nor the temporary number.
    have far (known : Redirect) (listed : known ∈ done) := before known listed failed List.mem_cons_self
    cases stopped.failure with
    | unopened refused others => exact others _ far
    | unplaced opened supplies refused apart free left others => exact others _ (Ne.symm apart) far
  · have far (known : Redirect) (early : known ∈ done) :=
      before known early redirect (List.mem_cons_of_mem _ listed)
    cases stopped.failure with
    | unopened refused others => exact .inl (others _ far)
    | @unplaced opening temporary place _ _ opened supplies refused apart free left others =>
      -- The only number left over is the temporary one.
      by_cases taken : redirect.stream.fd = temporary
      · rw [taken]
        exact .inr ⟨free, opening, opened, place, supplies, left⟩
      · exact .inl (others _ taken far)
  · -- Nothing comes before the input, so that its opening is the only one.
    have first : done = [] := by
      refine List.eq_nil_iff_forall_not_mem.mpr fun known early => ?_
      have lower := across known early failed List.mem_cons_self
      rw [input] at lower
      exact absurd lower (Nat.not_lt_zero _)
    subst first
    cases opens : deed.opening? with
    | none => exact plain deed listed opens
    | some asked =>
      have only : asked ∈ deeds.filterMap Host.Deed.opening? := List.mem_filterMap.mpr ⟨deed, listed, opens⟩
      rw [stopped.openings] at only
      obtain rfl : asked = failed.opening := by simpa using only
      have reads : failed.opening = (failed.path, Host.Access.reading) := by
        rw [Redirect.opening, Redirect.access, input]
      exact Host.Deed.nodes_of_reading (passage.happens deed listed) (opens.trans (congrArg some reads))

open Sample in
/-- Where there is room for the input alone, it is installed and the output's file is not opened. -/
theorem install_stops_at_failure_sample : ∃ deeds last,
    (host before 1 [] 1).Sound ∧ filed.redirects = .ok filed.plan ∧
      Host.Passage 1 (host before 1 [] 1) (Host.install filed.plan) deeds last (.error Errno.tooManyOpen) ∧
      ∃ done failed rest, filed.plan = done ++ failed :: rest ∧
        Host.Stopped 1 done failed Errno.tooManyOpen (host before 1 [] 1) deeds last := by
  have leads : (host before 1 [] 1).locate 1 (Bytes.ofString "/i") .target = .ok (.here (.node 1)) :=
    Host.Kernel.locate_name rfl rfl (by decide) (by decide) (by decide) rfl rfl rfl
  have input : (host before 1 [] 1).turn 1 (.openFile (Bytes.ofString "/i") .reading false) =
      .answered (Except.ok 0) (host before 2 [some ⟨1, false⟩] 1) :=
    Host.Kernel.turn_finds rfl rfl leads rfl
  -- The input has taken the only number there is.
  have output : (host before 2 [some ⟨1, false⟩] 1).turn 1 (.openFile (Bytes.ofString "/o") .writing false) =
      .answered (Except.error Errno.tooManyOpen) (host before 2 [some ⟨1, false⟩] 1) := rfl
  obtain ⟨deeds, passage⟩ : ∃ deeds, Host.Passage 1 (host before 1 [] 1) (Host.install filed.plan) deeds
      (host before 2 [some ⟨1, false⟩] 1) (.error Errno.tooManyOpen) :=
    ⟨_, .turn input <| .turn output <| .done _ _⟩
  obtain ⟨done, failed, rest, cut, stopped, -⟩ := install_stops_at_failure (sound (by simp)) rfl planned passage
  exact ⟨deeds, _, sound (by simp), planned, passage, done, failed, rest, cut, stopped⟩

end Umpire.Contestant
