import Umpire.Host.Install
import Umpire.Proofs.Host.Harmless
import Umpire.Proofs.Host.Opening
import Umpire.Proofs.Host.Passage

/-! Redirecting: how a process puts files in the place of its standard streams, and where it stops if it cannot.
Whatever it has open before, and whatever others do meanwhile, only the streams of its redirects change, and of the
files only what an opening makes or empties. -/

namespace Umpire.Host

/-- A node as it is once it has been emptied: a file has no data, and anything else is what it was. -/
def Node.emptied (node : Node) : Node :=
  match node.body with
  | .file _ => { node with body := .file [] }
  | _ => node

/-- Where an opening of the file at a path leads, and what has become of the files then. -/
inductive Supplied (kernel : Kernel) (who : Nat) (path : Bytes) (access : Access) : Place → Kernel → Prop where
  /-- Something is there. It is emptied if that is asked for, and nothing else is touched. -/
  | found {place : Place} {after : Kernel} (leads : kernel.locate who path .target = .ok (.here place))
      (files : ∀ number, after.nodes.get? number =
        if access.truncate = true ∧ place = .node number then (kernel.nodes.get? number).map Node.emptied
        else kernel.nodes.get? number) :
      Supplied kernel who path access place after
  /-- Nothing is there, and an empty file is made if that is asked for. -/
  | made {directory : Nat} {name : Bytes} {after : Kernel} (wanted : access.create = true)
      (free : kernel.locate who path .creation = .ok (.free directory name))
      (files : after.nodes = (kernel.plant directory name (.file []) (kernel.masked who 0o666)).2.nodes) :
      Supplied kernel who path access (.node kernel.nodes.next) after

namespace Kernel

variable {kernel middle after : Kernel} {who fd : Nat} {path : Bytes} {place : Place} {access : Access}
  {closeOnExec : Bool}

/-- A file that a process is granted is where it was opened, and granting it touches no file. -/
theorem granted_opened (answered : middle.opened who place access closeOnExec = .answer (.ok fd) after) :
    after.nodes = middle.nodes ∧ after.seat? middle.opens.next = some (place, access) := by
  -- An opening is answered with a number only if it was granted.
  rw [opened] at answered
  split at answered
  · cases answered
  · rename_i granted
    cases answered
    exact ⟨nodes_grant granted, (lasts_grant granted).2⟩

/-- A named pipe stays what it is when it is emptied. -/
theorem emptied_fifo {number channel : Nat} (named : kernel.channelOf (.node number) = some channel) :
    (kernel.nodes.get? number).map Node.emptied = kernel.nodes.get? number := by
  -- It has a pipe, so it is no file.
  rw [channelOf] at named
  split at named
  · rename_i found
    rw [found]
    rfl
  · cases named

/-- Opening a place supplies it if it leaves the files as they are, and there is no file to empty there. -/
theorem supplied_untouched (leads : kernel.locate who path .target = .ok (.here place))
    (spared : ∀ number, place = .node number →
      (kernel.nodes.get? number).map Node.emptied = kernel.nodes.get? number)
    (same : after.nodes = kernel.nodes) : Supplied kernel who path access place after := by
  refine .found leads fun number => ?_
  rw [same]
  -- Emptying the one node that is opened would leave it as it is.
  split
  · rename_i both
    exact (spared number both.2).symm
  · rfl

/-- Opening a node to be emptied supplies it if that is all that becomes of the files. -/
theorem supplied_emptied {number : Nat} (leads : kernel.locate who path .target = .ok (.here (.node number)))
    (wanted : access.truncate = true) (nodes : after.nodes = kernel.nodes.modify number Node.emptied) :
    Supplied kernel who path access (.node number) after := by
  refine .found leads fun other => ?_
  rw [nodes, Registry.get?_modify]
  -- Emptying changes the one node.
  by_cases same : other = number
  · subst same
    simp only [if_true, wanted, and_self]
  · have apart : Place.node number ≠ .node other := fun equal => same (Place.node.inj equal).symm
    rw [if_neg fun both => apart both.2]
    simp only [if_neg same, Option.map_id_fun', id]

/-- What a place holds that is opened is emptied if that is asked for. -/
theorem supplied_openPlace (leads : kernel.locate who path .target = .ok (.here place))
    (answered : kernel.openPlace who place access closeOnExec = .answer (.ok fd) after) :
    Supplied kernel who path access place after ∧ after.seat? kernel.opens.next = some (place, access) := by
  -- A place that is no node has nothing to empty.
  have plain (nowhere : ∀ number, place ≠ .node number)
      (granted : kernel.opened who place access closeOnExec = .answer (.ok fd) after) :
      Supplied kernel who path access place after ∧ after.seat? kernel.opens.next = some (place, access) := by
    obtain ⟨nodes, seat⟩ := granted_opened granted
    exact ⟨supplied_untouched leads (fun number same => absurd same (nowhere number)) nodes, seat⟩
  cases place with
  | node number =>
    simp only [openPlace] at answered
    cases named : kernel.channelOf (.node number) with
    | some channel =>
      -- Both ways to open a named pipe at once change at most who waits and how often it has been opened.
      rw [named] at answered
      simp only [openChannel] at answered
      repeat' split at answered
      all_goals first | cases answered | skip
      all_goals
        obtain ⟨nodes, seat⟩ := granted_opened answered
        refine ⟨supplied_untouched leads (fun other same => ?_) nodes, seat⟩
        cases same
        exact emptied_fifo named
    | none =>
      simp only [named] at answered
      split at answered
      · cases answered
      · split at answered
        · rename_i emptied
          obtain ⟨nodes, seat⟩ := granted_opened answered
          exact ⟨supplied_emptied leads emptied nodes, seat⟩
        · rename_i whole
          obtain ⟨nodes, seat⟩ := granted_opened answered
          refine ⟨.found leads fun other => ?_, seat⟩
          rw [nodes, if_neg fun both => whole both.1]
  | channel number => exact plain (fun _ same => by cases same) answered
  | processes | process | descriptors | descriptor | workplace | account =>
    simp only [openPlace, channelOf] at answered
    split at answered
    · cases answered
    · exact plain (fun _ same => by cases same) answered

/-- The file at a path that is opened is where the path leads, or is new. -/
theorem supplied_openPath (answered : kernel.openPath who path access closeOnExec = .answer (.ok fd) after) :
    ∃ place, Supplied kernel who path access place after ∧ after.seat? kernel.opens.next = some (place, access) := by
  simp only [openPath] at answered
  -- Every refusal answers with an error.
  repeat' split at answered
  all_goals first | cases answered | skip
  · rename_i place found
    exact ⟨place, supplied_openPlace (locate_target found) answered⟩
  · rename_i directory name found wanted
    obtain ⟨nodes, seat⟩ := granted_opened answered
    rw [if_pos wanted] at found
    exact ⟨_, .made wanted found nodes, seat⟩

/-- A process that is answered with a new descriptor for the file at a path has been supplied with it. -/
theorem supplied_openFile (sound : kernel.processes.Sound)
    (may : kernel.May who (.openFile path access closeOnExec) (.answered (.ok fd) after)) :
    ∃ place, Supplied (kernel.takeAll who) who path access place after ∧
      after.seat? kernel.opens.next = some (place, access) := by
  have next := (felt_takeAll sound who).opens
  -- The host has not refused the call, nor has it been broken off.
  obtain ⟨-, plain⟩ := heard_cases may nofun nofun
  simp only [attend] at plain
  cases reply : (kernel.takeAll who).openPath who path access closeOnExec with
  | later => simp [reply, replied] at plain
  | answer =>
    rw [reply] at plain
    cases plain
    exact next ▸ supplied_openPath reply

/-- A turn in which a call changes no file changes none. -/
theorem nodes_may {wanted : Call} {turn : Turn wanted.Answer} (may : kernel.May who wanted turn)
    (attended : ∀ felt : Kernel, (felt.attend who wanted).kernel.nodes = felt.nodes) :
    turn.kernel.nodes = kernel.nodes := by
  -- What is refused is not done at all.
  cases may with
  | heard => exact nodes_turn_of_attend kernel who (attended _)
  | refused => rfl

/-- Putting a descriptor in the place of another changes no file. -/
theorem nodes_duplicateTo {fd target : Nat} {turn : Turn (Call.duplicateTo fd target).Answer}
    (may : kernel.May who (.duplicateTo fd target) turn) : turn.kernel.nodes = kernel.nodes :=
  nodes_may may fun felt => nodes_withTable felt who _

/-- Closing a descriptor changes no file. -/
theorem nodes_close {fd : Nat} {turn : Turn (Call.close fd).Answer} (may : kernel.May who (.close fd) turn) :
    turn.kernel.nodes = kernel.nodes :=
  nodes_may may fun felt => nodes_withTable felt who _

/-- A process that has to wait for the file it opens has neither made nor emptied it. -/
theorem nodes_openFile_waiting (may : kernel.May who (.openFile path access closeOnExec) (.waiting after)) :
    after.nodes = kernel.nodes := by
  generalize waiting : Turn.waiting _ = turn at may
  cases may with
  | refused => cases waiting
  | heard =>
    obtain ⟨-, ⟨-, -, -, rfl⟩ | plain⟩ := waiting_cases waiting.symm
    · -- A process that is stopped has felt its signals and no more.
      exact nodes_takeAll kernel who
    · refine Eq.trans ?_ (nodes_takeAll kernel who)
      generalize kernel.takeAll who = felt at plain
      -- Only an end of a named pipe has to be waited for.
      simp only [attend, openPath, openPlace, openChannel, opened] at plain
      repeat' split at plain
      all_goals cases plain
      all_goals rfl

/-- An input that cannot be opened leaves all files as they are. -/
theorem nodes_openFile_reading {turn : Turn (Call.openFile path Access.reading closeOnExec).Answer}
    (may : kernel.May who (.openFile path Access.reading closeOnExec) turn) :
    turn.kernel.nodes = kernel.nodes :=
  nodes_may may fun felt => nodes_attend felt who ⟨rfl, rfl⟩

end Kernel

namespace Kernel

variable {kernel after : Kernel} {who fd target : Nat} {path : Bytes} {access : Access} {closeOnExec : Bool}

/-- What a process has open before and after its call is answered is as the call asks for. -/
theorem effect_may (sound : kernel.Sound) {wanted : Call} {value : wanted.Answer}
    (may : kernel.May who wanted (.answered value after)) :
    ∃ was left : Table, (∀ fd, kernel.slot? who fd = was.get? fd) ∧ (∀ fd, after.slot? who fd = left.get? fd) ∧
      Effect kernel.opens.next was wanted value after.opens.next left := by
  -- The process is there before and after, and its station tells what it has.
  obtain ⟨was, left, there, -, stays, effect, -⟩ := (turned_may sound may).took.of_answered
  refine ⟨was.table, left.table, fun fd => ?_, fun fd => ?_, effect⟩
  · rw [slot?_eq, there, Option.bind_some]
  · rw [slot?_eq, stays, Option.bind_some]

/-- A file that is opened takes a number that was free. -/
theorem slots_openFile (sound : kernel.Sound)
    (may : kernel.May who (.openFile path access closeOnExec) (.answered (.ok fd) after)) :
    kernel.slot? who fd = none ∧ after.opens.next = kernel.opens.next + 1 ∧
      ∀ number, after.slot? who number =
        if number = fd then some ⟨kernel.opens.next, closeOnExec⟩ else kernel.slot? who number := by
  obtain ⟨was, left, before, now, taken, grown⟩ := effect_may sound may
  -- The lowest free number is taken.
  obtain ⟨free, -, rfl⟩ := Table.insert_ok taken
  refine ⟨(before fd).trans free, grown, fun number => ?_⟩
  rw [now, Table.get?_put, before]

/-- A file that is not opened leaves what the process has open. -/
theorem slots_openFile_error (sound : kernel.Sound) {errno : Errno}
    (may : kernel.May who (.openFile path access closeOnExec) (.answered (.error errno) after)) (number : Nat) :
    after.slot? who number = kernel.slot? who number := by
  obtain ⟨was, left, before, now, rfl, -⟩ := effect_may sound may
  rw [now, before]

/-- A descriptor that is put in another's place is kept by new programs there, and stays where it was. -/
theorem slots_duplicateTo (sound : kernel.Sound) {slot : Slot} (found : kernel.slot? who fd = some slot)
    (apart : fd ≠ target) (may : kernel.May who (.duplicateTo fd target) (.answered (.ok ()) after)) (number : Nat) :
    after.slot? who number =
      if number = target then some { slot with closeOnExec := false } else kernel.slot? who number := by
  obtain ⟨was, left, before, now, copied, -⟩ := effect_may sound may
  obtain ⟨known, held, rfl⟩ := Table.duplicateTo_ok copied
  -- What is copied is what stands under the number.
  obtain rfl : known = slot := Option.some.inj (held.symm.trans ((before fd).symm.trans found))
  rw [now, if_neg apart, Table.get?_put, before]

/-- A descriptor that is not put in another's place leaves what the process has open. -/
theorem slots_duplicateTo_error (sound : kernel.Sound) {errno : Errno}
    (may : kernel.May who (.duplicateTo fd target) (.answered (.error errno) after)) (number : Nat) :
    after.slot? who number = kernel.slot? who number := by
  obtain ⟨was, left, before, now, rfl, -⟩ := effect_may sound may
  rw [now, before]

/-- A number that is closed is free, whatever the process is answered. -/
theorem slots_close (sound : kernel.Sound) {answer : Except Errno Unit}
    (may : kernel.May who (.close fd) (.answered answer after)) (number : Nat) :
    after.slot? who number = if number = fd then none else kernel.slot? who number := by
  obtain ⟨was, left, before, now, effect⟩ := effect_may sound may
  cases answer with
  | ok done =>
    -- A close that succeeds empties the number.
    obtain rfl := Table.close_ok effect.1
    rw [now, Table.get?_put, before]
  | error errno =>
    -- It cannot be closed only if it is not open.
    obtain ⟨absent, rfl, -⟩ := effect
    rw [now, before]
    split
    · rename_i same
      exact same ▸ absent
    · rfl

end Kernel

/-- The file that is opened in a turn, and how, if the process is answered. -/
def Deed.opening? (deed : Deed) : Option (Bytes × Access) :=
  if deed.answer.isSome then
    match deed.wanted with
    | .openFile path access _ => some (path, access)
    | _ => none
  else none

/-- How the file of a redirect is opened. -/
def Redirect.opening (redirect : Redirect) : Bytes × Access :=
  (redirect.path, redirect.access)

/-- A process has opened the file of a redirect, under some number, where its path leads. -/
inductive Redirect.Supplies (redirect : Redirect) (who : Nat) : Deed → Nat → Place → Prop where
  | opened {before after : Kernel} {fd : Nat} {place : Place}
      (supplied : Supplied (before.takeAll who) who redirect.path redirect.access place after) :
      Supplies redirect who ⟨before, .openFile redirect.path redirect.access false, some (.ok fd), after⟩ fd place

/-- The stream of a redirect stands for its file: for an opening that is newer than all that the process had, and
that new programs keep. -/
def Redirect.Stands (redirect : Redirect) (who : Nat) (kernel : Kernel) (deeds : List Deed) (last : Kernel) : Prop :=
  ∃ opening ∈ deeds, ∃ fd place, redirect.Supplies who opening fd place ∧
    kernel.opens.next ≤ opening.before.opens.next ∧
    last.slot? who redirect.stream.fd = some ⟨opening.before.opens.next, false⟩ ∧
    last.seat? opening.before.opens.next = some (place, redirect.access)

/-- Redirects that have all been installed: their streams stand for their files, and every other number stands for
what it did. -/
structure Installed (who : Nat) (redirects : List Redirect) (kernel : Kernel) (deeds : List Deed) (last : Kernel) :
    Prop where
  onward : Onward kernel last
  stands : ∀ redirect ∈ redirects, redirect.Stands who kernel deeds last
  others : ∀ fd, (∀ redirect ∈ redirects, redirect.stream.fd ≠ fd) → last.slot? who fd = kernel.slot? who fd
  /-- The files are opened in order, each of them once. -/
  openings : deeds.filterMap Deed.opening? = redirects.map Redirect.opening

/-- Why a redirect is not installed after some that are, and what is left of the attempt. -/
inductive Failure (who : Nat) (done : List Redirect) (failed : Redirect) (errno : Errno) (kernel : Kernel)
    (deeds : List Deed) (last : Kernel) : Prop where
  /-- Its file is not opened, and nothing is left. -/
  | unopened {before after : Kernel}
      (refused : ⟨before, .openFile failed.path failed.access false, some (.error errno), after⟩ ∈ deeds)
      (others : ∀ fd, (∀ known ∈ done, known.stream.fd ≠ fd) → last.slot? who fd = kernel.slot? who fd)
  /-- Its file is opened under a number that was free, but is not put in the place of the stream. -/
  | unplaced {opening : Deed} {temporary : Nat} {place : Place} {before after : Kernel}
      (opened : opening ∈ deeds) (supplies : failed.Supplies who opening temporary place)
      (refused : ⟨before, .duplicateTo temporary failed.stream.fd, some (.error errno), after⟩ ∈ deeds)
      (apart : temporary ≠ failed.stream.fd) (free : kernel.slot? who temporary = none)
      (left : last.slot? who temporary = some ⟨opening.before.opens.next, false⟩)
      (others : ∀ fd, fd ≠ temporary → (∀ known ∈ done, known.stream.fd ≠ fd) →
        last.slot? who fd = kernel.slot? who fd)

/-- Redirects of which some have been installed, up to one that is not. -/
structure Stopped (who : Nat) (done : List Redirect) (failed : Redirect) (errno : Errno) (kernel : Kernel)
    (deeds : List Deed) (last : Kernel) : Prop where
  onward : Onward kernel last
  stands : ∀ redirect ∈ done, redirect.Stands who kernel deeds last
  failure : Failure who done failed errno kernel deeds last
  openings : deeds.filterMap Deed.opening? = (done ++ [failed]).map Redirect.opening

section Installing

variable {who : Nat} {kernel middle last : Kernel} {deeds earlier later : List Deed} {redirect : Redirect}
  {redirects : List Redirect} {errno : Errno}

/-- The openings among a process's turns, up to an answer and from there on. -/
theorem Asked.openings {before after : Kernel} {wanted : Call} {answer : wanted.Answer}
    (asked : Asked who kernel wanted deeds before answer after later) :
    deeds.filterMap Deed.opening? =
      (Deed.opening? ⟨before, wanted, some answer, after⟩).toList ++ later.filterMap Deed.opening? := by
  obtain ⟨waits, rfl, calm⟩ := asked.cut
  -- A turn without an answer opens nothing.
  have none_ : waits.filterMap Deed.opening? = [] := by
    refine List.filterMap_eq_nil_iff.mpr fun deed listed => ?_
    have waits := calm deed listed
    rw [Deed.opening?, if_neg (by simpa using waits)]
  rw [List.filterMap_append, none_, List.nil_append, List.filterMap_cons]
  cases Deed.opening? ⟨before, wanted, some answer, after⟩ <;> rfl

/-- The file of a redirect is open under a number that was free, and every other number stands for what it did. -/
structure Redirect.Opened (redirect : Redirect) (who : Nat) (kernel : Kernel) (deeds : List Deed) (before : Kernel)
    (fd : Nat) (place : Place) (after : Kernel) (rest : List Deed) : Prop where
  asked : Asked who kernel (.openFile redirect.path redirect.access false) deeds before (.ok fd) after rest
  supplied : Supplied (before.takeAll who) who redirect.path redirect.access place after
  seat : after.seat? before.opens.next = some (place, redirect.access)
  young : before.opens.next < after.opens.next
  free : kernel.slot? who fd = none
  slots : ∀ number, after.slot? who number =
    if number = fd then some ⟨before.opens.next, false⟩ else kernel.slot? who number

/-- A process that is answered with a number for the file of a redirect has it open there. -/
theorem Asked.opened {before after : Kernel} {fd : Nat}
    (asked : Asked who kernel (.openFile redirect.path redirect.access false) deeds before (.ok fd) after later) :
    ∃ place, redirect.Opened who kernel deeds before fd place after later := by
  have sound := asked.meanwhile.sound
  obtain ⟨free, grown, slots⟩ := Kernel.slots_openFile sound asked.may
  obtain ⟨place, supplied, seat⟩ := Kernel.supplied_openFile sound.processes asked.may
  -- Others may run before the answer, but change nothing of what the process has open.
  refine ⟨place, asked, supplied, seat, by omega, (asked.slots fd).symm.trans free, fun number => ?_⟩
  rw [slots, asked.slots]

namespace Redirect.Opened

variable {before after : Kernel} {fd : Nat} {place : Place}

/-- The file is opened in one of the process's turns. -/
theorem supplies (opened : redirect.Opened who kernel deeds before fd place after later) :
    redirect.Supplies who ⟨before, .openFile redirect.path redirect.access false, some (.ok fd), after⟩ fd place :=
  .opened opened.supplied

/-- The stream stands for the file once its number is that of the opening. -/
theorem stands (opened : redirect.Opened who kernel deeds before fd place after later) (onward : Onward after last)
    (slot : last.slot? who redirect.stream.fd = some ⟨before.opens.next, false⟩) :
    redirect.Stands who kernel deeds last :=
  ⟨_, opened.asked.mem, fd, place, opened.supplies, opened.asked.meanwhile.grows, slot,
    (onward.seats _ opened.young).trans opened.seat⟩

/-- The redirect is installed at once if the lowest free number was that of its stream. -/
theorem at_once (opened : redirect.Opened who kernel deeds before fd place after []) (own : fd = redirect.stream.fd) :
    Installed who [redirect] kernel deeds after where
  onward := opened.asked.onward
  -- The opened file is under the stream's own number from the start.
  stands := by
    have slot : after.slot? who redirect.stream.fd = some ⟨before.opens.next, false⟩ := by
      rw [opened.slots, if_pos own.symm]
    exact List.forall_mem_singleton.mpr (opened.stands (.refl opened.asked.onward.sound) slot)
  others number other := by
    have apart := other redirect (List.mem_singleton_self _)
    rw [opened.slots, if_neg fun same => apart (own.symm.trans same.symm)]
  openings := opened.asked.openings

/-- Any other number is left, and nothing else, if it cannot be put in the place of the stream. -/
theorem unplaced {before' : Kernel} (opened : redirect.Opened who kernel deeds before fd place after later)
    (apart : fd ≠ redirect.stream.fd)
    (placing : Asked who after (.duplicateTo fd redirect.stream.fd) later before' (.error errno) last []) :
    Stopped who [] redirect errno kernel deeds last := by
  -- Nothing that the process has open changes after the opening.
  have unchanged (number : Nat) : last.slot? who number = after.slot? who number :=
    (Kernel.slots_duplicateTo_error placing.meanwhile.sound placing.may number).trans (placing.slots number)
  have left : last.slot? who fd = some ⟨before.opens.next, false⟩ := by
    rw [unchanged, opened.slots, if_pos rfl]
  have others (number : Nat) (other : number ≠ fd) : last.slot? who number = kernel.slot? who number := by
    rw [unchanged, opened.slots, if_neg other]
  refine ⟨opened.asked.onward.trans placing.onward, List.forall_mem_nil _,
    .unplaced opened.asked.mem opened.supplies (opened.asked.later_subset placing.mem) apart opened.free left
      fun number other _ => others number other, ?_⟩
  rw [opened.asked.openings, placing.openings]
  rfl

/-- Any other number is put in the place of the stream and closed. -/
theorem moved {before' after' before'' : Kernel} {rest : List Deed} {closed : Except Errno Unit}
    (opened : redirect.Opened who kernel deeds before fd place after later) (apart : fd ≠ redirect.stream.fd)
    (placing : Asked who after (.duplicateTo fd redirect.stream.fd) later before' (.ok ()) after' rest)
    (closing : Asked who after' (.close fd) rest before'' closed last []) :
    Installed who [redirect] kernel deeds last := by
  have held : before'.slot? who fd = some ⟨before.opens.next, false⟩ := by
    rw [placing.slots, opened.slots, if_pos rfl]
  -- The stream stands for the file, and the temporary number for nothing; the rest is as before the opening.
  have slots (number : Nat) : last.slot? who number =
      if number = fd then none
      else if number = redirect.stream.fd then some ⟨before.opens.next, false⟩ else kernel.slot? who number := by
    rw [Kernel.slots_close closing.meanwhile.sound closing.may]
    by_cases temporary : number = fd
    · rw [if_pos temporary, if_pos temporary]
    · rw [if_neg temporary, if_neg temporary, closing.slots,
        Kernel.slots_duplicateTo placing.meanwhile.sound held apart placing.may, placing.slots, opened.slots,
        if_neg temporary]
  have onward := placing.onward.trans closing.onward
  refine ⟨opened.asked.onward.trans onward, List.forall_mem_singleton.mpr (opened.stands onward ?_),
    fun number other => ?_, ?_⟩
  · rw [slots, if_neg (Ne.symm apart), if_pos rfl]
  · have different := other redirect (List.mem_singleton_self _)
    rw [slots, if_neg (Ne.symm different)]
    -- The temporary number is free again, as it was.
    split
    · rename_i same
      rw [same, opened.free]
    · rfl
  · rw [opened.asked.openings, placing.openings, closing.openings]
    rfl

end Redirect.Opened

/-- A redirect is installed, or its installation has failed and nothing else has changed. -/
theorem installs_of_passage {result : Except Errno Unit} (sound : kernel.Sound) (old : who < kernel.processes.next)
    (passage : Passage who kernel redirect.install deeds last result) :
    (result = .ok () → Installed who [redirect] kernel deeds last) ∧
      ∀ errno, result = .error errno → Stopped who [] redirect errno kernel deeds last := by
  -- The cases are those of the talk: each call is answered, well or not, before the next is made.
  obtain ⟨before, answer, after, rest, asked, passage⟩ := passage.of_ask sound old
  have later := Nat.lt_of_lt_of_le old asked.onward.numbers
  cases answer with
  | error errno =>
    obtain ⟨rfl, rfl, rfl⟩ := passage.of_done
    refine ⟨nofun, fun cause same => ?_⟩
    cases same
    -- Where the file is not opened, nothing has changed.
    have unchanged (number : Nat) : last.slot? who number = kernel.slot? who number :=
      (Kernel.slots_openFile_error asked.meanwhile.sound asked.may number).trans (asked.slots number)
    exact ⟨asked.onward, List.forall_mem_nil _, .unopened asked.mem fun number _ => unchanged number, asked.openings⟩
  | ok fd =>
    obtain ⟨place, opened⟩ := asked.opened
    dsimp only [Bind.bind, Dialogue.bind] at passage
    split at passage
    · rename_i own
      obtain ⟨rfl, rfl, rfl⟩ := passage.of_done
      exact ⟨fun _ => opened.at_once own, nofun⟩
    · rename_i apart
      obtain ⟨before', answer, after', rest', placing, passage⟩ := passage.of_ask asked.onward.sound later
      cases answer with
      | error errno =>
        obtain ⟨rfl, rfl, rfl⟩ := passage.of_done
        refine ⟨nofun, fun cause same => ?_⟩
        cases same
        exact opened.unplaced apart placing
      | ok done =>
        obtain ⟨before'', answer, after'', rest'', closing, passage⟩ :=
          passage.of_ask placing.onward.sound (Nat.lt_of_lt_of_le later placing.onward.numbers)
        obtain ⟨rfl, rfl, rfl⟩ := passage.of_done
        exact ⟨fun _ => opened.moved apart placing closing, nofun⟩

/-- A stream goes on to stand for its file as long as its number is not touched. -/
theorem Redirect.Stands.remains (stands : redirect.Stands who kernel earlier middle) (sound : middle.Sound)
    (onward : Onward middle last) (same : last.slot? who redirect.stream.fd = middle.slot? who redirect.stream.fd)
    (more : List Deed) : redirect.Stands who kernel (earlier ++ more) last := by
  obtain ⟨opening, listed, fd, place, supplies, fresh, slot, seat⟩ := stands
  -- What a process has open is the number of a file that has been opened.
  have opened : opening.before.opens.next < middle.opens.next := by
    rw [Kernel.slot?_eq] at slot
    obtain ⟨station, there, held⟩ := Option.bind_eq_some_iff.mp slot
    exact (sound.stations who station there).opened _ _ held
  exact ⟨opening, List.mem_append_left _ listed, fd, place, supplies, fresh, same.trans slot,
    (onward.seats _ opened).trans seat⟩

/-- A stream that came to stand for its file later did so after all that was before. -/
theorem Redirect.Stands.since (stands : redirect.Stands who middle later last) (onward : Onward kernel middle)
    (fewer : List Deed) : redirect.Stands who kernel (fewer ++ later) last := by
  -- Only what counts as new is to be seen from further back.
  obtain ⟨opening, listed, fd, place, supplies, fresh, slot, seat⟩ := stands
  exact ⟨opening, List.mem_append_right _ listed, fd, place, supplies, Nat.le_trans onward.grows fresh, slot, seat⟩

/-- Nothing has changed where no redirect was installed. -/
theorem Installed.nil (sound : kernel.Sound) : Installed who [] kernel [] kernel :=
  ⟨.refl sound, nofun, fun _ _ => rfl, rfl⟩

/-- A redirect and then others on other streams are installed together. -/
theorem Installed.cons (first : Installed who [redirect] kernel earlier middle)
    (rest : Installed who redirects middle later last)
    (apart : ∀ other ∈ redirects, other.stream.fd ≠ redirect.stream.fd) :
    Installed who (redirect :: redirects) kernel (earlier ++ later) last where
  onward := first.onward.trans rest.onward
  stands := by
    refine List.forall_mem_cons.mpr ⟨?_, fun other listed => (rest.stands other listed).since first.onward _⟩
    -- Its stream is not touched by those that come after it.
    have stands := first.stands redirect (List.mem_singleton_self _)
    exact stands.remains first.onward.sound rest.onward (rest.others _ apart) _
  others fd other := by
    obtain ⟨one, more⟩ := List.forall_mem_cons.mp other
    rw [rest.others fd more, first.others fd (List.forall_mem_singleton.mpr one)]
  openings := by
    rw [List.filterMap_append, first.openings, rest.openings]
    rfl

/-- A redirect that is installed before others on other streams stop belongs to those that have been. -/
theorem Stopped.cons {done : List Redirect} {failed : Redirect}
    (rest : Stopped who done failed errno middle later last)
    (first : Installed who [redirect] kernel earlier middle)
    (apart : ∀ other ∈ done, other.stream.fd ≠ redirect.stream.fd) :
    Stopped who (redirect :: done) failed errno kernel (earlier ++ later) last := by
  have stands := first.stands redirect (List.mem_singleton_self _)
  have before (fd : Nat) (other : redirect.stream.fd ≠ fd) : middle.slot? who fd = kernel.slot? who fd :=
    first.others fd (List.forall_mem_singleton.mpr other)
  have onward := first.onward.trans rest.onward
  -- The redirect was opened first, and then those of the rest.
  have openings : (earlier ++ later).filterMap Deed.opening? =
      ((redirect :: done) ++ [failed]).map Redirect.opening := by
    rw [List.filterMap_append, first.openings, rest.openings]
    rfl
  have all (same : last.slot? who redirect.stream.fd = middle.slot? who redirect.stream.fd) :
      ∀ known ∈ redirect :: done, known.Stands who kernel (earlier ++ later) last :=
    List.forall_mem_cons.mpr ⟨stands.remains first.onward.sound rest.onward same _,
      fun other listed => (rest.stands other listed).since first.onward _⟩
  cases rest.failure with
  | unopened refused others =>
    refine ⟨onward, all (others _ apart), .unopened (List.mem_append_right _ refused) fun fd other => ?_, openings⟩
    obtain ⟨one, more⟩ := List.forall_mem_cons.mp other
    exact (others fd more).trans (before fd one)
  | @unplaced opening temporary place _ _ opened supplies refused different free left others =>
    -- The temporary number was free, so that it is not that of a stream that stands for a file.
    have unlike : redirect.stream.fd ≠ temporary := by
      rintro rfl
      obtain ⟨_, _, _, _, _, _, slot, _⟩ := stands
      rw [free] at slot
      cases slot
    refine ⟨onward, all (others _ unlike apart), .unplaced (List.mem_append_right _ opened) supplies
      (List.mem_append_right _ refused) different ((before temporary unlike).symm.trans free) left
      fun fd other far => ?_, openings⟩
    obtain ⟨one, more⟩ := List.forall_mem_cons.mp far
    exact (others fd other more).trans (before fd one)

/-- Redirects of different streams are all installed, or up to one of them. -/
theorem installed_or_stopped {result : Except Errno Unit} (sound : kernel.Sound)
    (old : who < kernel.processes.next) (distinct : redirects.Pairwise fun one other => one.stream.fd < other.stream.fd)
    (passage : Passage who kernel (install redirects) deeds last result) :
    (result = .ok () → Installed who redirects kernel deeds last) ∧
      ∀ errno, result = .error errno → ∃ done failed rest, redirects = done ++ failed :: rest ∧
        Stopped who done failed errno kernel deeds last := by
  -- What is shown of the first redirect and of the rest is put together, redirect by redirect.
  induction redirects generalizing kernel deeds with
  | nil =>
    obtain ⟨rfl, rfl, rfl⟩ := passage.of_done
    exact ⟨fun _ => .nil sound, nofun⟩
  | cons redirect rest ih =>
    obtain ⟨first, distinct⟩ := List.pairwise_cons.mp distinct
    have apart (other : Redirect) (listed : other ∈ rest) : other.stream.fd ≠ redirect.stream.fd :=
      Ne.symm (Nat.ne_of_lt (first other listed))
    obtain ⟨earlier, middle, between, later, rfl, passage, goes⟩ := Passage.of_bind passage
    -- The first is installed or fails.
    obtain ⟨installs, stops⟩ := installs_of_passage sound old passage
    cases between with
    | error errno =>
      obtain ⟨rfl, rfl, rfl⟩ := goes.of_done
      rw [List.append_nil]
      exact ⟨nofun, fun cause same => ⟨[], redirect, rest, rfl, stops cause same⟩⟩
    | ok done =>
      have installed := installs rfl
      -- It is, so that the rest goes on from what it has left.
      obtain ⟨others, fails⟩ := ih installed.onward.sound (Nat.lt_of_lt_of_le old installed.onward.numbers)
        distinct goes
      refine ⟨fun same => installed.cons (others same) apart, fun errno same => ?_⟩
      obtain ⟨known, failed, left, rfl, stopped⟩ := fails errno same
      exact ⟨redirect :: known, failed, left, rfl, stopped.cons installed
        fun other listed => apart other (List.mem_append_left _ listed)⟩

end Installing

/-- The calls by which files are put in the place of streams. -/
def Call.Places : Call → Prop
  | .openFile .. | .duplicateTo .. | .close _ => True
  | _ => False

/-- Installing redirects asks for nothing else. -/
theorem abides_install_places (redirects : List Redirect) :
    (install redirects).Abides (Call.only Call.Places) (fun _ _ => True) () := by
  rw [install]
  induction redirects with
  | nil => exact trivial
  | cons redirect rest ih =>
    -- Along one redirect there are at most these three calls.
    have one : redirect.install.Abides (Call.only Call.Places) (fun _ _ => True) () := by
      refine .ask trivial fun answer _ _ => ?_
      cases answer with
      | error errno => exact trivial
      | ok fd =>
        dsimp only [Bind.bind, Dialogue.bind]
        split
        · exact trivial
        · refine ⟨trivial, fun answer _ _ => ?_⟩
          cases answer with
          | error errno => exact trivial
          | ok done => exact ⟨trivial, fun _ _ _ => trivial⟩
    -- The rest is installed only if this one has been.
    refine one.seq fun result _ _ => ?_
    cases result with
    | error errno => exact trivial
    | ok done => exact ih

/-- A turn that places something and in which no file is opened changes no file. -/
theorem Deed.nodes_of_places {deed : Deed} {who : Nat} (happens : deed.Happens who) (places : deed.wanted.Places)
    (plain : deed.opening? = none) : deed.after.nodes = deed.before.nodes := by
  obtain ⟨before, wanted, answer, after⟩ := deed
  -- Of the three calls only an opening that is answered can change a file.
  cases wanted with
  | openFile path access closeOnExec =>
    cases answer with
    | none => exact Kernel.nodes_openFile_waiting happens
    | some answer => cases plain
  | duplicateTo fd target => cases answer <;> exact Kernel.nodes_duplicateTo happens
  | close fd => cases answer <;> exact Kernel.nodes_close happens
  | _ => exact places.elim

/-- A turn in which an input is opened changes no file. -/
theorem Deed.nodes_of_reading {deed : Deed} {who : Nat} (happens : deed.Happens who) {path : Bytes}
    (reads : deed.opening? = some (path, Access.reading)) : deed.after.nodes = deed.before.nodes := by
  obtain ⟨before, wanted, answer, after⟩ := deed
  -- A turn without an answer opens nothing.
  cases answer with
  | none => cases reads
  | some answer =>
    cases wanted with
    | openFile asked access closeOnExec =>
      cases reads
      exact Kernel.nodes_openFile_reading happens
    | _ => cases reads

end Umpire.Host
