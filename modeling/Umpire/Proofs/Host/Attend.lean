import Umpire.Proofs.Host.Turn

/-! Every call's turn: that what a call does to the kernel is what a turn may do. -/

namespace Umpire.Host.Kernel

variable {kernel after : Kernel} {who : Nat} {was : Station}

/-- What comes of opening a file: nothing that a station shows, or a new open file under a number that
was free. -/
def Opens (kernel : Kernel) (who : Nat) (closeOnExec : Bool) : Reply (Except Errno Nat) → Prop
  | .later after | .answer (.error _) after => Same kernel after
  | .answer (.ok fd) after =>
    ∃ middle file, Same kernel middle ∧ middle.grant who file closeOnExec = .ok (fd, after)

/-- Answering an opening grants a new open file at most. -/
theorem opens_opened {middle : Kernel} (same : Same kernel middle) (place : Place) (access : Access)
    (closeOnExec : Bool) : Opens kernel who closeOnExec (middle.opened who place access closeOnExec) := by
  rw [opened]
  split
  · exact same
  · exact ⟨middle, _, same, ‹_›⟩

/-- Opening a file grants a new open file at most. -/
theorem opens_openPath (kernel : Kernel) (who : Nat) (path : Bytes) (access : Access)
    (closeOnExec : Bool) : Opens kernel who closeOnExec (kernel.openPath who path access closeOnExec) := by
  have unopened : Same kernel kernel := .refl kernel
  simp only [openPath]
  -- Most ways end in a refusal, which shows nowhere.
  repeat' split
  all_goals try exact unopened
  · -- Something stands there: an end of a pipe, which may have to wait, or a file.
    simp only [openPlace]
    split
    · exact opens_opened unopened _ access closeOnExec
    · simp only [openChannel]
      split
      · split
        · exact unopened
        · refine opens_opened ?_ _ access closeOnExec
          exact .of_update kernel who fun _ => rfl
      · have counted := kernel.same_updateChannel
        split
        · exact (counted _ _).trans (.of_update _ who fun _ => rfl)
        · exact opens_opened (counted _ _) _ access closeOnExec
    · split
      · exact unopened
      · split
        · refine opens_opened ?_ _ access closeOnExec
          split
          · exact .of_processes rfl rfl
          · exact unopened
        · exact opens_opened unopened _ access closeOnExec
  · refine opens_opened ?_ _ access closeOnExec
    exact .of_processes rfl rfl

/-- The process of a station. -/
theorem process_of_station (there : kernel.station? who = some was) :
    ∃ process, kernel.process? who = some process ∧ process.station = was := by
  rw [station?] at there
  exact Option.map_eq_some_iff.mp there

/-- A process that has a station can have its descriptors changed. -/
theorem withTable_cases (there : kernel.station? who = some was) (change : Table → Except Errno Table) :
    kernel.withTable who change = (change was.table).map (kernel.setTable who) := by
  -- The process is there, so only the change itself can fail.
  obtain ⟨process, found, rfl⟩ := process_of_station there
  rw [withTable, found]
  dsimp only [Process.station]
  cases change process.table <;> rfl

/-- A change of the descriptors of one process on a kernel that differs in nothing that shows. -/
theorem Retabled.after_same {middle : Kernel} {table : Table} (same : Same kernel middle)
    (retabled : Retabled middle who table after) : Retabled kernel who table after where
  stations number := by rw [retabled.stations, same.stations]
  numbers := retabled.numbers.trans same.numbers
  sound := retabled.sound ∘ same.sound

/-- Two changes of the descriptors of one process are the second. -/
theorem Retabled.again {middle : Kernel} {table last : Table} (first : Retabled kernel who table middle)
    (second : Retabled middle who last after) : Retabled kernel who last after where
  stations number := by
    -- Of the first change only the table shows, and the second one replaces that.
    rw [second.stations, first.stations, Option.map_map]
    congr 1
    funext station
    dsimp only [Function.comp]
    split <;> rfl
  numbers := second.numbers.trans first.numbers
  sound := second.sound ∘ first.sound

/-- A rest that begins or goes on shows in no station. -/
theorem same_rests {micros : Nat} (resting : kernel.rests who micros = some after) : Same kernel after := by
  -- At most an alarm is set, which no station shows.
  rw [rests] at resting
  split at resting
  · cases resting
    exact .of_update kernel who fun _ => rfl
  · split at resting
    · cases resting
      exact .refl kernel
    · cases resting

/-- A turn that no station shows. -/
def Quiet {α : Type} (kernel : Kernel) : Turn α → Prop
  | .answered _ after | .waiting after => Same kernel after
  | _ => False

/-- A change that no station shows is answered without one. -/
theorem quiet_done {result : Except Errno Kernel} (same : ∀ after, result = .ok after → Same kernel after) :
    Quiet kernel (kernel.done result) := by
  -- An error leaves the kernel as it was.
  cases result with
  | error errno => exact .refl kernel
  | ok after => exact same after rfl

/-- A reply that no station shows. -/
theorem quiet_replied {α : Type} {reply : Reply α} (same : Same kernel reply.kernel) :
    Quiet kernel (replied reply) := by
  cases reply <;> exact same

section Calls

variable (sound : kernel.Sound) (there : kernel.station? who = some was) (live : was.live = true)

include sound there live

/-- Making a pipe puts its two ends under numbers that were free. -/
theorem turned_pipe : Turned kernel who .pipe (kernel.attend who .pipe) := by
  show Turned kernel who .pipe (kernel.gained (kernel.makePipe who))
  cases made : kernel.makePipe who with
  | error errno => exact .of_same sound nofun there live (.refl kernel) ⟨rfl, rfl⟩
  | ok result =>
    obtain ⟨⟨readEnd, writeEnd⟩, after⟩ := result
    simp only [makePipe] at made
    split at made
    · cases made
    · rename_i first reading granted
      split at made
      · cases made
      · rename_i second both granted'
        cases made
        obtain ⟨process, between, found, taken, retabled, opens⟩ := retabled_grant granted
        obtain ⟨other, last, found', taken', retabled', opens'⟩ := retabled_grant granted'
        -- The pipe itself shows in no station.
        have piped : Same kernel { kernel with
            channels := (kernel.channels.add { readerOpens := 1, writerOpens := 1 }).2 } :=
          .of_processes rfl rfl
        have known : process.station = was :=
          Option.some.inj ((station?_of_process? found).symm.trans ((piped.stations who).trans there))
        have first := retabled.after_same piped
        -- The second end is put into the table that holds the first.
        have held : other.table = between := by
          have seen := first.stations who
          rw [station?_of_process? found', there, Option.map_some, if_pos rfl] at seen
          exact congrArg Station.table (Option.some.inj seen)
        refine .of_retabled sound nofun there live (first.again retabled') ⟨between, ?_, ?_, ?_⟩
        · rw [← known]
          exact taken
        · rw [← held, ← show reading.opens.next = kernel.opens.next + 1 from opens]
          exact taken'
        · exact opens'.trans (congrArg (· + 1) opens)

/-- Opening a file puts it under a number that was free, if at all. -/
theorem turned_openFile (path : Bytes) (access : Access) (closeOnExec : Bool) :
    Turned kernel who (.openFile path access closeOnExec)
      (kernel.attend who (.openFile path access closeOnExec)) := by
  have opens := opens_openPath kernel who path access closeOnExec
  show Turned kernel who (.openFile path access closeOnExec) (replied (kernel.openPath who path access closeOnExec))
  revert opens
  generalize kernel.openPath who path access closeOnExec = reply
  intro opens
  cases reply with
  | later after => exact .of_waiting sound opens
  | answer value after =>
    cases value with
    | error errno => exact .of_same sound nofun there live opens ⟨rfl, rfl⟩
    | ok fd =>
      -- What comes before the granting shows nowhere.
      obtain ⟨middle, file, same, granted⟩ := opens
      obtain ⟨process, table, found, taken, retabled, grown⟩ := retabled_grant granted
      -- Whoever is granted the file is the process that asked for it.
      have known : process.station = was :=
        Option.some.inj ((station?_of_process? found).symm.trans ((same.stations who).trans there))
      refine .of_retabled sound nofun there live (retabled.after_same same) ⟨?_, ?_⟩
      · rw [← known, ← same.opens]
        exact taken
      · rw [grown, same.opens]

/-- A call that changes descriptors only changes those of the process that makes it. -/
theorem turned_withTable {wanted : Call} {value : wanted.Answer} {table : Table}
    (plain : ∀ order, wanted ≠ .spawn order)
    (effect : Effect kernel.opens.next was.table wanted value kernel.opens.next table) :
    Turned kernel who wanted (.answered value (kernel.setTable who table)) :=
  .of_retabled sound plain there live (retabled_setTable kernel who table) effect

/-- Closing a descriptor frees its number. -/
theorem turned_close (fd : Nat) : Turned kernel who (.close fd) (kernel.attend who (.close fd)) := by
  show Turned kernel who (.close fd) (kernel.done (kernel.withTable who fun table => table.close fd))
  -- The process is there, so the answer is that of its table.
  rw [withTable_cases there]
  cases closed : was.table.close fd with
  | error errno => exact .of_same sound nofun there live (.refl kernel) ⟨Table.close_error closed, rfl, rfl⟩
  | ok table => exact turned_withTable sound there live nofun ⟨closed, rfl⟩

/-- Duplicating a descriptor onto a number changes what that number stands for. -/
theorem turned_duplicateTo (fd target : Nat) :
    Turned kernel who (.duplicateTo fd target) (kernel.attend who (.duplicateTo fd target)) := by
  show Turned kernel who (.duplicateTo fd target)
    (kernel.done (kernel.withTable who fun table => table.duplicateTo fd target))
  -- The process is there, so the answer is that of its table.
  rw [withTable_cases there]
  cases copied : was.table.duplicateTo fd target with
  | error errno => exact .of_same sound nofun there live (.refl kernel) ⟨rfl, rfl⟩
  | ok table => exact turned_withTable sound there live nofun ⟨copied, rfl⟩

/-- Duplicating a descriptor onto a free number leaves all others. -/
theorem turned_duplicateFrom (fd least : Nat) (closeOnExec : Bool) :
    Turned kernel who (.duplicateFrom fd least closeOnExec)
      (kernel.attend who (.duplicateFrom fd least closeOnExec)) := by
  obtain ⟨process, found, known⟩ := process_of_station there
  -- The table that is asked is the one that its station shows.
  have same : process.table = was.table := congrArg Station.table known
  simp only [attend, found, same]
  cases copied : was.table.duplicateFrom fd least closeOnExec with
  | error errno => exact .of_same sound nofun there live (.refl kernel) ⟨rfl, rfl⟩
  | ok result =>
    obtain ⟨number, table⟩ := result
    exact turned_withTable sound there live nofun ⟨copied, rfl⟩

/-- Asking whether a descriptor is kept changes nothing. -/
theorem turned_closeOnExec (fd : Nat) :
    Turned kernel who (.closeOnExec fd) (kernel.attend who (.closeOnExec fd)) := by
  -- The answer is read off the table that its station shows.
  have slot : kernel.slot? who fd = was.table.get? fd := by
    rw [slot?_eq, there, Option.bind_some]
  simp only [attend, slot]
  cases held : was.table.get? fd with
  | none => exact .of_same sound nofun there live (.refl kernel) ⟨held, rfl, rfl⟩
  | some kept => exact .of_same sound nofun there live (.refl kernel) ⟨⟨kept, held, rfl⟩, rfl, rfl⟩

/-- Setting whether a descriptor is kept changes that only. -/
theorem turned_setCloseOnExec (fd : Nat) (flag : Bool) :
    Turned kernel who (.setCloseOnExec fd flag) (kernel.attend who (.setCloseOnExec fd flag)) := by
  show Turned kernel who (.setCloseOnExec fd flag)
    (kernel.done (kernel.withTable who fun table => table.setCloseOnExec fd flag))
  -- The process is there, so the answer is that of its table.
  rw [withTable_cases there]
  cases set : was.table.setCloseOnExec fd flag with
  | error errno =>
    exact .of_same sound nofun there live (.refl kernel) ⟨Table.setCloseOnExec_error set, rfl, rfl⟩
  | ok table => exact turned_withTable sound there live nofun ⟨set, rfl⟩

/-- Running another program keeps the descriptors that are not to go away. -/
theorem turned_exec (path : Bytes) (words : List Bytes) (environment : List (Bytes × Bytes)) :
    Turned kernel who (.exec path words environment)
      (kernel.attend who (.exec path words environment)) := by
  obtain ⟨process, found, known⟩ := process_of_station there
  have living : process.isLive = true := (congrArg Station.live known).trans live
  simp only [attend]
  cases loaded : kernel.loadImage who path words with
  | error errno => exact .of_same sound nofun there live (.refl kernel) ⟨rfl, rfl⟩
  | ok image =>
    -- Only the process itself is changed, and of what it has open only what is not to be kept.
    refine ⟨fun number other => .inl ?_, sound_update sound.processes who _, rfl,
      .replaced there live ?_ rfl⟩
    · exact station?_update_of_ne kernel _ (List.ne_of_not_mem_cons other)
    · rw [station?_of_process? (process?_update found _), ← known, ← living]
      rfl

/-- A process that gives up is no more. -/
theorem turned_giveUp (cause : Errno) :
    Turned kernel who (.giveUp cause) (kernel.attend who (.giveUp cause)) := by
  obtain ⟨process, found, known⟩ := process_of_station there
  have living : process.isLive = true := (congrArg Station.live known).trans live
  -- It tells why, and then ends.
  let told : Kernel := kernel.update who fun process => { process with start := .refused cause }
  have toldSound : told.processes.Sound := sound_update sound.processes who _
  obtain ⟨felt, gone⟩ := felt_finish toldSound (process?_update found _) living (.ofExit 1)
  refine ⟨fun number other => ?_, felt.sound toldSound, felt.numbers, .gone gone felt.opens⟩
  have same : told.station? number = kernel.station? number :=
    station?_update_of_ne kernel _ (List.ne_of_not_mem_cons other)
  exact same ▸ felt.spares number other

omit sound in
/-- A process that lives is none that has ended. -/
theorem ne_of_ended {number : Nat} {station : Station} (found : kernel.station? number = some station)
    (ended : station.live = false) : who ≠ number := by
  -- Otherwise its one station would be both.
  rintro rfl
  rw [there] at found
  cases found
  rw [live] at ended
  cases ended

omit sound there live in
/-- Removing a process that has ended touches no other. -/
theorem spares_without {number : Nat} {station : Station} (found : kernel.station? number = some station)
    (ended : station.live = false) (others : List Nat) : Spares others kernel (kernel.without number) := by
  intro any _
  rw [station?_without]
  -- The process that is removed has ended, as all that become gone must have.
  by_cases same : any = number
  · exact .inr ⟨if_pos same, station, same ▸ found, ended⟩
  · exact .inl (if_neg same)

/-- Removing a process that has ended touches no station of another. -/
theorem turned_without {wanted : Call} {value : wanted.Answer} {number : Nat} {station : Station}
    (plain : ∀ order, wanted ≠ .spawn order) (found : kernel.station? number = some station)
    (ended : station.live = false)
    (effect : Effect kernel.opens.next was.table wanted value kernel.opens.next was.table) :
    Turned kernel who wanted (.answered value (kernel.without number)) := by
  -- The process that asks lives, so it is not the one that is removed.
  have left : (kernel.without number).station? who = some { was with table := was.table } := by
    rw [station?_without, if_neg (ne_of_ended there live found ended)]
    exact there
  exact ⟨spares_without found ended _, sound.processes.erase number, rfl, .answered plain there live left effect⟩

omit live there in
/-- The child whose status is taken has ended. -/
theorem ended_of_reap {child : Option Nat} {taken : Nat × WaitStatus}
    (reaped : kernel.reap who child = .ok (some (taken, after))) :
    after = kernel.without taken.1 ∧
      ∃ station, kernel.station? taken.1 = some station ∧ station.live = false := by
  simp only [reap] at reaped
  -- The candidates are looked at until one has a status.
  generalize listed : List.filter _ (kernel.children who) = candidates at reaped
  split at reaped
  · cases reaped
  · split at reaped
    · cases reaped
    · rename_i number status first
      cases reaped
      refine ⟨rfl, ?_⟩
      -- The status was that of an entry, and no other entry has its number.
      obtain ⟨entry, member, has⟩ := List.exists_of_findSome?_eq_some first
      obtain ⟨ended, known, same⟩ := Option.map_eq_some_iff.mp has
      cases same
      have candidate := List.mem_reverse.mp member
      rw [← listed] at candidate
      have child := (List.mem_filter.mp candidate).1
      have found : kernel.process? entry.1 = some entry.2 :=
        Registry.lookup_of_mem sound.processes.distinct (List.mem_filter.mp child).1
      refine ⟨entry.2.station, station?_of_process? found, ?_⟩
      simp only [Process.station, Process.isLive, known, Option.isNone_some]

/-- Taking a status removes at most a process that has ended. -/
theorem turned_reap (child : Option Nat) (wait : Bool) :
    Turned kernel who (.reap child wait) (kernel.attend who (.reap child wait)) := by
  simp only [attend]
  -- There may be nobody to take a status of, or somebody who has ended, or only such as have not.
  split
  · exact .of_same sound nofun there live (.refl kernel) ⟨rfl, rfl⟩
  · rename_i taken left reaped
    obtain ⟨rfl, station, found, ended⟩ := ended_of_reap sound reaped
    exact turned_without sound there live nofun found ended ⟨rfl, rfl⟩
  · split
    · exact .of_waiting sound (.refl kernel)
    · exact .of_same sound nofun there live (.refl kernel) ⟨rfl, rfl⟩

omit live in
/-- A process that forks has a child with the next number and the same descriptors. -/
theorem fork_eq : ∃ grown, kernel.fork who = some (kernel.processes.next, grown) ∧
    grown.processes.Sound ∧ grown.processes.next = kernel.processes.next + 1 ∧
    grown.opens = kernel.opens ∧ who < kernel.processes.next ∧ ∀ number, grown.station? number =
      if number = kernel.processes.next then some { was with ordered := none, start := .running }
      else kernel.station? number := by
  obtain ⟨process, found, rfl⟩ := process_of_station there
  rw [fork, found, Option.map_some]
  refine ⟨_, rfl, sound.processes.add _, rfl, rfl, sound.processes.lt_next found, fun number => ?_⟩
  show Option.map Process.station ((kernel.processes.add _).2.get? number) = _
  -- The child is added under the next number, and nobody else is touched.
  rw [Registry.get?_add]
  split
  · rfl
  · rfl

/-- Forking starts a process and touches no other. -/
theorem turned_fork : Turned kernel who .fork (kernel.attend who .fork) := by
  obtain ⟨grown, forked, grownSound, numbers, opens, lower, stations⟩ := fork_eq sound there
  simp only [attend, forked]
  -- Whoever is neither the child nor its parent is where he was.
  refine ⟨fun number apart => .inl ?_, grownSound, numbers,
    .forked there live rfl ?_ ?_ (by rw [opens])⟩
  · have fresh : number ≠ kernel.processes.next := fun same => apart (by simp [Turn.born, same])
    exact (stations number).trans (if_neg fresh)
  · rw [stations, if_neg (Nat.ne_of_lt lower)]
    exact there
  · rw [stations, if_pos rfl, ← live]

/-- An order that is taken starts a process with what its parent has open, and its parent waits for it. -/
theorem turned_ordered (order : Order) (idle : was.ordered = none) {child : Nat} {grown : Kernel}
    (forks : kernel.fork who = some (child, grown)) :
    Turned kernel who (.spawn order) (.ordered child order
      ((grown.update child fun process => { process with start := .preparing }).update who
        fun process => { process with ordered := some child })) := by
  obtain ⟨grown, forked, grownSound, numbers, opens, lower, stations⟩ := fork_eq sound there
  rw [forked] at forks
  cases forks
  -- The new number is none that was given before, the parent's included.
  have different := Nat.ne_of_lt lower
  let prepared : Kernel := grown.update kernel.processes.next fun process => { process with start := .preparing }
  -- Each of the two updates changes one station, so that three kinds of stations are to be told apart.
  have born (number : Nat) := grown.station?_update_map kernel.processes.next number
    (fun process => { process with start := .preparing })
    (fun station => { station with start := .preparing }) fun _ => rfl
  have asked (number : Nat) := prepared.station?_update_map who number
    (fun process => { process with ordered := some kernel.processes.next })
    (fun station => { station with ordered := some kernel.processes.next }) fun _ => rfl
  refine ⟨fun number apart => .inl ?_, sound_update (sound_update grownSound _ _) _ _, numbers,
    .ordered there live idle rfl ?_ ?_ (congrArg Registry.next opens)⟩
  · have fresh : number ≠ kernel.processes.next := fun same => apart (by simp [Turn.born, same])
    have other : number ≠ who := List.ne_of_not_mem_cons apart
    exact (asked number).trans (by rw [if_neg other, born, if_neg fresh, stations, if_neg fresh])
  · exact (asked who).trans
      (by rw [if_pos rfl, born, if_neg different, stations, if_neg different, there]; rfl)
  · exact (asked _).trans
      (by rw [if_neg different.symm, born, if_pos rfl, stations, if_pos rfl, ← live]; rfl)

omit sound there live in
/-- A parent that is answered waits no more, and nothing else changes but that processes that had ended may
be gone. -/
theorem turned_freed {order : Order} {value : Except IoFault Nat} {host : Kernel}
    (fewer : Spares [who] kernel host) (processes : host.processes.Sound)
    (numbers : host.processes.next = kernel.processes.next) (stays : host.station? who = some was)
    (took : ∀ after : Kernel, after.station? who = some { was with ordered := none } →
      after.opens = host.opens → Took kernel who (.spawn order) (.answered value after)) :
    Turned kernel who (.spawn order)
      (.answered value (host.update who fun process => { process with ordered := none })) := by
  -- Only the parent's station changes, and in it whom it waits for.
  have freed (number : Nat) := host.station?_update_map who number
    (fun process => { process with ordered := none })
    (fun station => { station with ordered := none }) fun _ => rfl
  refine ⟨fewer.trans fun number apart => .inl ((freed number).trans ?_), sound_update processes _ _, numbers,
    took _ ?_ rfl⟩
  · rw [if_neg (List.ne_of_not_mem_cons apart)]
  · rw [freed, if_pos rfl, stays, Option.map_some]

/-- Telling that a process could not run its program removes it, which touches no other. -/
theorem turned_refused (order : Order) {child : Nat} {station : Station} {cause : Errno}
    (waiting : was.ordered = some child) (known : kernel.station? child = some station)
    (gaveUp : station.start = .refused cause) :
    Turned kernel who (.spawn order) (.answered (.error (.host cause))
      ((kernel.without child).update who fun process => { process with ordered := none })) := by
  -- A process that has given up has ended, so that it is not its parent, which lives.
  have ended := (sound.stations child station known).refused cause gaveUp
  have stays : (kernel.without child).station? who = some was := by
    rw [station?_without, if_neg (ne_of_ended there live known ended)]
    exact there
  refine turned_freed (spares_without known ended _) (sound.processes.erase child) rfl stays fun _ left opens => ?_
  exact .failed there live waiting left known gaveUp (congrArg Registry.next opens)

/-- Telling that a process was started is right if it runs its program or has ended. -/
theorem turned_started (order : Order) {child : Nat} (waiting : was.ordered = some child)
    (runs : ∀ station, kernel.station? child = some station → station.live = false ∨ station.start = .running) :
    Turned kernel who (.spawn order) (.answered (.ok child)
      (kernel.update who fun process => { process with ordered := none })) := by
  refine turned_freed (.of_same (.refl kernel)) sound.processes rfl there fun _ left opens => ?_
  exact .started there live waiting left runs (congrArg Registry.next opens)

/-- Following an order starts a process, or tells what has become of it. -/
theorem turned_spawn (order : Order) :
    Turned kernel who (.spawn order) (kernel.attend who (.spawn order)) := by
  have waits : (kernel.process? who).bind (·.ordered) = was.ordered := by
    obtain ⟨process, found, rfl⟩ := process_of_station there
    rw [found]
    rfl
  obtain ⟨grown, forked, -⟩ := fork_eq sound there
  simp only [attend, follow, waits]
  split
  · -- The parent waits for nobody yet, so that its order is declined or taken.
    rename_i idle
    split
    · exact ⟨.of_same (.refl kernel), sound.processes, rfl, .declined there live idle there rfl⟩
    · simp only [forked]
      exact turned_ordered sound there live order idle forked
  · -- The parent waits for a process, which has come to an answer or has not.
    rename_i child waiting
    split
    · rename_i absent
      refine turned_started sound there live order waiting fun station found => ?_
      rw [station?, absent] at found
      cases found
    · rename_i started found
      have known := station?_of_process? found
      split
      · rename_i preparing
        split
        · exact .of_waiting sound (.refl kernel)
        · rename_i ended
          refine turned_started sound there live order waiting fun station seen => .inl ?_
          cases known.symm.trans seen
          simpa [Process.station] using ended
      · rename_i running
        refine turned_started sound there live order waiting fun station seen => .inr ?_
        cases known.symm.trans seen
        exact running
      · rename_i cause gaveUp
        exact turned_refused sound there live order waiting known gaveUp

/-- Setting the bound of numbers changes that only. -/
theorem turned_setLimit (limit : Nat) :
    Turned kernel who (.setLimit limit) (kernel.attend who (.setLimit limit)) := by
  have retabled : Retabled kernel who { was.table with limit } (kernel.update who fun process =>
      { process with table := { process.table with limit } }) := by
    refine ⟨fun number => ?_, rfl, fun sound => sound_update sound who _⟩
    -- A limit is a part of the table.
    have shown := kernel.station?_update_map who number
      (fun process => { process with table := { process.table with limit } })
      (fun station => { station with table := { station.table with limit } }) fun _ => rfl
    refine shown.trans ?_
    -- Only the station of the process itself shows it.
    by_cases own : number = who
    · subst own
      simp only [if_true, there, Option.map_some]
    · simp only [if_neg own, Option.map_id_fun', id]
  exact .of_retabled sound nofun there live retabled ⟨rfl, rfl⟩

/-- Most calls are answered, or wait, without anything that shows in a station. -/
theorem turned_quietly {wanted : Call} {turn : Turn wanted.Answer} (plain : ∀ order, wanted ≠ .spawn order)
    (effect : ∀ value, Effect kernel.opens.next was.table wanted value kernel.opens.next was.table)
    (quiet : Quiet kernel turn) : Turned kernel who wanted turn := by
  -- A turn that is quiet is an answer or a waiting.
  cases turn with
  | answered value after => exact .of_same sound plain there live quiet (effect value)
  | waiting after => exact .of_waiting sound quiet
  | gone | replaced | forked | ordered => exact quiet.elim

/-- Every call's turn is what a turn may be. -/
theorem turned_attend (wanted : Call) : Turned kernel who wanted (kernel.attend who wanted) := by
  -- Calls that show in a station have a lemma each; the others come last.
  have unchanged := Same.refl kernel
  have own (change : Process → Process) (keeps : ∀ process, (change process).station = process.station) :
      Same kernel (kernel.update who change) := .of_update kernel who keeps
  cases wanted with
  | pipe => exact turned_pipe sound there live
  | openFile path access closeOnExec => exact turned_openFile sound there live path access closeOnExec
  | close fd => exact turned_close sound there live fd
  | duplicateTo fd target => exact turned_duplicateTo sound there live fd target
  | duplicateFrom fd least closeOnExec => exact turned_duplicateFrom sound there live fd least closeOnExec
  | closeOnExec fd => exact turned_closeOnExec sound there live fd
  | setCloseOnExec fd flag => exact turned_setCloseOnExec sound there live fd flag
  | setLimit limit => exact turned_setLimit sound there live limit
  | exec path words environment => exact turned_exec sound there live path words environment
  | giveUp cause => exact turned_giveUp sound there live cause
  | reap child wait => exact turned_reap sound there live child wait
  | fork => exact turned_fork sound there live
  | spawn order => exact turned_spawn sound there live order
  | read fd count =>
    exact turned_quietly sound there live nofun (fun _ => ⟨rfl, rfl⟩) (quiet_replied (kernel.same_read who fd count))
  | write fd data =>
    exact turned_quietly sound there live nofun (fun _ => ⟨rfl, rfl⟩) (quiet_replied (kernel.same_write who fd data))
  | goBack | signal | signalGroup | create | setMode | remove | removeDirectory | rename | link =>
    refine turned_quietly sound there live nofun (fun _ => ⟨rfl, rfl⟩) (quiet_done fun after changed => ?_)
    first
      | exact same_goBack changed
      | exact same_signal changed
      | exact same_signalGroup changed
      | exact same_create changed
      | exact same_setMode changed
      | exact same_remove changed
      | exact same_rename changed
      | exact same_link changed
  | _ =>
    refine turned_quietly sound there live nofun (fun _ => ⟨rfl, rfl⟩) ?_
    simp only [attend, awaitHangUp]
    repeat' split
    all_goals first
      | exact unchanged
      | exact own _ fun _ => rfl
      | exact same_rests ‹_›

end Calls

end Umpire.Host.Kernel
