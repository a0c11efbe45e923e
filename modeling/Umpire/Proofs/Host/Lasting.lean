import Umpire.Proofs.Host.Turns

/-! What lasts: an open file stays where it is and open for what it was opened for, whatever processes do, and
nobody comes to wait for an opening but in the turn in which he asks for it. -/

namespace Umpire.Host

/-- Who can come to wait for an opening in a turn with a call: the process that has it opens a file. -/
def Call.openers (who : Nat) : Call → List Nat
  | .openFile .. => [who]
  | _ => []

namespace Kernel

/-- Where the open file with a number is, and what it was opened for. -/
def seat? (kernel : Kernel) (number : Nat) : Option (Place × Access) :=
  (kernel.opens.get? number).map fun file => (file.place, file.access)

/-- The opening that a process waits for. -/
def opening? (kernel : Kernel) (who : Nat) : Option Opening :=
  (kernel.process? who).bind (·.opening)

/-- A process that is changed may wait for another opening, and no other does. -/
theorem opening?_update (kernel : Kernel) (self who : Nat) (change : Process → Process) :
    (kernel.update self change).opening? who =
      (kernel.process? who).bind fun process => (if who = self then change process else process).opening := by
  rw [opening?, process?, update, Registry.get?_modify, Option.bind_map]
  rfl

/-- What lasts from one kernel to another: open files are where they were, and nobody waits for an opening who
did not before, but for some processes. -/
structure Lasts (apart : List Nat) (before after : Kernel) : Prop where
  grows : before.opens.next ≤ after.opens.next
  seats : ∀ number, number < before.opens.next → after.seat? number = before.seat? number
  openings : ∀ who, who ∉ apart → ∀ opening, after.opening? who = some opening → before.opening? who = some opening

namespace Lasts

variable {apart : List Nat} {before middle after : Kernel}

/-- Everything lasts if nothing is done. -/
theorem refl (kernel : Kernel) : Lasts apart kernel kernel :=
  ⟨Nat.le_refl _, fun _ _ => rfl, fun _ _ _ => id⟩

/-- What lasts twice lasts. -/
theorem trans (first : Lasts apart before middle) (second : Lasts apart middle after) : Lasts apart before after where
  grows := Nat.le_trans first.grows second.grows
  -- A file that is old at first is old in the middle as well.
  seats number old :=
    (second.seats number (Nat.lt_of_lt_of_le old first.grows)).trans (first.seats number old)
  openings who other opening waits := first.openings who other opening (second.openings who other opening waits)

/-- What lasts for all but some lasts for all but more. -/
theorem mono {more : List Nat} (lasts : Lasts apart before after) (wider : apart ⊆ more) : Lasts more before after where
  grows := lasts.grows
  seats := lasts.seats
  openings who other := lasts.openings who fun member => other (wider member)

/-- Everything lasts if neither open files nor processes have changed. -/
theorem of_parts (opens : after.opens = before.opens) (processes : after.processes = before.processes) :
    Lasts apart before after where
  grows := Nat.le_of_eq (congrArg Registry.next opens.symm)
  seats number _ := by rw [seat?, seat?, opens]
  -- What a process waits to open is part of the process.
  openings who _ opening waits := by
    rw [opening?, process?, processes] at waits
    exact waits

/-- Everything lasts if a process is changed, but not in what it waits for. -/
theorem update {self : Nat} {change : Process → Process} (lasts : Lasts apart before after)
    (keeps : ∀ process, (change process).opening = process.opening) :
    Lasts apart before (after.update self change) where
  grows := lasts.grows
  seats := lasts.seats
  openings who other opening waits := by
    -- Who waits after the change waited before it, since the change keeps what is waited for.
    rw [opening?_update] at waits
    refine lasts.openings who other opening ?_
    obtain ⟨process, found, waits⟩ := Option.bind_eq_some_iff.mp waits
    refine Option.bind_eq_some_iff.mpr ⟨process, found, ?_⟩
    split at waits
    · exact keeps process ▸ waits
    · exact waits

/-- A process that is changed may come to wait, but nobody else. -/
theorem update_self {self : Nat} {change : Process → Process} (lasts : Lasts [] before after) :
    Lasts [self] before (after.update self change) where
  grows := lasts.grows
  seats := lasts.seats
  openings who other opening waits := by
    -- Whoever is not spared is not the one that is changed, so that the change does not show.
    rw [opening?_update] at waits
    simp only [List.ne_of_not_mem_cons other, if_false] at waits
    exact lasts.openings who List.not_mem_nil opening waits

/-- A process that no longer waits at the end does not come to wait. -/
theorem settle {self : Nat} (lasts : Lasts [self] before after) {change : Process → Process}
    (settles : ∀ process, (change process).opening = none) :
    Lasts [] before (after.update self change) where
  grows := lasts.grows
  seats := lasts.seats
  openings who _ opening waits := by
    rw [opening?_update] at waits
    -- Only the process itself may have come to wait before, and it has stopped.
    by_cases own : who = self
    · obtain ⟨process, -, waits⟩ := Option.bind_eq_some_iff.mp waits
      rw [if_pos own, settles] at waits
      cases waits
    · simp only [own, if_false] at waits
      exact lasts.openings who (by simpa using own) opening waits

/-- Everything lasts if a process is removed. -/
theorem of_without (kernel : Kernel) (number : Nat) : Lasts apart kernel (kernel.without number) where
  grows := Nat.le_refl _
  seats _ _ := rfl
  openings who _ opening waits := by
    -- A process that is removed is not there to wait.
    rw [opening?, process?, without, Registry.get?_erase] at waits
    split at waits
    · cases waits
    · exact waits

/-- Who waits for no opening does not come to wait as long as that lasts. -/
theorem idle {who : Nat} (lasts : Lasts apart before after) (spared : who ∉ apart)
    (idle : before.opening? who = none) : after.opening? who = none := by
  -- Had he come to wait, he would have waited before.
  cases waits : after.opening? who with
  | none => rfl
  | some opening =>
    rw [lasts.openings who spared opening waits] at idle
    cases idle

/-- Moving on in an open file leaves it where it is. -/
theorem advance (lasts : Lasts apart before after) (number offset : Nat) :
    Lasts apart before (after.advance number offset) where
  grows := lasts.grows
  seats wanted old := by
    -- A seat is a file's place and access, and an offset is neither.
    refine Eq.trans ?_ (lasts.seats wanted old)
    rw [seat?, Kernel.advance, Registry.get?_modify, Option.map_map, seat?]
    congr 1
    funext file
    dsimp only [Function.comp]
    split <;> rfl
  openings := lasts.openings

end Lasts

/-- A process that ends does not come to wait, nor does anybody else. -/
theorem lasts_finish {kernel : Kernel} (sound : kernel.processes.Sound) (self : Nat) (status : WaitStatus) :
    Lasts [] kernel (kernel.finish self status) := by
  -- Nothing ends where nobody lives. Otherwise the children are handed over before the process itself goes.
  cases found : kernel.process? self with
  | none =>
    rw [finish, found]
    exact .refl kernel
  | some process =>
    cases live : process.isLive with
    | false =>
      rw [finish, found]
      simp only [live, Bool.not_false, if_true]
      exact .refl kernel
    | true =>
      have orphans : Lasts [] kernel (kernel.leftBy self) := by
        refine ⟨Nat.le_refl _, fun _ _ => rfl, fun who _ opening waits => ?_⟩
        -- A child that is left has a new parent or none, and waits for what it waited for.
        have looked : (kernel.leftBy self).process? who =
            (kernel.process? who).bind fun known => (orphaned self (who, known)).map Prod.snd :=
          Registry.lookup_filterMap sound.distinct (fun _ _ => orphaned_number) who
        rw [opening?, looked] at waits
        obtain ⟨known, found, waits⟩ := Option.bind_eq_some_iff.mp waits
        obtain ⟨process, found, left⟩ := Option.bind_eq_some_iff.mp found
        refine Option.bind_eq_some_iff.mpr ⟨process, found, ?_⟩
        rw [orphaned] at left
        repeat' split at left
        all_goals first | cases left; done | (cases left; exact waits)
      -- What is left of the process waits for nothing: it is a status, or it is gone.
      rcases finish_eq found live status with buried | removed
      · rw [buried]
        exact (orphans.mono (List.nil_subset _)).settle fun _ => rfl
      · rw [removed]
        exact orphans.trans (.of_without _ self)

/-- Nobody comes to wait when a signal takes effect. -/
theorem lasts_take {kernel : Kernel} (sound : kernel.processes.Sound) (self number : Nat) :
    Lasts [] kernel (kernel.take self number) := by
  rw [take]
  split
  · exact .refl kernel
  · split
    · exact .refl kernel
    · -- Any signal that resumes wakes the process first, whatever else it then means.
      have woken : Lasts [] kernel (if Signal.meaning number = .resumes then
            kernel.update self fun known => { known with stopped := false } else kernel) ∧
          (if Signal.meaning number = .resumes then
            kernel.update self fun known => { known with stopped := false } else kernel).processes.Sound := by
        split
        · exact ⟨.update (.refl kernel) fun _ => rfl, sound_update sound self _⟩
        · exact ⟨.refl kernel, sound⟩
      revert woken
      dsimp only
      -- The kernel on which it is awake occurs in every branch, so that it gets a name before the branches part.
      generalize (if Signal.meaning number = .resumes then
        kernel.update self fun known => { known with stopped := false } else kernel) = awake
      rintro ⟨woken, sound⟩
      repeat' split
      all_goals first
        | exact woken
        | exact woken.trans (lasts_finish sound self _)
        | exact woken.update fun _ => rfl

/-- Nobody comes to wait when signals take effect. -/
theorem lasts_takeAll {kernel : Kernel} (sound : kernel.processes.Sound) (self : Nat) :
    Lasts [] kernel (kernel.takeAll self) := by
  rw [takeAll]
  split
  · exact .refl kernel
  · split
    · exact .refl kernel
    · -- Each signal is taken where the ones before have led, which is a sound kernel again.
      have all (numbers : List Nat) (reached : Kernel) (sound : reached.processes.Sound) :
          Lasts [] reached (numbers.foldl (fun reached number => reached.take self number) reached) := by
        induction numbers generalizing reached with
        | nil => exact .refl reached
        | cons number rest ih =>
          exact (lasts_take sound self number).trans (ih _ ((felt_take sound self number).sound sound))
      refine Lasts.trans ?_ (all _ _ (sound_update sound self _))
      exact .update (.refl kernel) fun _ => rfl

/-- A process that is granted an open file has it where it was to be. -/
theorem lasts_grant {kernel after : Kernel} {who fd : Nat} {file : OpenFile} {closeOnExec : Bool}
    (granted : kernel.grant who file closeOnExec = .ok (fd, after)) :
    Lasts [] kernel after ∧ after.seat? kernel.opens.next = some (file.place, file.access) := by
  rw [grant] at granted
  split at granted
  · cases granted
  · dsimp only [Registry.add] at granted
    split at granted
    · cases granted
    · cases granted
      -- The new file has a number that no file has had, so that no seat changes.
      have added : Lasts [] kernel { kernel with opens := (kernel.opens.add file).2 } := by
        refine ⟨Nat.le_succ _, fun number old => ?_, fun _ _ _ => id⟩
        rw [seat?, Registry.get?_add, if_neg (Nat.ne_of_lt old), seat?]
      refine ⟨added.update fun _ => rfl, ?_⟩
      -- That number is the one that the file is then found under.
      have found := Registry.get?_add kernel.opens file kernel.opens.next
      rw [if_pos rfl] at found
      exact congrArg (Option.map fun file => (file.place, file.access)) found

/-- The two ends of a pipe that is made are where nothing else is. -/
theorem lasts_makePipe {kernel after : Kernel} {who readEnd writeEnd : Nat}
    (made : kernel.makePipe who = .ok ((readEnd, writeEnd), after)) : Lasts [] kernel after ∧
      ∀ number, kernel.opens.next ≤ number → number < kernel.opens.next + 2 →
        ∃ channel access, after.seat? number = some (.channel channel, access) := by
  simp only [makePipe] at made
  split at made
  · cases made
  · rename_i first reading granted
    split at made
    · cases made
    · rename_i second both granted'
      cases made
      obtain ⟨lasts, read⟩ := lasts_grant granted
      obtain ⟨lasts', write⟩ := lasts_grant granted'
      obtain ⟨-, -, -, -, -, next⟩ := retabled_grant granted
      -- Three changes in a row: the channel is added, then one end is granted, then the other.
      have piped : Lasts [] kernel { kernel with
          channels := (kernel.channels.add { readerOpens := 1, writerOpens := 1 }).2 } := .of_parts rfl rfl
      dsimp only at read write next
      refine ⟨(piped.trans lasts).trans lasts', fun number least most => ?_⟩
      -- The first end was seated before the second was granted, and has lasted since.
      by_cases early : number = kernel.opens.next
      · exact ⟨_, _, (lasts'.seats number (by omega)).trans (early ▸ read)⟩
      · obtain rfl : number = reading.opens.next := by omega
        exact ⟨_, _, write⟩

/-- Reading leaves everything where it is. -/
theorem lasts_read (kernel : Kernel) (self fd count : Nat) : Lasts [] kernel (kernel.read self fd count).kernel := by
  simp only [read, readFile, readChannel]
  repeat' split
  -- Whatever is read, at most the offset moves or a channel is drained.
  all_goals first | exact .refl kernel | exact .of_parts rfl rfl | exact .advance (.refl kernel) _ _

/-- Writing leaves everything where it is. -/
theorem lasts_write (kernel : Kernel) (self fd : Nat) (data : Bytes) :
    Lasts [] kernel (kernel.write self fd data).kernel := by
  simp only [write, writeFile, writeChannel]
  repeat' split
  -- At most the offset moves, a channel or a node grows, or the writer is signalled.
  all_goals first
    | exact .refl kernel
    | exact .of_parts rfl rfl
    | exact .update (.refl kernel) fun _ => rfl
    | (refine .advance ?_ _ _; exact .of_parts rfl rfl)

variable {kernel after : Kernel} {who : Nat}

/-- Going back in an open file leaves it where it is. -/
theorem lasts_goBack {fd count : Nat} (gone : kernel.goBack who fd count = .ok after) : Lasts [] kernel after := by
  -- It moves a position, which is no part of a file's seat.
  rw [goBack] at gone
  repeat' split at gone
  all_goals first | cases gone; done | (cases gone; exact .advance (.refl kernel) _ _)

/-- Making something at a path leaves open files and processes as they are. -/
theorem lasts_create {path : Bytes} {novelty : Novelty} {mode : Nat}
    (made : kernel.create who path novelty mode = .ok after) : Lasts [] kernel after := by
  rw [create] at made
  repeat' split at made
  -- Only nodes change, whichever kind of node is made.
  all_goals first | cases made; done | (cases made; cases novelty <;> exact .of_parts rfl rfl)

/-- Setting permission bits leaves open files and processes as they are. -/
theorem lasts_setMode {path : Bytes} {mode : Nat} (set : kernel.setMode who path mode = .ok after) :
    Lasts [] kernel after := by
  rw [setMode] at set
  repeat' split at set
  all_goals first | cases set; done | (cases set; exact .of_parts rfl rfl)

/-- Removing a name leaves open files and processes as they are. -/
theorem lasts_remove {path : Bytes} {directories : Bool} (removed : kernel.remove who path directories = .ok after) :
    Lasts [] kernel after := by
  simp only [remove] at removed
  repeat' split at removed
  all_goals first | cases removed; done | (cases removed; exact .of_parts rfl rfl)

/-- Moving a node leaves open files and processes as they are. -/
theorem lasts_rename {path target : Bytes} (moved : kernel.rename who path target = .ok after) :
    Lasts [] kernel after := by
  -- Moving a node onto itself changes nothing at all.
  simp only [rename] at moved
  repeat' split at moved
  all_goals first | cases moved; done | (cases moved; first | exact .refl kernel | exact .of_parts rfl rfl)

/-- A second name leaves open files and processes as they are. -/
theorem lasts_link {path target : Bytes} (linked : kernel.link who path target = .ok after) :
    Lasts [] kernel after := by
  rw [link] at linked
  repeat' split at linked
  all_goals first | cases linked; done | (cases linked; exact .of_parts rfl rfl)

/-- A signal that is sent leaves everything where it is. -/
theorem lasts_signal {process number : Nat} (sent : kernel.signal process number = .ok after) :
    Lasts [] kernel after := by
  -- The signal zero is only a test, and another is put down with the process.
  rw [signal] at sent
  repeat' split at sent
  all_goals first
    | cases sent; done
    | (cases sent; first | exact .refl kernel | exact .update (.refl kernel) fun _ => rfl)

/-- A signal that is sent to a group leaves everything where it is. -/
theorem lasts_signalGroup {leader number : Nat} (sent : kernel.signalGroup who leader number = .ok after) :
    Lasts [] kernel after := by
  -- One member after another: each is signalled if it lives, and no signal makes anybody wait.
  have all (members : List (Nat × Process)) (reached : Kernel) : Lasts [] reached
      (members.foldl (fun reached entry =>
        if entry.2.isLive then
          reached.update entry.1 fun target => { target with pending := withSignal target.pending number }
        else reached) reached) := by
    induction members generalizing reached with
    | nil => exact .refl reached
    | cons entry rest ih =>
      rw [List.foldl_cons]
      refine Lasts.trans ?_ (ih _)
      split
      · exact .update (.refl reached) fun _ => rfl
      · exact .refl reached
  simp only [signalGroup] at sent
  repeat' split at sent
  all_goals first | cases sent; done | (cases sent; first | exact .refl kernel | exact all _ kernel)

/-- A process that is started waits for no opening. -/
theorem lasts_fork {child : Nat} (forked : kernel.fork who = some (child, after)) : Lasts [] kernel after := by
  obtain ⟨process, -, same⟩ := Option.map_eq_some_iff.mp forked
  obtain ⟨-, same⟩ := Prod.mk.inj same
  subst same
  refine ⟨Nat.le_refl _, fun _ _ => rfl, fun any _ opening waits => ?_⟩
  obtain ⟨found, known, waits⟩ := Option.bind_eq_some_iff.mp waits
  -- The child is the only new process, and its parent's opening is not handed down to it.
  have seen := (Registry.get?_add kernel.processes _ any).symm.trans known
  split at seen
  · cases seen
    cases waits
  · exact Option.bind_eq_some_iff.mpr ⟨found, seen, waits⟩

/-- Taking the status of a process leaves all others where they are. -/
theorem lasts_reap {child : Option Nat} {taken : Nat × WaitStatus}
    (reaped : kernel.reap who child = .ok (some (taken, after))) : Lasts [] kernel after := by
  simp only [reap] at reaped
  repeat' split at reaped
  all_goals first | cases reaped; done | (cases reaped; exact .of_without kernel _)

/-- Following an order leaves everything where it is. -/
theorem lasts_follow (order : Order) : Lasts [] kernel (kernel.follow who order).kernel := by
  simp only [follow]
  repeat' split
  -- By how the order stands: it is declined or waited for, its parent is freed, a child that failed is removed as well,
  -- or a child is started.
  all_goals first
    | exact .refl kernel
    | exact .update (.refl kernel) fun _ => rfl
    | exact .update (.of_without kernel _) fun _ => rfl
    | exact .update (.update (lasts_fork ‹_›) fun _ => rfl) fun _ => rfl

/-- A change that leaves everything where it is does so as a turn. -/
theorem lasts_done {result : Except Errno Kernel} (lasts : ∀ after, result = .ok after → Lasts [] kernel after) :
    Lasts [] kernel (kernel.done result).kernel := by
  -- A change that fails is answered on the kernel as it was.
  cases result with
  | error errno => exact .refl kernel
  | ok after => exact lasts after rfl

/-- A reply that leaves everything where it is does so as a turn. -/
theorem lasts_replied {α : Type} {reply : Reply α} (lasts : Lasts [] kernel reply.kernel) :
    Lasts [] kernel (replied reply).kernel := by
  cases reply <;> exact lasts

/-- A change of what a process has open leaves everything where it is. -/
theorem lasts_withTable (change : Table → Except Errno Table) :
    Lasts [] kernel (kernel.done (kernel.withTable who change)).kernel := by
  refine lasts_done fun after changed => ?_
  -- There is one way to succeed, which sets the table.
  rw [withTable] at changed
  repeat' split at changed
  all_goals first | cases changed; done | (cases changed; exact .update (.refl kernel) fun _ => rfl)

/-- A rest that begins or goes on leaves everything where it is. -/
theorem lasts_rests {micros : Nat} (resting : kernel.rests who micros = some after) : Lasts [] kernel after := by
  -- It sets an alarm, or goes on with the one that is set.
  rw [rests] at resting
  repeat' split at resting
  all_goals first
    | cases resting; done
    | (cases resting; first | exact .refl kernel | exact .update (.refl kernel) fun _ => rfl)

/-- A call that opens no file leaves everything where it is. -/
theorem lasts_plain (sound : kernel.processes.Sound) (who : Nat) {wanted : Call} (plain : wanted.openers who = []) :
    Lasts [] kernel (kernel.attend who wanted).kernel := by
  -- Opening a file is the one call that may leave its caller waiting; each other call has its own lemma.
  cases wanted with
  | openFile => cases plain
  | pipe =>
    simp only [attend]
    cases made : kernel.makePipe who with
    | error errno => exact .refl kernel
    | ok result => exact (lasts_makePipe made).1
  | close | duplicateTo | setCloseOnExec => exact lasts_withTable _
  | read fd count => exact lasts_replied (kernel.lasts_read who fd count)
  | write fd data => exact lasts_replied (kernel.lasts_write who fd data)
  | goBack => exact lasts_done fun _ => lasts_goBack
  | create => exact lasts_done fun _ => lasts_create
  | setMode => exact lasts_done fun _ => lasts_setMode
  | remove | removeDirectory => exact lasts_done fun _ => lasts_remove
  | rename => exact lasts_done fun _ => lasts_rename
  | link => exact lasts_done fun _ => lasts_link
  | signal => exact lasts_done fun _ => lasts_signal
  | signalGroup => exact lasts_done fun _ => lasts_signalGroup
  | spawn order => exact lasts_follow order
  | giveUp cause =>
    simp only [attend]
    -- Who gives up is marked as refused first, and then ends.
    refine Lasts.trans ?_ (lasts_finish (sound_update sound who _) who _)
    exact .update (.refl kernel) fun _ => rfl
  | fork =>
    simp only [attend]
    split
    · exact .refl kernel
    · exact lasts_fork ‹_›
  | reap child wait =>
    simp only [attend]
    repeat' split
    all_goals first | exact .refl kernel | exact lasts_reap ‹_›
  | _ =>
    simp only [attend, awaitHangUp]
    repeat' split
    all_goals first
      | exact .refl kernel
      | exact lasts_rests ‹_›
      | exact .update (.refl kernel) fun _ => rfl

end Kernel

end Umpire.Host
