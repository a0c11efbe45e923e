import Umpire.Proofs.Host.Opening

/-! Doom: a signal that waits for a process goes on to wait for it whatever others do, and a process that a killing
one waits for is no more once it has its turn. -/

namespace Umpire.Host.Kernel

/-- Whoever lives after lived before, and no fewer signals wait for him, but for some processes. -/
structure Presses (apart : List Nat) (before after : Kernel) : Prop where
  numbers : before.processes.next ≤ after.processes.next
  presses : ∀ who, who ∉ apart → who < before.processes.next → ∀ late, after.process? who = some late →
    late.isLive = true → ∃ early, before.process? who = some early ∧ early.isLive = true ∧
      early.pending ⊆ late.pending

namespace Presses

variable {apart : List Nat} {before middle after : Kernel}

/-- Nothing waits less if nothing is done. -/
theorem refl (kernel : Kernel) : Presses apart kernel kernel :=
  ⟨Nat.le_refl _, fun _ _ _ late found live => ⟨late, found, live, fun _ => id⟩⟩

/-- What waits no less twice waits no less. -/
theorem trans (first : Presses apart before middle) (second : Presses apart middle after) :
    Presses apart before after where
  numbers := Nat.le_trans first.numbers second.numbers
  presses who other old late found live := by
    -- Whoever lives at the end is followed back over both changes.
    obtain ⟨between, there, lived, more⟩ :=
      second.presses who other (Nat.lt_of_lt_of_le old first.numbers) late found live
    obtain ⟨early, known, was, fewer⟩ := first.presses who other old between there lived
    exact ⟨early, known, was, List.Subset.trans fewer more⟩

/-- What holds for all but some processes holds for all but more. -/
theorem mono {more : List Nat} (presses : Presses apart before after) (wider : apart ⊆ more) :
    Presses more before after where
  numbers := presses.numbers
  presses who other := presses.presses who fun listed => other (wider listed)

/-- Nothing waits less if no process has changed. -/
theorem of_processes (same : after.processes = before.processes) : Presses apart before after where
  numbers := Nat.le_of_eq (congrArg Registry.next same.symm)
  presses who _ _ late found live := by
    rw [process?, same] at found
    exact ⟨late, found, live, fun _ => id⟩

/-- Nothing waits less if one process is changed, and not in what waits for it. -/
theorem update {self : Nat} {change : Process → Process} (presses : Presses apart before after)
    (keeps : ∀ process, (change process).isLive = true → process.isLive = true ∧
      process.pending ⊆ (change process).pending) :
    Presses apart before (after.update self change) := by
  refine presses.trans ⟨Nat.le_refl _, fun who _ _ late found live => ?_⟩
  -- The process that is changed is asked about the change, and any other is as it was.
  rw [process?, Kernel.update, Registry.get?_modify] at found
  obtain ⟨early, known, rfl⟩ := Option.map_eq_some_iff.mp found
  refine ⟨early, known, ?_⟩
  split at live
  · rename_i own
    rw [if_pos own]
    exact keeps early live
  · rename_i other
    rw [if_neg other]
    exact ⟨live, fun _ => id⟩

/-- Nothing waits less if a process is removed. -/
theorem of_without (kernel : Kernel) (number : Nat) : Presses apart kernel (kernel.without number) where
  numbers := Nat.le_refl _
  presses who _ _ late found live := by
    -- Who is removed is not there after, so nothing is said of him.
    rw [process?, without, Registry.get?_erase] at found
    split at found
    · cases found
    · exact ⟨late, found, live, fun _ => id⟩

end Presses

variable {kernel after : Kernel} {who : Nat}

/-- What waits for others waits no less when a process ends. -/
theorem presses_finish (sound : kernel.processes.Sound) (self : Nat) (status : WaitStatus) :
    Presses [] kernel (kernel.finish self status) := by
  -- Nobody who is unknown, or has ended already, ends again.
  cases found : kernel.process? self with
  | none =>
    rw [finish, found]
    exact .refl kernel
  | some process =>
    cases live : process.isLive with
    | false =>
      rw [finish, found]
      simp only [live, Bool.not_false, if_true]
      exact .refl kernel
    | true =>
      -- What it leaves behind are its children, who get another parent or are removed.
      have orphans : Presses [] kernel (kernel.leftBy self) := by
        refine ⟨Nat.le_refl _, fun who _ _ late found live => ?_⟩
        have looked : (kernel.leftBy self).process? who =
            (kernel.process? who).bind fun known => (orphaned self (who, known)).map Prod.snd :=
          Registry.lookup_filterMap sound.distinct (fun _ _ => orphaned_number) who
        rw [looked] at found
        obtain ⟨early, known, left⟩ := Option.bind_eq_some_iff.mp found
        refine ⟨early, known, ?_⟩
        rw [orphaned] at left
        repeat' split at left
        all_goals first | cases left; done | (cases left; exact ⟨live, fun _ => id⟩)
      rcases finish_eq found live status with buried | removed
      · rw [buried]
        -- Who has ended does not live, whatever waited for him.
        exact orphans.update fun process lives => by cases lives
      · rw [removed]
        exact orphans.trans (.of_without _ self)

/-- What waits for anybody waits no less when one signal takes effect. -/
theorem presses_take (sound : kernel.processes.Sound) (self number : Nat) :
    Presses [] kernel (kernel.take self number) := by
  -- A signal to nobody, or to one who has ended, has no effect.
  rw [take]
  split
  · exact .refl kernel
  · split
    · exact .refl kernel
    · -- Whatever a signal does after waking the process, it takes nothing away.
      have woken : Presses [] kernel (if Signal.meaning number = .resumes then
            kernel.update self fun known => { known with stopped := false } else kernel) ∧
          (if Signal.meaning number = .resumes then
            kernel.update self fun known => { known with stopped := false } else kernel).processes.Sound := by
        split
        · exact ⟨.update (.refl kernel) fun _ lives => ⟨lives, fun _ => id⟩, sound_update sound self _⟩
        · exact ⟨.refl kernel, sound⟩
      revert woken
      dsimp only
      generalize (if Signal.meaning number = .resumes then
        kernel.update self fun known => { known with stopped := false } else kernel) = awake
      rintro ⟨woken, sound⟩
      repeat' split
      all_goals first
        | exact woken
        | exact woken.trans (presses_finish sound self _)
        | exact woken.update fun _ lives => ⟨lives, fun _ => id⟩

/-- What waits for others waits no less when signals take effect. -/
theorem presses_takeAll (sound : kernel.processes.Sound) (self : Nat) :
    Presses [self] kernel (kernel.takeAll self) := by
  rw [takeAll]
  split
  · exact .refl kernel
  · split
    · exact .refl kernel
    · -- Only what waited for the process itself is taken away, before the signals take effect one by one.
      have all (numbers : List Nat) (reached : Kernel) (sound : reached.processes.Sound) :
          Presses [] reached (numbers.foldl (fun reached number => reached.take self number) reached) := by
        induction numbers generalizing reached with
        | nil => exact .refl reached
        | cons number rest ih =>
          exact (presses_take sound self number).trans (ih _ ((felt_take sound self number).sound sound))
      refine Presses.trans ?_ ((all _ _ (sound_update sound self _)).mono (List.nil_subset _))
      -- Others are looked up where they were.
      refine ⟨Nat.le_refl _, fun who other _ late found live => ?_⟩
      rw [process?, Kernel.update, Registry.get?_modify] at found
      obtain ⟨early, known, rfl⟩ := Option.map_eq_some_iff.mp found
      rw [if_neg (List.ne_of_not_mem_cons other)] at live ⊢
      exact ⟨early, known, live, fun _ => id⟩

/-- Letting a process have an open file takes nothing from what waits for anybody. -/
theorem presses_grant {fd : Nat} {file : OpenFile} {closeOnExec : Bool}
    (granted : kernel.grant who file closeOnExec = .ok (fd, after)) : Presses [] kernel after := by
  rw [grant] at granted
  split at granted
  · cases granted
  · dsimp only [Registry.add] at granted
    split at granted
    · cases granted
    · cases granted
      -- The open file is added first, and then put into the table.
      have added : Presses [] kernel { kernel with opens := (kernel.opens.add file).2 } := .of_processes rfl
      exact added.update fun _ lives => ⟨lives, fun _ => id⟩

/-- Answering an opening takes nothing from what waits for anybody. -/
theorem presses_opened {middle : Kernel} (presses : Presses [] kernel middle) (place : Place) (access : Access)
    (closeOnExec : Bool) : Presses [] kernel (middle.opened who place access closeOnExec).kernel := by
  rw [opened]
  -- Where there is no free number nothing is granted.
  split
  · exact presses
  · exact presses.trans (presses_grant ‹_›)

/-- Opening a file takes nothing from what waits for anybody. -/
theorem presses_openPath (kernel : Kernel) (who : Nat) (path : Bytes) (access : Access) (closeOnExec : Bool) :
    Presses [] kernel (kernel.openPath who path access closeOnExec).kernel := by
  -- Beside files and pipes at most the opening changes that the process itself waits for.
  simp only [openPath, openPlace, openChannel]
  repeat' split
  all_goals first
    | exact .refl kernel
    | exact .update (.of_processes rfl) fun _ lives => ⟨lives, fun _ => id⟩
    | refine presses_opened ?_ _ _ _
  all_goals first
    | exact .of_processes rfl
    | exact .update (.refl kernel) fun _ lives => ⟨lives, fun _ => id⟩

/-- A change that takes nothing from what waits for anybody does so as a turn. -/
theorem presses_done {result : Except Errno Kernel} (presses : ∀ after, result = .ok after → Presses [] kernel after) :
    Presses [] kernel (kernel.done result).kernel := by
  cases result with
  | error errno => exact .refl kernel
  | ok after => exact presses after rfl

/-- Writing takes nothing from what waits for anybody. -/
theorem presses_write (kernel : Kernel) (self fd : Nat) (data : Bytes) :
    Presses [] kernel (kernel.write self fd data).kernel := by
  simp only [write, writeFile, writeChannel]
  -- At most the writer gets a signal more.
  repeat' split
  all_goals first
    | exact .of_processes rfl
    | exact .update (.refl kernel) fun _ lives => ⟨lives, List.subset_append_left _ _⟩

/-- Reading takes nothing from what waits for anybody. -/
theorem presses_read (kernel : Kernel) (self fd count : Nat) :
    Presses [] kernel (kernel.read self fd count).kernel := by
  -- No end of a reading touches a process.
  simp only [read, readFile, readChannel]
  repeat' split
  all_goals exact .of_processes rfl

/-- One signal more waits for a process, or it waited before. -/
theorem subset_withSignal (signals : List Nat) (number : Nat) : signals ⊆ withSignal signals number := by
  rw [withSignal]
  split
  · exact fun _ => id
  · exact List.subset_append_left _ _

/-- The signal itself waits then. -/
theorem mem_withSignal (signals : List Nat) (number : Nat) : number ∈ withSignal signals number := by
  rw [withSignal]
  -- It waits already, or comes last.
  split
  · rename_i listed
    exact List.contains_iff_mem.mp listed
  · exact List.mem_append_right _ List.mem_cons_self

/-- A signal that is sent waits with all others. -/
theorem presses_signal {process number : Nat} (sent : kernel.signal process number = .ok after) :
    Presses [] kernel after := by
  rw [signal] at sent
  -- The signal is added to those that wait, if it is sent to anybody who lives.
  repeat' split at sent
  all_goals cases sent
  all_goals first
    | exact .refl kernel
    | exact .update (.refl kernel) fun _ lives => ⟨lives, subset_withSignal _ _⟩

/-- A signal that is sent to a group waits with all others. -/
theorem presses_signalGroup {leader number : Nat} (sent : kernel.signalGroup who leader number = .ok after) :
    Presses [] kernel after := by
  -- Member by member one signal more waits.
  have all (members : List (Nat × Process)) (reached : Kernel) : Presses [] reached
      (members.foldl (fun reached entry =>
        if entry.2.isLive then
          reached.update entry.1 fun target => { target with pending := withSignal target.pending number }
        else reached) reached) := by
    induction members generalizing reached with
    | nil => exact .refl reached
    | cons entry rest ih =>
      rw [List.foldl_cons]
      refine Presses.trans ?_ (ih _)
      split
      · exact .update (.refl reached) fun _ lives => ⟨lives, subset_withSignal _ _⟩
      · exact .refl reached
  -- Nothing is sent if there is no such group, or if the signal is zero.
  simp only [signalGroup] at sent
  repeat' split at sent
  all_goals cases sent
  all_goals first | exact .refl kernel | exact all _ kernel

/-- A process that is started has a number that nobody had. -/
theorem presses_fork {child : Nat} (forked : kernel.fork who = some (child, after)) : Presses [] kernel after := by
  obtain ⟨process, -, same⟩ := Option.map_eq_some_iff.mp forked
  obtain ⟨-, same⟩ := Prod.mk.inj same
  subst same
  refine ⟨Nat.le_succ _, fun any _ old late found live => ?_⟩
  have seen := (Registry.get?_add kernel.processes _ any).symm.trans found
  -- Whoever was there before is there as he was.
  rw [if_neg (Nat.ne_of_lt old)] at seen
  exact ⟨late, seen, live, fun _ => id⟩

/-- Taking the status of a process takes nothing from what waits for others. -/
theorem presses_reap {child : Option Nat} {taken : Nat × WaitStatus}
    (reaped : kernel.reap who child = .ok (some (taken, after))) : Presses [] kernel after := by
  -- If somebody's status is taken, he is removed.
  simp only [reap] at reaped
  repeat' split at reaped
  all_goals cases reaped
  all_goals exact .of_without kernel _

/-- Following an order takes nothing from what waits for anybody. -/
theorem presses_follow (order : Order) : Presses [] kernel (kernel.follow who order).kernel := by
  -- At each end of the walk somebody's entry is changed in what has nothing to do with signals, or is taken out.
  simp only [follow]
  repeat' split
  all_goals first
    | exact .refl kernel
    | exact .update (.refl kernel) fun _ lives => ⟨lives, fun _ => id⟩
    | exact .update (.of_without kernel _) fun _ lives => ⟨lives, fun _ => id⟩
    | exact .update (.update (presses_fork ‹_›) fun _ lives => ⟨lives, fun _ => id⟩) fun _ lives =>
        ⟨lives, fun _ => id⟩

/-- Setting what a process has open takes nothing from what waits for anybody. -/
theorem presses_setTable (table : Table) : Presses [] kernel (kernel.setTable who table) :=
  .update (.refl kernel) fun _ lives => ⟨lives, fun _ => id⟩

/-- A change of what a process has open takes nothing from what waits for anybody. -/
theorem presses_withTable (change : Table → Except Errno Table) :
    Presses [] kernel (kernel.done (kernel.withTable who change)).kernel := by
  refine presses_done fun after changed => ?_
  -- There is one way to succeed, which sets the table.
  rw [withTable] at changed
  repeat' split at changed
  all_goals cases changed
  exact presses_setTable _

/-- Making a pipe takes nothing from what waits for anybody. -/
theorem presses_makePipe {ends : Nat × Nat} (made : kernel.makePipe who = .ok (ends, after)) :
    Presses [] kernel after := by
  simp only [makePipe] at made
  split at made
  · cases made
  · rename_i first reading granted
    split at made
    · cases made
    · rename_i second both granted'
      cases made
      -- Two ends are granted, one after the other.
      have piped : Presses [] kernel { kernel with
          channels := (kernel.channels.add { readerOpens := 1, writerOpens := 1 }).2 } := .of_processes rfl
      exact (piped.trans (presses_grant granted)).trans (presses_grant granted')

/-- A rest that begins or goes on takes nothing from what waits for anybody. -/
theorem presses_rests {micros : Nat} (resting : kernel.rests who micros = some after) : Presses [] kernel after := by
  -- A rest sets an alarm or leaves everything as it is.
  rw [rests] at resting
  repeat' split at resting
  all_goals cases resting
  all_goals first
    | exact .refl kernel
    | exact .update (.refl kernel) fun _ lives => ⟨lives, fun _ => id⟩

/-- Making something changes no process. -/
theorem processes_plantNovelty (kernel : Kernel) (directory : Nat) (name : Bytes) (novelty : Novelty) (mode : Nat) :
    (kernel.plantNovelty directory name novelty mode).processes = kernel.processes := by
  cases novelty <;> rfl

/-- What a process asks takes nothing from what waits for anybody. -/
theorem presses_attend (sound : kernel.processes.Sound) (who : Nat) (wanted : Call) :
    Presses [] kernel (kernel.attend who wanted).kernel := by
  cases wanted with
  | pipe =>
    show Presses [] kernel (kernel.gained (kernel.makePipe who)).kernel
    cases made : kernel.makePipe who with
    | error errno => exact .refl kernel
    | ok result => exact presses_makePipe made
  | openFile path access closeOnExec =>
    have presses := presses_openPath kernel who path access closeOnExec
    simp only [attend]
    revert presses
    cases kernel.openPath who path access closeOnExec <;> exact id
  | close | duplicateTo | setCloseOnExec => exact presses_withTable _
  | read fd count =>
    have presses := presses_read kernel who fd count
    simp only [attend]
    revert presses
    cases kernel.read who fd count <;> exact id
  | write fd data =>
    have presses := presses_write kernel who fd data
    simp only [attend]
    revert presses
    cases kernel.write who fd data <;> exact id
  | goBack | create | setMode | remove | removeDirectory | rename | link =>
    -- Names and places in files are no matter of processes.
    refine presses_done fun after changed => .of_processes ?_
    simp only [goBack, Kernel.create, Kernel.setMode, Kernel.remove, Kernel.rename, Kernel.link] at changed
    repeat' split at changed
    all_goals cases changed
    all_goals first | rfl | exact kernel.processes_plantNovelty _ _ _ _
  -- The calls that do something about signals or processes are told apart; all others change one process at most.
  | signal => exact presses_done fun _ => presses_signal
  | signalGroup => exact presses_done fun _ => presses_signalGroup
  | spawn order => exact presses_follow order
  | giveUp cause =>
    simp only [attend]
    refine Presses.trans ?_ (presses_finish (sound_update sound who _) who _)
    exact .update (.refl kernel) fun _ lives => ⟨lives, fun _ => id⟩
  | fork =>
    simp only [attend]
    split
    · exact .refl kernel
    · exact presses_fork ‹_›
  | reap child wait =>
    simp only [attend]
    repeat' split
    all_goals first | exact .refl kernel | exact presses_reap ‹_›
  | _ =>
    simp only [attend, awaitHangUp]
    repeat' split
    all_goals first
      | exact .refl kernel
      | exact .update (.refl kernel) fun _ lives => ⟨lives, fun _ => id⟩
      | exact presses_rests ‹_›

/-- A turn takes nothing from what waits for others. -/
theorem presses_turn (sound : kernel.processes.Sound) (who : Nat) (wanted : Call) :
    Presses [who] kernel (kernel.turn who wanted).kernel := by
  -- Signals are felt, then the call is attended to, then it is noted at most that the process waits.
  have felt := presses_takeAll sound who
  have attended := felt.trans
    ((presses_attend ((felt_takeAll sound who).sound sound) who wanted).mono (List.nil_subset _))
  simp only [turn]
  split
  · exact felt
  · split
    · exact felt
    · split
      · exact felt
      · split
        · rename_i waits
          -- Only a call that waits can be broken off, or be noted to wait.
          rw [waits] at attended
          repeat' split
          all_goals first
            | exact attended
            | exact attended.update fun _ lives => ⟨lives, fun _ => id⟩
        · exact attended

/-- A process is not there or has ended, or is about to: a signal waits for it that kills it. -/
def Doomed (kernel : Kernel) (who : Nat) : Prop :=
  ∀ process, kernel.process? who = some process → process.isLive = true → Signal.kill ∈ process.pending

/-- A process is not there or has ended. -/
def Dead (kernel : Kernel) (who : Nat) : Prop :=
  ∀ process, kernel.process? who = some process → process.isLive = false

/-- Who is dead is doomed. -/
theorem Dead.doomed (dead : kernel.Dead who) : kernel.Doomed who := by
  -- Whoever is dead is not alive.
  intro process found live
  rw [dead process found] at live
  cases live

/-- Who is doomed stays so whatever others do. -/
theorem Doomed.presses {apart : List Nat} (doomed : kernel.Doomed who) (presses : Presses apart kernel after)
    (other : who ∉ apart) (old : who < kernel.processes.next) : after.Doomed who := by
  intro late found live
  -- If he is alive afterwards he was before, and what waited for him waits still.
  obtain ⟨early, known, lived, fewer⟩ := presses.presses who other old late found live
  exact fewer (doomed early known lived)

/-- Who is dead stays so whatever signal takes effect. -/
theorem Dead.take (dead : kernel.Dead who) (number : Nat) : (kernel.take who number).Dead who := by
  intro process found
  -- Who is not there or has ended feels nothing.
  rw [Kernel.take] at found
  split at found
  · rename_i absent
    rw [absent] at found
    cases found
  · rename_i known there
    simp only [dead known there, Bool.not_false, if_true] at found
    exact dead process found

/-- Who is dead stays so whatever signals take effect. -/
theorem Dead.takes (dead : kernel.Dead who) (numbers : List Nat) :
    (numbers.foldl (fun reached number => reached.take who number) kernel).Dead who := by
  induction numbers generalizing kernel with
  | nil => exact dead
  | cons number rest ih => exact ih (dead.take number)

/-- Who has taken leave is dead. -/
theorem Gone.dead (gone : Gone kernel who) : kernel.Dead who :=
  fun process found => (gone process.station (station?_of_process? found)).1

/-- The killing signal kills. -/
theorem dead_take_kill (sound : kernel.processes.Sound) (who : Nat) : (kernel.take who Signal.kill).Dead who := by
  have ends : Signal.meaning Signal.kill = .ends := by decide
  -- He is not there, or has ended before, or ends now.
  cases found : kernel.process? who with
  | none =>
    rw [Kernel.take, found]
    intro process there
    rw [found] at there
    cases there
  | some process =>
    cases live : process.isLive with
    | false =>
      rw [Kernel.take, found]
      simp only [live, Bool.not_false, if_true]
      intro other there
      cases found.symm.trans there
      exact live
    | true =>
      -- No process can choose what it does about this signal.
      have usual : process.action Signal.kill = .standard := rfl
      have taken : kernel.take who Signal.kill = kernel.finish who (.ofSignal Signal.kill) := by
        simp [Kernel.take, found, live, usual, ends]
      rw [taken]
      exact (felt_finish sound found live _).2.dead

/-- Who feels the killing signal among others is dead then. -/
theorem dead_takes_kill {numbers : List Nat} (sound : kernel.processes.Sound) (listed : Signal.kill ∈ numbers) :
    (numbers.foldl (fun reached number => reached.take who number) kernel).Dead who := by
  -- The signals before it may do anything; those after it find a dead process.
  induction numbers generalizing kernel with
  | nil => cases listed
  | cons number rest ih =>
    rcases List.mem_cons.mp listed with rfl | later
    · exact (dead_take_kill sound who).takes rest
    · exact ih ((felt_take sound who number).sound sound) later

/-- Who is doomed is dead once the signals that wait for him have taken effect. -/
theorem Doomed.dead (doomed : kernel.Doomed who) (sound : kernel.processes.Sound) : (kernel.takeAll who).Dead who := by
  rw [takeAll]
  split
  · rename_i absent
    intro process found
    rw [absent] at found
    cases found
  · rename_i process found
    split
    · rename_i none
      intro other there
      cases found.symm.trans there
      -- Nothing waits for him, so that he cannot live.
      cases live : process.isLive with
      | false => rfl
      | true =>
        have waits := doomed process found live
        rw [List.isEmpty_iff.mp none] at waits
        cases waits
    · cases live : process.isLive with
      | true =>
        -- The killing signal is among those that are felt, even by one who is stopped.
        refine dead_takes_kill (sound_update sound who _) (List.mem_filter.mpr ⟨doomed process found live, ?_⟩)
        simp
      | false =>
        -- He has ended, and no signal brings him back.
        refine Dead.takes (fun other there => ?_) _
        rw [process?_update found] at there
        cases there
        exact live

/-- Who is doomed is no more when he has his next turn, whatever he asks for. -/
theorem Doomed.turn (doomed : kernel.Doomed who) (sound : kernel.processes.Sound) (wanted : Call) :
    kernel.turn who wanted = .gone (kernel.takeAll who) := by
  -- Signals are felt before anything is asked.
  have dead := doomed.dead sound
  simp only [Kernel.turn]
  split
  · rfl
  · rename_i process found
    simp only [dead process found, Bool.not_false, if_true]

/-- Who is doomed stays so whoever has his turn. -/
theorem Doomed.may (doomed : kernel.Doomed who) (sound : kernel.processes.Sound) (old : who < kernel.processes.next)
    {other : Nat} {wanted : Call} {turn : Turn wanted.Answer} (may : kernel.May other wanted turn) :
    turn.kernel.Doomed who := by
  cases may with
  | refused => exact doomed
  | heard =>
    -- In his own turn he dies, and in another's the signal goes on to wait.
    by_cases own : who = other
    · subst own
      rw [doomed.turn sound wanted]
      exact (doomed.dead sound).doomed
    · exact doomed.presses (presses_turn sound other wanted) (by simpa using own) old

/-- Who is dead stays so whoever ends. -/
theorem Dead.finish (dead : kernel.Dead who) (status : WaitStatus) : (kernel.finish who status).Dead who := by
  -- Whoever ends is not there, or lives; who is dead then is left alone.
  rw [Kernel.finish]
  split
  · exact dead
  · rename_i process found
    simp only [dead process found, Bool.not_false, if_true]
    exact dead

/-- Who is doomed stays so whoever ends. -/
theorem Doomed.ended (doomed : kernel.Doomed who) (sound : kernel.processes.Sound) (old : who < kernel.processes.next)
    (other : Nat) (status : WaitStatus) : ((kernel.takeAll other).finish other status).Doomed who := by
  by_cases own : who = other
  · subst own
    exact ((doomed.dead sound).finish status).doomed
  · have felt := (felt_takeAll sound other).sound sound
    -- Another's end takes nothing from what waits for him.
    have presses := (presses_takeAll sound other).trans
      ((presses_finish felt other status).mono (List.nil_subset [other]))
    exact doomed.presses presses (by simpa using own) old

/-- A process that another has sent the killing signal to is doomed. -/
theorem doomed_of_kill {target : Nat} {answer : Except Errno Unit}
    (killed : kernel.turn who (.signal target Signal.kill) = .answered answer after) : after.Doomed target := by
  -- The call was attended to, for sending a signal is never broken off.
  obtain ⟨-, sent | ⟨host, -, broken, -⟩⟩ := answered_cases killed
  · -- The target is not there, or has ended, or lives and has the signal waiting for it.
    generalize kernel.takeAll who = felt at sent
    have bound : ¬ Signal.highest < Signal.kill := by decide
    have real : (Signal.kill = 0) = False := by decide
    cases found : felt.process? target with
    | none =>
      simp only [attend, signal, if_neg bound, found, done] at sent
      cases sent
      intro process there
      rw [found] at there
      cases there
    | some process =>
      simp only [attend, signal, if_neg bound, found, real, decide_false, Bool.false_or] at sent
      cases live : process.isLive with
      | false =>
        simp only [live, Bool.not_false, if_true, done] at sent
        cases sent
        intro other there
        cases found.symm.trans there
        rw [live]
        exact fun lives => absurd lives Bool.false_ne_true
      | true =>
        simp only [live, Bool.not_true, Bool.false_eq_true, if_false, done] at sent
        cases sent
        intro other there _
        rw [process?_update found] at there
        cases there
        exact mem_withSignal process.pending Signal.kill
  · cases broken

end Umpire.Host.Kernel
