import Mathlib.Order.Defs.LinearOrder
import Umpire.Proofs.Host.Lasting

/-! Opening files: where an open file is that a process is granted, and which openings have to wait. -/

namespace Umpire.Host.Kernel

/-- Where something stands that could be made, it is what the path leads to. -/
theorem walk_target {kernel : Kernel} {who budget : Nat} {place found : Place} {names : List Bytes}
    (leads : kernel.walk who .creation budget place names = .ok (.here found)) :
    kernel.walk who .target budget place names = .ok (.here found) := by
  generalize aimed : Aim.creation = aim at leads
  -- Both walks take the same way, except that one of them may refuse to go on.
  induction budget, place, names using walk.induct kernel who aim with
  | _ =>
    -- One step of either walk, which differ only in what they do when a name is missing.
    subst aimed
    rw [walk.eq_def] at leads ⊢
    simp_all [-Nat.not_lt, -not_lt] <;>
      · rename_i goes
        exact goes leads

/-- What is opened is what the path leads to. -/
theorem locate_target {kernel : Kernel} {who : Nat} {path : Bytes} {create : Bool} {place : Place}
    (found : kernel.locate who path (if create then .creation else .target) = .ok (.here place)) :
    kernel.locate who path .target = .ok (.here place) := by
  cases create with
  | false => exact found
  | true =>
    rw [locate] at found ⊢
    -- Both look at the path before they walk, and refuse the same ones.
    split at found
    · cases found
    · split at found
      · cases found
      · rename_i full short
        rw [if_neg full, if_neg short]
        exact walk_target found

/-- What comes of opening the file at a path: an open file where the path leads, a refusal, or a wait for the other
end of a named pipe, to which the path leads. -/
def Opened (kernel : Kernel) (who : Nat) (path : Bytes) (access : Access) : Reply (Except Errno Nat) → Prop
  -- Only an opening that makes no file has to lead somewhere beforehand.
  | .answer (.ok _) after => Lasts [] kernel after ∧
      (access.create = false → ∃ place, kernel.locate who path .target = .ok (.here place) ∧
        after.seat? kernel.opens.next = some (place, access))
  | .answer (.error _) after => Lasts [] kernel after
  | .later after => Lasts [who] kernel after ∧
      (kernel.opening? who = none → ∃ number channel, kernel.locate who path .target = .ok (.here (.node number)) ∧
        kernel.channelOf (.node number) = some channel ∧ kernel.mustWait channel access = true)

section Opening

variable {kernel middle : Kernel} {who : Nat} {path : Bytes} {place : Place} {access : Access} {closeOnExec : Bool}

/-- A file that is opened where the path leads is there. -/
theorem opened_opened (lasts : Lasts [] kernel middle) (next : middle.opens.next = kernel.opens.next)
    (found : access.create = false → kernel.locate who path .target = .ok (.here place)) :
    Opened kernel who path access (middle.opened who place access closeOnExec) := by
  rw [opened]
  -- The new file is added and granted, or the table is full.
  split
  · exact lasts
  · obtain ⟨lasts', seat⟩ := lasts_grant ‹_›
    exact ⟨lasts.trans lasts', fun plain => ⟨place, found plain, next ▸ seat⟩⟩

/-- Opening an end of a named pipe comes out as opening a file does whose path leads there. -/
theorem opened_openChannel {number channel : Nat} (found : kernel.locate who path .target = .ok (.here (.node number)))
    (named : kernel.channelOf (.node number) = some channel) :
    Opened kernel who path access (kernel.openChannel who channel (.node number) access closeOnExec) := by
  simp only [openChannel]
  -- An opening that waits is taken up where it was left, and any other begins to count.
  split
  · rename_i opening waits
    split
    · refine ⟨.refl kernel, fun idle => ?_⟩
      rw [show kernel.opening? who = some opening from waits] at idle
      cases idle
    · exact opened_opened (.settle (.refl kernel) fun _ => rfl) rfl fun _ => found
  · -- Counting ends shows only in the channel.
    have counted (change : Channel → Channel) : Lasts [] kernel (kernel.updateChannel channel change) :=
      .of_parts rfl rfl
    split
    · rename_i waits
      refine ⟨(counted _).update_self, fun _ => ?_⟩
      exact ⟨number, channel, found, named, waits⟩
    · exact opened_opened (counted _) rfl fun _ => found

/-- Opening what a place holds comes out as opening a file does whose path leads there. -/
theorem opened_openPlace (found : kernel.locate who path .target = .ok (.here place)) :
    Opened kernel who path access (kernel.openPlace who place access closeOnExec) := by
  have refused : Lasts [] kernel kernel := .refl kernel
  have plain : Opened kernel who path access (kernel.opened who place access closeOnExec) :=
    opened_opened refused rfl fun _ => found
  -- Only a node may be a named pipe, where an opening can have to wait.
  cases place with
  | node number =>
    simp only [openPlace]
    cases named : kernel.channelOf (.node number) with
    | some channel => exact opened_openChannel found named
    | none =>
      dsimp only
      split
      · exact refused
      · refine opened_opened ?_ ?_ fun _ => found
        all_goals split <;> first | rfl | exact .of_parts rfl rfl
  | channel number => exact plain
  | processes | process | descriptors | descriptor | workplace | account =>
    simp only [openPlace, channelOf]
    split
    · exact refused
    · exact plain

/-- Opening the file at a path. -/
theorem opened_openPath (kernel : Kernel) (who : Nat) (path : Bytes) (access : Access) (closeOnExec : Bool) :
    Opened kernel who path access (kernel.openPath who path access closeOnExec) := by
  have refused : Lasts [] kernel kernel := .refl kernel
  simp only [openPath]
  repeat' split
  all_goals try exact refused
  · rename_i found
    exact opened_openPlace (locate_target found)
  · -- What is opened was just made, and so the access was to create it.
    rename_i create
    refine opened_opened (.of_parts rfl rfl) rfl fun plain => ?_
    rw [plain] at create
    cases create

end Opening

variable {kernel after : Kernel} {who : Nat} {wanted : Call}

/-- A call leaves everything where it is, but for a process that waits for the file it opens. -/
theorem lasts_attend (sound : kernel.processes.Sound) (who : Nat) (wanted : Call) :
    Lasts (wanted.openers who) kernel (kernel.attend who wanted).kernel ∧
      ∀ value after, kernel.attend who wanted = .answered value after → Lasts [] kernel after := by
  -- Only the opening of a file can leave its caller waiting.
  by_cases plain : wanted.openers who = []
  · have lasts := lasts_plain sound who plain
    refine ⟨plain ▸ lasts, fun value after answered => ?_⟩
    rw [answered] at lasts
    exact lasts
  · cases wanted with
    | openFile path access closeOnExec =>
      have opened := opened_openPath kernel who path access closeOnExec
      simp only [attend]
      revert opened
      generalize kernel.openPath who path access closeOnExec = reply
      intro opened
      cases reply with
      | later =>
        refine ⟨opened.1, fun _ _ answered => ?_⟩
        cases answered
      | answer value after =>
        have lasts : Lasts [] kernel after := by
          cases value with
          | error errno => exact opened
          | ok fd => exact opened.1
        refine ⟨lasts.mono (List.nil_subset _), fun _ _ answered => ?_⟩
        cases answered
        exact lasts
    | _ => exact absurd rfl plain

/-- A process lives to have its turn, once its signals have taken effect. -/
def Survives (kernel : Kernel) (who : Nat) : Prop :=
  ∃ station, (kernel.takeAll who).station? who = some station ∧ station.live = true

/-- A process that lives to have its turn has the station that it had. -/
theorem Survives.station (survives : kernel.Survives who) (sound : kernel.processes.Sound) {station : Station}
    (there : kernel.station? who = some station) :
    (kernel.takeAll who).station? who = some station ∧ station.live = true := by
  obtain ⟨felt, found, live⟩ := survives
  -- Signals leave the process's station or end it, and it has not ended.
  rcases (felt_takeAll sound who).own with same | gone
  · cases there.symm.trans (same.symm.trans found)
    exact ⟨found, live⟩
  · rw [(gone felt found).1] at live
    cases live

/-- A process is answered in its turn what its call gives, or its call is broken off while it waits. -/
theorem answered_cases {value : wanted.Answer} (answered : kernel.turn who wanted = .answered value after) :
    kernel.Survives who ∧ ((kernel.takeAll who).attend who wanted = .answered value after ∨
      ∃ host, (kernel.takeAll who).attend who wanted = .waiting host ∧ brokenOff wanted = some value ∧
        after = host.update who fun known => { known with alarm := none, opening := none }) := by
  simp only [turn] at answered
  -- The process is there, lives and goes on, or it would not have been answered.
  split at answered
  · cases answered
  · rename_i process found
    split at answered
    · cases answered
    · rename_i live
      refine ⟨⟨_, station?_of_process? found, by simpa [Process.station] using live⟩, ?_⟩
      split at answered
      · cases answered
      · split at answered
        · rename_i host waits
          -- A call that waits is answered only when it is broken off.
          repeat' split at answered
          all_goals first | cases answered; done | skip
          rename_i broken
          cases answered
          exact .inr ⟨host, waits, broken, rfl⟩
        · exact .inl answered

/-- A process waits in its turn if it is stopped, or if its call waits. -/
theorem waiting_cases (waits : kernel.turn who wanted = .waiting after) :
    kernel.Survives who ∧ ((∃ process, (kernel.takeAll who).process? who = some process ∧ process.stopped = true ∧
      after = kernel.takeAll who) ∨ (kernel.takeAll who).attend who wanted = .waiting after) := by
  -- Whoever is not there, or has ended, does not wait.
  simp only [turn] at waits
  split at waits
  · cases waits
  · rename_i process found
    split at waits
    · cases waits
    · rename_i live
      refine ⟨⟨_, station?_of_process? found, by simpa [Process.station] using live⟩, ?_⟩
      -- A process that is stopped waits without its call being attended to.
      split at waits
      · rename_i stopped
        cases waits
        exact .inl ⟨process, found, stopped, rfl⟩
      · split at waits
        · rename_i host calm
          repeat' split at waits
          all_goals first | cases waits; done | (cases waits; exact .inr calm)
        · exact .inr waits

/-- A turn leaves everything where it is, but for a process that waits for the file it opens. -/
theorem lasts_turn (sound : kernel.processes.Sound) (who : Nat) (wanted : Call) :
    Lasts (wanted.openers who) kernel (kernel.turn who wanted).kernel ∧
      ∀ value after, kernel.turn who wanted = .answered value after → Lasts [] kernel after := by
  have felt := lasts_takeAll sound who
  obtain ⟨attended, answers⟩ := lasts_attend ((felt_takeAll sound who).sound sound) who wanted
  have own : wanted.openers who ⊆ [who] := by
    cases wanted <;> simp [Call.openers]
  -- A process whose call is broken off does not wait any more.
  have broken (host : Kernel) (waits : (kernel.takeAll who).attend who wanted = .waiting host) :
      Lasts [] kernel (host.update who fun known => { known with alarm := none, opening := none }) := by
    rw [waits] at attended
    exact felt.trans ((attended.mono own).settle fun _ => rfl)
  refine ⟨?_, fun value after answered => ?_⟩
  · -- Signals first, then the call, and at last what breaks it off.
    have felt : Lasts (wanted.openers who) kernel (kernel.takeAll who) := felt.mono (List.nil_subset _)
    have attended := felt.trans attended
    simp only [turn]
    split
    · exact felt
    · split
      · exact felt
      · split
        · exact felt
        · split
          · rename_i host waits
            rw [waits] at attended
            repeat' split
            all_goals first | exact attended | exact (broken host waits).mono (List.nil_subset _)
          · exact attended
  · rcases (answered_cases answered).2 with plain | ⟨host, waits, -, rfl⟩
    · exact felt.trans (answers value after plain)
    · exact broken host waits

/-- A turn that a process can have leaves everything where it is, but for a process that waits for the file it
opens. -/
theorem lasts_may (sound : kernel.processes.Sound) {turn : Turn wanted.Answer} (may : kernel.May who wanted turn) :
    Lasts (wanted.openers who) kernel turn.kernel ∧
      ∀ value after, turn = .answered value after → Lasts [] kernel after := by
  -- A refusal changes nothing at all.
  cases may with
  | heard => exact lasts_turn sound who wanted
  | refused => exact ⟨.refl kernel, fun _ _ same => by cases same; exact .refl kernel⟩

/-- A process that ends leaves everything where it is. -/
theorem lasts_end (sound : kernel.processes.Sound) (who : Nat) (status : WaitStatus) :
    Lasts [] kernel ((kernel.takeAll who).finish who status) :=
  (lasts_takeAll sound who).trans (lasts_finish ((felt_takeAll sound who).sound sound) who status)

/-- What a process is answered in its turn without being refused is what its call gives, or its call is broken off. -/
theorem heard_cases {value : wanted.Answer} (may : kernel.May who wanted (.answered value after))
    (heard : ¬ Refusal wanted value) (whole : brokenOff wanted ≠ some value) :
    kernel.Survives who ∧ (kernel.takeAll who).attend who wanted = .answered value after := by
  -- A refusal is an answer as well, and so is what breaks a call off; neither is this one.
  generalize answered : Turn.answered _ _ = turn at may
  cases may with
  | refused refusal =>
    cases answered
    exact absurd refusal heard
  | heard =>
    obtain ⟨survives, plain | ⟨host, -, broken, -⟩⟩ := answered_cases answered.symm
    · exact ⟨survives, plain.trans answered⟩
    · exact absurd broken whole

/-- The ends of a pipe that is made in a turn are where nothing else is. -/
theorem seats_pipe (sound : kernel.processes.Sound) {readEnd writeEnd : Nat}
    (may : kernel.May who .pipe (.answered (.ok (readEnd, writeEnd)) after)) (number : Nat)
    (least : kernel.opens.next ≤ number) (most : number < kernel.opens.next + 2) :
    ∃ channel access, after.seat? number = some (.channel channel, access) := by
  -- Signals open nothing, so that the numbers are counted from the same one.
  have next := (felt_takeAll sound who).opens
  obtain ⟨-, plain⟩ := heard_cases may nofun nofun
  simp only [attend] at plain
  cases made : (kernel.takeAll who).makePipe who with
  | error errno => simp [made, gained] at plain
  | ok result =>
    obtain ⟨⟨first, second⟩, piped⟩ := result
    rw [made] at plain
    cases plain
    exact (lasts_makePipe made).2 number (next.symm ▸ least) (next.symm ▸ most)

/-- A file that is opened in a turn is where its path leads. -/
theorem seat_openFile (sound : kernel.processes.Sound) {path : Bytes} {access : Access} {closeOnExec : Bool} {fd : Nat}
    (may : kernel.May who (.openFile path access closeOnExec) (.answered (.ok fd) after))
    (old : access.create = false) : kernel.Survives who ∧
      ∃ place, (kernel.takeAll who).locate who path .target = .ok (.here place) ∧
        after.seat? kernel.opens.next = some (place, access) := by
  have next := (felt_takeAll sound who).opens
  obtain ⟨survives, plain⟩ := heard_cases may nofun nofun
  refine ⟨survives, ?_⟩
  -- The file is opened on the kernel on which the signals have been taken.
  have opened := opened_openPath (kernel.takeAll who) who path access closeOnExec
  simp only [attend] at plain
  cases reply : (kernel.takeAll who).openPath who path access closeOnExec with
  | later => simp [reply, replied] at plain
  | answer =>
    rw [reply] at plain opened
    cases plain
    exact next ▸ opened.2 old

/-- What a process is told in a turn of what a path leads to is so. -/
theorem told_info {path : Bytes} {info : Info} (may : kernel.May who (.info path true) (.answered (.ok info) after)) :
    kernel.Survives who ∧ ∃ place, (kernel.takeAll who).locate who path .target = .ok (.here place) ∧
      (kernel.takeAll who).infoOf place = .ok info := by
  obtain ⟨survives, plain⟩ := heard_cases may nofun nofun
  refine ⟨survives, ?_⟩
  simp only [attend, if_true, reach] at plain
  -- Wherever the path leads nowhere the answer would be an error.
  cases found : (kernel.takeAll who).locate who path .target with
  | error errno => simp [found] at plain
  | ok found' =>
    cases found' with
    | free directory name => simp [found] at plain
    | here place =>
      simp only [found, Turn.answered.injEq] at plain
      exact ⟨place, rfl, plain.1⟩

/-- A process that waits for the file it opens, and did not before, is stopped, or finds a named pipe whose other end
nobody holds. -/
theorem waits_openFile (sound : kernel.processes.Sound) {path : Bytes} {access : Access} {closeOnExec : Bool}
    (may : kernel.May who (.openFile path access closeOnExec) (.waiting after)) (idle : kernel.opening? who = none) :
    kernel.Survives who ∧ ((∃ process, (kernel.takeAll who).process? who = some process ∧ process.stopped = true ∧
      after = kernel.takeAll who) ∨
    ∃ number channel, (kernel.takeAll who).locate who path .target = .ok (.here (.node number)) ∧
      (kernel.takeAll who).channelOf (.node number) = some channel ∧
      (kernel.takeAll who).mustWait channel access = true) := by
  generalize waiting : Turn.waiting _ = turn at may
  -- No refusal is a waiting.
  cases may with
  | refused => cases waiting
  | heard =>
    obtain ⟨survives, how⟩ := waiting_cases waiting.symm
    refine ⟨survives, how.imp_right fun plain => ?_⟩
    have opened := opened_openPath (kernel.takeAll who) who path access closeOnExec
    simp only [attend] at plain
    -- An opening that is answered does not wait; one that does is of a pipe.
    cases reply : (kernel.takeAll who).openPath who path access closeOnExec with
    | answer => simp [reply, replied] at plain
    | later =>
      rw [reply] at opened
      exact opened.2 ((lasts_takeAll sound who).idle List.not_mem_nil idle)

end Umpire.Host.Kernel
