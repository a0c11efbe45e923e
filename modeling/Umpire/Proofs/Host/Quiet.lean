import Umpire.Proofs.Host.Station

/-! Calls that no station shows: reading, writing, names and signals. -/

namespace Umpire.Host

/-- The kernel after a reply. -/
def Reply.kernel {α : Type} : Reply α → Kernel
  | .answer _ kernel => kernel
  | .later kernel => kernel

namespace Kernel

/-- A signal that is sent shows in no station. -/
theorem same_signal {kernel after : Kernel} {process number : Nat}
    (sent : kernel.signal process number = .ok after) : Same kernel after := by
  rw [signal] at sent
  -- A sending that succeeds found its process and a number that is a signal's, and at most makes the signal pending.
  split at sent
  · cases sent
  · split at sent
    · cases sent
    · split at sent
      · cases sent
        exact .refl kernel
      · cases sent
        exact .of_update kernel process fun _ => rfl

/-- A signal that is sent to several processes in turn shows in no station. -/
theorem same_signalAll (members : List (Nat × Process)) (number : Nat) (kernel : Kernel) :
    Same kernel (members.foldl (fun reached entry =>
      if entry.2.isLive then
        reached.update entry.1 fun target => { target with pending := withSignal target.pending number }
      else reached) kernel) := by
  -- One member after the other, each after what was done to those before it.
  induction members generalizing kernel with
  | nil => exact .refl kernel
  | cons entry rest ih =>
    rw [List.foldl_cons]
    refine Same.trans ?_ (ih _)
    split
    · exact .of_update kernel entry.1 fun _ => rfl
    · exact .refl kernel

/-- A signal that is sent to a group shows in no station. -/
theorem same_signalGroup {kernel after : Kernel} {self leader number : Nat}
    (sent : kernel.signalGroup self leader number = .ok after) : Same kernel after := by
  simp only [signalGroup] at sent
  -- Who the members are does not matter.
  generalize List.filter _ kernel.processes.entries = members at sent
  split at sent
  · cases sent
  · split at sent
    · cases sent
    · split at sent
      · cases sent
        exact .refl kernel
      · cases sent
        exact same_signalAll members number kernel

/-- One signal takes effect. -/
theorem felt_take {kernel : Kernel} (sound : kernel.processes.Sound) (self number : Nat) :
    Felt self kernel (kernel.take self number) := by
  rw [take]
  split
  · exact .of_same (.refl kernel)
  · rename_i process found
    split
    · exact .of_same (.refl kernel)
    · rename_i live
      simp only [Bool.not_eq_true, Bool.not_eq_false'] at live
      have woken : Same kernel (if Signal.meaning number = .resumes then
          kernel.update self fun known => { known with stopped := false } else kernel) := by
        split
        · exact .of_update kernel self fun _ => rfl
        · exact .refl kernel
      -- What a signal does beyond waking is looked at for any kernel that shows what this one does.
      revert woken
      dsimp only
      generalize (if Signal.meaning number = .resumes then
        kernel.update self fun known => { known with stopped := false } else kernel) = awake
      intro woken
      split
      · exact .of_same woken
      · exact .of_same (woken.trans (.of_update awake self fun _ => rfl))
      · split
        · -- Whatever is done about being stopped, the process is there and lives.
          have there := woken.stations self
          rw [station?_of_process? found] at there
          obtain ⟨known, found', same⟩ := Option.map_eq_some_iff.mp there
          have living : known.isLive = true := by
            have := congrArg Station.live same
            exact this.trans live
          exact (Felt.of_same woken).trans (felt_finish (woken.sound sound) found' living _).1
        · exact .of_same (woken.trans (.of_update awake self fun _ => rfl))
        · exact .of_same woken
        · exact .of_same woken

/-- All signals that a process feels take effect. -/
theorem felt_takeAll {kernel : Kernel} (sound : kernel.processes.Sound) (self : Nat) :
    Felt self kernel (kernel.takeAll self) := by
  rw [takeAll]
  split
  · exact .of_same (.refl kernel)
  · rename_i process found
    split
    · exact .of_same (.refl kernel)
    · dsimp only
      generalize List.filter _ process.pending = felt
      -- To take the signals from those that wait shows in no station.
      have spared : Felt self kernel (kernel.update self fun known => { known with
          pending := known.pending.filter fun number => !(!process.stopped ||
            number == Signal.kill || Signal.meaning number == .resumes) }) :=
        .of_same (.of_update kernel self fun _ => rfl)
      revert spared
      generalize kernel.update self _ = reached
      intro spared
      -- Each signal is felt by the kernel that those before it have left.
      induction felt generalizing reached with
      | nil => exact spared
      | cons number rest ih =>
        rw [List.foldl_cons]
        exact ih _ (spared.trans (felt_take (spared.sound sound) self number))

variable (kernel : Kernel)

/-- Moving on in an open file shows in no station. -/
theorem same_advance (number offset : Nat) : Same kernel (kernel.advance number offset) :=
  .of_processes rfl rfl

/-- Changing a pipe shows in no station. -/
theorem same_updateChannel (channel : Nat) (change : Channel → Channel) :
    Same kernel (kernel.updateChannel channel change) :=
  .of_processes rfl rfl

/-- Reading from a pipe shows in no station. -/
theorem same_readChannel (channel count : Nat) : Same kernel (kernel.readChannel channel count).kernel := by
  rw [readChannel]
  -- Bytes are taken out of the pipe, or there are none and nothing is done.
  repeat' split
  all_goals first | exact .refl kernel | exact kernel.same_updateChannel channel _

/-- Reading shows in no station. -/
theorem same_read (self fd count : Nat) : Same kernel (kernel.read self fd count).kernel := by
  -- Without a descriptor for reading there is nothing to do.
  rw [read]
  split
  · exact .refl kernel
  · split
    · exact .refl kernel
    · split
      · exact .refl kernel
      · -- The file is a pipe, has contents through which the descriptor moves on, or is no file to read.
        rw [readFile]
        split
        · exact kernel.same_readChannel _ count
        · split
          · split
            all_goals first | exact .refl kernel | exact kernel.same_advance _ _
          · exact kernel.same_advance _ _
          · exact .refl kernel

/-- Writing to a pipe shows in no station, even if nobody can read it. -/
theorem same_writeChannel (self channel : Nat) (data : Bytes) :
    Same kernel (kernel.writeChannel self channel data).kernel := by
  rw [writeChannel]
  -- Where nobody can read any more, the writer gets a signal, which is pending only.
  split
  · exact .of_update kernel self fun _ => rfl
  · split
    · exact .refl kernel
    · -- What has room is put into the pipe.
      dsimp only
      split
      · exact .refl kernel
      · exact kernel.same_updateChannel channel _

/-- Writing shows in no station. -/
theorem same_write (self fd : Nat) (data : Bytes) : Same kernel (kernel.write self fd data).kernel := by
  -- Without a descriptor for writing there is nothing to do.
  rw [write]
  split
  · exact .refl kernel
  · split
    · exact .refl kernel
    · split
      · exact .refl kernel
      · -- The file is a pipe, has contents that change, or is no file to write.
        rw [writeFile]
        split
        · exact kernel.same_writeChannel self _ data
        · split
          · split
            · exact .of_processes rfl rfl
            · exact .refl kernel
            · exact .refl kernel
          · exact .refl kernel

variable {kernel} {after : Kernel} {self : Nat}

/-- Going back in an open file shows in no station. -/
theorem same_goBack {fd count : Nat} (gone : kernel.goBack self fd count = .ok after) :
    Same kernel after := by
  -- If it succeeds it moves the position of an open file.
  rw [goBack] at gone
  split at gone
  · cases gone
  · split at gone
    · cases gone
    · cases gone
      exact kernel.same_advance _ _

/-- Making something shows in no station. -/
theorem same_plantNovelty (directory : Nat) (name : Bytes) (novelty : Novelty) (mode : Nat) :
    Same kernel (kernel.plantNovelty directory name novelty mode) := by
  cases novelty <;> exact .of_processes rfl rfl

/-- Making something at a path shows in no station. -/
theorem same_create {path : Bytes} {novelty : Novelty} {mode : Nat}
    (made : kernel.create self path novelty mode = .ok after) : Same kernel after := by
  -- Where it does not fail it plants a node, which no station shows.
  rw [create] at made
  split at made
  · cases made
  · split at made
    · cases made
    · split at made
      · cases made
      · cases made
        exact same_plantNovelty _ _ novelty _

/-- Setting permission bits shows in no station. -/
theorem same_setMode {path : Bytes} {mode : Nat} (set : kernel.setMode self path mode = .ok after) :
    Same kernel after := by
  -- Only the bits of a node are set.
  rw [setMode] at set
  split at set
  · cases set
  · cases set
    exact .of_processes rfl rfl
  · cases set

/-- Removing a name shows in no station. -/
theorem same_remove {path : Bytes} {directories : Bool}
    (removed : kernel.remove self path directories = .ok after) : Same kernel after := by
  simp only [remove] at removed
  -- Each of the checks ends in an error or leads to the one place where a name is taken out.
  repeat' split at removed
  all_goals first | cases removed; done | (cases removed; exact .of_processes rfl rfl)

/-- A second name shows in no station. -/
theorem same_link {path target : Bytes} (linked : kernel.link self path target = .ok after) :
    Same kernel after := by
  rw [link] at linked
  -- As for a removal, there is one place behind all checks where the name is put in.
  repeat' split at linked
  all_goals first | cases linked; done | (cases linked; exact .of_processes rfl rfl)

/-- Moving a node shows in no station. -/
theorem same_rename {path target : Bytes} (moved : kernel.rename self path target = .ok after) :
    Same kernel after := by
  simp only [rename] at moved
  -- A node that is moved to where it is stays; for any other there is one place behind all checks.
  repeat' split at moved
  all_goals first
    | cases moved; done
    | (cases moved; first | exact .refl kernel | exact .of_processes rfl rfl)

end Kernel

end Umpire.Host
