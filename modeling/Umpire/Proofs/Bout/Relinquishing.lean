import Umpire.Proofs.Bout.Attempt

/-! Relinquishing: a launch gives up the private write end and the ends of pipes that it is given, however it turns out.
What is left of the write end is the started process's, and a process that nobody gets a handle on is killed. -/

namespace Umpire.Bout

open Host (Call Image Kernel Slot)

/-- A process is entrusted with the write end of a pipe: it has that end under one number, and nobody has it
otherwise. It lives and waits for nobody. -/
structure Entrusted (kernel : Kernel) (caller privateEnd file channel : Nat) : Prop where
  sound : kernel.Sound
  ready : ∃ was, kernel.station? caller = some was ∧ was.live = true ∧ was.ordered = none
  held : ∃ slot, kernel.slot? caller privateEnd = some slot ∧ slot.file = file
  alone : ∀ who fd slot, kernel.slot? who fd = some slot → slot.file = file → who = caller ∧ fd = privateEnd
  seat : ∃ access, kernel.seat? file = some (.channel channel, access) ∧ access.writes = true

/-- What a launch leaves of what it was given, from the world on in which it has come to its result. -/
structure Relinquished (before : Kernel) (caller : Nat) (given : List Nat) (file channel : Nat) (world : World)
    (result : Except Fault Handle) : Prop where
  /-- The caller has closed what it was given, and has everything else as before. -/
  closed : ∀ fd, world.kernel.slot? caller fd = if fd ∈ given then none else before.slot? caller fd
  /-- It holds no copy of what it had under the given numbers only. -/
  released : ∀ gone, (∀ fd slot, before.slot? caller fd = some slot → slot.file = gone → fd ∈ given) →
    ¬ world.kernel.Holds caller gone
  /-- It has started one process at most. -/
  single : ∀ one other, (one, caller) ∈ world.births → (other, caller) ∈ world.births → one = other
  /-- Where the launch succeeds the process is the handle's. -/
  launched : ∀ handle, result = .ok handle → (handle.pid, caller) ∈ world.births
  /-- Whatever happens from then on, the write end is held by that process and what it forks only. -/
  confined : ∀ later, world.Leads later → ∀ who, later.kernel.Holds who file →
    ∃ child, (child, caller) ∈ world.births ∧ Descends later.births child who
  /-- The read end hangs up exactly when those have all closed the write end or ended, as long as nobody has opened
  the pipe anew. -/
  hangsUp : ∀ later, world.Leads later → ∀ reader fd, later.kernel.HasEnd reader fd channel →
    (later.kernel.hasHungUp reader fd = true ↔
      (∀ child who, (child, caller) ∈ world.births → Descends later.births child who →
        ¬ later.kernel.Holds who file) ∧ ¬ later.kernel.Reopened channel file)
  /-- Where the launch fails the process is killed: its next turn is its end, after which the read end has hung up
  unless a descendant was given a copy. -/
  killed : ∀ fault, result = .error fault → ∀ child, (child, caller) ∈ world.births →
    ∀ later, world.Leads later → ∀ wanted, later.kernel.turn child wanted = .gone (later.kernel.takeAll child) ∧
      ∀ reader fd, (later.kernel.takeAll child).HasEnd reader fd channel →
        ((later.kernel.takeAll child).hasHungUp reader fd = true ↔
          (∀ who, who ≠ child → Descends later.births child who → ¬ (later.kernel.takeAll child).Holds who file) ∧
            ¬ (later.kernel.takeAll child).Reopened channel file)

section Launched

variable {caller privateEnd file channel : Nat} {kernel : Kernel}
  (entrusted : Entrusted kernel caller privateEnd file channel)

include entrusted

/-- A launch stands where it begins. -/
theorem Entrusted.stands (side : Side) (contestant : Contestant) (ends : Ends) :
    Attempt.Stands caller file channel (fun result after => after.running = result.toOption.map Handle.pid ∧
        ∀ fd, after.slots fd = if fd ∈ privateEnd :: ends.toList then none else kernel.slot? caller fd)
      ⟨⟨kernel, []⟩, launch side contestant privateEnd ends⟩ { slots := kernel.slot? caller } none := by
  obtain ⟨was, there, live, idle⟩ := entrusted.ready
  obtain ⟨slot, held, same⟩ := entrusted.held
  have sound := entrusted.sound
  -- What the caller has at first is what its purse is about.
  have own (fd : Nat) : was.table.get? fd = kernel.slot? caller fd := by
    rw [Kernel.slot?_eq, there]
    rfl
  refine {
    writeEnd := ⟨sound, ?_, entrusted.seat, fun who => ?_⟩
    present := ?_
    alive := .inl ⟨was, there, live⟩
    goes := fun station found _ => ?_
    births := fun child => ⟨nofun, nofun⟩
    numbered := nofun
    running := nofun
    fate := nofun }
  · exact same ▸ (sound.stations caller was there).opened privateEnd slot ((own privateEnd).trans held)
  · -- Nobody but the caller has the write end yet.
    rintro ⟨fd, slot, held, same⟩
    obtain ⟨rfl, -⟩ := entrusted.alone who fd slot held same
    exact ⟨who, rfl, .itself⟩
  · obtain ⟨process, found, -⟩ := Kernel.process_of_station there
    exact sound.processes.lt_next found
  · cases there.symm.trans found
    -- Phase by phase a launch spends what it was given, from the purse with all that the caller has.
    have phases := @Purse.phases { slots := kernel.slot? caller } rfl rfl side contestant privateEnd ends
    exact ⟨own, phases.launch, idle, fun waits => absurd idle waits⟩

/-- However a launch turns out, it gives up the private write end and the ends of pipes that it was given. Where it
fails no process that it has started goes on; where it succeeds that one and what it forks are the only ones that hold
the write end, so that the read end hangs up once they have let go of it. -/
theorem launch_relinquishes {side : Side} {contestant : Contestant} {ends : Ends} {world : World}
    {result : Except Fault Handle}
    (reached : Attempt.Reaches caller ⟨⟨kernel, []⟩, launch side contestant privateEnd ends⟩ ⟨world, .done result⟩) :
    Relinquished kernel caller (privateEnd :: ends.toList) file channel world result := by
  -- Where the launch has got to follows from where it began, step by step.
  obtain ⟨purse, child?, stands⟩ := Attempt.stands_of_reaches (entrusted.stands side contestant ends) reached
  obtain ⟨⟨runs, slots⟩, own, fate⟩ := stands.settled rfl
  -- What the caller has now is what the rules of a launch leave it.
  have closed (fd : Nat) := (own fd).trans (slots fd)
  have released (gone : Nat)
      (given : ∀ fd slot, kernel.slot? caller fd = some slot → slot.file = gone → fd ∈ privateEnd :: ends.toList) :
      ¬ world.kernel.Holds caller gone := by
    rintro ⟨fd, slot, held, same⟩
    rw [closed] at held
    split at held
    · cases held
    · rename_i kept
      exact kept (given fd slot held same)
  -- The write end is one of the files that it had under a given number only.
  have without : ¬ world.kernel.Holds caller file := by
    refine released file fun fd slot held same => ?_
    obtain ⟨-, rfl⟩ := entrusted.alone caller fd slot held same
    exact List.mem_cons_self
  -- Whoever has the write end is of the caller's kin, and the caller has it no more.
  have writeEnd : world.WriteEnd (fun child => (child, caller) ∈ world.births) file channel := by
    refine ⟨stands.writeEnd.sound, stands.writeEnd.old, stands.writeEnd.seat, fun who holds => ?_⟩
    obtain ⟨root, rfl, descends⟩ := stands.writeEnd.confines who holds
    rcases descends.eq_or_child with rfl | kin
    · exact absurd holds without
    · exact kin
  -- All that it has started is the one process that its standing tells of.
  have single (one other : Nat) (first : (one, caller) ∈ world.births) (second : (other, caller) ∈ world.births) :
      one = other :=
    Option.some.inj (((stands.births one).mp first).symm.trans ((stands.births other).mp second))
  refine {
    closed := closed
    released := released
    single := single
    launched := fun handle success => ?_
    confined := fun later leads => (writeEnd.lasts (.of_leads stands.writeEnd.sound leads)).confines
    hangsUp := fun later leads reader fd reads =>
      (writeEnd.lasts (.of_leads stands.writeEnd.sound leads)).hangsUp_iff reads
    killed := fun fault failure child started later leads wanted => ?_ }
  · subst success
    exact (stands.births handle.pid).mpr (stands.running handle.pid runs)
  · subst failure
    have lasts := World.Lasts.of_leads stands.writeEnd.sound leads
    have known := (stands.births child).mp started
    -- Nobody runs of whom there is no handle, so that the process has been killed or has given up.
    have doomed := lasts.doomed child (stands.numbered child known)
      ((fate child known).resolve_left fun goes => nomatch runs.symm.trans goes)
    have alone (root : Nat) : (root, caller) ∈ world.births ↔ root = child :=
      ⟨fun birth => single root child birth started, fun same => same ▸ started⟩
    exact ⟨doomed.turn lasts.onward.sound.processes wanted,
      fun reader fd reads => (writeEnd.lasts lasts).hangsUp_of_doomed alone doomed reads⟩

end Launched

namespace Attempt

variable {α : Type} {caller : Nat} {attempt : Attempt α}

/-- The attempt after the process has had its turn. -/
def act (caller : Nat) (attempt : Attempt α) : Attempt α :=
  match attempt.rest with
  | .done _ => attempt
  | .ask (.note _) next =>
    if (attempt.world.kernel.station? caller).any (·.live) then ⟨attempt.world, next ()⟩ else attempt
  | .ask (.call wanted) next =>
    match attempt.world.kernel.turn caller wanted with
    | .answered value after => ⟨⟨after, attempt.world.births⟩, next value⟩
    -- Without an answer the process asks the same again.
    | turn => ⟨⟨turn.kernel, turn.born.map (·, caller) ++ attempt.world.births⟩, attempt.rest⟩

/-- The attempt after the process has had some turns. -/
def acts (caller : Nat) (attempt : Attempt α) : Nat → Attempt α
  | 0 => attempt
  | turns + 1 => (attempt.act caller).acts caller turns

/-- The attempt after the host has refused to tell whether a descriptor is kept. -/
def denied (errno : Errno) (attempt : Attempt α) : Attempt α :=
  match attempt.rest with
  | .ask (.call (.closeOnExec _)) next => ⟨attempt.world, next (.error errno)⟩
  | _ => attempt

/-- The attempt after another process has started to run a program. -/
def entered (who : Nat) (image : Image) (attempt : Attempt α) : Attempt α :=
  ⟨⟨attempt.world.kernel.update who fun known => { known.afterExec with environment := [], words := image.words },
    attempt.world.births⟩, attempt.rest⟩

/-- What an attempt has come to. -/
def result? (attempt : Attempt α) : Option α :=
  match attempt.rest with
  | .done value => some value
  | .ask .. => none

/-- The process's turn is a step, or changes nothing. -/
theorem step_act : Relation.ReflGen (Step caller) attempt (attempt.act caller) := by
  -- The process has come to an end, tells something, or makes a call.
  rw [act]
  split
  · exact .refl
  · rename_i entry next rest
    split
    · rename_i lives
      obtain ⟨was, there, live⟩ := (Option.any_eq_true ..).mp lives
      exact .single (.told rest there live)
    · exact .refl
  · rename_i wanted next rest
    split
    · -- A call that the host answers is a step with that answer.
      exact .single (.answered rest (.heard ‹_›))
    · rename_i silent
      exact .single (.unanswered rest rfl fun value after answered => silent value after answered)

/-- What the process can do in some turns can happen. -/
theorem reaches_acts (turns : Nat) : Reaches caller attempt (attempt.acts caller turns) := by
  induction turns generalizing attempt with
  | zero => exact .refl
  | succ turns ih => exact step_act.to_reflTransGen.trans ih

/-- The host can refuse to tell a process that goes on whether a descriptor is kept. -/
theorem reaches_denied (errno : Errno)
    (idle : (attempt.world.kernel.station? caller).any (fun was => was.live && was.ordered.isNone) = true) :
    Reaches caller attempt (attempt.denied errno) := by
  obtain ⟨was, there, calm⟩ := (Option.any_eq_true ..).mp idle
  rw [Bool.and_eq_true, Option.isNone_iff_eq_none] at calm
  rw [denied]
  -- It is refused only where that is what it asks for.
  split
  · exact .single (.answered ‹_› (.refused (.closeOnExec _ errno) there calm.1 calm.2))
  · exact .refl

/-- Another process that goes on can run a program that can be loaded. -/
theorem reaches_entered {who : Nat} (other : who ≠ caller) (path : Bytes) (words : List Bytes) {image : Image}
    (goes : attempt.world.kernel.goesOn who = true)
    (loads : attempt.world.kernel.loadImage who path words = .ok image) :
    Reaches caller attempt (attempt.entered who image) := by
  -- The other process goes on, so that its next turn is what it asks for.
  have may : attempt.world.kernel.May who (.exec path words []) (.replaced image (attempt.world.kernel.update who
      fun known => { known.afterExec with environment := [], words := image.words })) :=
    Kernel.turn_exec goes [] loads ▸ .heard
  exact .single (.others other (.moved may))

/-- An attempt that has come to something has come to its end. -/
theorem reaches_done {first : Attempt α} {value : α} (reached : Reaches caller first attempt)
    (ends : attempt.result? = some value) : Reaches caller first ⟨attempt.world, .done value⟩ := by
  obtain ⟨world, rest⟩ := attempt
  -- An attempt has a result exactly at its end.
  cases rest with
  | done last =>
    cases ends
    exact reached
  | ask => cases ends

end Attempt

namespace Sample

/-- The host once its umpire has made a pipe. -/
def piped : Kernel :=
  (host.turn 1 .pipe).kernel

/-- The solution's launch there, with the write end of the pipe. -/
def launching : Attempt (Except Fault Handle) :=
  ⟨⟨piped, []⟩, launch .solution ((contest.contestant .solution).bind (Int32.ofNat 4)) 4 {}⟩

/-- The solution's process runs its program, and the umpire has been told so. -/
def spawned : Attempt (Except Fault Handle) :=
  ((launching.acts 1 4).entered 2 (image ["/a", "4"])).act 1

/-- The launch has succeeded. -/
def launched : Attempt (Except Fault Handle) :=
  spawned.acts 1 4

/-- The launch has failed, because the umpire was refused to leave the region around the start. -/
def thwarted : Attempt (Except Fault Handle) :=
  (spawned.denied Errno.badDescriptor).acts 1 2

/-- The umpire is entrusted with the write end of the pipe. -/
theorem entrusted : Entrusted piped 1 4 2 0 where
  sound := (Kernel.turned_turn ready.sound 1 .pipe).sound ready.sound
  ready := ⟨_, rfl, by decide +kernel, by decide +kernel⟩
  held := ⟨⟨2, true⟩, by decide +kernel, rfl⟩
  alone who fd slot held same := by
    -- The umpire is the only process, and has the write end under the last of its numbers only.
    obtain ⟨process, found, had⟩ := Option.bind_eq_some_iff.mp held
    have listed : who ∈ piped.processes.entries.map Prod.fst := Host.Registry.mem_of_lookup found
    have only : piped.processes.entries.map Prod.fst = [1] := by decide +kernel
    obtain rfl : who = 1 := List.mem_singleton.mp (only ▸ listed)
    -- Its table is read off the host.
    have slots : (piped.process? 1).map (·.table.slots) =
        some ([false, false, false].map (some ⟨0, ·⟩) ++ [some ⟨1, true⟩, some ⟨2, true⟩]) := by
      decide +kernel
    rw [found, Option.map_some, Option.some_inj] at slots
    rw [Host.Table.get?, slots] at had
    have last : ∀ fd < 5, ((([false, false, false].map (some ⟨0, ·⟩) ++
        [some ⟨1, true⟩, some ⟨2, true⟩] : List (Option Slot))[fd]?).join.map Slot.file) = some 2 → fd = 4 := by
      decide
    obtain ⟨inside, -⟩ := List.getElem?_eq_some_iff.mp (Option.join_eq_some_iff.mp had)
    exact ⟨rfl, last fd inside (by rw [had, Option.map_some, same])⟩
  seat := ⟨{ writes := true }, by decide +kernel, rfl⟩

/-- The solution's process gets to its program. -/
theorem reaches_spawned : Attempt.Reaches 1 launching spawned := by
  -- Running the program is another's step and none of the launch, so that it is taken by itself.
  have enters : Attempt.Reaches 1 (launching.acts 1 4) ((launching.acts 1 4).entered 2 (image ["/a", "4"])) :=
    Attempt.reaches_entered (by decide) (Bytes.ofString "/a") (image ["/a", "4"]).words (by decide +kernel)
      (loads (by decide +kernel) 2 (by decide))
  exact (Attempt.reaches_acts 4).trans (enters.trans Attempt.step_act.to_reflTransGen)

/-- The launch gets to its success. -/
theorem reaches_launched : Attempt.Reaches 1 launching ⟨launched.world, .done (.ok ⟨.solution, 2, none⟩)⟩ :=
  Attempt.reaches_done (reaches_spawned.trans (Attempt.reaches_acts 4)) (by decide +kernel)

/-- The launch gets to its failure. -/
theorem reaches_thwarted : Attempt.Reaches 1 launching
    ⟨thwarted.world, .done (.error (.os "fcntl(F_GETFD) failed" Errno.badDescriptor))⟩ := by
  refine Attempt.reaches_done (reaches_spawned.trans ?_) (by decide +kernel)
  exact (Attempt.reaches_denied _ (by decide +kernel)).trans (Attempt.reaches_acts 2)

end Sample

open Sample in
/-- A launch that succeeds leaves the write end to the process that it has started, so that the read end has not hung
up. One that fails when that process runs already leaves the write end to nobody: the process is killed, after which
the read end has hung up. -/
theorem launch_relinquishes_sample : Entrusted piped 1 4 2 0 ∧
    Attempt.Reaches 1 launching ⟨launched.world, .done (.ok ⟨.solution, 2, none⟩)⟩ ∧
    Relinquished piped 1 [4] 2 0 launched.world (.ok ⟨.solution, 2, none⟩) ∧
    Attempt.Reaches 1 launching ⟨thwarted.world, .done (.error (.os "fcntl(F_GETFD) failed" Errno.badDescriptor))⟩ ∧
    Relinquished piped 1 [4] 2 0 thwarted.world (.error (.os "fcntl(F_GETFD) failed" Errno.badDescriptor)) ∧
    launched.world.kernel.slot? 1 4 = none ∧ launched.world.kernel.slot? 2 4 = some ⟨2, false⟩ ∧
    launched.world.kernel.hasHungUp 1 3 = false ∧ thwarted.world.kernel.slot? 1 4 = none ∧
    (thwarted.world.kernel.takeAll 2).hasHungUp 1 3 = true :=
  ⟨entrusted, reaches_launched, launch_relinquishes entrusted reaches_launched, reaches_thwarted,
    launch_relinquishes entrusted reaches_thwarted, by decide +kernel, by decide +kernel, by decide +kernel,
    by decide +kernel, by decide +kernel⟩

end Umpire.Bout
