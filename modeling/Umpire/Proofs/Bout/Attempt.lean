import Mathlib.Logic.Function.Basic
import Umpire.Proofs.Bout.Drive
import Umpire.Proofs.Bout.Kin
import Umpire.Proofs.Bout.Phases
import Umpire.Proofs.Dialogue
import Umpire.Proofs.Host.Obedience

/-! Attempts: a process launches a side among all others of its host, which act as they like. Whatever call fails, what
it has open is what it knows of, and the process that it has started runs on only if it is still to be answered for. -/

namespace Umpire.Bout

open Host (Call Effect Image Kernel Slot Station Turn)

/-- What a process knows of itself while it launches a side: what it has open, and what has become of the start. -/
structure Purse where
  slots : Nat → Option Slot
  /-- Whether it has been answered on a start. -/
  spent : Bool := false
  /-- The process that was started and has not been killed. -/
  running : Option Nat := none

namespace Purse

/-- What may be asked for: to deal with descriptors, to start one process, and to kill it. -/
def May (purse : Purse) : Act → Prop
  | .note _ | .call (.closeOnExec _) | .call (.setCloseOnExec ..) | .call (.close _) => True
  | .call (.spawn _) => purse.spent = false
  | .call (.signal pid number) => purse.running = some pid ∧ number = Host.Signal.kill
  | .call _ => False

/-- What the process knows after an answer. -/
def after (purse : Purse) : (act : Act) → act.Answer → Purse
  | .call (.setCloseOnExec fd flag), .ok () =>
    { purse with
      slots := Function.update purse.slots fd ((purse.slots fd).map fun slot => { slot with closeOnExec := flag }) }
  -- What could not be closed was not open.
  | .call (.close fd), _ => { purse with slots := Function.update purse.slots fd none }
  | .call (.spawn _), started => { purse with spent := true, running := started.toOption }
  | .call (.signal ..), _ => { purse with running := none }
  | _, _ => purse

/-- The rules of a launch. -/
abbrev rules : Rules Act.vocabulary Purse :=
  .keeping May after

/-- Nothing has changed but what is under one number. -/
structure Spares (fd : Nat) (before after : Purse) : Prop where
  spent : after.spent = before.spent
  running : after.running = before.running
  slots : ∀ other, other ≠ fd → after.slots other = before.slots other

variable {purse : Purse}

/-- Setting whether a descriptor is kept changes nothing else, whether it succeeds or not. -/
theorem abides_setPrivate (purse : Purse) (fd : Nat) (flag : Bool) :
    (Inheritance.setPrivate fd flag).Abides rules (fun _ => Spares fd purse) purse := by
  have same : Spares fd purse purse := ⟨rfl, rfl, fun _ _ => rfl⟩
  have asks : (Inheritance.isPrivate fd).Abides rules (fun _ middle => middle = purse) purse := by
    refine .ask trivial fun answer middle leads => ?_
    obtain rfl := leads
    cases answer <;> rfl
  -- Only the second call can change a flag, and it is only made if the first was answered.
  refine .seq asks fun asked middle unchanged => ?_
  subst unchanged
  cases asked with
  | error fault => exact same
  | ok known =>
    refine .ask trivial fun answer last leads => ?_
    obtain rfl := leads
    cases answer with
    | error errno => exact same
    -- Of all that the process knows one number's flag is other than before.
    | ok done => exact ⟨rfl, rfl, fun other apart => Function.update_of_ne apart _ _⟩

/-- Closing descriptors leaves all others, and what has become of the start. -/
theorem abides_closeAll (purse : Purse) (fds : List Nat) :
    (closeAll fds).Abides rules (fun _ after => after.spent = purse.spent ∧ after.running = purse.running ∧
      ∀ fd, after.slots fd = if fd ∈ fds then none else purse.slots fd) purse := by
  induction fds generalizing purse with
  | nil => exact ⟨rfl, rfl, fun fd => (if_neg List.not_mem_nil).symm⟩
  | cons first rest ih =>
    -- The first is closed whatever the answer, and the rest are closed after it.
    refine .ask trivial fun answer middle leads => ?_
    obtain rfl := leads
    refine (ih _).mono fun _ last closed => ⟨closed.1, closed.2.1, fun fd => ?_⟩
    rw [closed.2.2 fd]
    by_cases later : fd ∈ rest
    · rw [if_pos later, if_pos (List.mem_cons_of_mem first later)]
    · -- What the rest does not close is gone only if it is the first.
      by_cases own : fd = first
      · subst own
        rw [if_neg later, if_pos List.mem_cons_self]
        exact Function.update_self ..
      · rw [if_neg later, if_neg (by simp [own, later])]
        exact Function.update_of_ne own ..

/-- The process that is left running by a start. -/
def startedBy : Except Fault (Except IoFault Nat) → Option Nat
  | .ok started => started.toOption
  | .error _ => none

/-- Some process is left running, and nothing else has changed but what is under one number. -/
structure Leaves (fd : Nat) (before : Purse) (running : Option Nat) (after : Purse) : Prop where
  running : after.running = running
  slots : ∀ other, other ≠ fd → after.slots other = before.slots other

/-- Setting whether a descriptor is kept goes on leaving the same process running. -/
theorem Leaves.spares {fd : Nat} {before middle after : Purse} {running : Option Nat}
    (leaves : Leaves fd before running middle) (spares : Spares fd middle after) : Leaves fd before running after :=
  ⟨spares.running.trans leaves.running, fun other apart => (spares.slots other apart).trans (leaves.slots other apart)⟩

/-- The phases of a launch leave a process running only if the start succeeds, touch the private end at most, and
close what they are given. -/
def phases (fresh : purse.spent = false) (idle : purse.running = none) (side : Side) (contestant : Contestant)
    (privateEnd : Nat) (ends : Ends) : Phases rules side contestant privateEnd ends purse (fun result after =>
      after.running = result.toOption.map Handle.pid ∧
      ∀ fd, after.slots fd = if fd ∈ privateEnd :: ends.toList then none else purse.slots fd) where
  told := (· = purse)
  entered _ := Spares privateEnd purse
  ordered started := Leaves privateEnd purse started.toOption
  orphaned _ pid := Leaves privateEnd purse (some pid)
  begun result := Leaves privateEnd purse (startedBy result)
  closed result after := after.running = startedBy result ∧
    ∀ fd, after.slots fd = if fd ∈ privateEnd :: ends.toList then none else purse.slots fd
  files _ _ := ⟨idle, fun _ _ => rfl⟩
  tells _ _ := ⟨trivial, fun _ _ leads => leads⟩
  tellsFiles _ _ told := ⟨trivial, fun _ _ leads => Eq.trans leads told⟩
  enters _ state _ told := by
    subst told
    refine (abides_setPrivate state privateEnd false).mono fun result after spares => ?_
    cases result with
    | ok done => exact spares
    | error fault => exact ⟨spares.running.trans idle, spares.slots⟩
  orders _ state _ entered := by
    refine ⟨entered.spent.trans fresh, fun started after leads => ?_⟩
    obtain rfl := leads
    exact ⟨rfl, entered.slots⟩
  leaves started state ordered := by
    refine (abides_setPrivate state privateEnd true).mono fun result after spares => ?_
    have left := ordered.spares spares
    -- A start that failed leaves nobody running in any case.
    cases result with
    | ok done => exact left
    | error fault => cases started <;> exact left
  kills fault pid state orphaned := by
    -- The process that was started is killed, as nobody will get a handle on it.
    refine ⟨⟨orphaned.running, rfl⟩, fun answer after leads => ?_⟩
    obtain rfl := leads
    exact ⟨rfl, orphaned.slots⟩
  closes result state begun := by
    refine (abides_closeAll state _).mono fun _ after closed => ⟨closed.2.1.trans begun.running, fun fd => ?_⟩
    rw [closed.2.2 fd]
    split
    · rfl
    · rename_i kept
      exact begun.slots fd fun same => kept (same ▸ List.mem_cons_self)
  fails _ _ closed := closed
  declines _ _ closed := closed
  succeeds _ _ closed := ⟨trivial, fun _ _ leads => Eq.substr leads closed⟩

/-- What a process has open after a call that it may make is what it knows then. -/
theorem slots_after {next later : Nat} {wanted : Call} {value : wanted.Answer} {before left : Host.Table}
    (may : purse.May (.call wanted)) (effect : Effect next before wanted value later left)
    (known : ∀ fd, before.get? fd = purse.slots fd) (fd : Nat) :
    left.get? fd = (purse.after (.call wanted) value).slots fd := by
  cases wanted
  case close closed =>
    -- A number that was not open is free as well.
    have freed : left = before.put closed none ∨ before.get? closed = none ∧ left = before := by
      cases value with
      | ok done => exact .inl (Host.Table.close_ok effect.1)
      | error errno => exact .inr ⟨effect.1, effect.2.1⟩
    have updated : (purse.after (.call (.close closed)) value).slots = Function.update purse.slots closed none := by
      cases value <;> rfl
    rw [updated]
    -- What is under other numbers is left as it was.
    by_cases own : fd = closed
    · subst own
      rw [Function.update_self]
      rcases freed with rfl | ⟨absent, rfl⟩
      · rw [Host.Table.get?_put, if_pos rfl]
      · exact absent
    · rw [Function.update_of_ne own, ← known]
      rcases freed with rfl | ⟨-, rfl⟩
      · rw [Host.Table.get?_put, if_neg own]
      · rfl
  case setCloseOnExec set flag =>
    cases value with
    | error errno =>
      obtain ⟨-, rfl, -⟩ := effect
      exact known fd
    | ok done =>
      obtain ⟨slot, found, rfl⟩ := Host.Table.setCloseOnExec_ok effect.1
      dsimp only [after]
      rw [Host.Table.get?_put]
      split
      · rename_i own
        subst own
        rw [Function.update_self, ← known, found]
        rfl
      · rename_i other
        rw [Function.update_of_ne other]
        exact known fd
  -- To ask for a flag, to start a process and to send a signal change no descriptor.
  case closeOnExec asked =>
    cases value <;> exact effect.2.1 ▸ known fd
  case spawn | signal => exact effect.1 ▸ known fd
  -- Nothing else is asked for in a launch.
  all_goals exact may.elim

end Purse

/-- A process that follows a conduct among all others of its host. -/
structure Attempt (α : Type) where
  world : World
  /-- What it still has to do. -/
  rest : Conduct α

namespace Attempt

/-- Calls of a launch that the host may refuse with nothing done. -/
inductive Refuses : (wanted : Call) → wanted.Answer → Prop where
  | spawn (order : Host.Order) (cause : IoFault) : Refuses (.spawn order) (.error cause)
  | closeOnExec (fd : Nat) (errno : Errno) : Refuses (.closeOnExec fd) (.error errno)
  | setCloseOnExec (fd : Nat) (flag : Bool) (errno : Errno) : Refuses (.setCloseOnExec fd flag) (.error errno)

/-- How a call can be answered: the host does what is asked, or refuses it. -/
inductive Serves (kernel : Kernel) (caller : Nat) (wanted : Call) : wanted.Answer → Kernel → Prop where
  | heard {value : wanted.Answer} {after : Kernel} (turn : kernel.turn caller wanted = .answered value after) :
      Serves kernel caller wanted value after
  | refused {value : wanted.Answer} {was : Station} (refuses : Refuses wanted value)
      (there : kernel.station? caller = some was) (live : was.live = true) (idle : was.ordered = none) :
      Serves kernel caller wanted value kernel

/-- The process has its turn, or something happens by another. -/
inductive Step {α : Type} (caller : Nat) (attempt : Attempt α) : Attempt α → Prop where
  /-- It tells something. -/
  | told {entry : Entry} {next : Unit → Conduct α} {was : Station} (rest : attempt.rest = .ask (.note entry) next)
      (there : attempt.world.kernel.station? caller = some was) (live : was.live = true) :
      Step caller attempt ⟨attempt.world, next ()⟩
  /-- It is answered. -/
  | answered {wanted : Call} {next : wanted.Answer → Conduct α} {value : wanted.Answer} {after : Kernel}
      (rest : attempt.rest = .ask (.call wanted) next)
      (serves : Serves attempt.world.kernel caller wanted value after) :
      Step caller attempt ⟨⟨after, attempt.world.births⟩, next value⟩
  /-- It waits, for a process that it has just started maybe, or is no more. -/
  | unanswered {wanted : Call} {next : wanted.Answer → Conduct α} {turn : Turn wanted.Answer}
      (rest : attempt.rest = .ask (.call wanted) next) (heard : attempt.world.kernel.turn caller wanted = turn)
      (silent : ∀ value after, turn ≠ .answered value after) :
      Step caller attempt ⟨⟨turn.kernel, turn.born.map (·, caller) ++ attempt.world.births⟩, attempt.rest⟩
  /-- Something happens by another process. -/
  | others {who : Nat} {later : World} (other : who ≠ caller) (acts : attempt.world.Acts who later) :
      Step caller attempt ⟨later, attempt.rest⟩

/-- The attempts that an attempt can lead to. -/
def Reaches {α : Type} (caller : Nat) : Attempt α → Attempt α → Prop :=
  Relation.ReflTransGen (Step caller)

/-- How a process goes on that has some station: it has what it knows of, does what its rules allow, and waits for the
process that it has started until it is answered on the start. -/
structure Goes {α : Type} (good : α → Purse → Prop) (rest : Conduct α) (purse : Purse) (child? : Option Nat)
    (was : Station) : Prop where
  table : ∀ fd, was.table.get? fd = purse.slots fd
  abides : rest.Abides Purse.rules good purse
  ordered : was.ordered = if purse.spent then none else child?
  starts : was.ordered ≠ none → ∃ order next, rest = .ask (.call (.spawn order)) next

/-- Until it is answered on a start, a process waits for the one that it has started. -/
theorem Goes.awaits {α : Type} {good : α → Purse → Prop} {rest : Conduct α} {purse : Purse} {child? : Option Nat}
    {was : Station} (goes : Goes good rest purse child? was) (unspent : purse.spent = false) :
    was.ordered = child? := by
  rw [goes.ordered, unspent]
  rfl

/-- How an attempt stands: what the process knows, and which process it has started. The latter runs once the start is
answered, or is doomed; and the write end of a pipe that was the process's is held by its kin only. -/
structure Stands {α : Type} (caller file channel : Nat) (good : α → Purse → Prop) (attempt : Attempt α) (purse : Purse)
    (child? : Option Nat) : Prop where
  writeEnd : attempt.world.WriteEnd (· = caller) file channel
  present : caller < attempt.world.kernel.processes.next
  alive : (∃ was, attempt.world.kernel.station? caller = some was ∧ was.live = true) ∨
    ∃ act next, attempt.rest = .ask act next
  goes : ∀ was, attempt.world.kernel.station? caller = some was → was.live = true →
    Goes good attempt.rest purse child? was
  births : ∀ child, (child, caller) ∈ attempt.world.births ↔ child? = some child
  numbered : ∀ child, child? = some child → child < attempt.world.kernel.processes.next
  running : ∀ pid, purse.running = some pid → child? = some pid
  fate : purse.spent = true → ∀ child, child? = some child →
    purse.running = some child ∨ attempt.world.kernel.Doomed child

namespace Stands

variable {α : Type} {caller file channel : Nat} {good : α → Purse → Prop} {attempt : Attempt α} {purse : Purse}
  {child? : Option Nat} (stands : Stands caller file channel good attempt purse child?)

include stands

/-- A process that asks for anything but a start waits for nobody. -/
theorem unordered {act : Act} {next : act.Answer → Conduct α} {was : Station} (rest : attempt.rest = .ask act next)
    (plain : ∀ order, act ≠ .call (.spawn order)) (there : attempt.world.kernel.station? caller = some was)
    (live : was.live = true) : was.ordered = none := by
  -- Whoever waits for somebody has asked for a start, and asks for nothing else meanwhile.
  by_contra waits
  obtain ⟨order, _, starts⟩ := (stands.goes was there live).starts waits
  rw [rest] at starts
  cases starts
  exact plain order rfl

/-- An attempt stands after the process has told something. -/
theorem told {entry : Entry} {next : Unit → Conduct α} {was : Station} (rest : attempt.rest = .ask (.note entry) next)
    (there : attempt.world.kernel.station? caller = some was) (live : was.live = true) :
    Stands caller file channel good ⟨attempt.world, next ()⟩ purse child? where
  writeEnd := stands.writeEnd
  present := stands.present
  alive := .inl ⟨was, there, live⟩
  goes station found lives := by
    -- To tell something is no call, so only what is left to do changes.
    have goes := stands.goes station found lives
    have idle := stands.unordered rest nofun found lives
    have abides := goes.abides
    rw [rest] at abides
    exact ⟨goes.table, abides.2 () purse rfl, goes.ordered, fun waits => absurd idle waits⟩
  births := stands.births
  numbered := stands.numbered
  running := stands.running
  fate := stands.fate

/-- An attempt stands whatever happens by others. -/
theorem others {who : Nat} {later : World} (other : who ≠ caller) (acts : attempt.world.Acts who later) :
    Stands caller file channel good ⟨later, attempt.rest⟩ purse child? := by
  -- The process itself stays as it was, and what holds of its kin lasts.
  have lasts := World.Lasts.of_acts stands.writeEnd.sound acts
  have acted := acts.others other
  refine {
    writeEnd := stands.writeEnd.lasts lasts
    present := Nat.lt_of_lt_of_le stands.present lasts.onward.numbers
    alive := stands.alive.imp_left fun ⟨was, there, live⟩ =>
      ⟨was, Host.lives_of_others stands.writeEnd.sound stands.present acted there live, live⟩
    goes := fun was found =>
      stands.goes was (Host.stays_of_others stands.writeEnd.sound stands.present acted was found)
    births := fun child => ⟨fun birth => ?_, fun known => lasts.births ((stands.births child).mpr known)⟩
    numbered := fun child known => Nat.lt_of_lt_of_le (stands.numbered child known) lasts.onward.numbers
    running := stands.running
    fate := fun spent child known => (stands.fate spent child known).imp_right
      (lasts.doomed child (stands.numbered child known)) }
  -- Another process gives birth to children of its own only.
  exact (stands.births child).mp (acts.births_of_ne (Ne.symm other) birth)

/-- An attempt stands after a turn without an answer if it is known whom the process has started by then: whom it had,
or somebody if it had started nobody. -/
theorem continued {wanted : Call} {next : wanted.Answer → Conduct α} {turn : Turn wanted.Answer}
    (rest : attempt.rest = .ask (.call wanted) next) (may : attempt.world.kernel.May caller wanted turn)
    (now? : Option Nat) (kept : child? = now? ∨ child? = none ∧ purse.spent = false)
    (goes : ∀ was, turn.kernel.station? caller = some was → was.live = true → Goes good attempt.rest purse now? was)
    (births : ∀ child, (child, caller) ∈ turn.born.map (·, caller) ++ attempt.world.births ↔ now? = some child)
    (numbered : ∀ child, now? = some child → child < turn.kernel.processes.next) :
    Stands caller file channel good
      ⟨⟨turn.kernel, turn.born.map (·, caller) ++ attempt.world.births⟩, attempt.rest⟩ purse now? := by
  have lasts := World.Lasts.of_may stands.writeEnd.sound may
  refine ⟨stands.writeEnd.lasts lasts, Nat.lt_of_lt_of_le stands.present lasts.onward.numbers, .inr ⟨_, _, rest⟩,
    goes, births, numbered, fun pid runs => ?_, fun spent child known => ?_⟩
  · have known := stands.running pid runs
    -- Had it started nobody before, nobody would have run.
    rcases kept with rfl | ⟨none, -⟩
    · exact known
    · rw [none] at known
      cases known
  · -- Whoever is doomed stays so; had it started nobody, no start would have been spent.
    rcases kept with rfl | ⟨-, unspent⟩
    · exact (stands.fate spent child known).imp_right (lasts.doomed child (stands.numbered child known))
    · rw [unspent] at spent
      cases spent

/-- An attempt stands after the process was not answered. -/
theorem unanswered {wanted : Call} {next : wanted.Answer → Conduct α} {turn : Turn wanted.Answer}
    (rest : attempt.rest = .ask (.call wanted) next) (heard : attempt.world.kernel.turn caller wanted = turn)
    (silent : ∀ value after, turn ≠ .answered value after) :
    ∃ child?, Stands caller file channel good
      ⟨⟨turn.kernel, turn.born.map (·, caller) ++ attempt.world.births⟩, attempt.rest⟩ purse child? := by
  have may : attempt.world.kernel.May caller wanted turn := heard ▸ .heard
  have turned := Kernel.turned_may stands.writeEnd.sound may
  have numbers (child : Nat) (known : child? = some child) : child < turn.kernel.processes.next :=
    Nat.lt_of_lt_of_le (stands.numbered child known) (turned.numbers ▸ Nat.le_add_right _ _)
  cases turned.took with
  | answered | declined | started | failed => exact absurd rfl (silent _ _)
  | waiting same _ =>
    exact ⟨child?, stands.continued rest may child? (.inl rfl) (fun was found => stands.goes was (same ▸ found))
      stands.births numbers⟩
  | gone gone _ =>
    refine ⟨child?, stands.continued rest may child? (.inl rfl) (fun was found live => ?_) stands.births numbers⟩
    rw [(gone was found).1] at live
    cases live
  | replaced there live _ _ | forked there live _ _ _ _ =>
    -- A launch asks for neither.
    have abides := (stands.goes _ there live).abides
    rw [rest] at abides
    exact abides.1.elim
  | @ordered order child after was there live idle number left born opens =>
    have goes := stands.goes was there live
    have abides := goes.abides
    rw [rest] at abides
    have unspent : purse.spent = false := abides.1
    have none : child? = none := (goes.awaits unspent).symm.trans idle
    refine ⟨some child, stands.continued rest may (some child) (.inr ⟨none, unspent⟩) (fun station found _ => ?_)
      (fun other => ?_) (fun other known => ?_)⟩
    · cases left.symm.trans found
      exact ⟨goes.table, goes.abides, by simp [unspent], fun _ => ⟨order, next, rest⟩⟩
    · -- Nobody was started before.
      have nobody : (other, caller) ∉ attempt.world.births := by
        rw [stands.births, none]
        nofun
      simp [Turn.born, nobody, eq_comm]
    · obtain rfl := Option.some.inj known
      have numbers := turned.numbers
      rw [number]
      dsimp only [Turn.born, Turn.kernel, List.length] at numbers ⊢
      omega

/-- An attempt stands after a call that the host refused. -/
theorem refused {wanted : Call} {next : wanted.Answer → Conduct α} {value : wanted.Answer} {was : Station}
    (rest : attempt.rest = .ask (.call wanted) next) (refuses : Refuses wanted value)
    (there : attempt.world.kernel.station? caller = some was) (live : was.live = true) (idle : was.ordered = none) :
    Stands caller file channel good ⟨attempt.world, next value⟩ (purse.after (.call wanted) value) child? := by
  have goes := stands.goes was there live
  have abides := goes.abides
  rw [rest] at abides
  -- The host is as it was, so all that is new is what the process has been told.
  have goesOn := abides.2 value _ rfl
  -- A refused start leaves nobody running, and nobody had been started before.
  cases refuses with
  | spawn order cause =>
    have unspent : purse.spent = false := abides.1
    have none : child? = none := (goes.awaits unspent).symm.trans idle
    refine ⟨stands.writeEnd, stands.present, .inl ⟨was, there, live⟩, fun station found _ => ?_,
      stands.births, stands.numbered, nofun, fun _ child known => ?_⟩
    · cases there.symm.trans found
      exact ⟨goes.table, goesOn, idle, fun waits => absurd idle waits⟩
    · rw [none] at known
      cases known
  | closeOnExec | setCloseOnExec =>
    refine ⟨stands.writeEnd, stands.present, .inl ⟨was, there, live⟩, fun station found _ => ?_,
      stands.births, stands.numbered, stands.running, stands.fate⟩
    cases there.symm.trans found
    exact ⟨goes.table, goesOn, goes.ordered, fun waits => absurd idle waits⟩

/-- An attempt stands after an answer if the process knows by it what has become of the one that it has started. -/
theorem answered {wanted : Call} {next : wanted.Answer → Conduct α} {value : wanted.Answer} {after : Kernel}
    (rest : attempt.rest = .ask (.call wanted) next)
    (turn : attempt.world.kernel.turn caller wanted = .answered value after)
    (running : ∀ pid, (purse.after (.call wanted) value).running = some pid → child? = some pid)
    (fate : (purse.after (.call wanted) value).spent = true → ∀ child, child? = some child →
      (purse.after (.call wanted) value).running = some child ∨ after.Doomed child)
    (waits : (purse.after (.call wanted) value).spent = false → child? = none) :
    Stands caller file channel good ⟨⟨after, attempt.world.births⟩, next value⟩ (purse.after (.call wanted) value)
      child? := by
  have may : attempt.world.kernel.May caller wanted (.answered value after) := turn ▸ .heard
  have lasts : World.Lasts attempt.world ⟨after, attempt.world.births⟩ := World.Lasts.of_may stands.writeEnd.sound may
  have took := (Kernel.turned_may stands.writeEnd.sound may).took
  obtain ⟨was, left, there, live, found, effect, ordered⟩ := took.of_answered
  have goes := stands.goes was there live
  have abides := goes.abides
  rw [rest] at abides
  obtain ⟨allowed, goesOn⟩ := abides
  -- Only a start leaves a process waiting for another, and it is over once it is answered.
  have idle : left.ordered = none := by
    rcases ordered with ⟨plain, same⟩ | idle
    · exact same.trans (stands.unordered rest (fun order same => plain order (Act.call.inj same)) there live)
    · exact idle
  -- So nobody is awaited any more, which is right if the start was spent or nobody was started.
  have awaits : none = if (purse.after (.call wanted) value).spent then none else child? := by
    split
    · rfl
    · rename_i unspent
      exact (waits (Bool.eq_false_iff.mpr unspent)).symm
  -- What was said of the kernel lasts, and the rest follows from what has been told.
  exact {
    writeEnd := stands.writeEnd.lasts lasts
    present := Nat.lt_of_lt_of_le stands.present lasts.onward.numbers
    alive := .inl took.lives
    goes := fun station seen _ => by
      cases found.symm.trans seen
      exact ⟨Purse.slots_after allowed effect goes.table, goesOn value _ rfl, idle.trans awaits,
        fun waits => absurd idle waits⟩
    births := stands.births
    numbered := fun child known => Nat.lt_of_lt_of_le (stands.numbered child known) lasts.onward.numbers
    running := running
    fate := fate }

/-- Who is answered is there and goes on. -/
theorem goes_on {wanted : Call} {value : wanted.Answer} {after : Kernel}
    (turn : attempt.world.kernel.turn caller wanted = .answered value after) :
    ∃ was, attempt.world.kernel.station? caller = some was ∧ was.live = true ∧
      Goes good attempt.rest purse child? was := by
  -- No turn of a process that is not there, or has ended, is an answer.
  have may : attempt.world.kernel.May caller wanted (.answered value after) := turn ▸ .heard
  obtain ⟨was, -, there, live, -⟩ := (Kernel.turned_may stands.writeEnd.sound may).took.of_answered
  exact ⟨was, there, live, stands.goes was there live⟩

/-- Before a process has asked for a start and been answered, nobody is started when it is answered on anything else. -/
theorem nobody_started {wanted : Call} {next : wanted.Answer → Conduct α} {value : wanted.Answer} {after : Kernel}
    (rest : attempt.rest = .ask (.call wanted) next) (plain : ∀ order, wanted ≠ .spawn order)
    (turn : attempt.world.kernel.turn caller wanted = .answered value after) (unspent : purse.spent = false) :
    child? = none := by
  obtain ⟨was, there, live, goes⟩ := stands.goes_on turn
  -- It waits for whom it has started, and it waits for nobody.
  have idle := stands.unordered rest (fun order same => plain order (Act.call.inj same)) there live
  exact (goes.awaits unspent).symm.trans idle

/-- A process that is doomed remains so when the attempt goes on. -/
theorem doomed_after {wanted : Call} {value : wanted.Answer} {after : Kernel} {child : Nat}
    (turn : attempt.world.kernel.turn caller wanted = .answered value after) (known : child? = some child)
    (doomed : attempt.world.kernel.Doomed child) : after.Doomed child := by
  have may : attempt.world.kernel.May caller wanted (.answered value after) := turn ▸ .heard
  exact doomed.may stands.writeEnd.sound.processes (stands.numbered child known) may

/-- An attempt stands after a call about descriptors: nothing happens to the process that has been started. -/
theorem unchanged {wanted : Call} {next : wanted.Answer → Conduct α} {value : wanted.Answer} {after : Kernel}
    (rest : attempt.rest = .ask (.call wanted) next)
    (turn : attempt.world.kernel.turn caller wanted = .answered value after)
    (running : (purse.after (.call wanted) value).running = purse.running)
    (spent : (purse.after (.call wanted) value).spent = purse.spent) (plain : ∀ order, wanted ≠ .spawn order) :
    Stands caller file channel good ⟨⟨after, attempt.world.births⟩, next value⟩ (purse.after (.call wanted) value)
      child? := by
  -- The doom of the process that was started is as it was, and so is whether it runs.
  refine stands.answered rest turn (running ▸ stands.running) (fun gone child known => ?_)
    fun unspent => stands.nobody_started rest plain turn (spent ▸ unspent)
  exact running ▸ (stands.fate (spent ▸ gone) child known).imp_right (stands.doomed_after turn known)

/-- An attempt stands after the process has killed the one that it had started. -/
theorem killed {pid : Nat} {next : Except Errno Unit → Conduct α} {value : Except Errno Unit} {after : Kernel}
    (rest : attempt.rest = .ask (.call (.signal pid Host.Signal.kill)) next) (runs : purse.running = some pid)
    (turn : attempt.world.kernel.turn caller (.signal pid Host.Signal.kill) = .answered value after) :
    Stands caller file channel good ⟨⟨after, attempt.world.births⟩, next value⟩
      (purse.after (.call (.signal pid Host.Signal.kill)) value) child? := by
  refine stands.answered rest turn nofun (fun _ child known => .inr ?_) (stands.nobody_started rest nofun turn)
  -- It is the one that runs that is killed.
  obtain rfl := Option.some.inj ((stands.running pid runs).symm.trans known)
  exact Kernel.doomed_of_kill turn

/-- An attempt stands after a start is answered: the process that was started runs, or has ended if its program could
not be run. -/
theorem spawned {order : Host.Order} {next : Except IoFault Nat → Conduct α} {value : Except IoFault Nat}
    {after : Kernel} (rest : attempt.rest = .ask (.call (.spawn order)) next) (unspent : purse.spent = false)
    (turn : attempt.world.kernel.turn caller (.spawn order) = .answered value after) :
    Stands caller file channel good ⟨⟨after, attempt.world.births⟩, next value⟩
      (purse.after (.call (.spawn order)) value) child? := by
  have may : attempt.world.kernel.May caller (.spawn order) (.answered value after) := turn ▸ .heard
  have took := (Kernel.turned_may stands.writeEnd.sound may).took
  -- The host declined to start anybody, or the one that it started runs his program or could not.
  cases took with
  | answered plain => exact absurd rfl (plain order)
  | declined there live calm =>
    -- Nobody was started.
    have none := ((stands.goes _ there live).awaits unspent).symm.trans calm
    refine stands.answered rest turn nofun (fun _ child known => ?_) nofun
    rw [none] at known
    cases known
  | started there live waits =>
    have awaits := (stands.goes _ there live).awaits unspent
    refine stands.answered rest turn (fun pid runs => ?_) (fun _ child known => .inl ?_) nofun
    · cases runs
      exact awaits.symm.trans waits
    · exact waits.symm.trans (awaits.trans known)
  | failed there live waits _ known gaveUp =>
    have awaits := (stands.goes _ there live).awaits unspent
    refine stands.answered rest turn nofun (fun _ child known' => .inr (stands.doomed_after turn known' ?_)) nofun
    obtain rfl := Option.some.inj (waits.symm.trans (awaits.trans known'))
    refine Kernel.Dead.doomed fun process there => ?_
    cases known.symm.trans (Kernel.station?_of_process? there)
    exact (stands.writeEnd.sound.stations _ _ known).refused _ gaveUp

/-- An attempt stands after a call that the host heard. -/
theorem heard {wanted : Call} {next : wanted.Answer → Conduct α} {value : wanted.Answer} {after : Kernel}
    (rest : attempt.rest = .ask (.call wanted) next)
    (turn : attempt.world.kernel.turn caller wanted = .answered value after) :
    Stands caller file channel good ⟨⟨after, attempt.world.births⟩, next value⟩ (purse.after (.call wanted) value)
      child? := by
  obtain ⟨was, there, live, goes⟩ := stands.goes_on turn
  have abides := goes.abides
  rw [rest] at abides
  have allowed := abides.1
  -- The rules allow no other calls.
  cases wanted with
  | closeOnExec | setCloseOnExec | close =>
    exact stands.unchanged rest turn (by cases value <;> rfl) (by cases value <;> rfl) nofun
  | signal pid number =>
    obtain ⟨runs, rfl⟩ := allowed
    exact stands.killed rest runs turn
  | spawn order => exact stands.spawned rest allowed turn
  | _ => exact allowed.elim

/-- An attempt stands after every step. -/
theorem step {after : Attempt α} (step : Step caller attempt after) :
    ∃ purse child?, Stands caller file channel good after purse child? := by
  -- One case for each way in which the course goes on, each of which has its lemma.
  cases step with
  | told rest there live => exact ⟨purse, child?, stands.told rest there live⟩
  | answered rest serves =>
    cases serves with
    | heard turn => exact ⟨_, child?, stands.heard rest turn⟩
    | refused refuses there live idle => exact ⟨_, child?, stands.refused rest refuses there live idle⟩
  | unanswered rest heard silent => exact ⟨purse, stands.unanswered rest heard silent⟩
  | others other acts => exact ⟨purse, child?, stands.others other acts⟩

/-- Where an attempt has come to its end, it has ended well; the process has what it knows of, and the one that it has
started runs or is doomed. -/
theorem settled {value : α} (done : attempt.rest = .done value) : good value purse ∧
    (∀ fd, attempt.world.kernel.slot? caller fd = purse.slots fd) ∧
    ∀ child, child? = some child → purse.running = some child ∨ attempt.world.kernel.Doomed child := by
  obtain ⟨was, there, live⟩ | ⟨act, next, more⟩ := stands.alive
  · -- An attempt that goes on knows its slots, and the last thing it does is to end well.
    have goes := stands.goes was there live
    have abides := goes.abides
    rw [done] at abides
    refine ⟨abides, fun fd => ?_, fun child known => ?_⟩
    · rw [← goes.table fd, Kernel.slot?_eq, there]
      rfl
    · cases spent : purse.spent with
      | true => exact stands.fate spent child known
      | false =>
        -- Who waits for a process is still asking for it.
        obtain ⟨order, next, starts⟩ := goes.starts (by rw [goes.awaits spent, known]; nofun)
        rw [done] at starts
        cases starts
  · rw [done] at more
    cases more

end Stands

/-- An attempt stands in whatever it leads to. -/
theorem stands_of_reaches {α : Type} {caller file channel : Nat} {good : α → Purse → Prop} {first last : Attempt α}
    {purse : Purse} {child? : Option Nat} (stands : Stands caller file channel good first purse child?)
    (reached : Reaches caller first last) : ∃ purse child?, Stands caller file channel good last purse child? := by
  -- Each step keeps it, for some purse and child.
  induction reached with
  | refl => exact ⟨purse, child?, stands⟩
  | tail _ step ih =>
    obtain ⟨purse, child?, stands⟩ := ih
    exact stands.step step

end Attempt

end Umpire.Bout
