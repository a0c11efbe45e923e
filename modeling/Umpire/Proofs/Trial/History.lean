import Umpire.Proofs.Bout.Guard
import Umpire.Trial.Region

/-! Histories of regions: what each step around a descriptor does to it, whatever others do meanwhile, and where a
process stands after any number of steps. -/

namespace Umpire

namespace Trial.Region

open Bout (Conduct)
open Bout.Inheritance (Guard Setting notOpen)
open Host (Call Deed Kernel Onward Passage Slot)

/-- Whether a step leaves a region. -/
def Step.leaves : Step → Bool
  | .release | .abandon => true
  | _ => false

/-- Whether a step enters a region or leaves one. -/
def Step.moves (step : Step) : Bool :=
  step = .enter || step.leaves

/-- A step that has been taken, and what came of it. -/
structure Taken where
  step : Step
  before : Kernel
  deeds : List Deed
  after : Kernel
  result : Except Fault Unit
  told : List Entry
  /-- How many regions are alive then. -/
  alive : Nat

section Past

variable (past : List Taken)

/-- Whether the descriptor has been closed. -/
def isClosed : Bool :=
  past.any (·.step = .close)

/-- How many regions are alive, which have been entered and not left. -/
def alive : Nat :=
  (past.head?.map Taken.alive).getD 0

/-- The latest step that has entered a region or left one. -/
def latest : Option Step :=
  (past.map Taken.step).find? Step.moves

/-- What a descriptor stands for, which was open at first. -/
def held (slot : Slot) : Option Slot :=
  if isClosed past then none
  else some { slot with closeOnExec := (latest past).elim slot.closeOnExec (· != .enter) }

variable (taken : Taken)

/-- A descriptor is closed once some step has closed it. -/
@[simp] theorem isClosed_cons : isClosed (taken :: past) = (decide (taken.step = .close) || isClosed past) := rfl

/-- The latest step says how many regions are alive. -/
@[simp] theorem alive_cons : alive (taken :: past) = taken.alive := rfl

/-- Steps that neither enter a region nor leave one do not count. -/
@[simp] theorem latest_cons :
    latest (taken :: past) = if taken.step.moves then some taken.step else latest past := by
  -- The newest step comes first, so that an older one is found only if this one does not count.
  rw [latest, List.map_cons, List.find?_cons]
  cases taken.step.moves <;> rfl

end Past

/-- What a process has done around a descriptor of its own, the latest step first, and where it stands. In between it
may do anything that lets the descriptor and some others be. -/
inductive History (who fd : Nat) (beside : List Nat) (start : Kernel) : List Taken → Kernel → Standing → Prop where
  /-- Nothing has been done yet. -/
  | begins : History who fd beside start [] start { writeEnd := fd }
  /-- Something else has happened, by which those descriptors stand for what they did. -/
  | meanwhile {past : List Taken} {kernel later : Kernel} {standing : Standing}
      (history : History who fd beside start past kernel standing) (onward : Onward kernel later)
      (kept : ∀ number ∈ fd :: beside, later.slot? who number = kernel.slot? who number) :
      History who fd beside start past later standing
  /-- A step has been taken, which was possible. -/
  | takes (step : Step) {past : List Taken} {kernel after : Kernel} {standing next : Standing} {deeds : List Deed}
      {result : Except Fault Unit} {told : List Entry} (history : History who fd beside start past kernel standing)
      (passage : Passage who kernel (take standing step).told deeds after ((some result, next), told)) :
      History who fd beside start (⟨step, kernel, deeds, after, result, told, next.guards.length⟩ :: past) after next

/-- What a step does. -/
inductive Moved (who : Nat) (standing : Standing) (kernel : Kernel) (deeds : List Deed) (after : Kernel) :
    Step → Except Fault Unit → List Entry → Standing → Prop where
  /-- A region is entered, and there is a guard for it. -/
  | entered (setting : Setting who standing.writeEnd false kernel deeds after (.ok ())) :
      Moved who standing kernel deeds after .enter (.ok ()) []
        { standing with guards := { fd := standing.writeEnd } :: standing.guards }
  /-- A region cannot be entered, and there is no guard. -/
  | barred {fault : Fault} (setting : Setting who standing.writeEnd false kernel deeds after (.error fault)) :
      Moved who standing kernel deeds after .enter (.error fault) [] standing
  /-- The newest region is left, and what comes of that is heard. -/
  | released {newest : Guard} {others : List Guard} {result : Except Fault Unit}
      (first : standing.guards = newest :: others) (setting : Setting who newest.fd true kernel deeds after result) :
      Moved who standing kernel deeds after .release result [] { standing with guards := others }
  /-- The newest region is left, and what comes of that is told at most. -/
  | abandoned {newest : Guard} {others : List Guard} {result : Except Fault Unit}
      (first : standing.guards = newest :: others) (setting : Setting who newest.fd true kernel deeds after result) :
      Moved who standing kernel deeds after .abandon (.ok ()) (newest.complaint result)
        { standing with guards := others }
  /-- The descriptor is closed. -/
  | closed (held : standing.closed = false) (onward : Onward kernel after)
      (calls : Deed.answered deeds = [.close standing.writeEnd])
      (slots : ∀ number, after.slot? who number =
        if number = standing.writeEnd then none else kernel.slot? who number) :
      Moved who standing kernel deeds after .close (.ok ()) [] { standing with closed := true }
  /-- It is closed already. -/
  | closedBefore (gone : standing.closed = true) (still : deeds = [] ∧ after = kernel) :
      Moved who standing kernel deeds after .close (.ok ()) [] { standing with closed := true }
  /-- Nothing is done. -/
  | checked (still : deeds = [] ∧ after = kernel) : Moved who standing kernel deeds after .check (.ok ()) [] standing

section Taking

variable {who : Nat} {standing next : Standing} {step : Step} {kernel after : Kernel} {deeds : List Deed}
  {result : Except Fault Unit} {told : List Entry}

/-- Leaving the newest region in some way is what that way does with the newest guard. -/
theorem passage_of_leave {way : Guard → Conduct (Except Fault Unit)}
    (passage : Passage who kernel (leave standing way).told deeds after ((some result, next), told)) :
    ∃ newest others, standing.guards = newest :: others ∧
      Passage who kernel ((way newest).telling []) deeds after (result, told) ∧
      next = { standing with guards := others } := by
  -- What is told from a start of nothing is a conduct's telling, which a bind can be taken out of.
  change Passage who kernel (Conduct.telling (leave standing way) []) deeds after _ at passage
  rw [leave] at passage
  -- Without a guard there is nothing to leave, and the step would have had no result.
  split at passage
  · obtain ⟨-, -, value⟩ := Passage.of_done passage
    cases value
  · rename_i newest others first
    rw [Conduct.telling_bind] at passage
    -- What is done after the guard has been left is nothing, so that all deeds are the guard's.
    obtain ⟨earlier, middle, ⟨left, between⟩, later, rfl, way, rest⟩ := Passage.of_bind passage
    obtain ⟨rfl, rfl, value⟩ := Passage.of_done rest
    cases value
    rw [List.append_nil]
    exact ⟨newest, others, first, way, rfl⟩

/-- What a step does, whatever others do meanwhile. -/
theorem moved_of_passage (sound : kernel.Sound) (old : who < kernel.processes.next)
    (armed : ∀ guard ∈ standing.guards, guard.armed = true)
    (passage : Passage who kernel (take standing step).told deeds after ((some result, next), told)) :
    Moved who standing kernel deeds after step result told next := by
  cases step with
  | enter =>
    change Passage who kernel (Conduct.telling (Guard.enter standing.writeEnd >>= _) []) deeds after _ at passage
    -- The flag is set first, and what the step comes to hangs on how that went.
    rw [Conduct.telling_bind] at passage
    obtain ⟨earlier, middle, ⟨entered, between⟩, later, rfl, first, rest⟩ := Passage.of_bind passage
    obtain ⟨set, setting, rfl, rfl⟩ := Guard.setting_of_enter sound old first
    cases set with
    | ok done =>
      obtain ⟨rfl, rfl, value⟩ := Passage.of_done rest
      cases value
      rw [List.append_nil]
      exact .entered setting
    | error fault =>
      obtain ⟨rfl, rfl, value⟩ := Passage.of_done rest
      cases value
      rw [List.append_nil]
      exact .barred setting
  | release =>
    obtain ⟨newest, others, first, left, rfl⟩ := passage_of_leave passage
    obtain ⟨setting, rfl⟩ := Guard.setting_of_release sound old left
    exact .released first setting
  | abandon =>
    obtain ⟨newest, others, first, left, rfl⟩ := passage_of_leave passage
    rw [Conduct.telling_bind] at left
    -- A guard that is let go of gives no result, and the step is done in any case.
    obtain ⟨earlier, middle, ⟨⟨⟩, between⟩, later, rfl, dropped, rest⟩ := Passage.of_bind left
    obtain ⟨rfl, rfl, value⟩ := Passage.of_done rest
    obtain ⟨left, setting, rfl⟩ := Guard.setting_of_drop sound old (armed newest (by simp [first])) dropped
    cases value
    rw [List.append_nil]
    exact .abandoned first setting
  | close =>
    change Passage who kernel (Conduct.telling (take standing .close) []) deeds after _ at passage
    rw [take] at passage
    -- A descriptor that is closed already is not closed again.
    cases held : standing.closed with
    | true =>
      rw [held] at passage
      obtain ⟨rfl, rfl, value⟩ := Passage.of_done passage
      cases value
      exact .closedBefore held ⟨rfl, rfl⟩
    | false =>
      rw [held] at passage
      obtain ⟨before, answer, middle, later, asked, passage⟩ := Passage.of_ask passage sound old
      obtain ⟨rfl, rfl, value⟩ := Passage.of_done passage
      cases value
      refine .closed held asked.onward asked.answered fun number => ?_
      rw [Kernel.slots_close asked.meanwhile.sound asked.may, asked.slots]
  | check =>
    -- To look at the descriptor asks the host nothing.
    obtain ⟨rfl, rfl, value⟩ := Passage.of_done passage
    cases value
    exact .checked ⟨rfl, rfl⟩

end Taking

/-- What comes of a step around a descriptor, depending on whether it was closed before. -/
def Step.outcome (closed : Bool) : Step → Except Fault Unit
  | .enter | .release => if closed then .error notOpen else .ok ()
  | .abandon | .close | .check => .ok ()

/-- What is told in a step. -/
def Step.warnings (fd : Nat) (closed : Bool) : Step → List Entry
  | .abandon => if closed then [.restoreFailed fd notOpen] else []
  | _ => []

/-- What is called for in a step. -/
def Step.calls (fd : Nat) (closed : Bool) : Step → List Call
  | .enter => .closeOnExec fd :: if closed then [] else [.setCloseOnExec fd false]
  | .release | .abandon => .closeOnExec fd :: if closed then [] else [.setCloseOnExec fd true]
  | .close => if closed then [] else [.close fd]
  | .check => []

/-- Where a process stands after what it has done around a descriptor that was open at first. -/
structure Stands (who fd : Nat) (beside : List Nat) (start : Kernel) (slot : Slot) (past : List Taken)
    (kernel : Kernel) (standing : Standing) : Prop where
  onward : Onward start kernel
  writeEnd : standing.writeEnd = fd
  guards : ∀ guard ∈ standing.guards, guard = { fd }
  counted : standing.guards.length = alive past
  closed : standing.closed = isClosed past
  slot : kernel.slot? who fd = held past slot
  inside : isClosed past = false → latest past = some .enter → 0 < alive past
  beside : ∀ number ∈ beside, number ≠ fd → kernel.slot? who number = start.slot? who number

namespace Stands

section Step

variable {who fd : Nat} {beside : List Nat} {start kernel after : Kernel} {slot : Slot} {past : List Taken}
  {standing next : Standing} {step : Step} {deeds : List Deed} {result : Except Fault Unit} {told : List Entry}

/-- Setting the descriptor's flag succeeds as long as it has not been closed. -/
theorem set (stands : Stands who fd beside start slot past kernel standing) {flag : Bool}
    (setting : Setting who fd flag kernel deeds after result) :
    result = (if isClosed past then .error notOpen else .ok ()) ∧
      Deed.answered deeds = .closeOnExec fd :: (if isClosed past then [] else [.setCloseOnExec fd flag]) ∧
      after.slot? who fd = if isClosed past then none else some { slot with closeOnExec := flag } := by
  -- A descriptor that was not closed is open still, and a closed one is nothing: the two ways in which a flag can be
  -- set.
  have had := stands.slot
  rw [held] at had
  cases gone : isClosed past with
  | true =>
    rw [gone] at had
    exact setting.of_absent had
  | false =>
    rw [gone, if_neg Bool.false_ne_true] at had
    have opened := setting.of_open had
    exact opened

/-- A step that enters a region or leaves one leads on. -/
theorem of_setting (stands : Stands who fd beside start slot past kernel standing) {flag : Bool}
    {set : Except Fault Unit} (setting : Setting who fd flag kernel deeds after set) (moves : step.moves = true)
    (sets : (step != .enter) = flag) (guards : List Guard) (known : ∀ guard ∈ guards, guard = { fd })
    (inside : isClosed past = false → step = .enter → 0 < guards.length) :
    Stands who fd beside start slot (⟨step, kernel, deeds, after, result, told, guards.length⟩ :: past) after
      { standing with guards } := by
  -- Setting a flag closes nothing.
  have stays : isClosed (⟨step, kernel, deeds, after, result, told, guards.length⟩ :: past) = isClosed past := by
    have apart : step ≠ .close := fun closes => by
      subst closes
      cases moves
    rw [isClosed_cons, decide_eq_false apart, Bool.false_or]
  refine {
    onward := stands.onward.trans setting.onward
    writeEnd := stands.writeEnd
    guards := known
    counted := rfl
    closed := stands.closed.trans stays.symm
    slot := ?_
    inside := fun whole entered => ?_
    beside := fun number listed apart => (setting.others apart).trans (stands.beside number listed apart) }
  · -- The step is now the latest that counts, so that the flag is as it has set it.
    rw [held, stays, latest_cons, if_pos moves, (stands.set setting).2.2, ← sets]
    rfl
  · rw [latest_cons, if_pos moves] at entered
    exact inside (stays.symm.trans whole) (Option.some.inj entered)

/-- A step leads from where the process stands to where it stands then. -/
theorem of_moved (stands : Stands who fd beside start slot past kernel standing)
    (moved : Moved who standing kernel deeds after step result told next) :
    Stands who fd beside start slot (⟨step, kernel, deeds, after, result, told, next.guards.length⟩ :: past) after
      next := by
  obtain rfl := stands.writeEnd
  -- Three of the steps set the flag and share their reasoning; closing and what changes nothing remain.
  cases moved with
  | entered setting =>
    exact stands.of_setting setting rfl rfl _ (List.forall_mem_cons.mpr ⟨rfl, stands.guards⟩) fun _ _ => Nat.succ_pos _
  | @barred fault setting =>
    -- A region is barred only once the descriptor is closed, so that nothing is claimed to be inside it.
    refine stands.of_setting setting rfl rfl _ stands.guards fun whole _ => ?_
    obtain ⟨failed, -⟩ := stands.set setting
    rw [whole] at failed
    cases failed
  | @released newest others _ first setting | @abandoned newest others _ first setting =>
    have known := stands.guards
    rw [first, List.forall_mem_cons] at known
    -- The guard that is left was on this descriptor, as all are, and the others stay.
    obtain ⟨rfl, known⟩ := known
    exact stands.of_setting setting rfl rfl _ known nofun
  | closed whole onward calls slots =>
    refine {
      onward := stands.onward.trans onward
      writeEnd := rfl
      guards := stands.guards
      counted := rfl
      closed := rfl
      slot := by rw [slots, if_pos rfl]; rfl
      inside := nofun
      beside := fun number listed apart => ?_ }
    rw [slots, if_neg apart]
    exact stands.beside number listed apart
  | closedBefore gone still =>
    obtain ⟨rfl, rfl⟩ := still
    -- What was closed before is closed still, and no host call was made.
    have shut : isClosed past = true := stands.closed.symm.trans gone
    refine { stands with
      counted := rfl
      closed := rfl
      slot := ?_
      inside := nofun }
    rw [stands.slot, held, if_pos shut]
    rfl
  | checked still =>
    obtain ⟨rfl, rfl⟩ := still
    exact { stands with
      counted := rfl
      inside := fun whole entered => stands.counted ▸ stands.inside whole entered }

/-- What comes of a step that is taken where a process stands, what is told and called for in it, and how many
regions are alive afterwards. -/
theorem comes (stands : Stands who fd beside start slot past kernel standing)
    (moved : Moved who standing kernel deeds after step result told next) :
    result = step.outcome (isClosed past) ∧ told = step.warnings fd (isClosed past) ∧
      Deed.answered deeds = step.calls fd (isClosed past) ∧
      (step = .enter → next.guards.length = alive past + if isClosed past then 0 else 1) ∧
      (step.leaves = true → next.guards.length + 1 = alive past) ∧
      (step.moves = false → next.guards.length = alive past) := by
  have counted := stands.counted
  obtain rfl := stands.writeEnd
  -- Each way to move settles the result first, from which the rest is read off.
  cases moved with
  | entered setting =>
    obtain ⟨fine, calls, -⟩ := stands.set setting
    refine ⟨fine, rfl, calls, fun _ => ?_, nofun, nofun⟩
    -- Entering succeeded, so that the descriptor has not been closed.
    cases gone : isClosed past with
    | true => simp [gone] at fine
    | false => simp [counted]
  | barred setting =>
    obtain ⟨failed, calls, -⟩ := stands.set setting
    refine ⟨failed, rfl, calls, fun _ => ?_, nofun, nofun⟩
    -- Entering failed, so that it has been.
    cases gone : isClosed past with
    | true => simp [counted]
    | false => simp [gone] at failed
  | @released newest others _ first setting =>
    rw [first] at counted
    obtain rfl := stands.guards newest (first ▸ List.mem_cons_self)
    obtain ⟨outcome, calls, -⟩ := stands.set setting
    exact ⟨outcome, rfl, calls, nofun, fun _ => counted, nofun⟩
  | @abandoned newest others _ first setting =>
    rw [first] at counted
    obtain rfl := stands.guards newest (first ▸ List.mem_cons_self)
    obtain ⟨rfl, calls, -⟩ := stands.set setting
    refine ⟨rfl, ?_, calls, nofun, fun _ => counted, nofun⟩
    cases gone : isClosed past <;> rfl
  | closed whole onward calls slots =>
    rw [stands.closed] at whole
    refine ⟨rfl, rfl, ?_, nofun, nofun, fun _ => counted⟩
    rw [calls, whole]
    rfl
  | closedBefore gone still =>
    obtain ⟨rfl, rfl⟩ := still
    rw [stands.closed] at gone
    refine ⟨rfl, rfl, ?_, nofun, nofun, fun _ => counted⟩
    rw [gone]
    rfl
  | checked still =>
    obtain ⟨rfl, rfl⟩ := still
    exact ⟨rfl, rfl, rfl, nofun, nofun, fun _ => counted⟩

/-- Each step that is taken does what it does, since all guards are armed. -/
theorem moved (stands : Stands who fd beside start slot past kernel standing) (old : who < start.processes.next)
    (passage : Passage who kernel (take standing step).told deeds after ((some result, next), told)) :
    Moved who standing kernel deeds after step result told next :=
  moved_of_passage stands.onward.sound (Nat.lt_of_lt_of_le old stands.onward.numbers)
    (fun guard listed => by rw [stands.guards guard listed]) passage

end Step

end Stands

section Run

variable {who fd : Nat} {beside : List Nat} {start kernel : Kernel} {slot : Slot} {past : List Taken}
  {standing : Standing} (sound : start.Sound) (old : who < start.processes.next)
  (opened : start.slot? who fd = some slot)

include sound old opened

/-- Whatever a process has done around a descriptor, it stands where that leads. -/
theorem stands_of_history (history : History who fd beside start past kernel standing) :
    Stands who fd beside start slot past kernel standing := by
  -- By induction on the history, with where the process stands as the invariant. What others do keeps it as long as
  -- they keep the descriptors.
  induction history with
  | begins =>
    exact {
      onward := .refl sound
      writeEnd := rfl
      guards := List.forall_mem_nil _
      counted := rfl
      closed := rfl
      slot := opened
      inside := nofun
      beside := fun _ _ _ => rfl }
  | meanwhile history onward kept stands =>
    refine { stands with
      onward := stands.onward.trans onward
      slot := (kept fd List.mem_cons_self).trans stands.slot
      beside := fun number listed apart => ?_ }
    exact (kept number (List.mem_cons_of_mem fd listed)).trans (stands.beside number listed apart)
  | takes step history passage stands => exact stands.of_moved (stands.moved old passage)

/-- Each step of a history was taken where the process stood then, and led to where it stood afterwards. -/
theorem moved_of_history (history : History who fd beside start past kernel standing) {taken : Taken}
    {earlier : List Taken} (reached : taken :: earlier <:+ past) :
    ∃ before after, Stands who fd beside start slot earlier taken.before before ∧
      Moved who before taken.before taken.deeds taken.after taken.step taken.result taken.told after ∧
      Stands who fd beside start slot (taken :: earlier) taken.after after := by
  -- By induction on the history: the step that is looked for is the last one or is in what came before.
  induction history with
  | begins => cases List.suffix_nil.mp reached
  | meanwhile _ _ _ ih => exact ih reached
  | @takes _ _ _ _ standing next _ _ _ history passage ih =>
    rcases List.suffix_cons_iff.mp reached with same | further
    · cases same
      have stands := stands_of_history sound old opened history
      have moved := stands.moved old passage
      exact ⟨standing, next, stands, moved, stands.of_moved moved⟩
    · exact ih further

end Run

end Trial.Region

end Umpire
