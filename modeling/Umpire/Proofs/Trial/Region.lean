import Umpire.Proofs.Bout.Installation
import Umpire.Proofs.Trial.History

/-! Regions around a descriptor: whatever sequence of regions a process enters and leaves, new programs keep the
descriptor exactly after an entering. A region that is left makes it private again even inside another one. -/

namespace Umpire

namespace Host

/-- Calls that look at a descriptor's flag, set it, or close the descriptor. -/
def Call.Adjusts : Call → Prop
  | .closeOnExec _ | .setCloseOnExec .. | .close _ => True
  | _ => False

variable {who : Nat} {kernel : Kernel}

/-- A process that goes on is answered such a call in its next turn, and still goes on. -/
theorem Kernel.turn_adjusts (goes : kernel.goesOn who = true) {wanted : Call} (adjusts : wanted.Adjusts) :
    ∃ answer after, kernel.turn who wanted = .answered answer after ∧ after.goesOn who = true := by
  rw [turn_attend goes]
  obtain ⟨process, found, calm⟩ := (Option.any_eq_true ..).mp goes
  -- A change of what the process has open leaves it going on.
  have still (table : Table) : (kernel.setTable who table).goesOn who = true := by
    rw [goesOn, setTable, process?_update found]
    exact calm
  have changed (change : Table → Except Errno Table) :
      ∃ answer after, kernel.done (kernel.withTable who change) = .answered answer after ∧ after.goesOn who = true := by
    cases outcome : change process.table with
    | error errno => exact ⟨.error errno, kernel, by simp only [withTable, found, outcome, done], goes⟩
    | ok table => exact ⟨.ok (), _, by simp only [withTable, found, outcome, done], still table⟩
  -- None of these calls waits, whether it succeeds or not.
  cases wanted with
  | closeOnExec fd =>
    cases held : kernel.slot? who fd with
    | none => exact ⟨.error Errno.badDescriptor, kernel, by simp only [attend, held], goes⟩
    | some slot => exact ⟨.ok slot.closeOnExec, kernel, by simp only [attend, held], goes⟩
  | setCloseOnExec fd flag => exact changed fun table => table.setCloseOnExec fd flag
  | close fd => exact changed fun table => table.close fd
  | _ => cases adjusts

/-- A process that goes on gets to the end of what it does by such calls only. -/
theorem Passage.exists_of_adjusts {α : Type} {good : α → Unit → Prop} {talk : Talk α}
    (abides : talk.Abides (Call.only Call.Adjusts) good ()) (goes : kernel.goesOn who = true) :
    ∃ deeds last value, Passage who kernel talk deeds last value ∧ good value () ∧ last.goesOn who = true := by
  -- One call after the other is answered, and each leaves a process that goes on.
  induction talk generalizing kernel with
  | done value => exact ⟨[], kernel, value, .done kernel value, abides, goes⟩
  | ask wanted next ih =>
    obtain ⟨answer, after, turn, goes'⟩ := Kernel.turn_adjusts goes abides.1
    obtain ⟨deeds, last, value, rest, ends⟩ := ih answer (abides.2 answer () trivial) goes'
    exact ⟨_, last, value, .turn turn rest, ends⟩

end Host

namespace Trial.Region

open Bout (Conduct)
open Bout.Inheritance (Guard notOpen)
open Host (Call Deed Kernel Passage Slot)

/-- Setting a descriptor's flag calls only for what every process that goes on is answered at once. -/
theorem abides_setPrivate {α : Type} {good : α × List Entry → Unit → Prop} {fd : Nat} {flag : Bool}
    {rest : Except Fault Unit → Conduct α} {told : List Entry}
    (ends : ∀ result, ((rest result).telling told).Abides (Call.only Call.Adjusts) good ()) :
    ((Bout.Inheritance.setPrivate fd flag >>= rest).telling told).Abides (Call.only Call.Adjusts) good () := by
  -- The flag is looked at and, if that succeeds, set; neither is told of.
  have sets : ((Bout.Inheritance.setPrivate fd flag).telling told).Abides (Call.only Call.Adjusts)
      (fun ended _ => ended.2 = told) () := by
    refine ⟨trivial, fun answer _ _ => ?_⟩
    cases answer with
    | error errno => rfl
    | ok was =>
      refine ⟨trivial, fun answer _ _ => ?_⟩
      cases answer <;> rfl
  -- What follows starts with what had been told before.
  rw [Conduct.telling_bind]
  refine sets.seq fun ended _ same => ?_
  subst same
  exact ends ended.1

/-- A step comes to something, and calls only for that, if there is a region to leave where one is left. -/
theorem abides_take {standing : Standing} {step : Step} (fits : step.leaves = true → standing.guards ≠ []) :
    (take standing step).told.Abides (Call.only Call.Adjusts) (fun taken _ => taken.1.1.isSome = true) () := by
  change (Conduct.telling (take standing step) []).Abides _ _ _
  cases step with
  | enter =>
    simp only [take, Guard.enter, bind_assoc]
    -- A region is entered by setting the flag.
    exact abides_setPrivate fun result => by cases result <;> rfl
  | release =>
    -- There is a region to leave, so the step comes to something.
    obtain ⟨newest, others, first⟩ := List.exists_cons_of_ne_nil (fits rfl)
    simp only [take, leave, first, Guard.release_eq]
    exact abides_setPrivate fun result => rfl
  | abandon =>
    obtain ⟨⟨fd, armed⟩, others, first⟩ := List.exists_cons_of_ne_nil (fits rfl)
    simp only [take, leave, first]
    -- A guard that was never armed is let go of without a call.
    cases armed with
    | false => rfl
    | true =>
      simp only [Guard.drop, if_true, Bout.Inheritance.abandon, bind_assoc]
      exact abides_setPrivate fun result => by cases result <;> rfl
  | close =>
    rw [take]
    cases standing.closed with
    | true => rfl
    | false => exact ⟨trivial, fun _ _ _ => rfl⟩
  | check => rfl

/-- A process that goes on can take any next step, if there is a region to leave where one is left. -/
theorem History.exists_takes {who fd : Nat} {beside : List Nat} {start kernel : Kernel} {past : List Taken}
    {standing : Standing} (history : History who fd beside start past kernel standing)
    (goes : kernel.goesOn who = true) {step : Step} (fits : step.leaves = true → standing.guards ≠ []) :
    ∃ taken next, History who fd beside start (taken :: past) taken.after next ∧ taken.step = step ∧
      taken.after.goesOn who = true := by
  obtain ⟨deeds, after, ⟨⟨result, next⟩, told⟩, passage, comes, goes'⟩ :=
    Passage.exists_of_adjusts (abides_take fits) goes
  -- What comes of the step is a result, so it is one more in the history.
  obtain ⟨result, rfl⟩ := Option.isSome_iff_exists.mp comes
  exact ⟨_, next, .takes step history passage, rfl, goes'⟩

/-- How a step goes around the write end of a pipe, by what was done before. -/
structure Regular (who : Nat) (pipe : Bout.SignalPipe) (start : Kernel) (earlier : List Taken) (taken : Taken) :
    Prop where
  /-- As long as the write end is open the step succeeds, and there is nothing to tell. -/
  succeeds : isClosed earlier = false → taken.result = .ok () ∧ taken.told = []
  /-- New programs keep it then exactly if the latest step was an entering. -/
  kept : isClosed (taken :: earlier) = false → taken.after.flag? who pipe.writeEnd ≠ none ∧
    (taken.after.flag? who pipe.writeEnd = some false ↔ latest (taken :: earlier) = some .enter)
  /-- Outside of all regions it is private. -/
  outside : isClosed (taken :: earlier) = false → taken.alive = 0 → taken.after.flag? who pipe.writeEnd = some true
  /-- The read end stays as it is. -/
  readEnd : taken.after.slot? who pipe.readEnd = start.slot? who pipe.readEnd
  /-- A region is alive from its entering on, unless the write end was closed before. -/
  entered : taken.step = .enter → taken.alive = alive earlier + if isClosed earlier then 0 else 1
  /-- It is no more once it is left, however that is done. -/
  left : taken.step.leaves = true → taken.alive + 1 = alive earlier
  /-- Other steps neither begin nor end one. -/
  stays : taken.step.moves = false → taken.alive = alive earlier
  /-- After the write end has been closed, entering and releasing fail. -/
  refused : isClosed earlier = true → taken.step = .enter ∨ taken.step = .release →
    taken.result = .error notOpen ∧ taken.told = []
  /-- Letting go of a guard does not, but warns. -/
  warned : isClosed earlier = true → taken.step = .abandon →
    taken.result = .ok () ∧ taken.told = [.restoreFailed pipe.writeEnd notOpen]
  /-- The flag is looked at once and set once by an entering, and by a leaving of either kind. -/
  calls : Deed.answered taken.deeds = taken.step.calls pipe.writeEnd (isClosed earlier)

namespace Stands

section Flag

variable {who fd : Nat} {beside : List Nat} {start kernel : Kernel} {slot : Slot} {past : List Taken}
  {standing : Standing}

/-- The flag of a descriptor that has not been closed is as the latest step has left it. -/
theorem flag (stands : Stands who fd beside start slot past kernel standing) (whole : isClosed past = false) :
    kernel.flag? who fd = some ((latest past).elim slot.closeOnExec (· != .enter)) := by
  rw [Kernel.flag?, stands.slot, held, whole]
  rfl

end Flag

variable {who : Nat} {pipe : Bout.SignalPipe} {start : Kernel} {slot : Slot} {earlier : List Taken} {taken : Taken}
  {standing next : Standing}

/-- A step that is taken where a process stands is regular. -/
theorem regular (stands : Stands who pipe.writeEnd [pipe.readEnd] start slot earlier taken.before standing)
    (isPrivate : slot.closeOnExec = true) (apart : pipe.readEnd ≠ pipe.writeEnd)
    (moved : Moved who standing taken.before taken.deeds taken.after taken.step taken.result taken.told next)
    (after : Stands who pipe.writeEnd [pipe.readEnd] start slot (taken :: earlier) taken.after next) :
    Regular who pipe start earlier taken := by
  -- Private before, the descriptor is inheritable exactly if the latest step has made it so.
  have kept (whole : isClosed (taken :: earlier) = false) : taken.after.flag? who pipe.writeEnd ≠ none ∧
      (taken.after.flag? who pipe.writeEnd = some false ↔ latest (taken :: earlier) = some .enter) := by
    rw [after.flag whole, isPrivate]
    cases latest (taken :: earlier) with
    | none => simp
    | some step => simp
  have outside (whole : isClosed (taken :: earlier) = false) (none : taken.alive = 0) :
      taken.after.flag? who pipe.writeEnd = some true := by
    obtain ⟨there, iff⟩ := kept whole
    -- With no region alive the latest step was no entering, as an entering would have left one.
    have nowhere : latest (taken :: earlier) ≠ some .enter := fun inside =>
      absurd none (Nat.ne_of_gt (after.inside whole inside))
    match found : taken.after.flag? who pipe.writeEnd with
    | .some true => rfl
    | .some false => exact absurd (iff.mp found) nowhere
    | .none => exact absurd found there
  -- All else is what the step comes to where it is taken.
  obtain ⟨outcome, warnings, calls, entered, left, stays⟩ := stands.comes moved
  rw [show next.guards.length = taken.alive from after.counted] at entered left stays
  exact {
    succeeds := fun whole => by
      rw [outcome, warnings, whole]
      cases taken.step <;> exact ⟨rfl, rfl⟩
    kept := kept
    outside := outside
    readEnd := after.beside pipe.readEnd List.mem_cons_self apart
    entered := entered
    left := left
    stays := stays
    refused := fun gone fails => by
      rw [outcome, warnings, gone]
      rcases fails with enters | releases
      · rw [enters]
        exact ⟨rfl, rfl⟩
      · rw [releases]
        exact ⟨rfl, rfl⟩
    warned := fun gone abandons => by
      rw [outcome, warnings, gone, abandons]
      exact ⟨rfl, rfl⟩
    calls := calls }

end Stands

end Trial.Region

namespace Bout

open Host (Kernel Passage)

/-- The two ends of a signalling pipe are private under different numbers. -/
theorem SignalPipe.private_of_create {who : Nat} {first start : Kernel} {side : Side} {making : List Host.Deed}
    {pipe : SignalPipe} {entries : List Entry} (sound : first.Sound) (old : who < first.processes.next)
    (made : Passage who first (create side).told making start (.ok pipe, entries)) :
    Host.Onward first start ∧ pipe.readEnd ≠ pipe.writeEnd ∧ start.flag? who pipe.readEnd = some true ∧
      start.flag? who pipe.writeEnd = some true := by
  -- Making a pipe is one call, which others may run before.
  obtain ⟨before, answer, after, later, asked, passage⟩ := Passage.of_ask made sound old
  cases answer with
  | error errno =>
    obtain ⟨-, -, value⟩ := Passage.of_done passage
    cases value
  | ok ends =>
    obtain ⟨-, rfl, value⟩ := Passage.of_done passage
    cases value
    obtain ⟨was, left, -, has, between, first, second, -⟩ := Kernel.effect_may asked.meanwhile.sound asked.may
    obtain ⟨-, -, rfl⟩ := Host.Table.insert_ok first
    obtain ⟨free, -, rfl⟩ := Host.Table.insert_ok second
    -- The write end got a number that was free with the read end in place, so another one.
    rw [Host.Table.get?_put] at free
    have apart : ends.1 ≠ ends.2 := fun same => by
      rw [if_pos same.symm] at free
      cases free
    refine ⟨asked.onward, apart, ?_, ?_⟩
    · rw [Kernel.flag?, has, Host.Table.get?_put, if_neg apart, Host.Table.get?_put, if_pos rfl]
      rfl
    · rw [Kernel.flag?, has, Host.Table.get?_put, if_pos rfl]
      rfl

end Bout

namespace Trial.Region

open Bout (SignalPipe)
open Host (Deed Kernel Passage)

/-- Around the write end of a signalling pipe, whatever regions a process enters and leaves in whatever way and whenever
it closes the descriptor, each step goes regularly: new programs keep the write end exactly after an entering, and once
it is closed nothing but an error or a warning comes of a step. A process that goes on can take any next step. -/
theorem flag_follows_steps {who : Nat} {side : Side} {first start : Kernel} {making : List Deed} {pipe : SignalPipe}
    {entries : List Entry} (sound : first.Sound) (old : who < first.processes.next)
    (made : Passage who first (SignalPipe.create side).told making start (.ok pipe, entries)) :
    start.flag? who pipe.readEnd = some true ∧ start.flag? who pipe.writeEnd = some true ∧
      ∀ past kernel standing, History who pipe.writeEnd [pipe.readEnd] start past kernel standing →
        (∀ taken earlier, taken :: earlier <:+ past → Regular who pipe start earlier taken) ∧
        (kernel.goesOn who = true → ∀ step : Step, (step.leaves = true → 0 < alive past) →
          ∃ taken next, History who pipe.writeEnd [pipe.readEnd] start (taken :: past) taken.after next ∧
            taken.step = step ∧ taken.after.goesOn who = true) := by
  -- The pipe is private when it is made, which is where every history begins.
  obtain ⟨onward, apart, reads, writes⟩ := SignalPipe.private_of_create sound old made
  obtain ⟨slot, opened, isPrivate⟩ := Option.map_eq_some_iff.mp writes
  have old := Nat.lt_of_lt_of_le old onward.numbers
  refine ⟨reads, writes, fun past kernel standing history =>
    ⟨fun taken earlier reached => ?_, fun goes step fits => ?_⟩⟩
  · -- Where a process stands before a step, and where after it, follows by induction on the history.
    obtain ⟨before, next, stands, moved, after⟩ := moved_of_history onward.sound old opened history reached
    exact stands.regular isPrivate apart moved after
  · have stands := stands_of_history onward.sound old opened history
    -- As many regions can be left as are alive.
    refine history.exists_takes goes fun leaves => ?_
    have alive := fits leaves
    rw [← stands.counted] at alive
    exact List.ne_nil_of_length_pos alive

namespace Sample

/-- A host on which a process has made a pipe. -/
def piped : Kernel :=
  (Bout.Sample.host.turn 1 .pipe).kernel

/-- The process enters two regions around the pipe's write end there, one in the other, and leaves the inner one. -/
theorem history_nested : ∃ outer inner leaving next,
    History 1 4 [3] piped [leaving, inner, outer] leaving.after next ∧ outer.step = .enter ∧ inner.step = .enter ∧
      leaving.step = .release ∧ inner.before.flag? 1 4 = some false ∧ leaving.alive = 1 ∧
      leaving.after.flag? 1 4 = some true ∧ leaving.after.goesOn 1 = true := by
  -- Each step asks twice: whether the descriptor is kept, and to set that.
  have outer := History.takes .enter (.begins : History 1 4 [3] piped [] piped _) (.turn rfl <| .turn rfl <| .done _ _)
  have inner := History.takes .enter outer (.turn rfl <| .turn rfl <| .done _ _)
  have leaving := History.takes .release inner (.turn rfl <| .turn rfl <| .done _ _)
  exact ⟨_, _, _, _, leaving, rfl, rfl, rfl, rfl, rfl, rfl, rfl⟩

end Sample

open Sample in
/-- With a region inside another, of which only the inner one is left, the next step can be a closing, and the one after
that a letting go. -/
theorem flag_follows_steps_sample : ∃ making entries past kernel standing,
    Bout.Sample.host.Sound ∧ 1 < Bout.Sample.host.processes.next ∧
      Passage 1 Bout.Sample.host (SignalPipe.create .solution).told making piped (.ok ⟨3, 4⟩, entries) ∧
      History 1 4 [3] piped past kernel standing ∧
      past.map Taken.step = [.abandon, .close, .release, .enter, .enter] ∧
      ∀ taken earlier, taken :: earlier <:+ past → Regular 1 ⟨3, 4⟩ piped earlier taken := by
  obtain ⟨making, entries, made⟩ : ∃ making entries,
      Passage 1 Bout.Sample.host (SignalPipe.create .solution).told making piped (.ok ⟨3, 4⟩, entries) :=
    ⟨_, _, .turn rfl <| .done _ _⟩
  have old : 1 < Bout.Sample.host.processes.next := by decide
  have around := flag_follows_steps Bout.Sample.ready.sound old made
  -- The history starts with the nested regions of the other sample.
  obtain ⟨outer, inner, leaving, next, history, enters, nests, leaves, -, alive, -, goes⟩ := history_nested
  -- A closing can follow any time, and the remaining guard outlives it.
  obtain ⟨closing, next, history, closes, goes⟩ := (around.2.2 _ _ _ history).2 goes .close nofun
  have lasts := ((around.2.2 _ _ _ history).1 _ _ (List.suffix_refl _)).stays (by rw [closes]; rfl)
  obtain ⟨dropping, next, history, drops, -⟩ := (around.2.2 _ _ _ history).2 goes .abandon fun _ => by
    rw [alive_cons, lasts, alive_cons, alive]
    exact Nat.one_pos
  refine ⟨making, entries, _, _, next, Bout.Sample.ready.sound, old, made, history, ?_,
    (around.2.2 _ _ _ history).1⟩
  simp only [List.map_cons, List.map_nil, drops, closes, leaves, nests, enters]

section Inheriting

variable {who fd : Nat} {beside : List Nat} {start kernel : Kernel} {slot : Host.Slot} {past : List Taken}
  {standing : Standing}

/-- A list of steps without a closing has no earlier part with one. -/
theorem isClosed_of_suffix {earlier : List Taken} (reached : earlier <:+ past) (whole : isClosed past = false) :
    isClosed earlier = false := by
  rw [isClosed, List.any_eq_false] at whole ⊢
  exact fun taken listed => whole taken (reached.subset listed)

/-- As long as no region is left after one was entered, the latest step is an entering. -/
theorem latest_of_entering {later earlier : List Taken} {entering : Taken} (enters : entering.step = .enter)
    (stays : ∀ taken ∈ later, taken.step.leaves = false) : latest (later ++ entering :: earlier) = some .enter := by
  -- Only entering and leaving count as latest, so the steps since then, none of which leaves, change nothing.
  induction later with
  | nil => simp [enters, Step.moves]
  | cons taken later ih =>
    obtain ⟨here, stays⟩ := List.forall_mem_cons.mp stays
    rw [List.cons_append, latest_cons]
    by_cases own : taken.step = .enter
    · simp [own, Step.moves]
    · simp [Step.moves, own, here, ih stays]

/-- After each step the flag of a descriptor that is not closed is as the latest step has left it. -/
theorem flag_of_suffix (sound : start.Sound) (old : who < start.processes.next)
    (opened : start.slot? who fd = some slot) (history : History who fd beside start past kernel standing)
    (whole : isClosed past = false) {taken : Taken} {earlier : List Taken} (reached : taken :: earlier <:+ past) :
    taken.after.flag? who fd = some ((latest (taken :: earlier)).elim slot.closeOnExec (· != .enter)) := by
  obtain ⟨_, _, _, _, after⟩ := moved_of_history sound old opened history reached
  exact after.flag (isClosed_of_suffix reached whole)

/-- A region is inheritable exactly until any region around the descriptor is left: from then on new programs do not
keep the descriptor, even if it is an inner region that is left. Leaving a region brings back the flag that the
descriptor had just before it was entered exactly if that was set. -/
theorem inheritable_until_leaving (sound : start.Sound) (old : who < start.processes.next)
    (opened : start.slot? who fd = some slot) (history : History who fd beside start past kernel standing)
    (whole : isClosed past = false) {later earlier : List Taken} {entering : Taken}
    (cut : past = later ++ entering :: earlier) (enters : entering.step = .enter) :
    entering.after.flag? who fd = some false ∧
      ((∀ taken ∈ later, taken.after.flag? who fd = some false) ↔ ∀ taken ∈ later, taken.step.leaves = false) ∧
      ∀ taken ∈ later, taken.step.leaves = true →
        (taken.after.flag? who fd = entering.before.flag? who fd ↔ entering.before.flag? who fd = some true) := by
  subst cut
  have flag {taken : Taken} {before : List Taken} :=
    @flag_of_suffix who fd beside start kernel slot _ standing sound old opened history whole taken before
  -- A leaving is the latest step right after it, so it makes the descriptor private.
  have left {taken : Taken} (listed : taken ∈ later) (leaves : taken.step.leaves = true) :
      taken.after.flag? who fd = some true := by
    obtain ⟨after, before, rfl⟩ := List.append_of_mem listed
    rw [List.append_assoc, List.cons_append] at flag
    have apart : taken.step ≠ .enter := fun enters => by
      rw [enters] at leaves
      cases leaves
    have moves : taken.step.moves = true := by rw [Step.moves, leaves, Bool.or_true]
    rw [flag (List.suffix_append after _), latest_cons, if_pos moves]
    exact congrArg some (bne_iff_ne.mpr apart)
  refine ⟨?_, ⟨fun keeps taken listed => ?_, fun stays taken listed => ?_⟩, fun taken listed leaves => ?_⟩
  · rw [flag (List.suffix_append later _), latest_cons, enters]
    rfl
  · -- One leaving would have made it private.
    by_contra leaves
    rw [Bool.not_eq_false] at leaves
    cases (left listed leaves).symm.trans (keeps taken listed)
  · obtain ⟨after, before, rfl⟩ := List.append_of_mem listed
    -- Without a leaving the entering is still the latest, whatever was entered since.
    have since : ∀ known ∈ taken :: before, known.step.leaves = false :=
      fun known early => stays known (List.mem_append_right after early)
    rw [List.append_assoc, List.cons_append] at flag
    rw [flag (List.suffix_append after _), ← List.cons_append, latest_of_entering enters since]
    rfl
  · rw [left listed leaves]
    exact eq_comm

open Sample in
/-- Leaving the inner of two regions ends the inheriting of the outer one, and does not bring back the flag that the
descriptor had before the inner one was entered. -/
theorem inheritable_until_leaving_sample : ∃ outer inner leaving next,
    History 1 4 [3] piped [leaving, inner, outer] leaving.after next ∧ leaving.step.leaves = true ∧ leaving.alive = 1 ∧
      ¬ (∀ taken ∈ [leaving, inner], taken.after.flag? 1 4 = some false) ∧
      leaving.after.flag? 1 4 ≠ inner.before.flag? 1 4 := by
  obtain ⟨outer, inner, leaving, next, history, enters, nests, leaves, before, alive, -⟩ := history_nested
  have sound : piped.Sound := (Kernel.turned_turn Bout.Sample.ready.sound 1 .pipe).sound Bout.Sample.ready.sound
  have whole : isClosed [leaving, inner, outer] = false := by simp [isClosed, leaves, nests, enters]
  have ends : leaving.step.leaves = true := by rw [leaves]; rfl
  have around {later earlier : List Taken} {entering : Taken} := @inheritable_until_leaving 1 4 [3] piped leaving.after
    ⟨2, true⟩ _ next sound (by decide +kernel) (by decide +kernel) history whole later earlier entering
  refine ⟨outer, inner, leaving, next, history, ends, alive, fun keeps => ?_, fun same => ?_⟩
  · have stays := (@around [leaving, inner] [] outer rfl enters).2.1.mp keeps leaving List.mem_cons_self
    cases ends.symm.trans stays
  · -- The flag was not set before the inner region was entered, and leaving it always sets it.
    have set := ((@around [leaving] [outer] inner rfl nests).2.2 leaving List.mem_cons_self ends).mp same
    cases before.symm.trans set

end Inheriting

end Trial.Region

end Umpire
