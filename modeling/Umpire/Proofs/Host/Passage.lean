import Umpire.Proofs.Dialogue
import Umpire.Proofs.Host.Opening

/-! Passages: what a process does from the first call of a talk to the end of it, while all others act as they
like. -/

namespace Umpire.Host

/-- A turn that a process has had: what it asked for, and what it was answered unless it had to wait. -/
structure Deed where
  before : Kernel
  wanted : Call
  answer : Option wanted.Answer
  after : Kernel

/-- What can happen between two turns of a process: another has its turn or ends, or time passes. -/
inductive Others (self : Nat) (kernel : Kernel) : Kernel → Prop where
  | moved {who : Nat} {wanted : Call} {turn : Turn wanted.Answer} (other : who ≠ self)
      (may : kernel.May who wanted turn) : Others self kernel turn.kernel
  | ended {who : Nat} (other : who ≠ self) (status : WaitStatus) :
      Others self kernel ((kernel.takeAll who).finish who status)
  | later (clock : Nat) : Others self kernel { kernel with clock }

/-- What a process does until its talk has a result, turn by turn. -/
inductive Passage (self : Nat) {α : Type} : Kernel → Talk α → List Deed → Kernel → α → Prop where
  /-- It has its result. -/
  | done (kernel : Kernel) (value : α) : Passage self kernel (.done value) [] kernel value
  /-- Its call is answered. -/
  | answered {kernel after last : Kernel} {wanted : Call} {next : wanted.Answer → Talk α} {answer : wanted.Answer}
      {deeds : List Deed} {value : α} (may : kernel.May self wanted (.answered answer after))
      (rest : Passage self after (next answer) deeds last value) :
      Passage self kernel (.ask wanted next) (⟨kernel, wanted, some answer, after⟩ :: deeds) last value
  /-- Its call has to be made again. -/
  | waits {kernel after last : Kernel} {wanted : Call} {next : wanted.Answer → Talk α} {deeds : List Deed}
      {value : α} (may : kernel.May self wanted (.waiting after))
      (rest : Passage self after (.ask wanted next) deeds last value) :
      Passage self kernel (.ask wanted next) (⟨kernel, wanted, none, after⟩ :: deeds) last value
  /-- Others act before its call. -/
  | others {kernel between last : Kernel} {wanted : Call} {next : wanted.Answer → Talk α} {deeds : List Deed}
      {value : α} (acted : Others self kernel between)
      (rest : Passage self between (.ask wanted next) deeds last value) :
      Passage self kernel (.ask wanted next) deeds last value

namespace Passage

variable {self : Nat} {α β : Type} {kernel last : Kernel} {deeds : List Deed}

/-- Nothing is done any more for a result that is there. -/
theorem of_done {result value : α} (passage : Passage self kernel (.done result) deeds last value) :
    deeds = [] ∧ last = kernel ∧ value = result := by
  cases passage
  exact ⟨rfl, rfl, rfl⟩

/-- The passage of two talks in sequence is that of the first and then that of the second. -/
theorem of_bind {first : Talk α} {rest : α → Talk β} {value : β}
    (passage : Passage self kernel (first >>= rest) deeds last value) :
    ∃ earlier middle between later, deeds = earlier ++ later ∧ Passage self kernel first earlier middle between ∧
      Passage self middle (rest between) later last value := by
  -- The first talk is used up call by call; turns without an answer leave it as it is.
  generalize whole : first >>= rest = talk at passage
  induction passage generalizing first with
  -- Nothing is left to do, so neither talk has anything to ask.
  | done kernel value =>
    cases first with
    | done between =>
      have goes : rest between = .done value := whole
      exact ⟨[], kernel, between, [], rfl, .done kernel between, goes ▸ .done kernel value⟩
    | ask => cases whole
  | answered may passage ih =>
    cases first with
    | done between =>
      have goes : rest between = _ := whole
      exact ⟨[], _, between, _, rfl, .done _ between, goes ▸ .answered may passage⟩
    | ask =>
      cases whole
      obtain ⟨earlier, middle, between, later, rfl, first, second⟩ := ih rfl
      exact ⟨_ :: earlier, middle, between, later, rfl, .answered may first, second⟩
  -- A turn without an answer belongs to the first talk as long as that asks.
  | waits may passage ih =>
    cases first with
    | done between =>
      have goes : rest between = _ := whole
      exact ⟨[], _, between, _, rfl, .done _ between, goes ▸ .waits may passage⟩
    | ask wanted next =>
      obtain ⟨earlier, middle, between, later, rfl, first, second⟩ := ih whole
      cases whole
      exact ⟨_ :: earlier, middle, between, later, rfl, .waits may first, second⟩
  | others acted passage ih =>
    cases first with
    | done between =>
      have goes : rest between = _ := whole
      exact ⟨[], _, between, _, rfl, .done _ between, goes ▸ .others acted passage⟩
    | ask wanted next =>
      obtain ⟨earlier, middle, between, later, same, first, second⟩ := ih whole
      cases whole
      exact ⟨earlier, middle, between, later, same, .others acted first, second⟩

end Passage

/-- What lasts whatever processes do: numbers are not given again, and open files stay where they are. -/
structure Onward (before after : Kernel) : Prop where
  sound : after.Sound
  numbers : before.processes.next ≤ after.processes.next
  grows : before.opens.next ≤ after.opens.next
  seats : ∀ number, number < before.opens.next → after.seat? number = before.seat? number

namespace Onward

variable {before middle after : Kernel}

/-- Everything lasts if nothing is done. -/
theorem refl (sound : before.Sound) : Onward before before :=
  ⟨sound, Nat.le_refl _, Nat.le_refl _, fun _ _ => rfl⟩

/-- What lasts twice lasts. -/
theorem trans (first : Onward before middle) (second : Onward middle after) : Onward before after where
  sound := second.sound
  numbers := Nat.le_trans first.numbers second.numbers
  grows := Nat.le_trans first.grows second.grows
  -- A file that is old at first is old in the middle as well.
  seats number old :=
    (second.seats number (Nat.lt_of_lt_of_le old first.grows)).trans (first.seats number old)

/-- A turn leaves what lasts. -/
theorem of_may (sound : before.Sound) {who : Nat} {wanted : Call} {turn : Turn wanted.Answer}
    (may : before.May who wanted turn) : Onward before turn.kernel := by
  have turned := Kernel.turned_may sound may
  have lasts := (Kernel.lasts_may sound.processes may).1
  refine ⟨turned.sound sound, ?_, lasts.grows, lasts.seats⟩
  -- A turn can only add processes to those that had numbers.
  rw [turned.numbers]
  exact Nat.le_add_right _ _

/-- A process that ends leaves what lasts. -/
theorem of_end (sound : before.Sound) (who : Nat) (status : WaitStatus) :
    Onward before ((before.takeAll who).finish who status) := by
  -- To end changes no more than signals can.
  obtain ⟨felt, -⟩ := Kernel.felt_end sound who status
  have lasts := Kernel.lasts_end sound.processes who status
  exact ⟨sound.felt felt, Nat.le_of_eq felt.numbers.symm, lasts.grows, lasts.seats⟩

/-- Time leaves what lasts. -/
theorem of_later (sound : before.Sound) (clock : Nat) : Onward before { before with clock } :=
  ⟨⟨sound.processes, sound.stations⟩, Nat.le_refl _, Nat.le_refl _, fun _ _ => rfl⟩

/-- Others leave what lasts, whatever they do. -/
theorem of_others (sound : before.Sound) {self : Nat} (acted : Others self before after) : Onward before after := by
  cases acted with
  | moved apart may => exact of_may sound may
  | ended apart status => exact of_end sound _ status
  | later clock => exact of_later sound clock

end Onward

/-- A process that has not been started in the meantime has the station that it had. -/
def Stays (self : Nat) (before after : Kernel) : Prop :=
  ∀ station, after.station? self = some station → before.station? self = some station

/-- Whatever others do, a process has the station that it had, or it had ended and is gone. -/
theorem spared_of_others {self : Nat} {before after : Kernel} (sound : before.Sound)
    (old : self < before.processes.next) (acted : Others self before after) :
    after.station? self = before.station? self ∨
      after.station? self = none ∧ ∃ station, before.station? self = some station ∧ station.live = false := by
  cases acted with
  | @moved other wanted turn apart may =>
    have turned := Kernel.turned_may sound may
    -- A process that is started gets a number that no process had.
    have unborn : self ∉ turn.born := fun born => by
      obtain ⟨next, -⟩ := turned.born_eq born
      omega
    exact turned.spares self (by simp [Ne.symm apart, unborn])
  | @ended other apart status =>
    obtain ⟨felt, -⟩ := Kernel.felt_end sound other status
    exact felt.spares self (by simp [Ne.symm apart])
  | later clock => exact .inl rfl

/-- Others leave a process as it is, whatever they do. -/
theorem stays_of_others {self : Nat} {before after : Kernel} (sound : before.Sound)
    (old : self < before.processes.next) (acted : Others self before after) : Stays self before after := by
  intro station found
  -- Nothing but the process itself could change it; it may have ended and be gone.
  rcases spared_of_others sound old acted with same | ⟨gone, -⟩
  · exact same ▸ found
  · rw [gone] at found
    cases found

/-- A process that lives does so whatever others do. -/
theorem lives_of_others {self : Nat} {before after : Kernel} (sound : before.Sound)
    (old : self < before.processes.next) (acted : Others self before after) {station : Station}
    (there : before.station? self = some station) (live : station.live = true) :
    after.station? self = some station := by
  -- A process that lives is not one that had ended.
  rcases spared_of_others sound old acted with same | ⟨-, ended, there', dead⟩
  · exact same.trans there
  · cases there.symm.trans there'
    rw [live] at dead
    cases dead

/-- A process that has to wait is as it was. -/
theorem stays_of_waiting {self : Nat} {before after : Kernel} (sound : before.Sound) {wanted : Call}
    (may : before.May self wanted (.waiting after)) : Stays self before after := by
  intro station found
  -- A waiting is no other kind of turn.
  cases (Kernel.turned_may sound may).took with
  | waiting same opens => exact same ▸ found

/-- The rules of a process that makes only some calls. -/
def Call.only (wants : Call → Prop) : Rules Call.vocabulary Unit where
  may _ wanted := wants wanted
  leads _ _ _ _ := True

/-- A deed is a turn that its process could have. -/
def Deed.Happens (self : Nat) (deed : Deed) : Prop :=
  match deed.answer with
  | some answer => deed.before.May self deed.wanted (.answered answer deed.after)
  | none => deed.before.May self deed.wanted (.waiting deed.after)

/-- A call that a process makes until it is answered: it may have to wait, and others may act, but what it has open
does not change until then. -/
structure Asked (who : Nat) (kernel : Kernel) (wanted : Call) (deeds : List Deed) (before : Kernel)
    (answer : wanted.Answer) (after : Kernel) (later : List Deed) : Prop where
  cut : ∃ waits, deeds = waits ++ ⟨before, wanted, some answer, after⟩ :: later ∧ ∀ deed ∈ waits, deed.answer.isNone
  meanwhile : Onward kernel before
  slots : ∀ fd, before.slot? who fd = kernel.slot? who fd
  may : before.May who wanted (.answered answer after)

namespace Asked

variable {who : Nat} {kernel before after : Kernel} {wanted : Call} {deeds later : List Deed}
  {answer : wanted.Answer}

/-- The turn with the answer is one of the process's turns. -/
theorem mem (asked : Asked who kernel wanted deeds before answer after later) :
    (⟨before, wanted, some answer, after⟩ : Deed) ∈ deeds := by
  obtain ⟨waits, rfl, -⟩ := asked.cut
  exact List.mem_append_right _ List.mem_cons_self

/-- What follows on the answer are some of the process's turns. -/
theorem later_subset (asked : Asked who kernel wanted deeds before answer after later) : later ⊆ deeds := by
  obtain ⟨waits, rfl, -⟩ := asked.cut
  exact List.subset_append_of_subset_right _ (List.subset_cons_self _ _)

/-- Everything that lasts does so until the answer. -/
theorem onward (asked : Asked who kernel wanted deeds before answer after later) : Onward kernel after :=
  asked.meanwhile.trans (.of_may asked.meanwhile.sound asked.may)

end Asked

namespace Passage

variable {self : Nat} {α : Type} {kernel last : Kernel} {deeds : List Deed} {value : α}

/-- What a process does are turns that it can have. -/
theorem happens {talk : Talk α} (passage : Passage self kernel talk deeds last value) :
    ∀ deed ∈ deeds, deed.Happens self := by
  -- Every deed of a passage is one of its turns.
  induction passage with
  | done => exact List.forall_mem_nil _
  | answered may _ ih | waits may _ ih => exact List.forall_mem_cons.mpr ⟨may, ih⟩
  | others _ _ ih => exact ih

/-- A process asks for nothing but what its talk does. -/
theorem asks {wants : Call → Prop} {talk : Talk α} (passage : Passage self kernel talk deeds last value)
    (abides : talk.Abides (Call.only wants) (fun _ _ => True) ()) :
    ∀ deed ∈ deeds, wants deed.wanted := by
  -- By induction on the passage: as long as the call waits it is the same call.
  induction passage with
  | done => exact List.forall_mem_nil _
  | answered _ _ ih => exact List.forall_mem_cons.mpr ⟨abides.1, ih (abides.2 _ () trivial)⟩
  | waits _ _ ih => exact List.forall_mem_cons.mpr ⟨abides.1, ih abides⟩
  | others _ _ ih => exact ih abides

/-- A process that asks for something is answered, and goes on. -/
theorem of_ask {wanted : Call} {next : wanted.Answer → Talk α}
    (passage : Passage self kernel (.ask wanted next) deeds last value) (sound : kernel.Sound)
    (old : self < kernel.processes.next) :
    ∃ before answer after later, Asked self kernel wanted deeds before answer after later ∧
      Passage self after (next answer) later last value := by
  -- What happens before the answer is a wait or others' doing, and the process keeps its station.
  have reached : ∃ waits before answer after later, deeds = waits ++ ⟨before, wanted, some answer, after⟩ :: later ∧
      (∀ deed ∈ waits, deed.answer.isNone) ∧ Onward kernel before ∧ Stays self kernel before ∧
      before.May self wanted (.answered answer after) ∧ Passage self after (next answer) later last value := by
    generalize asks : Dialogue.ask (S := Call.vocabulary) wanted next = talk at passage
    -- By induction on the passage, up to the answer.
    induction passage with
    | done => cases asks
    | answered may rest =>
      cases asks
      exact ⟨[], _, _, _, _, rfl, List.forall_mem_nil _, .refl sound, fun _ => id, may, rest⟩
    | waits may rest ih =>
      have onward := Onward.of_may sound may
      obtain ⟨waits, before, answer, after, later, rfl, calm, further, stays, goes⟩ :=
        ih onward.sound (Nat.lt_of_lt_of_le old onward.numbers) asks
      exact ⟨_ :: waits, before, answer, after, later, rfl, List.forall_mem_cons.mpr ⟨rfl, calm⟩,
        onward.trans further, fun station found => stays_of_waiting sound may _ (stays station found), goes⟩
    | others acted rest ih =>
      have onward := Onward.of_others sound acted
      obtain ⟨waits, before, answer, after, later, cut, calm, further, stays, goes⟩ :=
        ih onward.sound (Nat.lt_of_lt_of_le old onward.numbers) asks
      exact ⟨waits, before, answer, after, later, cut, calm, onward.trans further,
        fun station found => stays_of_others sound old acted _ (stays station found), goes⟩
  obtain ⟨waits, before, answer, after, later, cut, calm, onward, stays, may, goes⟩ := reached
  -- Who is answered is there, so that he is who he was.
  obtain ⟨was, -, there, -⟩ := (Kernel.turned_may onward.sound may).took.of_answered
  refine ⟨before, answer, after, later, ⟨⟨waits, cut, calm⟩, onward, fun fd => ?_, may⟩, goes⟩
  rw [Kernel.slot?_eq, Kernel.slot?_eq, there, stays was there]

end Passage

end Umpire.Host
