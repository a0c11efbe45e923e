import Umpire.Proofs.Host.Attend

/-! Turns of processes: whatever a process asks, its turn does to descriptors what its call may do, and
leaves the kernel sound. -/

namespace Umpire.Host

/-- What a table has open after a call is an open file that it had, or one that is new. -/
structure Table.Gains (before after : Table) (next later : Nat) : Prop where
  grows : next ≤ later
  from_old : ∀ fd slot, after.get? fd = some slot →
    (∃ old known, before.get? old = some known ∧ known.file = slot.file) ∨
      next ≤ slot.file ∧ slot.file < later

namespace Table.Gains

variable {before middle after : Table} {next between later : Nat}

/-- Nothing is new if nothing was done. -/
theorem refl (table : Table) (next : Nat) : Gains table table next next where
  grows := Nat.le_refl next
  from_old fd slot found := .inl ⟨fd, slot, found, rfl⟩

/-- Putting an open file that was there, or none, under a number makes nothing new. -/
theorem of_put {fd : Nat} {slot : Option Slot} (table : Table) (next : Nat)
    (old : ∀ put, slot = some put → ∃ number known, table.get? number = some known ∧ known.file = put.file) :
    Gains table (table.put fd slot) next next where
  grows := Nat.le_refl next
  from_old number found seen := by
    -- Under the number is what is put there, and under all others what was.
    rw [get?_put] at seen
    split at seen
    · exact .inl (old found seen)
    · exact .inl ⟨number, found, seen, rfl⟩

/-- A copy of what is under some number, with any flag, is of an open file that was there. -/
theorem of_copy {fd : Nat} {slot : Slot} (found : before.get? fd = some slot) (number : Nat) (flag : Bool)
    (next : Nat) : Gains before (before.put number (some ⟨slot.file, flag⟩)) next next := by
  refine .of_put before next fun put copied => ?_
  cases copied
  exact ⟨fd, slot, found, rfl⟩

/-- A slot that takes a free number is all that is new. -/
theorem of_insert {least fd : Nat} {slot : Slot} (taken : before.insert least slot = .ok (fd, after))
    (new : slot.file = next) : Gains before after next (next + 1) where
  grows := Nat.le_succ next
  from_old number found seen := by
    -- The slot is found under the number that was free, and all others where they were.
    obtain ⟨-, -, rfl⟩ := insert_ok taken
    rw [get?_put] at seen
    split at seen
    · cases seen
      exact .inr ⟨Nat.le_of_eq new.symm, Nat.lt_succ_of_le (Nat.le_of_eq new)⟩
    · exact .inl ⟨number, found, seen, rfl⟩

/-- What is new after two changes is new after one of them. -/
theorem trans (first : Gains before middle next between) (second : Gains middle after between later) :
    Gains before after next later where
  grows := Nat.le_trans first.grows second.grows
  from_old fd slot found := by
    have grown := first.grows
    have grown' := second.grows
    -- It is traced back through the second change and then, if it was there before that, through the first.
    rcases second.from_old fd slot found with ⟨old, known, held, same⟩ | ⟨ge, lt⟩
    · rcases first.from_old old known held with ⟨older, was, had, same'⟩ | ⟨ge, lt⟩
      · exact .inl ⟨older, was, had, same'.trans same⟩
      · exact .inr ⟨same ▸ ge, by omega⟩
    · exact .inr ⟨by omega, lt⟩

end Table.Gains

/-- What an answered call makes open is an open file that was there, or one that is new. -/
theorem Effect.gains {next later : Nat} {before after : Table} {wanted : Call} {value : wanted.Answer}
    (effect : Effect next before wanted value later after) : before.Gains after next later := by
  -- Most calls leave the descriptors as they were.
  have unchanged (done : after = before ∧ later = next) : before.Gains after next later := by
    obtain ⟨rfl, rfl⟩ := done
    exact .refl after later
  cases wanted with
  | pipe =>
    cases value with
    | error errno => exact unchanged effect
    | ok ends =>
      -- Both ends are new, the write end after the read end.
      obtain ⟨between, first, second, rfl⟩ := effect
      exact (Table.Gains.of_insert first rfl).trans (.of_insert second rfl)
  | openFile path access closeOnExec =>
    cases value with
    | error errno => exact unchanged effect
    | ok fd =>
      obtain ⟨taken, rfl⟩ := effect
      exact .of_insert taken rfl
  | close fd =>
    cases value with
    | error errno => exact unchanged effect.2
    | ok done =>
      obtain ⟨closed, rfl⟩ := effect
      -- A closing puts nothing in place of what it takes away.
      obtain rfl := Table.close_ok closed
      exact .of_put before _ nofun
  | duplicateTo fd target =>
    cases value with
    | error errno => exact unchanged effect
    | ok done =>
      obtain ⟨copied, rfl⟩ := effect
      -- A copy is of an open file that was there; onto itself it is none at all.
      obtain ⟨slot, found, rfl⟩ := Table.duplicateTo_ok copied
      split
      · exact .refl before _
      · exact .of_copy found _ _ _
  | duplicateFrom fd least closeOnExec =>
    cases value with
    | error errno => exact unchanged effect
    | ok number =>
      obtain ⟨copied, rfl⟩ := effect
      obtain ⟨slot, found, taken⟩ := Table.duplicateFrom_ok copied
      obtain ⟨-, -, rfl⟩ := Table.insert_ok taken
      exact .of_copy found _ _ _
  | closeOnExec fd => cases value <;> exact unchanged effect.2
  | setCloseOnExec fd flag =>
    cases value with
    | error errno => exact unchanged effect.2
    | ok done =>
      obtain ⟨set, rfl⟩ := effect
      obtain ⟨slot, found, rfl⟩ := Table.setCloseOnExec_ok set
      exact .of_copy found _ _ _
  | setLimit limit =>
    obtain ⟨rfl, rfl⟩ := effect
    exact ⟨Nat.le_refl _, (Table.Gains.refl before _).from_old⟩
  | _ => exact unchanged effect

namespace Kernel

variable {kernel : Kernel} {who : Nat}

/-- What is answered to a call that is broken off shows in no descriptor. -/
theorem effect_brokenOff {wanted : Call} {answer : wanted.Answer} (broken : brokenOff wanted = some answer)
    (next : Nat) (table : Table) :
    (∀ order, wanted ≠ .spawn order) ∧ Effect next table wanted answer next table := by
  -- Only calls that may wait are broken off, and none of them has done anything by then.
  cases wanted
  case openFile | read | write | sleep | reap =>
    obtain rfl := Option.some.inj broken
    exact ⟨nofun, rfl, rfl⟩
  all_goals cases broken

/-- Signals that a process feels first do not change how its turn ends. -/
theorem Took.felt {felt : Kernel} {wanted : Call} {turn : Turn wanted.Answer} (feels : Felt who kernel felt)
    (own : felt.station? who = kernel.station? who) (took : Took felt who wanted turn) :
    Took kernel who wanted turn := by
  -- Another station is what it was, or was that of a process that had ended.
  have other (number : Nat) : felt.station? number = kernel.station? number ∨
      felt.station? number = none ∧
        ∃ station, kernel.station? number = some station ∧ station.live = false := by
    by_cases same : number = who
    · exact .inl (same ▸ own)
    · exact feels.spares number (by simpa using same)
  cases took with
  | answered plain there live left effect =>
    exact .answered plain (own ▸ there) live left (feels.opens ▸ effect)
  | waiting same opens => exact .waiting (same.trans own) (opens.trans feels.opens)
  | gone gone opens => exact .gone gone (opens.trans feels.opens)
  | replaced there live left opens => exact .replaced (own ▸ there) live left (opens.trans feels.opens)
  | forked there live number left born opens =>
    exact .forked (own ▸ there) live (number.trans feels.numbers) left born (opens.trans feels.opens)
  | ordered there live idle number left born opens =>
    exact .ordered (own ▸ there) live idle (number.trans feels.numbers) left born (opens.trans feels.opens)
  | declined there live idle left opens =>
    exact .declined (own ▸ there) live idle left (opens.trans feels.opens)
  | started there live waits left runs opens =>
    refine .started (own ▸ there) live waits left (fun station found => ?_) (opens.trans feels.opens)
    -- The ordered process is what it was, or ended earlier.
    rcases other _ with same | ⟨-, was, found', ended⟩
    · exact runs station (same ▸ found)
    · rw [found'] at found
      cases found
      exact .inl ended
  | failed there live waits left found gaveUp opens =>
    refine .failed (own ▸ there) live waits left ?_ gaveUp (opens.trans feels.opens)
    -- It could be asked why it refused, so it was not forgotten before.
    rcases other _ with same | ⟨gone, -⟩
    · exact same ▸ found
    · rw [gone] at found
      cases found

/-- A turn that follows on signals felt is what a turn may be. -/
theorem Turned.felt {felt : Kernel} {wanted : Call} {turn : Turn wanted.Answer} (feels : Felt who kernel felt)
    (own : felt.station? who = kernel.station? who) (turned : Turned felt who wanted turn) :
    Turned kernel who wanted turn where
  -- What the signals and the turn leave alone is left alone by both.
  spares := (feels.spares.mono (List.cons_subset_cons who (List.nil_subset _))).trans turned.spares
  processes := turned.processes
  numbers := turned.numbers.trans (congrArg (· + turn.born.length) feels.numbers)
  took := turned.took.felt feels own

/-- A process that ended by a signal before its turn is gone. -/
theorem turned_gone {felt : Kernel} {wanted : Call} (sound : kernel.Sound) (feels : Felt who kernel felt)
    (gone : Gone felt who) : Turned kernel who wanted (.gone felt) where
  spares := feels.spares
  processes := feels.sound sound.processes
  numbers := feels.numbers
  took := .gone gone feels.opens

/-- A call that is broken off has waited so far, and nothing shows of its end. -/
theorem turned_brokenOff {host : Kernel} {wanted : Call} {answer : wanted.Answer} {station : Station}
    (waits : Turned kernel who wanted (.waiting host)) (broken : brokenOff wanted = some answer)
    (there : kernel.station? who = some station) (live : station.live = true) :
    Turned kernel who wanted (.answered answer (host.update who fun known =>
      { known with alarm := none, opening := none })) := by
  -- What is taken back are the alarm and the opening, which are in no station.
  have quiet : Same host (host.update who fun known => { known with alarm := none, opening := none }) :=
    .of_update host who fun _ => rfl
  obtain ⟨plain, effect⟩ := effect_brokenOff broken kernel.opens.next station.table
  -- All that a waiting process shows is that it is as it was.
  cases waits.took with
  | waiting same opens =>
    have left : (host.update who fun known => { known with alarm := none, opening := none }).station? who =
        some { station with table := station.table } :=
      (quiet.stations who).trans (same.trans there)
    refine ⟨waits.spares.trans (.of_same quiet), quiet.sound waits.processes,
      quiet.numbers.trans waits.numbers, .answered plain there live left ?_⟩
    rw [quiet.opens, opens]
    exact effect

/-- Every turn of a process is what a turn may be. -/
theorem turned_turn (sound : kernel.Sound) (who : Nat) (wanted : Call) :
    Turned kernel who wanted (kernel.turn who wanted) := by
  -- First the process feels its signals; all that matters of the kernel then is how it differs from before.
  have feels := felt_takeAll sound.processes who
  have sound' : (kernel.takeAll who).Sound := sound.felt feels
  simp only [turn]
  revert feels sound'
  generalize kernel.takeAll who = felt
  intro feels sound'
  cases found : felt.process? who with
  | none =>
    -- A process that nobody knows has no station.
    refine turned_gone sound feels fun station seen => ?_
    rw [station?, found] at seen
    cases seen
  | some process =>
    have known := station?_of_process? found
    dsimp only
    cases live : process.isLive with
    | false =>
      -- One that has ended has nothing open.
      refine turned_gone sound feels fun station seen => ?_
      rw [known] at seen
      cases seen
      exact ⟨live, (sound'.stations who _ known).buried live⟩
    | true =>
      -- One that lives was not ended by its signals, so its station is what it was.
      have own : felt.station? who = kernel.station? who := by
        refine feels.own.resolve_right fun gone => ?_
        have ended := (gone _ known).1
        rw [show process.station.live = true from live] at ended
        cases ended
      simp only [Bool.not_true, Bool.false_eq_true, if_false]
      split
      · -- A stopped process waits.
        exact .felt feels own (.of_waiting sound' (.refl felt))
      · -- Any other asks, and the signals before do not matter.
        have attended := turned_attend sound' known live wanted
        revert attended
        generalize felt.attend who wanted = answer
        intro attended
        cases answer with
        | waiting host =>
          have waits := Turned.felt feels own attended
          dsimp only
          -- It goes on waiting, unless a signal breaks its call off.
          split
          · split
            · exact turned_brokenOff waits ‹_› (own ▸ known) live
            · exact waits
          · exact waits
        | _ => exact .felt feels own attended

namespace Turned

variable {wanted : Call} {turn : Turn wanted.Answer} (turned : Turned kernel who wanted turn)

include turned

/-- Open files never become fewer numbers. -/
theorem opens_le : kernel.opens.next ≤ turn.kernel.opens.next := by
  -- Only an answered call opens files.
  cases turned.took with
  | answered plain there live left effect => exact effect.gains.grows
  | waiting _ opens | gone _ opens => exact Nat.le_of_eq opens.symm
  | replaced _ _ _ opens | forked _ _ _ _ _ opens => exact Nat.le_of_eq opens.symm
  | ordered _ _ _ _ _ _ opens | declined _ _ _ _ opens | started _ _ _ _ _ opens
  | failed _ _ _ _ _ _ opens => exact Nat.le_of_eq opens.symm

/-- The station of a process that neither had its turn nor was started by it. -/
theorem station_of_apart {number : Nat} {station : Station} (apart : number ∉ who :: turn.born)
    (found : turn.kernel.station? number = some station) : kernel.station? number = some station := by
  -- It has a station, so it is not one of those that are gone.
  rcases turned.spares number apart with same | ⟨gone, -⟩
  · exact same ▸ found
  · rw [gone] at found
    cases found

/-- A process that was started has what the process has that started it. -/
theorem born_eq {child : Nat} (born : child ∈ turn.born) :
    child = kernel.processes.next ∧ ∃ was start, kernel.station? who = some was ∧ was.live = true ∧
      turn.kernel.station? child = some ⟨was.table, true, none, start⟩ ∧
      (start = .running ∨ start = .preparing) := by
  -- A process is started by a fork or by an order, and by nothing else.
  cases turned.took with
  | forked there live number left born' opens =>
    obtain rfl := List.mem_singleton.mp born
    exact ⟨number, _, _, there, live, born', .inl rfl⟩
  | ordered there live idle number left born' opens =>
    obtain rfl := List.mem_singleton.mp born
    exact ⟨number, _, _, there, live, born', .inr rfl⟩
  | _ => cases born

/-- The station of the process that had its turn: it is no more, or waits as it was, or it lives and what
it has open was open before or is new. -/
theorem own_cases {station : Station} (found : turn.kernel.station? who = some station) :
    Gone turn.kernel who ∨ kernel.station? who = some station ∧ turn.born = [] ∨
      ∃ was, kernel.station? who = some was ∧ was.live = true ∧ station.live = true ∧
        (station.start = was.start ∨ station.start = .running) ∧
        was.table.Gains station.table kernel.opens.next turn.kernel.opens.next := by
  -- Most turns leave the process with the descriptors that it had.
  have unchanged {was left : Station} (there : kernel.station? who = some was) (lives : was.live = true)
      (left_eq : turn.kernel.station? who = some left)
      (same : left.table = was.table ∧ left.live = was.live ∧ left.start = was.start)
      (opens : turn.kernel.opens.next = kernel.opens.next) :
      ∃ was, kernel.station? who = some was ∧ was.live = true ∧ station.live = true ∧
        (station.start = was.start ∨ station.start = .running) ∧
        was.table.Gains station.table kernel.opens.next turn.kernel.opens.next := by
    rw [left_eq] at found
    obtain rfl := Option.some.inj found
    obtain ⟨table, live, start⟩ := same
    exact ⟨was, there, lives, live.trans lives, .inl start, by rw [table, opens]; exact .refl was.table _⟩
  cases turned.took with
  | answered plain there lives left effect =>
    cases left.symm.trans found
    exact .inr (.inr ⟨_, there, lives, lives, .inl rfl, effect.gains⟩)
  | waiting same opens => exact .inr (.inl ⟨same.symm.trans found, rfl⟩)
  | gone gone opens => exact .inl gone
  | replaced there lives left opens =>
    cases left.symm.trans found
    -- A new program keeps some of what was open.
    refine .inr (.inr ⟨_, there, lives, rfl, .inr rfl, Nat.le_of_eq opens.symm, fun fd slot kept => ?_⟩)
    rw [Table.get?_afterExec] at kept
    exact .inl ⟨fd, slot, (Option.filter_eq_some_iff.mp kept).1, rfl⟩
  | forked there lives number left born opens =>
    exact .inr (.inr (unchanged there lives left ⟨rfl, rfl, rfl⟩ opens))
  | ordered there lives idle number left born opens =>
    exact .inr (.inr (unchanged there lives left ⟨rfl, rfl, rfl⟩ opens))
  | declined there lives idle left opens =>
    exact .inr (.inr (unchanged there lives left ⟨rfl, rfl, rfl⟩ opens))
  | started there lives waits left runs opens =>
    exact .inr (.inr (unchanged there lives left ⟨rfl, rfl, rfl⟩ opens))
  | failed there lives waits left found' gaveUp opens =>
    exact .inr (.inr (unchanged there lives left ⟨rfl, rfl, rfl⟩ opens))

/-- A process that prepares to run its program after its turn did so before, for nobody goes back to preparing. -/
theorem prepared_before {station : Station} (found : turn.kernel.station? who = some station)
    (live : station.live = true) (prepares : station.start = .preparing) :
    ∃ was, kernel.station? who = some was ∧ was.live = true ∧ was.start = .preparing := by
  -- Its station is as it was, for after an answer or a new program it would run.
  rcases turned.own_cases found with gone | ⟨same, -⟩ | ⟨was, there, lived, -, start, -⟩
  · rw [(gone station found).1] at live
    cases live
  · exact ⟨station, same, live, prepares⟩
  · refine ⟨was, there, lived, ?_⟩
    rcases start with same | running
    · exact same ▸ prepares
    · rw [running] at prepares
      cases prepares

/-- A turn leaves the kernel sound. -/
theorem sound (sound : kernel.Sound) : turn.kernel.Sound where
  processes := turned.processes
  stations number station found := by
    -- The process's own station, that of one it started, and all others.
    by_cases own : number = who
    · subst own
      rcases turned.own_cases found with gone | ⟨there, -⟩ | ⟨was, there, lives, live, start, gains⟩
      · obtain ⟨ended, empty⟩ := gone station found
        refine ⟨fun fd slot held => ?_, fun _ => empty, fun _ _ => ended⟩
        rw [empty fd] at held
        cases held
      · exact (sound.stations _ _ there).mono turned.opens_le
      · have before := sound.stations _ _ there
        refine ⟨fun fd slot held => ?_, fun ended => ?_, fun cause refused => ?_⟩
        · -- What is open was open before, below the old bound, or is new, below the new one.
          rcases gains.from_old fd slot held with ⟨old, known, had, same⟩ | ⟨-, lt⟩
          · exact same ▸ Nat.lt_of_lt_of_le (before.opened old known had) gains.grows
          · exact lt
        · rw [live] at ended
          cases ended
        · rcases start with same | running
          · rw [before.refused cause (same ▸ refused)] at lives
            cases lives
          · rw [running] at refused
            cases refused
    · by_cases born : number ∈ turn.born
      · -- A copy of a sound station is sound, as nothing refuses a process that was just started.
        obtain ⟨-, was, start, there, -, born', how⟩ := turned.born_eq born
        cases born'.symm.trans found
        refine ⟨fun fd slot held => ?_, nofun, fun cause refused => ?_⟩
        · exact Nat.lt_of_lt_of_le ((sound.stations who was there).opened fd slot held) turned.opens_le
        · rcases how with rfl | rfl <;> cases refused
      · have apart : number ∉ who :: turn.born := by simp [own, born]
        exact (sound.stations number station (turned.station_of_apart apart found)).mono turned.opens_le

end Turned

/-- A process that is answered is there and lives, and its descriptors have changed as its call asks for;
it goes on waiting for a process that it has ordered only if it asked for something else. -/
theorem Took.of_answered {after : Kernel} {wanted : Call} {value : wanted.Answer}
    (took : Took kernel who wanted (.answered value after)) :
    ∃ was left, kernel.station? who = some was ∧ was.live = true ∧ after.station? who = some left ∧
      Effect kernel.opens.next was.table wanted value after.opens.next left.table ∧
      ((∀ order, wanted ≠ .spawn order) ∧ left.ordered = was.ordered ∨ left.ordered = none) := by
  -- An answer is one to the call itself, or one of three ends of an order.
  cases took with
  | answered plain there live left effect => exact ⟨_, _, there, live, left, effect, .inl ⟨plain, rfl⟩⟩
  | declined there live idle left opens => exact ⟨_, _, there, live, left, ⟨rfl, opens⟩, .inr idle⟩
  | started there live waits left runs opens => exact ⟨_, _, there, live, left, ⟨rfl, opens⟩, .inr rfl⟩
  | failed there live waits left found gaveUp opens =>
    exact ⟨_, _, there, live, left, ⟨rfl, opens⟩, .inr rfl⟩

/-- A process that has ordered another waits for it, and the other starts with the same open. -/
theorem Took.of_ordered {after : Kernel} {order given : Order} {child : Nat}
    (took : Took kernel who (.spawn order) (.ordered child given after)) :
    given = order ∧ child = kernel.processes.next ∧ ∃ was, kernel.station? who = some was ∧
      was.live = true ∧ was.ordered = none ∧ after.station? who = some { was with ordered := some child } ∧
      after.station? child = some ⟨was.table, true, none, .preparing⟩ ∧
      after.opens.next = kernel.opens.next := by
  cases took with
  | ordered there live idle number left born opens =>
    exact ⟨rfl, number, _, there, live, idle, left, born, opens⟩

/-- A process that ends feels its signals first, and is gone then. -/
theorem felt_end (sound : kernel.Sound) (who : Nat) (status : WaitStatus) :
    Felt who kernel ((kernel.takeAll who).finish who status) ∧
      Gone ((kernel.takeAll who).finish who status) who := by
  have feels := felt_takeAll sound.processes who
  have sound' : (kernel.takeAll who).Sound := sound.felt feels
  revert feels sound'
  generalize kernel.takeAll who = felt
  intro feels sound'
  -- It is known and lives, and ends; it has ended by its signals; or nobody knows it.
  cases found : felt.process? who with
  | none =>
    rw [finish, found]
    refine ⟨feels, fun station seen => ?_⟩
    rw [station?, found] at seen
    cases seen
  | some process =>
    have known := station?_of_process? found
    cases live : process.isLive with
    | true =>
      obtain ⟨ended, gone⟩ := felt_finish sound'.processes found live status
      exact ⟨feels.trans ended, gone⟩
    | false =>
      -- Nobody ends twice.
      have ended : felt.finish who status = felt := by
        rw [finish, found]
        simp only [live, Bool.not_false, if_true]
      rw [ended]
      refine ⟨feels, fun station seen => ?_⟩
      cases known.symm.trans seen
      exact ⟨live, (sound'.stations who _ known).buried live⟩

end Kernel

/-- Answers by which the host may refuse a call with nothing done, as a host does that is short of
something. What is open can always be closed and asked about. -/
inductive Refusal : (wanted : Call) → wanted.Answer → Prop where
  | pipe (errno : Errno) : Refusal .pipe (.error errno)
  | openFile (path : Bytes) (access : Access) (closeOnExec : Bool) (errno : Errno) :
      Refusal (.openFile path access closeOnExec) (.error errno)
  | duplicateTo (fd target : Nat) (errno : Errno) : Refusal (.duplicateTo fd target) (.error errno)
  | info (path : Bytes) (follow : Bool) (errno : Errno) : Refusal (.info path follow) (.error errno)
  | fork (errno : Errno) : Refusal .fork (.error errno)
  | exec (path : Bytes) (words : List Bytes) (environment : List (Bytes × Bytes)) (errno : Errno) :
      Refusal (.exec path words environment) errno
  | spawn (order : Order) (cause : IoFault) : Refusal (.spawn order) (.error cause)
  | reap (child : Option Nat) (wait : Bool) (errno : Errno) : Refusal (.reap child wait) (.error errno)
  | signal (process number : Nat) (errno : Errno) : Refusal (.signal process number) (.error errno)
  | watch (fd : Nat) (errno : Errno) : Refusal (.watch fd) (.error errno)
  | hangUp (ends : List Nat) (patience : Option Nat) (fault : Nat × Errno) :
      Refusal (.hangUp ends patience) (.error fault)

namespace Kernel

/-- The turns that a process can have: the host does what is asked, or refuses it. -/
inductive May (kernel : Kernel) (who : Nat) (wanted : Call) : Turn wanted.Answer → Prop where
  | heard : May kernel who wanted (kernel.turn who wanted)
  | refused {value : wanted.Answer} {was : Station} (refusal : Refusal wanted value)
      (there : kernel.station? who = some was) (live : was.live = true) (idle : was.ordered = none) :
      May kernel who wanted (.answered value kernel)

/-- A turn that a process can have is what a turn may be. -/
theorem turned_may (sound : kernel.Sound) {wanted : Call} {turn : Turn wanted.Answer}
    (may : May kernel who wanted turn) : Turned kernel who wanted turn := by
  cases may with
  | heard => exact turned_turn sound who wanted
  | refused refusal there live idle =>
    -- An order that is refused was not taken; any other refused call leaves all as it is.
    cases refusal with
    | spawn order cause =>
      exact ⟨.of_same (.refl kernel), sound.processes, rfl, .declined there live idle there rfl⟩
    | _ => exact .of_same sound nofun there live (.refl kernel) ⟨rfl, rfl⟩

end Kernel

end Umpire.Host
