import Umpire.Proofs.Bout.Outcome
import Umpire.Proofs.Contest
import Umpire.Proofs.Host.Harmless

/-! A bout that fails before its first start leaves no trace: no process, no file that is made, emptied or
written, and no descriptor. -/

namespace Umpire.Bout

variable {contest : Contest}

/-- An exchange in which a process is ordered. -/
def Event.Orders (event : Event) : Prop :=
  ∃ order, event.request = .call (.spawn order)

namespace Chronicle

variable {chronicle : Chronicle}

/-- No process has been ordered, so that none runs and no launch has failed. -/
structure Idle (chronicle : Chronicle) : Prop where
  orders : chronicle.orders = []
  running : chronicle.running = []
  faults : ∀ side cause, .launch side cause ∉ chronicle.faults

/-- An act that orders no process leaves it so. -/
theorem Idle.after (idle : chronicle.Idle) {event : Event} (plain : ¬ event.Orders) :
    (chronicle.after event.request event.answer).Idle := by
  obtain ⟨act, answer⟩ := event
  -- Statuses and kills take off a list that is empty, and only an order puts anybody on it.
  have changed : (chronicle.changed act answer).Idle := by
    unfold changed
    split <;> try exact ⟨idle.orders, idle.running, idle.faults⟩
    · exact absurd ⟨_, rfl⟩ plain
    · refine ⟨idle.orders, ?_, idle.faults⟩
      show chronicle.running.erase _ = []
      rw [idle.running]
      rfl
    · split
      · refine ⟨idle.orders, ?_, idle.faults⟩
        show chronicle.running.erase _ = []
        rw [idle.running]
        rfl
      · exact idle
  rw [Chronicle.after]
  split
  · exact changed
  · rename_i fault found
    refine ⟨changed.orders, changed.running, fun side cause listed => ?_⟩
    rcases List.mem_append.mp listed with known | new
    · exact idle.faults side cause known
    · obtain rfl := List.mem_singleton.mp new
      unfold fault? at found
      split at found <;> cases found
      -- Only an order that fails is a failed launch.
      exact plain ⟨_, ‹_›⟩

/-- The chronicle of exchanges in which no process is ordered. -/
theorem idle_ofEvents {events : List Event} (plain : ∀ event ∈ events, ¬ event.Orders) :
    (ofEvents events).Idle := by
  -- By induction on the exchanges, from any account without orders.
  have later {start : Chronicle} (idle : start.Idle) :
      (Answered.digest (S := Act.vocabulary) Chronicle.after start events).Idle := by
    induction events generalizing start with
    | nil => exact idle
    | cons event rest ih =>
      exact ih (fun later listed => plain later (List.mem_cons_of_mem _ listed))
        (idle.after (plain event List.mem_cons_self))
  exact later ⟨rfl, rfl, fun _ _ listed => nomatch listed⟩

/-- What went wrong at some time is known ever after. -/
theorem faults_prefix (earlier later : List Event) :
    (ofEvents earlier).faults <+: (ofEvents (earlier ++ later)).faults := by
  rw [ofEvents_append]
  generalize ofEvents earlier = chronicle
  -- By induction on the later exchanges, each of which adds to what went wrong at most.
  induction later generalizing chronicle with
  | nil => exact List.prefix_refl _
  | cons event rest ih => exact (faults_after chronicle event.request event.answer).trans (ih _)

/-- While no process has been ordered the umpire's calls are harmless. -/
theorem Idle.harmless (idle : chronicle.Idle) {wanted : Host.Call} (may : May contest chronicle (.call wanted))
    (plain : ∀ order, wanted ≠ .spawn order) : wanted.IsHarmless := by
  -- The calls that may do harm need somebody who runs, or two orders.
  cases wanted with
  | pipe | close | closeOnExec | setCloseOnExec | info | watch => trivial
  | openFile path access closeOnExec =>
    -- What is opened is neither made nor emptied.
    obtain ⟨-, -, rfl, -⟩ := may
    exact ⟨rfl, rfl⟩
  | spawn order => exact absurd rfl (plain order)
  | hangUp ends patience =>
    have both : chronicle.orders.length = 2 := may.2
    rw [idle.orders] at both
    cases both
  | reap child wait =>
    obtain ⟨-, -, pid, running, -⟩ := may
    rw [idle.running] at running
    cases running
  | signal pid number =>
    have running : pid ∈ chronicle.running := may
    rw [idle.running] at running
    cases running
  | _ => exact may.elim

end Chronicle

/-- A call may be answered by a fault, with nothing done; closing a descriptor does not fail. -/
def Fails : (wanted : Host.Call) → wanted.Answer → Prop
  | .pipe, .error _ | .openFile .., .error _ | .closeOnExec _, .error _ | .setCloseOnExec .., .error _
  | .info .., .error _ | .watch _, .error _ => True
  | _, _ => False

/-- A host on which nobody but the umpire acts answers it as in some exchanges, doing what it is asked for or
failing to. -/
inductive Serves (umpire : Nat) : Host.Kernel → List Event → Host.Kernel → Prop where
  /-- Nothing is asked any more. -/
  | ended (kernel : Host.Kernel) : Serves umpire kernel [] kernel
  /-- What is told is no matter of the host. -/
  | told {kernel last : Host.Kernel} {entry : Entry} {events : List Event} (rest : Serves umpire kernel events last) :
      Serves umpire kernel (⟨.note entry, ()⟩ :: events) last
  /-- A call is heard. -/
  | heard {kernel after last : Host.Kernel} {wanted : Host.Call} {value : wanted.Answer} {events : List Event}
      (turn : kernel.turn umpire wanted = .answered value after) (rest : Serves umpire after events last) :
      Serves umpire kernel (⟨.call wanted, value⟩ :: events) last
  /-- A call fails. -/
  | failed {kernel last : Host.Kernel} {wanted : Host.Call} {value : wanted.Answer} {events : List Event}
      (fails : Fails wanted value) (rest : Serves umpire kernel events last) :
      Serves umpire kernel (⟨.call wanted, value⟩ :: events) last

section Borrowing

variable {start : Nat → Option Host.Slot} {table after : Host.Table} {chronicle : Chronicle} {fd : Nat}

/-- Every number stands for what it stood for at the start, but for what is in hand, which stood for nothing. -/
structure Borrows (start now : Nat → Option Host.Slot) (chronicle : Chronicle) : Prop where
  free : ∀ fd ∈ chronicle.made, start fd = none
  same : ∀ fd ∉ chronicle.inHand, now fd = start fd
  known : chronicle.inHand ⊆ chronicle.made

/-- A number that stands for nothing stood for nothing at the start. -/
theorem Borrows.free_of_none {now : Nat → Option Host.Slot} (borrows : Borrows start now chronicle)
    (nothing : now fd = none) : start fd = none := by
  -- What is in hand stood for nothing at the start, and anything else stands for what it did then.
  by_cases own : fd ∈ chronicle.inHand
  · exact borrows.free fd (borrows.known own)
  · exact (borrows.same fd own).symm.trans nothing

/-- What was made and is not in hand any more stands for nothing. -/
theorem Borrows.none_of_made {now : Nat → Option Host.Slot} (borrows : Borrows start now chronicle)
    (made : fd ∈ chronicle.made) (gone : fd ∉ chronicle.inHand) : now fd = none :=
  (borrows.same fd gone).trans (borrows.free fd made)

/-- A number that is taken is in hand. -/
theorem Borrows.gain {slot : Host.Slot} (borrows : Borrows start table.get? chronicle)
    (taken : table.insert 0 slot = .ok (fd, after)) : Borrows start after.get? (chronicle.gain [fd]) := by
  obtain ⟨nothing, -, rfl⟩ := Host.Table.insert_ok taken
  -- The number was free, so that it stood for nothing at the start either.
  refine ⟨fun number made => ?_, fun number gone => ?_, ?_⟩
  · rcases List.mem_append.mp made with old | new
    · exact borrows.free number old
    · rw [List.mem_singleton.mp new]
      exact borrows.free_of_none nothing
  · obtain ⟨old, other⟩ := not_or.mp (mt List.mem_append.mpr gone)
    rw [Host.Table.get?_put, if_neg (mt List.mem_singleton.mpr other)]
    exact borrows.same number old
  · exact List.append_subset.mpr ⟨List.subset_append_of_subset_left _ borrows.known, List.subset_append_right _ _⟩

/-- A number that was made and is closed stands for nothing, as at the start. -/
theorem Borrows.close (borrows : Borrows start table.get? chronicle) (made : fd ∈ chronicle.made)
    (closed : ∀ number, after.get? number = if number = fd then none else table.get? number) :
    Borrows start after.get? (chronicle.close [fd]) := by
  refine ⟨borrows.free, fun number gone => ?_, fun number left => borrows.known (List.mem_filter.mp left).1⟩
  -- Once closed, the number stands for nothing, as it did before it was made.
  rw [closed]
  split
  · rename_i same
    rw [same]
    exact (borrows.free fd made).symm
  · rename_i other
    refine borrows.same number fun own => gone (List.mem_filter.mpr ⟨own, ?_⟩)
    simpa using other

/-- Setting the flag of a number that was made changes nothing else. -/
theorem Borrows.flag {slot slot' : Host.Slot} (borrows : Borrows start table.get? chronicle)
    (made : fd ∈ chronicle.made) (found : table.get? fd = some slot) :
    Borrows start (table.put fd (some slot')).get? chronicle := by
  refine ⟨borrows.free, fun number gone => ?_, borrows.known⟩
  -- The number is in hand, since it was made and stands for something.
  have other : number ≠ fd := by
    rintro rfl
    rw [borrows.none_of_made made gone] at found
    cases found
  rw [Host.Table.get?_put, if_neg other]
  exact borrows.same number gone

/-- A harmless call that is answered leaves it so. -/
theorem Borrows.step {wanted : Host.Call} {value : wanted.Answer} {next later : Nat}
    (borrows : Borrows start table.get? chronicle) (harmless : wanted.IsHarmless)
    (may : Chronicle.May contest chronicle (.call wanted))
    (effect : Host.Effect next table wanted value later after) :
    Borrows start after.get? (chronicle.after (.call wanted) value) := by
  -- Where nothing is made or closed, only what went wrong can have changed.
  have unchanged {chronicle' : Chronicle} (made : chronicle'.made = chronicle.made)
      (inHand : chronicle'.inHand = chronicle.inHand) (same : after = table) :
      Borrows start after.get? chronicle' := by
    subst same
    exact ⟨made ▸ borrows.free, inHand ▸ borrows.same, inHand ▸ made ▸ borrows.known⟩
  cases wanted with
  | pipe =>
    cases value with
    | error errno => exact unchanged rfl rfl effect.1
    | ok ends =>
      obtain ⟨between, first, second, -⟩ := effect
      -- Two numbers are taken, one after the other.
      have both := (borrows.gain first).gain second
      rw [Chronicle.gain_gain] at both
      exact both
  | openFile path access closeOnExec =>
    cases value with
    | error errno => exact unchanged rfl rfl effect.1
    | ok fd => exact borrows.gain effect.1
  | close fd =>
    -- Closing fails only where nothing is open, so that nothing is there afterwards in either case.
    refine borrows.close may fun number => ?_
    cases value with
    | error errno =>
      obtain ⟨nothing, rfl, -⟩ := effect
      split
      · rename_i same
        rw [same, nothing]
      · rfl
    | ok done =>
      rw [Host.Table.close_ok effect.1, Host.Table.get?_put]
  | closeOnExec fd => cases value <;> exact unchanged rfl rfl effect.2.1
  | setCloseOnExec fd flag =>
    cases value with
    | error errno => exact unchanged rfl rfl effect.2.1
    | ok done =>
      obtain ⟨slot, found, rfl⟩ := Host.Table.setCloseOnExec_ok effect.1
      exact borrows.flag may found
  | info path follow => cases value <;> exact unchanged rfl rfl effect.1
  | watch fd => cases value <;> exact unchanged rfl rfl effect.1
  | _ => exact harmless.elim

end Borrowing

/-- The host is as it was at the start, but for what the umpire has in hand. -/
structure Keeps (umpire : Nat) (start kernel : Host.Kernel) (chronicle : Chronicle) : Prop where
  sound : kernel.Sound
  nodes : kernel.nodes = start.nodes
  nobody : ∀ number, start.station? number = none → kernel.station? number = none
  borrows : Borrows (start.slot? umpire) (kernel.slot? umpire) chronicle

/-- A harmless call that is heard leaves it so. -/
theorem Keeps.heard {umpire : Nat} {start kernel after : Host.Kernel} {chronicle : Chronicle}
    (keeps : Keeps umpire start kernel chronicle) {wanted : Host.Call} {value : wanted.Answer}
    (harmless : wanted.IsHarmless) (may : Chronicle.May contest chronicle (.call wanted))
    (turn : kernel.turn umpire wanted = .answered value after) :
    Keeps umpire start after (chronicle.after (.call wanted) value) := by
  have turned := Host.Kernel.turned_turn keeps.sound umpire wanted
  have nodes := Host.Kernel.nodes_turn kernel umpire harmless
  rw [turn] at turned nodes
  obtain ⟨was, left, there, -, there', effect, -⟩ := turned.took.of_answered
  refine ⟨turned.sound keeps.sound, nodes.trans keeps.nodes, fun number absent => ?_, ?_⟩
  · have nobody := keeps.nobody number absent
    -- The umpire is there, so that it is none of those who are not.
    have other : number ≠ umpire := by
      rintro rfl
      rw [there] at nobody
      cases nobody
    rcases turned.spares number (by simpa [Host.Turn.born] using other) with same | ⟨gone, -⟩
    · exact same.trans nobody
    · exact gone
  · -- A process's slots are those of its table.
    have slots {kernel : Host.Kernel} {station : Host.Station} (there : kernel.station? umpire = some station) :
        kernel.slot? umpire = station.table.get? := by
      funext fd
      rw [Host.Kernel.slot?_eq, there, Option.bind_some]
    have borrows := keeps.borrows
    rw [slots there] at borrows
    rw [slots there']
    exact borrows.step harmless may effect

/-- A call that fails leaves it so. -/
theorem Keeps.failed {umpire : Nat} {start kernel : Host.Kernel} {chronicle : Chronicle}
    (keeps : Keeps umpire start kernel chronicle) {wanted : Host.Call} {value : wanted.Answer}
    (fails : Fails wanted value) : Keeps umpire start kernel (chronicle.after (.call wanted) value) := by
  obtain ⟨sound, nodes, nobody, borrows⟩ := keeps
  refine ⟨sound, nodes, nobody, ?_⟩
  unfold Fails at fails
  -- A call that fails is put on record at most.
  split at fails <;> first | exact fails.elim | exact ⟨borrows.free, borrows.same, borrows.known⟩

/-- Exchanges in which no process is ordered leave it so. -/
theorem Keeps.serves {umpire : Nat} {start kernel last : Host.Kernel} {chronicle : Chronicle} {events : List Event}
    (keeps : Keeps umpire start kernel chronicle) (served : Serves umpire kernel events last)
    (idle : chronicle.Idle) (plain : ∀ event ∈ events, ¬ event.Orders)
    (may : ∀ earlier (event : Event) later, events = earlier ++ event :: later →
      (Answered.digest (S := Act.vocabulary) Chronicle.after chronicle earlier).May contest event.request) :
    Keeps umpire start last (Answered.digest (S := Act.vocabulary) Chronicle.after chronicle events) := by
  -- By induction on what is served, with the host as it was but for what is in hand as the invariant.
  induction served generalizing chronicle with
  | ended kernel => exact keeps
  | told rest ih =>
    exact ih keeps idle (fun event listed => plain event (List.mem_cons_of_mem _ listed))
      fun earlier event later cut => may (_ :: earlier) event later (congrArg _ cut)
  -- A call that the host answers is harmless, as nobody has been ordered so far.
  | heard turn rest ih =>
    have first := plain _ List.mem_cons_self
    have harmless := idle.harmless (may [] _ _ rfl) fun order same => first ⟨order, congrArg _ same⟩
    exact ih (keeps.heard harmless (may [] _ _ rfl) turn) (idle.after first)
      (fun event listed => plain event (List.mem_cons_of_mem _ listed))
      fun earlier event later cut => may (_ :: earlier) event later (congrArg _ cut)
  | failed fails rest ih =>
    exact ih (keeps.failed fails) (idle.after (plain _ List.mem_cons_self))
      (fun event listed => plain event (List.mem_cons_of_mem _ listed))
      fun earlier event later cut => may (_ :: earlier) event later (congrArg _ cut)

/-- Something fails before a process is ordered: an act of the umpire's, or what the solution's files come to. -/
def FailsEarly (contest : Contest) (events : List Event) : Prop :=
  (∃ earlier later, events = earlier ++ later ∧ (∀ event ∈ earlier, ¬ event.Orders) ∧
    (Chronicle.ofEvents earlier).faults ≠ []) ∨
  ∃ fault, (contest.contestant .solution).redirects = .error fault

/-- A bout leaves no trace but the fault that it ends in. -/
structure Traceless (contest : Contest) (events : List Event) (result : Except Fault Report) : Prop where
  /-- It ends in the fault of the first act that failed, or, if none did, in that of the solution's files. -/
  fault : ∃ fault, result = .error fault ∧ ((Chronicle.ofEvents events).faults = [fault] ∨
    (Chronicle.ofEvents events).faults = [] ∧ (contest.contestant .solution).redirects = .error fault)
  /-- No process is ordered, and no call makes, empties or writes a file. -/
  harmless : ∀ wanted answer, (⟨.call wanted, answer⟩ : Event) ∈ events → wanted.IsHarmless
  /-- Everything that was made has been closed. -/
  closes : (Chronicle.ofEvents events).inHand = []
  /-- Nothing else was. -/
  spares : ∀ earlier fd answer later, events = earlier ++ ⟨.call (.close fd), answer⟩ :: later →
    fd ∈ (Chronicle.ofEvents earlier).made
  /-- On any host that serves it, the files, the processes and the umpire's descriptors are the same afterwards. -/
  kept : ∀ umpire kernel last, kernel.Sound → Serves umpire kernel events last → last.nodes = kernel.nodes ∧
    (∀ number, kernel.station? number = none → last.station? number = none) ∧
    ∀ fd, last.slot? umpire fd = kernel.slot? umpire fd

/-- The first exchange in which a process is ordered. -/
theorem exists_first_order {events : List Event} (ordered : ∃ event ∈ events, event.Orders) :
    ∃ earlier event later, events = earlier ++ event :: later ∧ event.Orders ∧
      ∀ former ∈ earlier, ¬ former.Orders := by
  classical
  obtain ⟨event, listed, orders⟩ := ordered
  -- It is what a search for an order finds first.
  have some_ := List.find?_isSome (p := fun event : Event => decide event.Orders).mpr
    ⟨event, listed, decide_eq_true orders⟩
  obtain ⟨first, found⟩ := Option.isSome_iff_exists.mp some_
  obtain ⟨orders, earlier, later, cut, plain⟩ := List.find?_eq_some_iff_append.mp found
  refine ⟨earlier, first, later, cut, of_decide_eq_true orders, fun former listed orders => ?_⟩
  simpa [orders] using plain former listed

/-- If something fails early, no process is ordered at all. -/
theorem FailsEarly.plain {events : List Event} (early : FailsEarly contest events)
    (may : ∀ earlier (event : Event) later, events = earlier ++ event :: later →
      (Chronicle.ofEvents earlier).May contest event.request) :
    ∀ event ∈ events, ¬ event.Orders := by
  intro event listed orders
  obtain ⟨earlier, first, later, cut, ⟨order, asked⟩, plain⟩ := exists_first_order ⟨event, listed, orders⟩
  -- An order is allowed only while nothing has gone wrong, and only with files that can be given.
  have allowed := may earlier first later cut
  rw [asked] at allowed
  obtain ⟨clean, start⟩ := allowed
  rcases early with ⟨before, rest, cut', plain', failed⟩ | ⟨fault, dirty⟩
  · -- What failed did so before the order, and would be known by then.
    rcases List.append_eq_append_iff.mp (cut'.symm.trans cut) with ⟨between, rfl, -⟩ | ⟨between, rfl, same⟩
    · have known := Chronicle.faults_prefix before between
      rw [clean] at known
      exact failed (List.prefix_nil.mp known)
    · cases between with
      | nil =>
        rw [List.append_nil] at failed
        exact failed clean
      | cons next between =>
        obtain ⟨rfl, -⟩ := List.cons.inj same
        exact plain' first (by simp) ⟨order, asked⟩
  · have idle := Chronicle.idle_ofEvents plain
    cases start with
    | solution none fits =>
      rw [fits.redirects] at dirty
      cases dirty
    | interactor one former fits =>
      rw [idle.orders] at one
      cases one

/-- If something fails early, something went wrong or the solution's files are none that it can be given. -/
theorem FailsEarly.cause {events : List Event} (early : FailsEarly contest events) :
    (Chronicle.ofEvents events).faults ≠ [] ∨ ∃ fault, (contest.contestant .solution).redirects = .error fault := by
  refine early.imp_left fun failed clean => ?_
  obtain ⟨earlier, later, rfl, -, failed⟩ := failed
  -- What went wrong early is known at the end.
  have known := Chronicle.faults_prefix earlier later
  rw [clean] at known
  exact failed (List.prefix_nil.mp known)

/-- The fault of an early failure is that of the first act that failed, or of the solution's files. -/
theorem FailsEarly.fault {events : List Event} (early : FailsEarly contest events)
    (idle : (Chronicle.ofEvents events).Idle) {fault : Fault}
    (blames : Blames contest (Chronicle.ofEvents events).faults fault) :
    (Chronicle.ofEvents events).faults = [fault] ∨
      (Chronicle.ofEvents events).faults = [] ∧ (contest.contestant .solution).redirects = .error fault := by
  have launched := idle.faults
  have cause := early.cause
  generalize (Chronicle.ofEvents events).faults = faults at *
  -- Of three ways to be blamed, that of a failed launch is out since nobody was ordered.
  cases blames with
  | only fault => exact .inl rfl
  | region side known context errno => exact absurd List.mem_cons_self (launched side known)
  | files planned =>
    obtain ⟨other, dirty⟩ := cause.resolve_left fun failed => failed rfl
    rw [planFault?, dirty] at planned
    cases planned
    exact .inr ⟨rfl, dirty⟩

/-- A bout in which something fails before a process is ordered leaves no trace, however its host answers. -/
theorem traceless_of_early_failure (contest : Contest) (host : Surroundings Act.vocabulary)
    (early : FailsEarly contest ((run contest).hold host []).1) :
    Traceless contest ((run contest).hold host []).1 ((run contest).hold host []).2 := by
  have course := (run contest).course_hold host []
  generalize (run contest).hold host [] = bout at early course
  obtain ⟨⟨running, inHand, concludes⟩, may⟩ := abides_chronicle.course course
  -- Since nothing is ordered, every call that was made is harmless.
  have plain := early.plain may
  have idle := Chronicle.idle_ofEvents plain
  refine ⟨?_, fun wanted answer listed => ?_, inHand, fun earlier fd answer later cut => may earlier _ later cut,
    fun umpire kernel last sound served => ?_⟩
  · obtain ⟨events, result⟩ := bout
    cases result with
    | ok report =>
      -- A report would say that nothing went wrong.
      obtain ⟨clean, planned⟩ := concludes
      obtain ⟨fault, dirty⟩ := early.cause.resolve_left fun failed => failed clean
      rw [planFault?, dirty] at planned
      cases planned
    | error fault => exact ⟨fault, rfl, early.fault idle concludes⟩
  · obtain ⟨earlier, later, cut⟩ := List.append_of_mem listed
    have former : ∀ event ∈ earlier, ¬ Event.Orders event :=
      fun event listed => plain event (cut ▸ List.mem_append_left _ listed)
    exact (Chronicle.idle_ofEvents former).harmless (may earlier _ later cut)
      fun order same => plain _ listed ⟨order, congrArg _ same⟩
  · -- At first the host is as it is, and at the end nothing is in hand that could be different.
    have start : Keeps umpire kernel kernel {} :=
      ⟨sound, rfl, fun _ absent => absent, ⟨fun _ none => absurd none List.not_mem_nil, fun _ _ => rfl, .refl _⟩⟩
    have kept := start.serves served ⟨rfl, rfl, fun _ _ none => absurd none List.not_mem_nil⟩ plain may
    refine ⟨kept.nodes, kept.nobody, fun fd => kept.borrows.same fd ?_⟩
    rw [inHand]
    exact List.not_mem_nil

/-- A host that has a process with room for three descriptors. -/
def narrowHost : Host.Kernel where
  processes := ⟨[(1, { parent := 0, table := { limit := 3 } })], 2⟩

/-- What a bout is answered there: it gets one pipe, and can close its ends. -/
def narrowAnswers : Surroundings Act.vocabulary := fun past act =>
  match act with
  | .call .pipe => if past.isEmpty then .ok (0, 1) else .error Errno.tooManyOpen
  | .call (.close _) => .ok ()
  | act => act.refused

/-- There is one process on that host, with nothing open. -/
theorem sound_narrowHost : narrowHost.Sound where
  processes := ⟨by decide, by decide⟩
  stations number station found := by
    -- Whoever has a station there is the one process.
    obtain ⟨process, listed, rfl⟩ := Option.map_eq_some_iff.mp found
    obtain rfl := List.mem_singleton.mp (Host.Registry.mem_of_lookup listed)
    cases listed
    exact ⟨nofun, nofun, nofun⟩

/-- A bout that can make one pipe and not the other. -/
theorem traceless_of_narrow_host :
    let contest := Contest.ofParts {} [Bytes.ofString "a"] [Bytes.ofString "b"]
    let bout := (run contest).hold narrowAnswers []
    FailsEarly contest bout.1 ∧ bout.2 = .error (.os "pipe failed" Errno.tooManyOpen) ∧
      ∃ last, Serves 1 narrowHost bout.1 last ∧ last.nodes = narrowHost.nodes ∧
        ∀ fd, last.slot? 1 fd = narrowHost.slot? 1 fd := by
  intro contest bout
  -- One pipe is made, the other is not, and the first one's ends are closed.
  have events : bout.1 = [⟨.call .pipe, .ok (0, 1)⟩, ⟨.note (.pipeCreated .solution 0 1), ()⟩,
    ⟨.call .pipe, .error Errno.tooManyOpen⟩, ⟨.call (.close 0), .ok ()⟩, ⟨.call (.close 1), .ok ()⟩] := rfl
  have early : FailsEarly contest bout.1 := by
    refine .inl ⟨bout.1, [], (List.append_nil _).symm, ?_, ?_⟩
    · rw [events]
      simp [Event.Orders]
    · rw [events]
      exact nofun
  have traceless := traceless_of_early_failure contest narrowAnswers early
  obtain ⟨last, served⟩ : ∃ last, Serves 1 narrowHost bout.1 last := by
    rw [events]
    exact ⟨_, .heard rfl (.told (.heard rfl (.heard rfl (.heard rfl (.ended _)))))⟩
  obtain ⟨nodes, -, slots⟩ := traceless.kept 1 narrowHost last sound_narrowHost served
  exact ⟨early, rfl, last, served, nodes, slots⟩

end Umpire.Bout
