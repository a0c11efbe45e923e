import Umpire.Proofs.Bout.Presiding

/-! Driving: what the host's runner does with a bout is one of the courses that the bout can take, so that
what holds of every scene holds of every run. -/

namespace Umpire

namespace Host

/-- What is reached once another task has had its turn. -/
def Passed.further (programs : Programs) (reached : Passed) (task : Task) : Passed :=
  let passed := task.pass programs reached.kernel
  ⟨passed.kernel, reached.tasks ++ passed.tasks, reached.moved || passed.moved⟩

/-- In a round one task has its turn after the other. -/
theorem passAll_eq (programs : Programs) (kernel : Kernel) (list : List Task) :
    passAll programs kernel list = list.foldl (Passed.further programs) ⟨kernel, [], false⟩ :=
  rfl

/-- A process that is answered lives on. -/
theorem Kernel.Took.lives {kernel after : Kernel} {who : Nat} {wanted : Call} {value : wanted.Answer}
    (took : Took kernel who wanted (.answered value after)) :
    ∃ left, after.station? who = some left ∧ left.live = true := by
  -- Whichever way it is answered, it goes on.
  cases took with
  | answered _ _ live left _ => exact ⟨_, left, live⟩
  | declined _ live _ left _ => exact ⟨_, left, live⟩
  | started _ live _ left _ _ => exact ⟨_, left, live⟩
  | failed _ live _ left _ _ _ => exact ⟨_, left, live⟩

end Host

namespace Bout

open Host (Call Kernel Machine.drive Passed Programs Station Talk Task Turn passAll)
open Host.Kernel (Turned)

variable {contest : Contest} {programs : Programs} {umpire : Nat}

/-- What the umpire still has to do as a talk with its host, after some things were told. -/
def Conduct.telling {α : Type} (conduct : Conduct α) (told : List Entry) : Talk (α × List Entry) :=
  (conduct.answerWith Act.carryOut).run told

namespace Conduct

variable {α : Type} (told : List Entry)

/-- Nothing is left to be told. -/
theorem telling_done (value : α) : telling (.done value) told = .done (value, told) :=
  rfl

/-- Telling something does not call on the host. -/
theorem telling_note (entry : Entry) (next : Unit → Conduct α) :
    telling (.ask (.note entry) next) told = telling (next ()) (told ++ [entry]) :=
  rfl

/-- A call is made as it is. -/
theorem telling_call (wanted : Call) (next : wanted.Answer → Conduct α) :
    telling (.ask (.call wanted) next) told = .ask wanted fun answer => telling (next answer) told :=
  rfl

end Conduct

/-- A list of tasks says what each process has to do. -/
structure Lists (tasks : Nat → Option (Talk Nat)) (list : List Task) : Prop where
  once : (list.map Task.self).Nodup
  has : ∀ who talk, tasks who = some talk ↔ ⟨who, talk⟩ ∈ list

namespace Lists

variable {tasks : Nat → Option (Talk Nat)} {list rest : List Task} {who : Nat} {talk : Talk Nat}

/-- The order of the list does not matter. -/
theorem perm {other : List Task} (lists : Lists tasks list) (same : list.Perm other) : Lists tasks other where
  once := (same.map Task.self).nodup_iff.mp lists.once
  has who talk := (lists.has who talk).trans same.mem_iff

/-- Who is on the list has to do what it says. -/
theorem head (lists : Lists tasks (⟨who, talk⟩ :: rest)) : tasks who = some talk :=
  (lists.has who talk).mpr List.mem_cons_self

/-- A task that is over is taken off. -/
theorem strike (lists : Lists tasks (⟨who, talk⟩ :: rest)) : Lists (Function.update tasks who none) rest where
  once := (List.nodup_cons.mp lists.once).2
  has any talk' := by
    have alone : who ∉ rest.map Task.self := (List.nodup_cons.mp lists.once).1
    -- Each process is on the list once, so the one that is taken off has nothing to do any more.
    by_cases own : any = who
    · subst own
      rw [Function.update_self]
      exact ⟨nofun, fun listed => absurd (List.mem_map_of_mem listed) alone⟩
    · rw [Function.update_of_ne own, lists.has, List.mem_cons]
      exact or_iff_right fun same => own (congrArg Task.self same)

/-- A task of somebody who had none is put on. -/
theorem enter (lists : Lists tasks rest) (idle : tasks who = none) (talk : Talk Nat) :
    Lists (Function.update tasks who (some talk)) (⟨who, talk⟩ :: rest) where
  once := by
    -- Somebody on the list has something to do.
    refine List.nodup_cons.mpr ⟨fun listed => ?_, lists.once⟩
    obtain ⟨known, member, same⟩ := List.mem_map.mp listed
    have busy := (lists.has known.self known.talk).mpr member
    rw [same, idle] at busy
    cases busy
  has any talk' := by
    -- The new task is all that its process has to do, and changes nothing for others.
    by_cases own : any = who
    · subst own
      have absent : (⟨any, talk'⟩ : Task) ∉ rest := by
        rw [← lists.has, idle]
        nofun
      rw [Function.update_self, List.mem_cons, or_iff_left absent, Option.some_inj, Task.mk.injEq]
      exact ⟨fun same => ⟨rfl, same.symm⟩, fun same => same.2.symm⟩
    · rw [Function.update_of_ne own, lists.has, List.mem_cons]
      exact (or_iff_right fun same => own (congrArg Task.self same)).symm

/-- A task goes on. -/
theorem replace (lists : Lists tasks (⟨who, talk⟩ :: rest)) (talk' : Talk Nat) :
    Lists (Function.update tasks who (some talk')) (⟨who, talk'⟩ :: rest) := by
  -- It is taken off, and another is put on in its place.
  have entered := lists.strike.enter (Function.update_self who none tasks) talk'
  rwa [Function.update_idem] at entered

end Lists

/-- A scene in which the umpire lives and all that others have to do is on a list. -/
structure Staffed (contest : Contest) (umpire : Nat) (scene : Scene) (list : List Task) : Prop where
  lawful : Lawful contest umpire scene
  alive : ∃ was, scene.kernel.station? umpire = some was ∧ was.live = true
  lists : Lists scene.tasks list

/-- A scene leads to another in which the host is in some state, the umpire still has the same to do, and
what others have to do is on another list. -/
structure Leads (contest : Contest) (programs : Programs) (umpire : Nat) (scene : Scene) (kernel : Kernel)
    (list : List Task) (later : Scene) : Prop where
  reached : Reaches programs umpire scene later
  kernel : later.kernel = kernel
  rest : later.rest = scene.rest
  staffed : Staffed contest umpire later list

/-- What leads to a scene leads to where that one leads. -/
theorem Leads.trans {scene mid later : Scene} {kernel kernel' : Kernel} {list list' : List Task}
    (first : Leads contest programs umpire scene kernel list mid)
    (second : Leads contest programs umpire mid kernel' list' later) :
    Leads contest programs umpire scene kernel' list' later :=
  ⟨first.reached.trans second.reached, second.kernel, second.rest.trans first.rest, second.staffed⟩

namespace Staffed

variable {scene : Scene} {list frame : List Task} {task : Task}

/-- The order of the list does not matter. -/
theorem perm {other : List Task} (staffed : Staffed contest umpire scene list) (same : list.Perm other) :
    Staffed contest umpire scene other :=
  ⟨staffed.lawful, staffed.alive, staffed.lists.perm same⟩

/-- The umpire lives on when another has had its turn. -/
theorem alive_turn {who : Nat} {wanted : Call} {turn : Turn wanted.Answer}
    (staffed : Staffed contest umpire scene list) (other : who ≠ umpire)
    (turned : Turned scene.kernel who wanted turn) :
    ∃ was, turn.kernel.station? umpire = some was ∧ was.live = true := by
  obtain ⟨was, there, live⟩ := staffed.alive
  -- The umpire neither has its turn nor is started in it, so it is what it was, for it lived.
  have apart : umpire ∉ who :: turn.born := by
    rintro (_ | ⟨_, born⟩)
    · exact other rfl
    · exact (staffed.lawful.fresh turned born).2.1 rfl
  rcases turned.spares umpire apart with same | ⟨-, ended, there', dead⟩
  · exact ⟨was, same.trans there, live⟩
  · cases there.symm.trans there'
    rw [live] at dead
    cases dead

/-- Who has just been started had nothing to do before. -/
theorem idle_born {who : Nat} {wanted : Call} {turn : Turn wanted.Answer}
    (staffed : Staffed contest umpire scene list) (turned : Turned scene.kernel who wanted turn) {child : Nat}
    (born : child ∈ turn.born) : scene.tasks child = none := by
  by_contra busy
  -- Who has something to do has a number that is given, and the new one's was not.
  have known := (staffed.lawful.peopled child busy).2
  have number := (staffed.lawful.fresh turned born).1
  omega

/-- A task of another process that has its turn. -/
theorem pass (staffed : Staffed contest umpire scene (task :: frame)) :
    ∃ later, Leads contest programs umpire scene (task.pass programs scene.kernel).kernel
      ((task.pass programs scene.kernel).tasks ++ frame) later := by
  obtain ⟨who, talk⟩ := task
  have busy : scene.tasks who = some talk := staffed.lists.head
  have other : who ≠ umpire := (staffed.lawful.peopled who (by simp [busy])).1
  -- A turn is one step of the scene; what is left is that the list still says what each has to do.
  cases talk with
  | done code =>
    have step : Step programs umpire scene _ := .ended busy
    obtain ⟨feels, gone⟩ := Host.Kernel.felt_end staffed.lawful.sound who (.ofExit code)
    -- It is as if the process had asked for something and had then been no more.
    have turned : Turned scene.kernel who .clock (.gone ((scene.kernel.takeAll who).finish who (.ofExit code))) :=
      Host.Kernel.turned_gone staffed.lawful.sound feels gone
    exact ⟨_, .single step, rfl, rfl, staffed.lawful.step step, staffed.alive_turn other turned, staffed.lists.strike⟩
  | ask wanted next =>
    have may : scene.kernel.May who wanted (scene.kernel.turn who wanted) := .heard
    simp only [Task.pass]
    revert may
    generalize scene.kernel.turn who wanted = turn
    intro may
    have turned := Host.Kernel.turned_may staffed.lawful.sound may
    have step : Step programs umpire scene _ := .moved busy may
    have lawful := staffed.lawful.step step
    have alive := staffed.alive_turn other turned
    cases turn with
    | answered value after => exact ⟨_, .single step, rfl, rfl, lawful, alive, staffed.lists.replace _⟩
    | waiting after => exact ⟨_, .single step, rfl, rfl, lawful, alive, staffed.lists⟩
    | gone after => exact ⟨_, .single step, rfl, rfl, lawful, alive, staffed.lists.strike⟩
    | replaced image after => exact ⟨_, .single step, rfl, rfl, lawful, alive, staffed.lists.replace _⟩
    | forked child mine its after =>
      -- The process that is born is put on the list beside the one that has forked.
      have idle : scene.tasks child = none := staffed.idle_born turned List.mem_cons_self
      have young : child ≠ who := by
        rintro rfl
        rw [busy] at idle
        cases idle
      have still : Function.update scene.tasks who (some (next mine)) child = none :=
        (Function.update_of_ne young _ _).trans idle
      have both := (staffed.lists.replace (next mine)).enter still (next its)
      exact ⟨_, .single step, rfl, rfl, lawful, alive, both.perm (.swap ..)⟩
    | ordered child order after =>
      -- The order is carried out by a process of its own, and who gave it waits.
      have both := staffed.lists.enter (staffed.idle_born turned List.mem_cons_self) order.obey
      exact ⟨_, .single step, rfl, rfl, lawful, alive, both.perm (.swap ..)⟩

/-- A round of turns; those who are started have none yet. -/
theorem round (list : List Task) (reached : Passed) (same : scene.kernel = reached.kernel)
    (staffed : Staffed contest umpire scene (list ++ (reached.tasks ++ frame))) :
    ∃ later, Leads contest programs umpire scene (list.foldl (Passed.further programs) reached).kernel
      ((list.foldl (Passed.further programs) reached).tasks ++ frame) later := by
  -- The induction is on those whose turn is still to come.
  induction list generalizing scene reached with
  | nil => exact ⟨scene, .refl, same, rfl, staffed⟩
  | cons task rest ih =>
    obtain ⟨kernel, tasks, moved⟩ := reached
    obtain rfl : scene.kernel = kernel := same
    obtain ⟨next, first⟩ : ∃ next, Leads contest programs umpire scene _ _ next := staffed.pass
    -- Who has had the turn, and whom it has started, go to those who wait for the next round.
    have gathered := first.staffed.perm (List.perm_append_comm_assoc ..)
    have ordered := gathered.perm ((List.perm_append_comm_assoc ..).append_left rest)
    rw [← List.append_assoc tasks] at ordered
    obtain ⟨later, second⟩ := ih (Passed.further programs ⟨scene.kernel, tasks, moved⟩ task) first.kernel ordered
    exact ⟨later, first.trans second⟩

/-- All others have a turn, and then it is later. -/
theorem beat (staffed : Staffed contest umpire scene (list ++ frame)) (clock : Nat) :
    ∃ later, Leads contest programs umpire scene { (passAll programs scene.kernel list).kernel with clock }
      ((passAll programs scene.kernel list).tasks ++ frame) later := by
  obtain ⟨mid, first⟩ : ∃ mid, Leads contest programs umpire scene _ _ mid :=
    staffed.round list ⟨scene.kernel, [], false⟩ rfl
  rw [← Host.passAll_eq] at first
  -- The clock is set at the end of a round.
  have step : Step programs umpire mid _ := .later clock
  refine ⟨_, first.reached.tail step, ?_, first.rest, first.staffed.lawful.step step, first.staffed.alive,
    first.staffed.lists⟩
  rw [← first.kernel]

section Own

variable {wanted : Call} {next : wanted.Answer → Conduct (Except Fault Report)}
  (staffed : Staffed contest umpire scene list) (rest : scene.rest = .ask (.call wanted) next)

include staffed rest

/-- The umpire goes on when it is answered. -/
theorem answered {value : wanted.Answer} {after : Kernel}
    (turn : scene.kernel.turn umpire wanted = .answered value after) :
    ∃ later, Reaches programs umpire scene later ∧ later.kernel = after ∧ later.rest = next value ∧
      Staffed contest umpire later list := by
  have may : scene.kernel.May umpire wanted (.answered value after) := turn ▸ .heard
  have turned := Host.Kernel.turned_may staffed.lawful.sound may
  -- An answer is for one that lives.
  obtain ⟨left, there, live⟩ := turned.took.lives
  have step : Step programs umpire scene _ := .answered rest may there
  exact ⟨_, .single step, rfl, rfl, staffed.lawful.step step, ⟨left, there, live⟩, staffed.lists⟩

/-- The umpire waits. -/
theorem waits {after : Kernel} (turn : scene.kernel.turn umpire wanted = .waiting after) :
    ∃ later, Leads contest programs umpire scene after list later := by
  have may : scene.kernel.May umpire wanted (.waiting after) := turn ▸ .heard
  have turned := Host.Kernel.turned_may staffed.lawful.sound may
  have step : Step programs umpire scene _ := .idle rest may (.inl rfl)
  obtain ⟨was, there, live⟩ := staffed.alive
  -- Waiting changes nothing for it.
  cases turned.took with
  | waiting same _ =>
    exact ⟨_, .single step, rfl, rfl, staffed.lawful.step step, ⟨was, same.trans there, live⟩, staffed.lists⟩

/-- The umpire does not fork. -/
theorem not_forks {child : Nat} {mine its : wanted.Answer} {after : Kernel} :
    scene.kernel.turn umpire wanted ≠ .forked child mine its after := by
  intro turn
  have may : scene.kernel.May umpire wanted (.forked child mine its after) := turn ▸ .heard
  obtain ⟨was, there, live⟩ := staffed.alive
  cases (Host.Kernel.turned_may staffed.lawful.sound may).took with
  | forked =>
    -- Its rules allow no forking.
    obtain ⟨_, _, ⟨-, allows⟩, -⟩ := staffed.lawful.allowed rest there live
    exact allows

/-- The umpire orders a process to be started, which is on the list then. -/
theorem orders {child : Nat} {order : Host.Order} {after : Kernel}
    (turn : scene.kernel.turn umpire wanted = .ordered child order after) :
    ∃ later, Leads contest programs umpire scene after (list ++ [⟨child, order.obey⟩]) later := by
  have may : scene.kernel.May umpire wanted (.ordered child order after) := turn ▸ .heard
  have turned := Host.Kernel.turned_may staffed.lawful.sound may
  obtain ⟨was, there, live⟩ := staffed.alive
  cases turned.took with
  | ordered there' live' _ _ left =>
    have step : Step programs umpire scene _ := .ordered rest may there
    -- The process that was started has a number that nobody had, so it is new on the list.
    have both := staffed.lists.enter (staffed.idle_born turned List.mem_cons_self) order.obey
    exact ⟨_, .single step, rfl, rfl, staffed.lawful.step step, ⟨_, left, live'⟩,
      both.perm (List.perm_append_singleton ..).symm⟩

end Own

end Staffed

/-- A bout can go on from a scene to its end with a result, and leave the host in some state. -/
def CanEnd (programs : Programs) (umpire : Nat) (scene : Scene) (result : Except Fault Report) (last : Kernel) : Prop :=
  ∃ later, Reaches programs umpire scene later ∧ later.kernel = last ∧ later.rest = .done result

/-- What a scene leads to can end as that does. -/
theorem CanEnd.of_reaches {scene mid : Scene} {result : Except Fault Report} {last : Kernel}
    (reached : Reaches programs umpire scene mid) (ends : CanEnd programs umpire mid result last) :
    CanEnd programs umpire scene result last := by
  obtain ⟨later, reached', final⟩ := ends
  exact ⟨later, reached.trans reached', final⟩

/-- A bout that is driven to its end within some rounds can end so. -/
def Faithful (contest : Contest) (programs : Programs) (umpire fuel : Nat) : Prop :=
  ∀ scene list idle told result told' last, Staffed contest umpire scene list →
    Machine.drive programs umpire fuel scene.kernel list idle (Conduct.telling scene.rest told) =
      .finished (result, told') last →
    CanEnd programs umpire scene result last

namespace Faithful

variable {fuel : Nat} (faithful : Faithful contest programs umpire fuel) {scene : Scene} {list frame : List Task}
  {told told' : List Entry} {result : Except Fault Report} {last : Kernel}

include faithful

/-- All others have their turn, and the bout goes on later. -/
theorem beat (staffed : Staffed contest umpire scene (list ++ frame)) {clock idle : Nat}
    (finished : Machine.drive programs umpire fuel { (passAll programs scene.kernel list).kernel with clock }
      ((passAll programs scene.kernel list).tasks ++ frame) idle (Conduct.telling scene.rest told) =
        .finished (result, told') last) :
    CanEnd programs umpire scene result last := by
  obtain ⟨mid, beat⟩ : ∃ mid, Leads contest programs umpire scene _ _ mid := staffed.beat clock
  -- What is driven is the scene that a round leads to.
  rw [← beat.kernel, ← beat.rest] at finished
  exact .of_reaches beat.reached (faithful mid _ _ _ _ _ _ beat.staffed finished)

/-- The umpire has its turn, and then all others have theirs. -/
theorem call (staffed : Staffed contest umpire scene list) {wanted : Call}
    {next : wanted.Answer → Conduct (Except Fault Report)} (rest : scene.rest = .ask (.call wanted) next)
    {idle : Nat} (finished : Machine.drive programs umpire (fuel + 1) scene.kernel list idle
      (Conduct.telling scene.rest told) = .finished (result, told') last) :
    CanEnd programs umpire scene result last := by
  rw [rest, Conduct.telling_call, Machine.drive] at finished
  dsimp only at finished
  -- Nobody is started when the umpire is answered or waits.
  have alone {mid : Scene} (staffed : Staffed contest umpire mid list) : Staffed contest umpire mid (list ++ []) :=
    (List.append_nil list).symm ▸ staffed
  -- Where the time is over the bout has not been driven to its end.
  cases turn : scene.kernel.turn umpire wanted with
  | answered value after =>
    obtain ⟨mid, reached, rfl, same, staffed⟩ : ∃ mid, Reaches programs umpire scene mid ∧ _ :=
      staffed.answered rest turn
    rw [turn] at finished
    dsimp only at finished
    rw [← same] at finished
    split at finished
    · cases finished
    · split at finished
      · cases finished
      · exact .of_reaches reached (faithful.beat (alone staffed) finished)
  | waiting after =>
    obtain ⟨mid, reached, rfl, same, staffed⟩ : ∃ mid, Leads contest programs umpire scene after list mid :=
      staffed.waits rest turn
    rw [turn] at finished
    dsimp only at finished
    rw [← Conduct.telling_call, ← rest, ← same] at finished
    split at finished
    · cases finished
    · split at finished
      · cases finished
      · exact .of_reaches reached (faithful.beat (alone staffed) finished)
  | ordered child order after =>
    obtain ⟨mid, reached, rfl, same, staffed⟩ :
        ∃ mid, Leads contest programs umpire scene after (list ++ [⟨child, order.obey⟩]) mid :=
      staffed.orders rest turn
    rw [turn] at finished
    dsimp only at finished
    rw [← Conduct.telling_call, ← rest, ← same] at finished
    split at finished
    · cases finished
    · split at finished
      · cases finished
      · exact .of_reaches reached (faithful.beat staffed finished)
  | forked child mine its after => exact absurd turn (staffed.not_forks rest)
  | gone after =>
    rw [turn] at finished
    cases finished
  | replaced image after =>
    rw [turn] at finished
    cases finished

end Faithful

/-- However many rounds there are, a bout that is driven to its end can end so. -/
theorem faithful (fuel : Nat) : Faithful contest programs umpire fuel := by
  -- By induction on the rounds, of which each ends in a turn of the umpire.
  induction fuel with
  | zero =>
    intro scene list idle told result told' last staffed finished
    cases finished
  | succ fuel ih =>
    intro scene list idle told result told' last staffed finished
    generalize known : scene.rest = rest at finished
    -- What is told takes no turn, so it is gone through first.
    induction rest generalizing scene told with
    | done value =>
      rw [Conduct.telling_done] at finished
      cases finished
      exact ⟨scene, .refl, rfl, known⟩
    | ask act next ih' =>
      cases act with
      | note entry =>
        rw [Conduct.telling_note] at finished
        obtain ⟨was, there, live⟩ := staffed.alive
        have step : Step programs umpire scene _ := .told known there live
        have ends := ih' () _ _ ⟨staffed.lawful.step step, ⟨was, there, live⟩, staffed.lists⟩ rfl finished
        exact .of_reaches (.single step) ends
      -- A call is a round of its own.
      | call wanted => exact ih.call staffed known (known ▸ finished)

/-- Running a bout on a host is one of the courses that the bout can take there. If it comes to an end, the
host is left as in a scene in which the umpire has come to that result. -/
theorem reaches_of_run {kernel last : Kernel} {told : List Entry} {result : Except Fault Report}
    (ready : Ready umpire kernel fun _ => none)
    (finished : Host.Machine.run programs kernel umpire (run contest).told = .finished (result, told) last) :
    ∃ scene, Reaches programs umpire (.opening contest kernel fun _ => none) scene ∧ scene.kernel = last ∧
      scene.rest = .done result := by
  obtain ⟨was, there, live, -⟩ := ready.umpire
  -- Nobody else has anything to do at first, so the list is empty.
  refine faithful Host.Machine.rounds (.opening contest kernel fun _ => none) [] 0 [] _ told last
    ⟨lawful_opening ready, ⟨was, there, live⟩, List.nodup_nil, by simp [Scene.opening]⟩ finished

end Bout

end Umpire
