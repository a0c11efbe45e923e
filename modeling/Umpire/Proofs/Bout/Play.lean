import Umpire.Proofs.Bout.Scene

/-! Playing: scenes can be computed from a list of who has his turn next, where the host does whatever it is
asked to. -/

namespace Umpire

namespace Host

/-- The path at which a call looks for something that is there. -/
def Call.finds? : Call → Option Bytes
  | .info path true => some path
  | .openFile path access _ => if access.create then none else some path
  | _ => none

end Host

namespace Host.Kernel

/-- A plain name that is in a directory and is no link is found there. -/
theorem walk_name {kernel : Kernel} {who budget : Nat} {place next : Place} {name : Bytes}
    (plain : name ∉ [Path.dot, Path.slash, Path.dots]) (short : name.length ≤ Path.longestName)
    (directory : kernel.isDirectory place = true) (entry : kernel.entry? who place name = some next)
    (lead : kernel.lead? next = none) :
    kernel.walk who .target budget place [name] = .ok (.here next) := by
  -- Nothing is left to walk after the name.
  have arrived : kernel.walk who .target budget next [] = .ok (.here next) := by
    -- One step of the walk, in which no case but that of a plain entry is left.
    rw [walk.eq_def]
  simp only [List.mem_cons, List.not_mem_nil, or_false, not_or] at plain
  obtain ⟨dot, slash, dots⟩ := plain
  rw [walk.eq_def]
  simp [directory, dot, slash, dots, Nat.not_lt.mpr short, entry, lead, arrived]

/-- A name in the root directory that is no link is found there. -/
theorem locate_name {kernel : Kernel} {who : Nat} {path name : Bytes} {next : Place}
    (absolute : Path.isAbsolute path = true) (steps : Path.steps path = [name]) (brief : path.length < Path.tooLong)
    (plain : name ∉ [Path.dot, Path.slash, Path.dots]) (short : name.length ≤ Path.longestName)
    (directory : kernel.isDirectory (.node root) = true) (entry : kernel.entry? who (.node root) name = some next)
    (lead : kernel.lead? next = none) : kernel.locate who path .target = .ok (.here next) := by
  -- An absolute path has its slash at least.
  have full : path.isEmpty = false := by
    cases path with
    | nil => cases absolute
    | cons => rfl
  simp only [locate, full, Bool.false_eq_true, if_false, if_neg (Nat.not_le.mpr brief), startOf, absolute, if_true,
    steps]
  exact walk_name plain short directory entry lead

/-- Whether a process goes on with what it does when it has its turn. -/
def goesOn (kernel : Kernel) (who : Nat) : Bool :=
  (kernel.process? who).any fun process => process.isLive && process.pending.isEmpty && !process.stopped

/-- A process that goes on is attended to in its next turn: no signal takes effect before or breaks its call off. -/
theorem turn_attend {kernel : Kernel} {who : Nat} (goes : kernel.goesOn who = true) (wanted : Call) :
    kernel.turn who wanted = kernel.attend who wanted := by
  obtain ⟨process, found, calm⟩ := (Option.any_eq_true ..).mp goes
  simp only [Bool.and_eq_true, List.isEmpty_iff, Bool.not_eq_true'] at calm
  obtain ⟨⟨live, unsignalled⟩, going⟩ := calm
  -- Nothing is pending, so that no signal is taken before the call.
  have felt : kernel.takeAll who = kernel := by simp [takeAll, found, unsignalled]
  simp only [turn, felt, found, live, going, Bool.not_true, Bool.false_eq_true, if_false, Nat.lt_irrefl]
  -- Nor is one pending after it, so that a call that waits is not broken off.
  split
  · rename_i waits
    exact waits.symm
  · rfl

/-- A process that goes on and whose program can be loaded runs it in its next turn. -/
theorem turn_exec {kernel : Kernel} {who : Nat} (goes : kernel.goesOn who = true) {path : Bytes}
    {words : List Bytes} (environment : List (Bytes × Bytes)) {image : Image}
    (loads : kernel.loadImage who path words = .ok image) :
    kernel.turn who (.exec path words environment) =
      .replaced image (kernel.update who fun known =>
        { known.afterExec with environment, words := image.words }) := by
  rw [turn_attend goes]
  simp only [attend, loads]

/-- What comes of a process's turn if the path that it asks about leads to a place. -/
def turnAt (kernel : Kernel) (who : Nat) (place : Place) : (wanted : Call) → Turn wanted.Answer
  | .info _ _ => .answered (kernel.infoOf place) kernel
  | .openFile _ access closeOnExec => replied (kernel.openPlace who place access closeOnExec)
  | wanted => kernel.turn who wanted

/-- A process that goes on finds in its next turn what a path leads to. -/
theorem turn_finds {kernel : Kernel} {who : Nat} (goes : kernel.goesOn who = true)
    (room : kernel.hasRoom who = true) {path : Bytes} {place : Place}
    (leads : kernel.locate who path .target = .ok (.here place)) {wanted : Call} (asks : wanted.finds? = some path) :
    kernel.turn who wanted = kernel.turnAt who place wanted := by
  -- Only two calls look for something that is there.
  cases wanted with
  | info asked follow =>
    cases follow with
    | false => cases asks
    | true =>
      cases asks
      rw [turn_attend goes]
      simp [turnAt, attend, reach, leads]
  | openFile asked access closeOnExec =>
    obtain ⟨old, rfl⟩ : access.create = false ∧ asked = path := by
      simpa [Call.finds?] using asks
    -- An open that creates nothing opens what the path leads to.
    have opened : kernel.openPath who asked access closeOnExec = kernel.openPlace who place access closeOnExec := by
      have reached := leads
      rw [locate] at reached
      split at reached
      · cases reached
      · split at reached
        · cases reached
        · rename_i full short
          simp [openPath, full, short, room, old, leads]
    rw [turn_attend goes]
    simp only [turnAt, attend, opened]
  | _ => cases asks

end Host.Kernel

namespace Bout

open Host (Call Image Kernel Programs Talk Turn)

namespace Scene

/-- The scene after the umpire has had its turn. -/
def act (umpire : Nat) (scene : Scene) : Scene :=
  match scene.kernel.station? umpire, scene.rest with
  | some was, .ask (.note entry) next =>
    if was.live then
      { scene with rest := next (), record := scene.record.after was.table (.note entry) () }
    else scene
  | some was, .ask (.call wanted) next =>
    -- A call takes a turn on the host, as what it is answered decides.
    match scene.kernel.turn umpire wanted with
    | .answered value after =>
      match after.station? umpire with
      | some left =>
        { scene with
          kernel := after
          rest := next value
          record := scene.record.after left.table (.call wanted) value }
      | none => scene
    | .waiting after | .gone after => { scene with kernel := after }
    -- The umpire goes on only when the process has run its program or given up.
    | .ordered child given after =>
      match wanted with
      | .spawn _ =>
        { scene with
          kernel := after
          tasks := Function.update scene.tasks child (some given.obey)
          enrolled := ⟨child, ⟨scene.record.starting, ⟨given, was.table⟩⟩, after.opens.next⟩ :: scene.enrolled
          births := (child, umpire) :: scene.births }
      | _ => scene
    | _ => scene
  | _, _ => scene

/-- The scene after a turn of another process. -/
def turned (programs : Programs) (scene : Scene) (who : Nat) (wanted : Call)
    (next : wanted.Answer → Talk Nat) (turn : Turn wanted.Answer) : Scene :=
  { scene with
    kernel := turn.kernel
    tasks := tasksAfter programs scene.tasks who next turn
    births := turn.born.map (·, who) ++ scene.births }

/-- The scene after another process has had its turn. -/
def pass (programs : Programs) (scene : Scene) (who : Nat) : Scene :=
  match scene.tasks who with
  | some (.ask wanted next) => scene.turned programs who wanted next (scene.kernel.turn who wanted)
  -- Whoever has nothing left to do ends.
  | some (.done code) =>
    { scene with
      kernel := (scene.kernel.takeAll who).finish who (.ofExit code)
      tasks := Function.update scene.tasks who none }
  | none => scene

/-- The scene after some processes have had their turns, each in its own. -/
def play (programs : Programs) (umpire : Nat) (scene : Scene) : List Nat → Scene
  | [] => scene
  | who :: rest =>
    (if who = umpire then scene.act umpire else scene.pass programs who).play programs umpire rest

/-- What another process asks for next. -/
def wanted? (scene : Scene) (who : Nat) : Option Call :=
  match scene.tasks who with
  | some (.ask wanted _) => some wanted
  | _ => none

/-- The scene after another process has started to run its program. -/
def enter (programs : Programs) (scene : Scene) (who : Nat) (image : Image) : Scene :=
  match scene.tasks who with
  | some (.ask (.exec path words environment) next) =>
    scene.turned programs who (.exec path words environment) next (.replaced image (scene.kernel.update who fun known =>
      { known.afterExec with environment, words := image.words }))
  | _ => scene

/-- What the umpire asks for next. -/
def asked? (scene : Scene) : Option Call :=
  match scene.rest with
  | .ask (.call wanted) _ => some wanted
  | _ => none

/-- The scene after the umpire has asked about a path that leads to a place. -/
def find (umpire : Nat) (place : Host.Place) (scene : Scene) : Scene :=
  match scene.rest with
  | .ask (.call wanted) next =>
    -- Where the path leads is given, so that nothing has to be looked up in the files.
    match scene.kernel.turnAt umpire place wanted with
    | .answered value after =>
      match after.station? umpire with
      | some left =>
        { scene with
          kernel := after
          rest := next value
          record := scene.record.after left.table (.call wanted) value }
      | none => scene
    | _ => scene
  | _ => scene

end Scene

section Laws

variable {programs : Programs} {umpire : Nat} {scene : Scene}

/-- The umpire's turn is a step, or changes nothing. -/
theorem step_act : Relation.ReflGen (Step programs umpire) scene (scene.act umpire) := by
  simp only [Scene.act]
  split
  · rename_i was entry next there rest
    split
    · exact .single (.told rest there ‹_›)
    · exact .refl
  · rename_i was wanted next there rest
    -- The host has a turn that it may have; which one it is does not matter from here on.
    have may : scene.kernel.May umpire wanted (scene.kernel.turn umpire wanted) := .heard
    revert may
    generalize scene.kernel.turn umpire wanted = turn
    intro may
    -- Every turn that the umpire's own call can have is a step; it neither forks nor runs another program.
    cases turn with
    | answered value after =>
      dsimp only
      split
      · exact .single (.answered rest may ‹_›)
      · exact .refl
    | waiting after => exact .single (.idle rest may (.inl rfl))
    | gone after => exact .single (.idle rest may (.inr rfl))
    | ordered child given after =>
      cases wanted with
      | spawn order => exact .single (.ordered rest may there)
      | _ => exact .refl
    | replaced | forked => exact .refl
  · exact .refl

/-- Another process's turn is a step, or changes nothing. -/
theorem step_pass (who : Nat) : Relation.ReflGen (Step programs umpire) scene (scene.pass programs who) := by
  simp only [Scene.pass]
  -- It has something to ask, or is about to end, or is nobody.
  split
  · exact .single (.moved ‹_› .heard)
  · exact .single (.ended ‹_›)
  · exact .refl

/-- What the umpire finds where a path leads is a step, or changes nothing. -/
theorem step_find {path : Bytes} (asks : scene.asked?.bind Call.finds? = some path)
    (goes : scene.kernel.goesOn umpire = true) (room : scene.kernel.hasRoom umpire = true) {place : Host.Place}
    (leads : scene.kernel.locate umpire path .target = .ok (.here place)) :
    Relation.ReflGen (Step programs umpire) scene (scene.find umpire place) := by
  rw [Scene.find]
  split
  · rename_i wanted next rest
    have finds : wanted.finds? = some path := by simpa [Scene.asked?, rest] using asks
    -- What is played here is the umpire's turn on the host.
    have turn := Kernel.turn_finds goes room leads finds
    split
    · rename_i value after answered
      split
      · exact .single (.answered rest ((turn.trans answered) ▸ .heard) ‹_›)
      · exact .refl
    · exact .refl
  · exact .refl

/-- Whoever has his turn next, what can be played can happen. -/
theorem reaches_play (turns : List Nat) : Reaches programs umpire scene (scene.play programs umpire turns) := by
  -- By induction on the turns, from any scene.
  induction turns generalizing scene with
  | nil => exact .refl
  | cons who rest ih =>
    rw [Scene.play]
    split
    · exact step_act.to_reflTransGen.trans ih
    · exact (step_pass who).to_reflTransGen.trans ih

/-- What a process asks for next is what its task starts with. -/
theorem asks_of_wanted {who : Nat} {wanted : Call} (asks : scene.wanted? who = some wanted) :
    ∃ next, scene.tasks who = some (.ask wanted next) := by
  -- A task that wants nothing is over, or is about to tell something.
  rw [Scene.wanted?] at asks
  split at asks
  · rename_i wanted' next task
    cases asks
    exact ⟨next, task⟩
  · cases asks

/-- A process that asks for a program that can be loaded runs it. -/
theorem reaches_enter {who : Nat} {path : Bytes} {words : List Bytes} {environment : List (Bytes × Bytes)}
    (asks : scene.wanted? who = some (.exec path words environment)) {image : Image}
    (goes : scene.kernel.goesOn who = true) (loads : scene.kernel.loadImage who path words = .ok image) :
    Reaches programs umpire scene (scene.enter programs who image) := by
  obtain ⟨next, task⟩ := asks_of_wanted asks
  -- What is played here is the process's turn on the host.
  have turn := Kernel.turn_exec goes environment loads
  rw [Scene.enter, task]
  exact .single (.moved task (turn ▸ .heard))

end Laws

namespace Sample

/-- A contest of a program with itself, in which either side is told its number. -/
def contest : Contest :=
  .ofParts {} (["/a", "__FD__"].map Bytes.ofString) (["/a", "-__FD__"].map Bytes.ofString)

/-- A host with that program and an umpire, whose standard streams are one file. -/
def host : Kernel where
  nodes := ⟨[(1, ⟨.tool "a", 0o755⟩), (0, ⟨.directory 0 [(Bytes.ofString "a", 1)], 0o755⟩)], 2⟩
  opens := ⟨[(0, ⟨.node 0, Host.Access.reading, 0⟩)], 1⟩
  processes := ⟨[(1, { parent := 0, table := { slots := List.replicate 3 (some ⟨0, false⟩) } })], 2⟩

/-- Programs that end at once. -/
def programs : Programs := fun _ => .done 0

/-- The program, run with some words. -/
def image (words : List String) : Image :=
  ⟨"a", words.map Bytes.ofString⟩

/-- Where the contest begins. -/
def opening : Scene :=
  .opening contest host fun _ => none

/-- The solution's process is about to run its program: the umpire has had all the turns until the order,
and the process those until it has its streams. -/
def solutionEnters : Scene :=
  opening.play programs 1 (List.replicate 17 1 ++ List.replicate 4 2)

/-- The interactor's process is about to run its program, while the solution's does. -/
def interactorEnters : Scene :=
  (solutionEnters.enter programs 2 (image ["/a", "4"])).play programs 1
    (List.replicate 11 1 ++ List.replicate 4 3)

/-- Both sides run, and the umpire waits for the first of them to hang up. -/
def bothRun : Scene :=
  (interactorEnters.enter programs 3 (image ["/a", "-6"])).play programs 1 (List.replicate 8 1)

/-- The contest can begin on the host. -/
theorem ready : Ready 1 host fun _ => none where
  sound := by
    refine ⟨⟨by decide, by decide⟩, fun number station found => ?_⟩
    -- There is one process on the host.
    have only : station.table.slots = List.replicate 3 (some ⟨0, false⟩) ∧ station.live = true ∧
        station.start = .running := by
      obtain ⟨process, known, rfl⟩ := Option.map_eq_some_iff.mp found
      obtain rfl := List.eq_of_mem_singleton (Host.Registry.mem_of_lookup known)
      cases known
      exact ⟨rfl, rfl, rfl⟩
    obtain ⟨slots, live, start⟩ := only
    refine ⟨fun fd slot held => ?_, fun ended => ?_, fun cause refused => ?_⟩
    · rw [Host.Table.get?, slots, List.getElem?_replicate] at held
      split at held
      · cases held
        decide
      · cases held
    · rw [live] at ended
      cases ended
    · rw [start] at refused
      cases refused
  others := nofun
  umpire := ⟨_, rfl, rfl, rfl, by decide, by decide⟩

/-- Where the host's files are as they were, the program can be run. -/
theorem loads {kernel : Kernel} (files : kernel.nodes.entries = host.nodes.entries) (who : Nat)
    {words : List Bytes} (short : ∀ word ∈ words, word.length + 1 < Image.longestWord) :
    kernel.loadImage who (Bytes.ofString "/a") words = .ok ⟨"a", words⟩ := by
  -- Nodes are looked up among the entries alone.
  have found (number : Nat) : kernel.nodes.get? number = host.nodes.get? number := by
    rw [Host.Registry.get?, files]
    rfl
  -- The program's path is one name in the root directory, and that name is no link.
  have located : kernel.locate who (Bytes.ofString "/a") .target = .ok (.here (.node 1)) := by
    have steps : Host.Path.steps (Bytes.ofString "/a") = [Bytes.ofString "a"] := by decide
    refine Kernel.locate_name (by decide) steps (by decide) (by decide) (by decide) ?_ ?_ ?_
    · rw [Kernel.isDirectory, found]
      rfl
    · rw [Kernel.entry?, found]
      rfl
    · rw [Kernel.lead?, found]
      rfl
  have reached : kernel.reach who (Bytes.ofString "/a") .target = .ok (.node 1) := by
    rw [Kernel.reach, located]
  have runnable : kernel.executable who (Bytes.ofString "/a") = .ok (.tool "a") := by
    rw [Kernel.executable, reached]
    simp only [found]
    rfl
  rw [Kernel.loadImage, runnable, if_neg]
  · rfl
  · simpa using short

/-- Where the host's files are as they were, a process that asks for the program runs it. -/
theorem reaches_program {scene : Scene} {who : Nat} {words : List String}
    (asks : scene.wanted? who = some (.exec (Bytes.ofString "/a") (words.map Bytes.ofString) []))
    (goes : scene.kernel.goesOn who = true) (files : scene.kernel.nodes.entries = host.nodes.entries)
    (short : ∀ word ∈ words.map Bytes.ofString, word.length + 1 < Image.longestWord) :
    Reaches programs 1 scene (scene.enter programs who (image words)) :=
  reaches_enter asks goes (loads files who short)

/-- The interactor's process gets to its program. -/
theorem reaches_interactorEnters : Reaches programs 1 opening interactorEnters :=
  (reaches_play _).trans ((reaches_program (by decide +kernel) (by decide +kernel) (by decide +kernel)
    (by decide)).trans (reaches_play _))

/-- Both sides get to run. -/
theorem reaches_bothRun : Reaches programs 1 opening bothRun :=
  reaches_interactorEnters.trans ((reaches_program (by decide +kernel) (by decide +kernel) (by decide +kernel)
    (by decide)).trans (reaches_play _))

end Sample

end Bout

end Umpire
