import Umpire.Proofs.Bout.Mooring
import Umpire.Proofs.Host.Harmless

/-! Launching over named pipes: no side waits for its input or output while it is launched, and once both sides run
nothing but their own openings decides where a pipe ends or breaks. -/

namespace Umpire.Bout

open Host (Call Kernel Programs Talk)

section Steadiness

variable {contest : Contest} {programs : Programs} {umpire : Nat} {fifo : Bytes → Option Nat}

/-- The scenes that a scene can lead to as long as the paths of a contest stay what they are. -/
def ReachesSteadily (contest : Contest) (programs : Programs) (umpire : Nat) (fifo : Bytes → Option Nat) :
    Scene → Scene → Prop :=
  Relation.ReflTransGen fun before after => Steady contest umpire fifo before ∧ Step programs umpire before after

/-- What can happen with paths that stay what they are can happen. -/
theorem ReachesSteadily.reaches {before after : Scene}
    (reaches : ReachesSteadily contest programs umpire fifo before after) : Reaches programs umpire before after :=
  Relation.ReflTransGen.mono (fun _ _ step => And.right step) before after reaches

/-- A step that is taken while paths are what they are, or none, leads on steadily. -/
theorem ReachesSteadily.of_step {scene after : Scene} (steady : Steady contest umpire fifo scene)
    (step : Relation.ReflGen (Step programs umpire) scene after) :
    ReachesSteadily contest programs umpire fifo scene after := by
  -- Where no step is taken nothing has to be steady.
  cases step with
  | refl => exact .refl
  | single step => exact .single ⟨steady, step⟩

/-- What is played while paths are what they are leads on steadily. -/
theorem ReachesSteadily.of_play {scene : Scene} {turns : List Nat}
    (steady : ∀ past ∈ turns.inits, Steady contest umpire fifo (scene.play programs umpire past)) :
    ReachesSteadily contest programs umpire fifo scene (scene.play programs umpire turns) := by
  -- Each turn is taken where paths are still what they are, as it is before those that follow.
  induction turns generalizing scene with
  | nil => exact .refl
  | cons who rest ih =>
    have now : Steady contest umpire fifo scene := steady [] (by simp)
    have later := fun past listed => steady (who :: past) (List.mem_cons_of_mem [] (List.mem_map_of_mem listed))
    simp only [Scene.play] at later ⊢
    refine (ReachesSteadily.of_step now ?_).trans (ih later)
    split
    · exact step_act
    · exact step_pass who

/-- As long as the sides are being launched and paths stay what they are, the named pipes are moored. -/
theorem mooring_of_reaches (loadable : contest.Loadable) {kernel : Kernel} {tasks : Nat → Option (Talk Nat)}
    (ready : Ready umpire kernel tasks) {scene : Scene}
    (reaches : ReachesSteadily contest programs umpire fifo (.opening contest kernel tasks) scene)
    (launching : scene.Launching umpire) : Mooring contest fifo scene := by
  induction reaches with
  -- At first nothing has been asked, opened or started.
  | refl => exact ⟨nofun, nofun, nofun⟩
  | tail reaches step mooring =>
    obtain ⟨steady, step⟩ := step
    have reaches := ReachesSteadily.reaches reaches
    have lawful := lawful_of_reaches ready reaches
    -- Sides that are launched now were so all the time.
    have before := lawful.launching_before step launching
    exact (mooring before).step lawful steady before loadable (kept_of_reaches ready reaches) step

/-- A process that the umpire has started waits for nothing that it opens as its input or output, unless it has been
stopped, as long as it does not run its program and the umpire lives. -/
def Unhindered (contest : Contest) (umpire : Nat) (scene : Scene) : Prop :=
  ∀ was, scene.kernel.station? umpire = some was → was.live = true →
    ∀ child, (child, umpire) ∈ scene.births →
      ∀ station, scene.kernel.station? child = some station → station.live = true → station.start = .preparing →
        ∀ side stream path, stream ≠ .stderr → (contest.contestant side).file? stream = some path →
          ∀ access closeOnExec next, scene.tasks child = some (.ask (.openFile path access closeOnExec) next) →
            ∀ after, scene.kernel.May child (.openFile path access closeOnExec) (.waiting after) →
              ∃ process, (scene.kernel.takeAll child).process? child = some process ∧ process.stopped = true

/-- In a bout over paths that stay what they are as long as its sides are being launched, whatever runs beside it and
however its turns fall, no side's opening of its input or output makes it wait before its program runs, whichever of
the paths lead to named pipes. What the umpire has opened there is held by it alone, by a process that it starts until
that runs its program, and by nobody once it has told that both sides run. -/
theorem launching_never_waits {tokens : List Bytes} (loaded : Contest.load tokens = .ok contest) {kernel : Kernel}
    {tasks : Nat → Option (Talk Nat)} (ready : Ready umpire kernel tasks) {scene : Scene}
    (reaches : ReachesSteadily contest programs umpire fifo (.opening contest kernel tasks) scene)
    (steady : Steady contest umpire fifo scene) :
    Unhindered contest umpire scene ∧ Released umpire kernel.opens.next scene := by
  have loadable := Contest.loadable_of_load loaded
  have lawful : Lawful contest umpire scene := lawful_of_reaches ready reaches.reaches
  have kept := kept_of_reaches ready reaches.reaches
  refine ⟨?_, lawful.released kept⟩
  intro was present lives child birth station there live prepares side stream path standard given access closeOnExec
    next asks after waits
  -- The process was started by an order, and is about to open what both sides open.
  obtain ⟨enrolment, listed, rfl⟩ := lawful.listed _ birth rfl
  have shared := loadable.mem_paths standard given
  have launching := lawful.launching_of_preparing kept.runs listed there live prepares present lives
  -- It prepares, so sides are still being launched and the pipes are moored.
  have mooring := mooring_of_reaches loadable ready reaches launching
  have course := mooring.courses enrolment listed station there live prepares
  rw [asks] at course
  obtain ⟨process, found, stopped, -⟩ := mooring.unblocked lawful steady launching listed there live prepares
    shared (course.idle_of_shared shared) waits
  exact ⟨process, found, stopped⟩

end Steadiness

namespace Sample

/-- Where a named pipe is, and nothing else that either side reads or writes. -/
def pipe : Bytes :=
  Bytes.ofString "/f"

/-- What is said to have the program read from the pipe, and to have the same program write to it. -/
def pipeTokens : List Bytes :=
  ["umpire", "-i", "/f", "--", "/a", "=", "/a"].map Bytes.ofString

/-- The contest of a program that reads from the pipe with itself, which writes to it. -/
def pipeContest : Contest :=
  .ofParts { input := some pipe } [Bytes.ofString "/a"] [Bytes.ofString "/a"]

/-- The host with a named pipe beside the program. -/
def pipeHost : Kernel :=
  { host with
    nodes := ⟨[(2, ⟨.fifo 0, 0o644⟩), (1, ⟨.tool "a", 0o755⟩),
      (0, ⟨.directory 0 [(Bytes.ofString "a", 1), (Bytes.ofString "f", 2)], 0o755⟩)], 3⟩
    channels := ⟨[(0, {})], 1⟩ }

/-- The named pipes of that host. -/
def pipes (path : Bytes) : Option Nat :=
  if path = pipe then some 2 else none

/-- Where that contest begins. -/
def pipeOpening : Scene :=
  .opening pipeContest pipeHost fun _ => none

/-- The umpire asks what the path leads to: it has made all pipes that have no name. -/
def pipeAsked : Scene :=
  pipeOpening.play programs 1 (List.replicate 9 1)

/-- The umpire has opened the named pipe. -/
def pipeHeld : Scene :=
  (pipeAsked.find 1 (.node 2)).find 1 (.node 2)

/-- The solution's process is about to open the named pipe, which nobody but the umpire has open. -/
def solutionOpens : Scene :=
  pipeHeld.play programs 1 (List.replicate 6 1 ++ List.replicate 2 2)

/-- The files are as they were, and the umpire has been told what it has asked about them. -/
def Undisturbed (scene : Scene) : Prop :=
  scene.kernel.nodes.entries = pipeHost.nodes.entries ∧ (scene.record.probed.all fun probe => probe.2.isOk) = true

instance (scene : Scene) : Decidable (Undisturbed scene) :=
  inferInstanceAs (Decidable (_ ∧ _))

/-- Where the files are as they were, the path leads to the named pipe. -/
theorem locate_pipe {kernel : Kernel} (files : kernel.nodes.entries = pipeHost.nodes.entries) (who : Nat) :
    kernel.locate who pipe .target = .ok (.here (.node 2)) ∧ kernel.fifoAt? who pipe = some 2 := by
  -- Only what there is and where decides, so it can be looked up on the host itself.
  have found (number : Nat) : kernel.nodes.get? number = pipeHost.nodes.get? number := by
    rw [Host.Registry.get?, files]
    rfl
  have located : kernel.locate who pipe .target = .ok (.here (.node 2)) := by
    have steps : Host.Path.steps pipe = [Bytes.ofString "f"] := by decide
    -- The path is one name, in the directory where all paths begin.
    refine Kernel.locate_name (by decide) steps (by decide) (by decide) (by decide) ?_ ?_ ?_
    · rw [Kernel.isDirectory, found]
      rfl
    · rw [Kernel.entry?, found]
      rfl
    · rw [Kernel.lead?, found]
      rfl
  refine ⟨located, ?_⟩
  rw [Kernel.fifoAt?, located]
  simp only [found]
  rfl

/-- Where nothing is disturbed, paths are what they are. -/
theorem Undisturbed.steady {scene : Scene} (undisturbed : Undisturbed scene) :
    Steady pipeContest 1 pipes scene where
  finds _ path shared who _ _ _ _ := by
    -- There is one path that both sides open.
    obtain rfl : path = pipe := List.mem_singleton.mp shared
    have files : (scene.kernel.takeAll who).nodes.entries = pipeHost.nodes.entries := by
      rw [Kernel.nodes_takeAll]
      exact undisturbed.1
    exact (locate_pipe files who).2
  told path told probed _ := by
    have answered := List.all_eq_true.mp undisturbed.2 _ probed
    cases told with
    | error errno => cases answered
    | ok info => exact ⟨info, rfl⟩

/-- Where nothing is disturbed, what the umpire finds at the path leads on steadily. -/
theorem steadily_find {scene : Scene} (undisturbed : Undisturbed scene)
    (asks : scene.asked?.bind Call.finds? = some pipe) (goes : scene.kernel.goesOn 1 = true)
    (room : scene.kernel.hasRoom 1 = true) :
    ReachesSteadily pipeContest programs 1 pipes scene (scene.find 1 (.node 2)) :=
  .of_step undisturbed.steady (step_find asks goes room (locate_pipe undisturbed.1 1).1)

/-- The solution's process gets to open the named pipe. -/
theorem reaches_solutionOpens : ReachesSteadily pipeContest programs 1 pipes pipeOpening solutionOpens := by
  -- Before the path is looked at, and after the pipe is held, all is played out.
  have early : ∀ past ∈ (List.replicate 9 1).inits, Undisturbed (pipeOpening.play programs 1 past) := by
    decide +kernel
  have late : ∀ past ∈ (List.replicate 6 1 ++ List.replicate 2 2).inits,
      Undisturbed (pipeHeld.play programs 1 past) := by
    decide +kernel
  -- Two answers hang on where the path leads, so that these two steps are taken apart from those that are played.
  have asked : ReachesSteadily pipeContest programs 1 pipes pipeOpening pipeAsked :=
    .of_play fun past listed => (early past listed).steady
  have found : ReachesSteadily pipeContest programs 1 pipes pipeAsked (pipeAsked.find 1 (.node 2)) :=
    steadily_find (by decide +kernel) (by decide +kernel) (by decide +kernel) (by decide +kernel)
  have held : ReachesSteadily pipeContest programs 1 pipes (pipeAsked.find 1 (.node 2)) pipeHeld :=
    steadily_find (by decide +kernel) (by decide +kernel) (by decide +kernel) (by decide +kernel)
  have opens : ReachesSteadily pipeContest programs 1 pipes pipeHeld solutionOpens :=
    .of_play fun past listed => (late past listed).steady
  exact asked.trans (found.trans (held.trans opens))

end Sample

/-- A program that is about to open a named pipe that nobody writes to: before the umpire held the pipe, whoever
opened it for reading would have had to wait. -/
theorem launching_over_pipe_never_waits :
    Contest.load Sample.pipeTokens = .ok Sample.pipeContest ∧
      Ready 1 Sample.pipeHost (fun _ => none) ∧
      ReachesSteadily Sample.pipeContest Sample.programs 1 Sample.pipes Sample.pipeOpening Sample.solutionOpens ∧
      Sample.solutionOpens.births = [(2, 1)] ∧
      [1, 2].map (fun who => (Sample.solutionOpens.kernel.station? who).map fun known => (known.live, known.start)) =
        [some (true, .running), some (true, .preparing)] ∧
      Sample.solutionOpens.wanted? 2 = some (.openFile Sample.pipe Host.Access.reading false) ∧
      Sample.pipeHost.mustWait 0 Host.Access.reading = true ∧
      Unhindered Sample.pipeContest 1 Sample.solutionOpens ∧ Released 1 1 Sample.solutionOpens := by
  have loaded : Contest.load Sample.pipeTokens = .ok Sample.pipeContest := rfl
  -- The pipe is on the host besides all that the other sample has.
  have ready : Ready 1 Sample.pipeHost fun _ => none :=
    ⟨⟨Sample.ready.sound.processes, Sample.ready.sound.stations⟩, Sample.ready.others, Sample.ready.umpire⟩
  -- Along this course nobody has sent a signal or changed a path.
  have steady : Sample.Undisturbed Sample.solutionOpens := by decide +kernel
  exact ⟨loaded, ready, Sample.reaches_solutionOpens, by decide +kernel, by decide +kernel, by decide +kernel,
    by decide +kernel, launching_never_waits loaded ready Sample.reaches_solutionOpens steady.steady⟩

end Umpire.Bout
