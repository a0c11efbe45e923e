import Umpire.Bout.Redirection
import Umpire.Proofs.Contest
import Umpire.Proofs.Options.Settings

/-! Which contests are loaded: those that keep a few rules, and of these every one. -/

namespace Umpire.Contest

open CommandLine Options

/-- The rules that a contest keeps whatever command line sets it up. -/
structure Loadable (contest : Contest) : Prop where
  /-- The solution has a program. -/
  solution_words : contest.contestants.solution.words ≠ []
  /-- Its words end where the first mark between the sides stands. -/
  solution_unmarked : sidesMark ∉ contest.contestants.solution.words
  /-- The interactor has a program. -/
  interactor_words : contest.contestants.interactor.words ≠ []
  /-- The interactor reads from what the solution writes to. -/
  interactor_reads : contest.contestants.interactor.stdin = contest.contestants.solution.stdout
  /-- The interactor writes to what the solution reads from. -/
  interactor_writes : contest.contestants.interactor.stdout = contest.contestants.solution.stdin
  /-- A file that is given has a name. -/
  named : ∀ side stream path, (contest.contestant side).file? stream = some path → path ≠ []

/-- The settings that a contest comes of. -/
def settings (contest : Contest) : Settings where
  input := contest.contestants.solution.stdin
  output := contest.contestants.solution.stdout
  solutionStderr := contest.contestants.solution.stderr
  interactorStderr := contest.contestants.interactor.stderr
  verbose := contest.verbose
  level := contest.level

/-- The option that gives a side's stream its file. -/
def option : Side → Stream → FileOption
  | .solution, .stdin | .interactor, .stdout => .input
  | .solution, .stdout | .interactor, .stdin => .output
  | .solution, .stderr => .solutionStderr
  | .interactor, .stderr => .interactorStderr

/-- Each stream of a contest gets the file of its option. -/
theorem file?_ofParts (settings : Settings) (solution interactor : List Bytes) (side : Side)
    (stream : Stream) :
    ((ofParts settings solution interactor).contestant side).file? stream =
      settings.file? (option side stream) := by
  cases side <;> cases stream <;> rfl

/-- Settings that name no file by nothing and words for both sides make a contest that keeps the
rules. -/
theorem loadable_ofParts {settings : Settings} (named : settings.Named)
    {solution interactor : List Bytes} (some_solution : solution ≠ [])
    (before : sidesMark ∉ solution) (some_interactor : interactor ≠ []) :
    Loadable (ofParts settings solution interactor) where
  solution_words := some_solution
  solution_unmarked := before
  interactor_words := some_interactor
  interactor_reads := rfl
  interactor_writes := rfl
  -- Each file of either side is that of one option.
  named side stream path given :=
    named (option side stream) path ((file?_ofParts settings solution interactor side stream).symm.trans given)

/-- A contest that is loaded keeps the rules. -/
theorem loadable_of_load {tokens : List Bytes} {contest : Contest}
    (loaded : load tokens = .ok contest) : Loadable contest := by
  have come := (load_iff tokens _).mp loaded
  generalize tokens.tail = words at come
  -- Of the ways that loading can come out only one is a contest.
  cases come with
  | contest first read some_solution before some_interactor =>
    have formed := (scan_ok_iff.mp read).1
    exact loadable_ofParts (Settings.named_ofGroups formed) some_solution before some_interactor

namespace Loadable

variable {contest : Contest} (loadable : Loadable contest)

include loadable

/-- A contest that keeps the rules is made of its settings and its words. -/
theorem eq_ofParts :
    contest = ofParts contest.settings contest.contestants.solution.words
      contest.contestants.interactor.words := by
  have reads := loadable.interactor_reads
  have writes := loadable.interactor_writes
  rcases contest with ⟨⟨solution, interactor⟩, verbose, level⟩
  rcases interactor with ⟨words, stdin, stdout, stderr⟩
  -- The interactor's two files are the solution's, crosswise.
  dsimp only at reads writes
  subst reads writes
  rfl

/-- The settings of a contest that keeps the rules name no file by nothing. -/
theorem settings_named : contest.settings.Named := by
  intro option path given
  -- The shared files are seen at the solution as well as at the interactor.
  cases option with
  | input => exact loadable.named .solution .stdin path given
  | output => exact loadable.named .solution .stdout path given
  | solutionStderr => exact loadable.named .solution .stderr path given
  | interactorStderr => exact loadable.named .interactor .stderr path given

/-- A contest that keeps the rules is loaded from the tokens that spell its settings and its words. -/
theorem load_tokens (name : Bytes) :
    load (name :: (contest.settings.groups.flatMap Group.tokens ++ optionsEnd ::
      (contest.contestants.solution.words ++
        sidesMark :: contest.contestants.interactor.words))) = .ok contest := by
  -- The groups of the settings are spelled and read back, and so are the words behind them.
  have read : scan (contest.settings.groups.flatMap Group.tokens) = .ok contest.settings.groups :=
    scan_ok_iff.mpr ⟨loadable.settings_named.groups, rfl⟩
  have come := Outcome.contest contest.settings.groups_plain read loadable.solution_words
    loadable.solution_unmarked loadable.interactor_words
  rw [Settings.ofGroups_groups, ← loadable.eq_ofParts] at come
  exact load_of_outcome come name

/-- Both sides' words begin with a program. -/
theorem words_eq (side : Side) :
    (contest.contestant side).words =
      (contest.contestant side).program :: (contest.contestant side).args := by
  -- A list that is not empty has a first word.
  have some_words : (contest.contestant side).words ≠ [] := by
    cases side with
    | solution => exact loadable.solution_words
    | interactor => exact loadable.interactor_words
  rcases words : (contest.contestant side).words with _ | ⟨program, args⟩
  · exact absurd words some_words
  · simp only [Contestant.program, Contestant.args, words, List.headD_cons, List.tail_cons]

end Loadable

/-- The contests that some command line sets up are those that keep the rules, no more and no fewer,
whatever bytes their words and files are made of; and both sides of each have a program to run. -/
theorem load_image (contest : Contest) :
    ((∃ tokens, load tokens = .ok contest) ↔ Loadable contest) ∧
      ∀ tokens, load tokens = .ok contest → ∀ side,
        (contest.contestant side).words =
          (contest.contestant side).program :: (contest.contestant side).args := by
  refine ⟨⟨?_, ?_⟩, ?_⟩
  · rintro ⟨tokens, loaded⟩
    exact loadable_of_load loaded
  · intro loadable
    -- The program's own name does not matter.
    exact ⟨_, loadable.load_tokens []⟩
  · intro tokens loaded side
    exact (loadable_of_load loaded).words_eq side

/-- Files that are named like marks and options, and one whose name is no text. -/
theorem load_image_of_awkward_files :
    let contest : Contest := ofParts
      { input := some (Bytes.ofString "--"), output := some (Bytes.ofString "=x")
        solutionStderr := some (Bytes.ofString "-h"), interactorStderr := some [0xff, 0]
        verbose := true, level := some .trace }
      [Bytes.ofString "--"] [Bytes.ofString "=", Bytes.ofString "="]
    (∃ tokens, load tokens = .ok contest) ∧
      ∀ side, (contest.contestant side).words =
        (contest.contestant side).program :: (contest.contestant side).args := by
  intro contest
  have loadable : Loadable contest := by
    -- Every file has a name, however odd it is.
    refine loadable_ofParts ?_ (by decide) (by decide) (by decide)
    intro option path given
    cases option <;> cases given <;> decide
  obtain ⟨tokens, loaded⟩ := (load_image contest).1.mpr loadable
  exact ⟨⟨tokens, loaded⟩, (load_image contest).2 tokens loaded⟩

end Umpire.Contest
