import Umpire.CommandLine
import Umpire.Proofs.Options.Grammar

/-! Which settings options can make: each can be spelled, unless it names a file by nothing. -/

namespace Umpire.Options

namespace Settings

/-- The file that an option has named. -/
def file? (settings : Settings) : FileOption → Option Bytes
  | .input => settings.input
  | .output => settings.output
  | .solutionStderr => settings.solutionStderr
  | .interactorStderr => settings.interactorStderr

/-- No file is named by nothing. -/
def Named (settings : Settings) : Prop :=
  ∀ option path, settings.file? option = some path → path ≠ []

/-- An option's file is the one it was last given, and no other option's. -/
theorem file?_setFile (settings : Settings) (option other : FileOption) (path : Bytes) :
    (settings.setFile option path).file? other =
      if other = option then some path else settings.file? other := by
  cases option <;> cases other <;> rfl

/-- Flags in an option's token name no file. -/
theorem file?_apply_file (settings : Settings) (flags : Nat) (option other : FileOption)
    (form : ValueForm) (value : Bytes) :
    (settings.apply (.file flags option form value)).file? other =
      if other = option then some value else settings.file? other := by
  -- Whether the token holds flags decides only whether the bout is told of at length.
  by_cases bare : flags = 0
  · simp only [apply, bare, if_true, file?_setFile]
  · simp only [apply, bare, if_false, file?_setFile]
    cases other <;> rfl

/-- One more group that reads back names no file by nothing. -/
theorem Named.apply {settings : Settings} (named : settings.Named) {group : Group}
    (formed : group.WellFormed) : (settings.apply group).Named := by
  intro other path given
  cases group with
  | verbose more => exact named other path (by cases other <;> exact given)
  | level separate chosen => exact named other path (by cases other <;> exact given)
  | file flags option form value =>
    -- The group names one file, and not by nothing, since it reads back.
    rw [file?_apply_file] at given
    by_cases same : other = option
    · rw [if_pos same] at given
      cases given
      cases form with
      | attached => exact formed.1
      | equals => exact formed
      | separate => exact formed
    · rw [if_neg same] at given
      exact named other path given

/-- Groups that read back name no file by nothing. -/
theorem named_ofGroups {groups : List Group} (formed : ∀ group ∈ groups, group.WellFormed) :
    (ofGroups groups).Named := by
  -- From settings that name no file, group by group.
  suffices kept : ∀ settings : Settings, settings.Named → (groups.foldl apply settings).Named by
    exact kept {} fun option path given => by cases option <;> cases given
  induction groups with
  | nil => exact fun settings named => named
  | cons group rest ih =>
    intro settings named
    have later := ih fun other member => formed other (List.mem_cons_of_mem group member)
    exact later _ (named.apply (formed group List.mem_cons_self))

/-- Groups that spell settings: every file stands behind an equals sign, which shields it from being
read as anything else. -/
def groups (settings : Settings) : List Group :=
  ([.input, .output, .solutionStderr, .interactorStderr].filterMap fun option =>
    (settings.file? option).map (Group.file 0 option .equals)) ++
  (if settings.verbose then [.verbose 0] else []) ++
  settings.level.toList.map (.level false)

/-- The groups that spell settings make those settings. -/
theorem ofGroups_groups (settings : Settings) : ofGroups settings.groups = settings := by
  -- Every setting is there or not, and each group sets its own and no other.
  rcases settings with ⟨_ | input, _ | output, _ | solution, _ | interactor, _ | _, _ | level⟩ <;> rfl

/-- A group that spells settings sets one file, the flag, or the level. -/
theorem mem_groups {settings : Settings} {group : Group} (member : group ∈ settings.groups) :
    (∃ option path, settings.file? option = some path ∧ group = .file 0 option .equals path) ∨
      group = .verbose 0 ∨ ∃ level, group = .level false level := by
  -- The groups are those of the files, that of the flag and that of the level.
  simp only [groups, List.mem_append, List.mem_filterMap, List.mem_map] at member
  rcases member with (⟨option, _, chosen⟩ | flag) | ⟨level, _, rfl⟩
  · obtain ⟨path, given, rfl⟩ := Option.map_eq_some_iff.mp chosen
    exact .inl ⟨option, path, given, rfl⟩
  · split at flag
    · exact .inr (.inl (List.mem_singleton.mp flag))
    · cases flag
  · exact .inr (.inr ⟨level, rfl⟩)

/-- The groups that spell settings read back if no file is named by nothing. -/
theorem Named.groups {settings : Settings} (named : settings.Named) :
    ∀ group ∈ settings.groups, group.WellFormed := by
  intro group member
  rcases mem_groups member with ⟨option, path, given, rfl⟩ | rfl | ⟨level, rfl⟩
  · exact named option path given
  · trivial
  · trivial

/-- No token that spells settings ends the options, whatever files are named. -/
theorem groups_plain (settings : Settings) :
    CommandLine.optionsEnd ∉ settings.groups.flatMap Group.tokens := by
  intro ending
  obtain ⟨group, member, token⟩ := List.mem_flatMap.mp ending
  rcases mem_groups member with ⟨option, path, -, rfl⟩ | rfl | ⟨level, rfl⟩
  · -- The second byte is the option's letter, and no letter is a hyphen.
    have same := List.mem_singleton.mp token
    have second := congrArg (·[1]?) same
    cases option <;> exact absurd second (by simp [cluster]; decide)
  · revert token
    decide
  · revert token
    cases level <;> decide

end Settings

end Umpire.Options
