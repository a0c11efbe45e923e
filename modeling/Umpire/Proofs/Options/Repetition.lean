import Umpire.Proofs.CommandLine
import Umpire.Proofs.Options.Settings

/-! Repeated options: each option has the value that its last group gives it, whatever groups of other options stand
around that one. -/

namespace Umpire.Options

namespace Group

/-- The file that a group gives an option. -/
def file? (option : FileOption) : Group → Option Bytes
  | .file _ named _ value => if named = option then some value else none
  | .verbose _ | .level _ _ => none

/-- The level that a group chooses. -/
def level? : Group → Option Level
  | .level _ chosen => some chosen
  | .verbose _ | .file _ _ _ _ => none

/-- Whether a flag `v` stands in a group, alone or before the letter of a file option. -/
def isFlagged : Group → Bool
  | .verbose _ => true
  | .file flags _ _ _ => flags != 0
  | .level _ _ => false

end Group

/-- The file that the last of an option's groups gives it; none without such a group. -/
def lastFile (option : FileOption) (groups : List Group) : Option Bytes :=
  (groups.filterMap (Group.file? option)).getLast?

/-- The level that the last group to choose one chooses; none without such a group. -/
def lastLevel (groups : List Group) : Option Level :=
  (groups.filterMap Group.level?).getLast?

/-- Two lists of groups give every option the same last value, and both hold a flag or neither does. -/
structure Agree (groups others : List Group) : Prop where
  file : ∀ option, lastFile option groups = lastFile option others
  flag : (∃ group ∈ groups, group.isFlagged = true) ↔ ∃ group ∈ others, group.isFlagged = true
  level : lastLevel groups = lastLevel others

/-- The same groups in another order, in which the values that one option is given keep theirs. -/
structure Rearranged (groups others : List Group) : Prop where
  perm : groups.Perm others
  file : ∀ option, groups.filterMap (Group.file? option) = others.filterMap (Group.file? option)
  level : groups.filterMap Group.level? = others.filterMap Group.level?

/-- Groups in another order agree with what they were. -/
theorem Rearranged.agree {groups others : List Group} (rearranged : Rearranged groups others) :
    Agree groups others where
  file option := congrArg List.getLast? (rearranged.file option)
  -- A flag anywhere counts, so it does not matter where the groups stand.
  flag := by
    constructor
    · rintro ⟨group, member, flagged⟩
      exact ⟨group, rearranged.perm.mem_iff.mp member, flagged⟩
    · rintro ⟨group, member, flagged⟩
      exact ⟨group, rearranged.perm.mem_iff.mpr member, flagged⟩
  level := congrArg List.getLast? rearranged.level

/-- What every step of a fold either replaces or leaves is in the end what the last step to replace it gives. -/
theorem foldl_replacing {σ β α : Type} (step : σ → β → σ) (part : σ → Option α) (given : β → Option α)
    (replaced : ∀ state item, part (step state item) = (given item).or (part state))
    (items : List β) (state : σ) :
    part (items.foldl step state) = (items.filterMap given).getLast?.or (part state) := by
  -- A later step overrides whatever the state is when it comes.
  induction items generalizing state with
  | nil => rfl
  | cons item rest ih =>
    rw [List.foldl_cons, ih, replaced]
    cases gives : given item with
    | none => simp [gives]
    | some value =>
      cases later : (rest.filterMap given).getLast? <;>
        simp [gives, List.getLast?_cons, later]

namespace Settings

/-- Settings in which every option has the value that its last group gives it. -/
structure Follows (settings : Settings) (groups : List Group) : Prop where
  file : ∀ option, settings.file? option = lastFile option groups
  flag : settings.verbose = true ↔ ∃ group ∈ groups, group.isFlagged = true
  level : settings.level = lastLevel groups

/-- A group gives a file to its own option and leaves the files of all others. -/
theorem file?_apply (option : FileOption) (settings : Settings) (group : Group) :
    (settings.apply group).file? option = (group.file? option).or (settings.file? option) := by
  cases group with
  | file flags named form value =>
    rw [file?_apply_file, Group.file?]
    -- A file goes to one option; with any other group the files stay.
    by_cases same : named = option
    · simp [same]
    · simp [same, Ne.symm same]
  | _ => cases option <;> rfl

/-- A file leaves the flag as it is. -/
@[simp] theorem verbose_setFile (settings : Settings) (option : FileOption) (path : Bytes) :
    (settings.setFile option path).verbose = settings.verbose := by
  cases option <;> rfl

/-- A file leaves the level as it is. -/
@[simp] theorem level_setFile (settings : Settings) (option : FileOption) (path : Bytes) :
    (settings.setFile option path).level = settings.level := by
  cases option <;> rfl

/-- A group replaces the level if it chooses one. -/
theorem level_apply (settings : Settings) (group : Group) :
    (settings.apply group).level = group.level?.or settings.level := by
  cases group with
  | file flags named form value =>
    -- Flags in the token do not touch the level either.
    by_cases bare : flags = 0 <;> simp [apply, bare, Group.level?]
  | _ => rfl

/-- A flag once met stays. -/
theorem verbose_apply (settings : Settings) (group : Group) :
    (settings.apply group).verbose = (settings.verbose || group.isFlagged) := by
  cases group with
  | verbose more => simp [apply, Group.isFlagged]
  | file flags named form value =>
    -- A file's token counts if flags stand before its letter.
    by_cases bare : flags = 0 <;> simp [apply, bare, Group.isFlagged]
  | level separate chosen => simp [apply, Group.isFlagged]

/-- After some groups the flag is set if it was before or stands in one of them. -/
theorem verbose_foldl (groups : List Group) (settings : Settings) :
    (groups.foldl apply settings).verbose = (settings.verbose || groups.any Group.isFlagged) := by
  -- Once set the flag stays.
  induction groups generalizing settings with
  | nil => simp
  | cons group rest ih => rw [List.foldl_cons, ih, verbose_apply, List.any_cons, Bool.or_assoc]

/-- The settings that groups make have the last value of every option. -/
theorem follows_ofGroups (groups : List Group) : (ofGroups groups).Follows groups where
  file option := by
    -- What a fold of replacing steps leaves is the last replacement, here over no file.
    have last := foldl_replacing apply (·.file? option) (Group.file? option) (file?_apply option) groups {}
    have unset : ({} : Settings).file? option = none := by cases option <;> rfl
    rwa [unset, Option.or_none] at last
  flag := by simp [ofGroups, verbose_foldl]
  level := by
    have last := foldl_replacing apply (·.level) Group.level? level_apply groups {}
    rwa [Option.or_none] at last

/-- Settings are known from their files, the flag and the level. -/
theorem eq_of_file? {settings others : Settings}
    (file : ∀ option, settings.file? option = others.file? option)
    (flag : settings.verbose = others.verbose) (level : settings.level = others.level) :
    settings = others := by
  -- There are four files besides the flag and the level.
  have input := file .input
  have output := file .output
  have solutionStderr := file .solutionStderr
  have interactorStderr := file .interactorStderr
  cases settings
  cases others
  simp_all [file?]

/-- Groups that agree make the same settings. -/
theorem ofGroups_eq_of_agree {groups others : List Group} (agree : Agree groups others) :
    ofGroups groups = ofGroups others := by
  have first := follows_ofGroups groups
  have second := follows_ofGroups others
  -- Both follow their groups, which agree on all that is followed.
  refine eq_of_file? (fun option => ?_) ?_ ?_
  · rw [first.file, second.file, agree.file]
  · rw [Bool.eq_iff_iff, first.flag, second.flag, agree.flag]
  · rw [first.level, second.level, agree.level]

end Settings

/-- Groups in another order are spelled by their own tokens. -/
theorem Spells.rearranged {groups others : List Group} {tokens : List Bytes}
    (spelled : Spells groups tokens) (rearranged : Rearranged groups others) :
    Spells others (others.flatMap Group.tokens) := by
  refine ⟨fun group member => ?_, rfl⟩
  exact spelled.1 group (rearranged.perm.mem_iff.mpr member)

/-- Every token that spells groups in another order is one that spelled them before. -/
theorem Spells.mem_of_rearranged {groups others : List Group} {tokens : List Bytes}
    (spelled : Spells groups tokens) (rearranged : Rearranged groups others) {token : Bytes}
    (member : token ∈ others.flatMap Group.tokens) : token ∈ tokens := by
  -- The token is one of some group's, which is among the groups before.
  obtain ⟨group, also, spells⟩ := List.mem_flatMap.mp member
  rw [spelled.2]
  exact List.mem_flatMap.mpr ⟨group, rearranged.perm.mem_iff.mpr also, spells⟩

end Umpire.Options

namespace Umpire.CommandLine

open Options

/-- Options that groups spell are read as what those groups set. -/
theorem parse_of_spells {options : List Bytes} {groups : List Group} (plain : optionsEnd ∉ options)
    (spelled : Spells groups options) (name : Bytes) (tail : List Bytes) :
    parse (name :: options ++ optionsEnd :: tail) = .ok ⟨Settings.ofGroups groups, some tail⟩ := by
  rw [parse_marked plain, scan_ok_iff.mpr spelled]

/-- A command line that is read ends its options, which groups spell, and says what those set. -/
theorem spells_of_parse {tokens : List Bytes} {line : CommandLine} (read : parse tokens = .ok line) :
    ∃ options groups tail, tokens.tail = options ++ optionsEnd :: tail ∧ optionsEnd ∉ options ∧
      Spells groups options ∧ line = ⟨Settings.ofGroups groups, some tail⟩ := by
  -- The program's own name is dropped before anything is looked at.
  have nameless : parse tokens = parse ([] :: tokens.tail) := rfl
  rw [nameless] at read
  by_cases ended : optionsEnd ∈ tokens.tail
  · obtain ⟨options, tail, whole, plain⟩ := List.eq_append_cons_of_mem ended
    rw [whole, ← List.cons_append, parse_marked plain] at read
    cases scanned : scan options with
    | error complaint => simp [scanned] at read
    | ok groups =>
      simp only [scanned, Except.ok.injEq] at read
      exact ⟨options, groups, tail, whole, plain, scan_ok_iff.mp scanned, read.symm⟩
  · -- Without an end of the options nothing is read.
    rw [parse_unmarked ended] at read
    cases scanned : scan tokens.tail with
    | ok groups => simp [scanned] at read
    | error complaint => cases request : complaint.isRequest <;> simp [scanned, request] at read

/-- The options of a command line that is read are one list of groups, of which the last of each
option gives it its value, and a flag anywhere in them counts. Any options whose groups agree in
these with it, groups of different options in another order among them, are read as the same for the
same words behind them. -/
theorem last_group_counts {tokens : List Bytes} {line : CommandLine}
    (read : parse tokens = .ok line) :
    ∃ options groups tail, tokens.tail = options ++ optionsEnd :: tail ∧ optionsEnd ∉ options ∧
      Spells groups options ∧ (∀ others, Spells others options → others = groups) ∧
      line.command = some tail ∧ line.settings.Follows groups ∧
      (∀ others also name, optionsEnd ∉ also → Spells others also → Agree groups others →
        parse (name :: also ++ optionsEnd :: tail) = .ok line) ∧
      ∀ others name, Rearranged groups others →
        parse (name :: others.flatMap Group.tokens ++ optionsEnd :: tail) = .ok line := by
  obtain ⟨options, groups, tail, whole, plain, spelled, rfl⟩ := spells_of_parse read
  -- Groups that agree make the same settings, and reading gives nothing but those and the tail.
  have agreeing (others : List Group) (also : List Bytes) (name : Bytes)
      (unended : optionsEnd ∉ also) (spells : Spells others also) (agree : Agree groups others) :
      parse (name :: also ++ optionsEnd :: tail) = .ok ⟨Settings.ofGroups groups, some tail⟩ := by
    rw [parse_of_spells unended spells, Settings.ofGroups_eq_of_agree agree]
  refine ⟨options, groups, tail, whole, plain, spelled, fun others also => also.unique spelled, rfl,
    Settings.follows_ofGroups groups, agreeing, fun others name rearranged => ?_⟩
  refine agreeing others _ name ?_ (spelled.rearranged rearranged) rearranged.agree
  -- No token ends the options, in whatever order they stand.
  exact fun ending => plain (spelled.mem_of_rearranged rearranged ending)

/-- Options of which some are given more than once, and some of whose files are named like options. -/
def repeating : List Group :=
  [.file 0 .input .separate (Bytes.ofString "-o"), .level false .error,
    .file 2 .output .separate (Bytes.ofString "x"), .file 0 .input .equals (Bytes.ofString "-i"),
    .level true .trace]

/-- The same with the level's groups first and the output's last. -/
def shuffled : List Group :=
  [.level false .error, .level true .trace, .file 0 .input .separate (Bytes.ofString "-o"),
    .file 0 .input .equals (Bytes.ofString "-i"), .file 2 .output .separate (Bytes.ofString "x")]

/-- Of `-i -o` and `-i=-i` the second counts, and neither names an output; the other order is read as
the same. -/
theorem last_group_counts_of_repeating :
    let name := Bytes.ofString "pipe"
    let tail := [Bytes.ofString "--"]
    let line : CommandLine := ⟨{ input := some (Bytes.ofString "-i")
                                 output := some (Bytes.ofString "x")
                                 verbose := true, level := some .trace }, some tail⟩
    parse (name :: repeating.flatMap Group.tokens ++ optionsEnd :: tail) = .ok line ∧
      line.settings.Follows repeating ∧ Rearranged repeating shuffled ∧
      parse (name :: shuffled.flatMap Group.tokens ++ optionsEnd :: tail) = .ok line := by
  intro name tail line
  have spelled : Spells repeating (repeating.flatMap Group.tokens) := ⟨by decide, rfl⟩
  have read : parse (name :: repeating.flatMap Group.tokens ++ optionsEnd :: tail) = .ok line :=
    parse_of_spells (by decide) spelled name tail
  -- The groups of each option come in the same order in both lists.
  have rearranged : Rearranged repeating shuffled :=
    ⟨by decide, by intro option; cases option <;> decide, by decide⟩
  obtain ⟨options, groups, after, whole, plain, spells, -, -, follows, -, others⟩ :=
    last_group_counts read
  -- The options of the command line are the ones put there, since none of their tokens ends them.
  obtain ⟨rfl, rfl⟩ := Mark.divided_unique (by decide) plain whole
  obtain rfl := spells.unique spelled
  exact ⟨read, follows, rearranged, others shuffled name rearranged⟩

end Umpire.CommandLine
