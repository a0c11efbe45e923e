import Umpire.Proofs.Contest
import Umpire.Proofs.Options.Repetition
import Umpire.Proofs.Text.Utf8
import Umpire.Rehearsal.Invocation

/-! A command line put together call by call sets up the contest that the calls describe: of each kind of call the last
one counts, whatever the files are named. -/

namespace Umpire.Rehearsal

open CommandLine Contest Options

namespace Addition

/-- The group of options that a call adds. -/
def group? : Addition → Option Group
  | .file option path => some (.file 0 option .separate path)
  | .verbose => some (.verbose 0)
  | .flag _ | .solution _ | .interactor _ => none

/-- The path that a call gives an option. -/
def path? (option : FileOption) : Addition → Option Bytes
  | .file named path => if named = option then some path else none
  | .verbose | .flag _ | .solution _ | .interactor _ => none

/-- The words that a call gives the solution. -/
def solution? : Addition → Option (List Bytes)
  | .solution words => some words
  | .file _ _ | .verbose | .flag _ | .interactor _ => none

/-- The words that a call gives the interactor. -/
def interactor? : Addition → Option (List Bytes)
  | .interactor words => some words
  | .file _ _ | .verbose | .flag _ | .solution _ => none

end Addition

/-- The path that the last call for an option gives it; none without such a call. -/
def lastPath (option : FileOption) (additions : List Addition) : Option Bytes :=
  (additions.filterMap (Addition.path? option)).getLast?

/-- The groups of options that calls add. -/
def groups (additions : List Addition) : List Group :=
  additions.filterMap Addition.group?

/-- Calls that add no token of their own and name files by texts that are neither empty nor the end of
the options. -/
structure Nameable (additions : List Addition) : Prop where
  flag : ∀ token, .flag token ∉ additions
  text : ∀ option path, .file option path ∈ additions → path.toByteArray.IsValidUTF8
  named : ∀ option path, .file option path ∈ additions → path ≠ []
  unended : ∀ option path, .file option path ∈ additions → path ≠ optionsEnd

/-- The calls after the first are of the same kind. -/
theorem Nameable.tail {addition : Addition} {rest : List Addition}
    (nameable : Nameable (addition :: rest)) : Nameable rest where
  flag token member := nameable.flag token (List.mem_cons_of_mem _ member)
  text option path member := nameable.text option path (List.mem_cons_of_mem _ member)
  named option path member := nameable.named option path (List.mem_cons_of_mem _ member)
  unended option path member := nameable.unended option path (List.mem_cons_of_mem _ member)

namespace Invocation

/-- A call that adds a group adds the tokens that spell it. -/
theorem flags_add {addition : Addition} {rest : List Addition}
    (nameable : Nameable (addition :: rest)) (invocation : Invocation) :
    (invocation.add addition).flags =
      invocation.flags ++ (groups [addition]).flatMap Group.tokens := by
  cases addition with
  | file option path =>
    -- The name is written as the group's first token, and a text is written as it is.
    have name : Bytes.ofChars ['-', option.letter] = cluster 0 ++ [Bytes.ascii option.letter] := by
      cases option <;> rfl
    have kept := Utf8.ofChars_lossy (nameable.text option path List.mem_cons_self)
    simp [add, groups, Addition.group?, Group.tokens, name, kept]
  | verbose => rfl
  | flag token => exact absurd List.mem_cons_self (nameable.flag token)
  | solution words => simp [add, groups, Addition.group?]
  | interactor words => simp [add, groups, Addition.group?]

/-- The tokens of an invocation spell the groups that its calls add. -/
theorem flags_foldl {additions : List Addition} (nameable : Nameable additions)
    (invocation : Invocation) :
    (additions.foldl add invocation).flags =
      invocation.flags ++ (groups additions).flatMap Group.tokens := by
  induction additions generalizing invocation with
  | nil => simp [groups]
  | cons addition rest ih =>
    -- The first call adds its group before those of the others.
    have split : groups (addition :: rest) = groups [addition] ++ groups rest := by
      simp only [groups, ← List.filterMap_append, List.singleton_append]
    rw [List.foldl_cons, ih nameable.tail, flags_add nameable, split, List.flatMap_append,
      List.append_assoc]

/-- The solution's words of an invocation are those last set. -/
theorem solution_ofAdditions {additions : List Addition} {words : List Bytes}
    (last : (additions.filterMap Addition.solution?).getLast? = some words) :
    (ofAdditions additions).solution = words := by
  -- Each call leaves the words alone or replaces all of them.
  have kept := foldl_replacing add (some ·.solution) Addition.solution?
    (fun invocation addition => by cases addition <;> rfl) additions {}
  rw [last, Option.some_or] at kept
  exact Option.some.inj kept

/-- The interactor's words of an invocation are those last set. -/
theorem interactor_ofAdditions {additions : List Addition} {words : List Bytes}
    (last : (additions.filterMap Addition.interactor?).getLast? = some words) :
    (ofAdditions additions).interactor = words := by
  -- As for the solution's words.
  have kept := foldl_replacing add (some ·.interactor) Addition.interactor?
    (fun invocation addition => by cases addition <;> rfl) additions {}
  rw [last, Option.some_or] at kept
  exact Option.some.inj kept

end Invocation

/-- A group that calls add is a call's. -/
theorem mem_groups {additions : List Addition} {group : Group} (member : group ∈ groups additions) :
    (∃ option path, .file option path ∈ additions ∧ group = .file 0 option .separate path) ∨
      .verbose ∈ additions ∧ group = .verbose 0 := by
  -- Only calls for files and for the journal add one.
  obtain ⟨addition, called, adds⟩ := List.mem_filterMap.mp member
  cases addition with
  | file option path =>
    obtain rfl := Option.some.inj adds
    exact .inl ⟨option, path, called, rfl⟩
  | verbose =>
    obtain rfl := Option.some.inj adds
    exact .inr ⟨called, rfl⟩
  | _ => cases adds

namespace Nameable

variable {additions : List Addition} (nameable : Nameable additions)

include nameable

/-- The groups that the calls add read back. -/
theorem formed : ∀ group ∈ groups additions, group.WellFormed := by
  intro group member
  -- A group of a file reads back as its path is not empty, and the other always does.
  rcases mem_groups member with ⟨option, path, called, rfl⟩ | ⟨-, rfl⟩
  · exact nameable.named option path called
  · trivial

/-- None of their tokens ends the options. -/
theorem plain : optionsEnd ∉ (groups additions).flatMap Group.tokens := by
  intro ending
  obtain ⟨group, member, token⟩ := List.mem_flatMap.mp ending
  rcases mem_groups member with ⟨option, path, called, rfl⟩ | ⟨-, rfl⟩
  · -- The option's name ends in its letter, and the path is not the end by assumption.
    rcases List.mem_cons.mp token with name | value
    · cases option <;> exact absurd name (by decide)
    · exact nameable.unended option path called (List.mem_singleton.mp value).symm
  · -- The other group is one fixed token.
    revert token
    decide

end Nameable

/-- The settings that the calls' groups make are what the last call of each kind says. -/
theorem ofGroups_groups (additions : List Addition) :
    Settings.ofGroups (groups additions) =
      { input := lastPath .input additions, output := lastPath .output additions
        solutionStderr := lastPath .solutionStderr additions
        interactorStderr := lastPath .interactorStderr additions
        verbose := decide (.verbose ∈ additions) } := by
  have follows := Settings.follows_ofGroups (groups additions)
  refine Settings.eq_of_file? (fun option => ?_) ?_ ?_
  · -- A call gives an option the path that its group gives it.
    have same : lastFile option (groups additions) = lastPath option additions := by
      rw [lastFile, lastPath, groups, List.filterMap_filterMap]
      congr 2
      funext addition
      cases addition <;> rfl
    rw [follows.file, same]
    cases option <;> rfl
  · rw [Bool.eq_iff_iff, follows.flag, decide_eq_true_eq]
    constructor
    · rintro ⟨group, member, flagged⟩
      rcases mem_groups member with ⟨option, path, -, rfl⟩ | ⟨called, -⟩
      · simp [Group.isFlagged] at flagged
      · exact called
    · intro called
      exact ⟨.verbose 0, List.mem_filterMap.mpr ⟨.verbose, called, rfl⟩, rfl⟩
  · -- No call chooses a level.
    have none_chosen : (groups additions).filterMap Group.level? = [] := by
      rw [List.filterMap_eq_nil_iff]
      intro group member
      rcases mem_groups member with ⟨option, path, -, rfl⟩ | ⟨-, rfl⟩ <;> rfl
    rw [follows.level, lastLevel, none_chosen]
    rfl

/-- Whatever calls put an invocation together, in any order and however often, its tokens set up the
contest of the last call of each kind: both sides' words, each option's file, the two shared files
crosswise for the interactor, and the journal if it was asked for at all. -/
theorem load_of_calls {additions : List Addition} (nameable : Nameable additions)
    {solution interactor : List Bytes}
    (last_solution : (additions.filterMap Addition.solution?).getLast? = some solution)
    (some_solution : solution ≠ []) (unmarked : sidesMark ∉ solution)
    (last_interactor : (additions.filterMap Addition.interactor?).getLast? = some interactor)
    (some_interactor : interactor ≠ []) :
    load (Invocation.ofAdditions additions).tokens = .ok {
      contestants := {
        solution := ⟨solution, lastPath .input additions, lastPath .output additions,
          lastPath .solutionStderr additions⟩
        interactor := ⟨interactor, lastPath .output additions, lastPath .input additions,
          lastPath .interactorStderr additions⟩
      }
      verbose := decide (.verbose ∈ additions)
      level := none
    } := by
  -- The tokens before the words spell groups, and so are read as these.
  have flags : (Invocation.ofAdditions additions).flags = (groups additions).flatMap Group.tokens :=
    Invocation.flags_foldl nameable {}
  have read : scan ((groups additions).flatMap Group.tokens) = .ok (groups additions) :=
    scan_ok_iff.mpr ⟨nameable.formed, rfl⟩
  have come := Outcome.contest nameable.plain read some_solution unmarked some_interactor
  have loaded := load_of_outcome come (Bytes.ofString "pipe")
  -- What the groups set is what the last calls say.
  rw [ofGroups_groups] at loaded
  rw [Invocation.tokens, Invocation.args, flags, Invocation.solution_ofAdditions last_solution,
    Invocation.interactor_ofAdditions last_interactor, List.append_assoc]
  exact loaded

/-- Files named like options, words that hold the end of the options and the mark between the sides,
and calls made twice. -/
def awkwardCalls : List Addition :=
  [.solution [Bytes.ofString "="], .file .input (Bytes.ofString "old"),
    .file .output (Bytes.ofString "=x"), .interactor [Bytes.ofString "=", Bytes.ofString "--"],
    .file .solutionStderr (Bytes.ofString "a__FD__"), .verbose,
    .file .input (Bytes.ofString "--help"), .solution [Bytes.ofString "--", Bytes.ofString "-h"]]

/-- The awkward calls set up the contest that they describe. -/
theorem load_of_awkward_calls :
    Nameable awkwardCalls ∧
      load (Invocation.ofAdditions awkwardCalls).tokens = .ok {
        contestants := {
          solution := ⟨[Bytes.ofString "--", Bytes.ofString "-h"], some (Bytes.ofString "--help"),
            some (Bytes.ofString "=x"), some (Bytes.ofString "a__FD__")⟩
          interactor := ⟨[Bytes.ofString "=", Bytes.ofString "--"], some (Bytes.ofString "=x"),
            some (Bytes.ofString "--help"), none⟩
        }
        verbose := true
        level := none
      } := by
  -- Every path is a text, and neither empty nor the end of the options.
  have paths {option : FileOption} {path : Bytes} (called : .file option path ∈ awkwardCalls) :
      ∃ text, path = Bytes.ofString text ∧ path ≠ [] ∧ path ≠ optionsEnd := by
    simp only [awkwardCalls, List.mem_cons, Addition.file.injEq, reduceCtorEq, List.not_mem_nil,
      false_or, or_false] at called
    rcases called with ⟨-, rfl⟩ | ⟨-, rfl⟩ | ⟨-, rfl⟩ | ⟨-, rfl⟩ <;>
      exact ⟨_, rfl, by decide, by decide⟩
  have nameable : Nameable awkwardCalls :=
    { flag := by simp [awkwardCalls]
      text := by
        intro option path called
        obtain ⟨text, rfl, -⟩ := paths called
        exact .intro text.toList rfl
      named := fun option path called => (paths called).choose_spec.2.1
      unended := fun option path called => (paths called).choose_spec.2.2 }
  exact ⟨nameable, load_of_calls nameable rfl (by decide) (by decide) rfl (by decide)⟩

end Umpire.Rehearsal
