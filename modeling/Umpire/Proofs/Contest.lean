import Umpire.Contest
import Umpire.Proofs.CommandLine

/-! What comes of a whole command line, by where its two marks stand. -/

namespace Umpire.Contest

open CommandLine Options

/-- The contest that settings and the two sides' words make: what one side reads from, the other
writes to. -/
def ofParts (settings : Settings) (solution interactor : List Bytes) : Contest where
  contestants := {
    solution := ⟨solution, settings.input, settings.output, settings.solutionStderr⟩
    interactor := ⟨interactor, settings.output, settings.input, settings.interactorStderr⟩
  }
  verbose := settings.verbose
  level := settings.level

/-- What comes of the words behind the program's name. The faults come in the order in which the
command line is read: its options, the mark between the sides, then each side's words. -/
inductive Outcome : List Bytes → Except Fault Contest → Prop where
  /-- No end of the options, but a request among all the words. -/
  | request {words : List Bytes} {complaint : Complaint} (unended : optionsEnd ∉ words)
      (asked : scan words = .error complaint) (shown : complaint.isRequest = true) :
      Outcome words (.error (.usage complaint))
  /-- No end of the options, and no request either. -/
  | unended {words : List Bytes} (unended : optionsEnd ∉ words)
      (unasked : ∀ complaint, scan words = .error complaint → complaint.isRequest = false) :
      Outcome words (.error .missingSolutionDelimiter)
  /-- A complaint about the options, whatever follows them. -/
  | usage {options tail : List Bytes} {complaint : Complaint} (first : optionsEnd ∉ options)
      (refused : scan options = .error complaint) :
      Outcome (options ++ optionsEnd :: tail) (.error (.usage complaint))
  /-- No mark between the sides. -/
  | undivided {options tail : List Bytes} {groups : List Group} (first : optionsEnd ∉ options)
      (read : scan options = .ok groups) (unmarked : sidesMark ∉ tail) :
      Outcome (options ++ optionsEnd :: tail) (.error .missingInteractorDelimiter)
  /-- Nothing before the mark between the sides. -/
  | noSolution {options interactor : List Bytes} {groups : List Group}
      (first : optionsEnd ∉ options) (read : scan options = .ok groups) :
      Outcome (options ++ optionsEnd :: sidesMark :: interactor) (.error .noSolutionArgs)
  /-- Nothing behind the mark between the sides. -/
  | noInteractor {options solution : List Bytes} {groups : List Group}
      (first : optionsEnd ∉ options) (read : scan options = .ok groups)
      (some_solution : solution ≠ []) (before : sidesMark ∉ solution) :
      Outcome (options ++ optionsEnd :: (solution ++ [sidesMark])) (.error .noInteractorArgs)
  /-- Words on both sides of the first mark, which may hold further marks behind it. -/
  | contest {options solution interactor : List Bytes} {groups : List Group}
      (first : optionsEnd ∉ options) (read : scan options = .ok groups)
      (some_solution : solution ≠ []) (before : sidesMark ∉ solution)
      (some_interactor : interactor ≠ []) :
      Outcome (options ++ optionsEnd :: (solution ++ sidesMark :: interactor))
        (.ok (ofParts (Settings.ofGroups groups) solution interactor))

/-- The words at the first mark between the sides are those before it and those behind it, if there
are some of either. -/
theorem split_marked {solution : List Bytes} (before : sidesMark ∉ solution)
    (interactor : List Bytes) :
    split (solution ++ sidesMark :: interactor) =
      if solution = [] then .error .noSolutionArgs
      else if interactor = [] then .error .noInteractorArgs
      else .ok (solution, interactor) := by
  -- The mark that counts is the first, which stands behind the solution's words.
  simp only [split, Mark.takeWhile_marked before, Mark.dropWhile_marked before,
    List.isEmpty_iff]

/-- Words without a mark are not split. -/
theorem split_unmarked {command : List Bytes} (unmarked : sidesMark ∉ command) :
    split command = .error .missingInteractorDelimiter := by
  simp only [split, Mark.dropWhile_unmarked unmarked]

/-- What comes of words that end their options is judged by the options first. -/
theorem load_marked {options : List Bytes} (first : optionsEnd ∉ options) (name : Bytes)
    (tail : List Bytes) :
    load (name :: options ++ optionsEnd :: tail) =
      match scan options with
      | .error complaint => .error (.usage complaint)
      | .ok groups =>
        match split tail with
        | .error fault => .error fault
        | .ok (solution, interactor) =>
          .ok (ofParts (Settings.ofGroups groups) solution interactor) := by
  -- Faults in the options come before those in what follows.
  rw [load, parse_marked first]
  cases scan options <;> rfl

/-- What comes of words that do not end their options is a request or that they do not. -/
theorem load_unmarked {words : List Bytes} (unended : optionsEnd ∉ words) (name : Bytes) :
    load (name :: words) =
      match scan words with
      | .error complaint =>
        if complaint.isRequest then .error (.usage complaint) else .error .missingSolutionDelimiter
      | .ok _ => .error .missingSolutionDelimiter := by
  rw [load, parse_unmarked unended]
  -- Without the mark the words are only scanned for a request.
  cases scan words with
  | ok groups => rfl
  | error complaint => cases request : complaint.isRequest <;> simp [request]

/-- Whatever is loaded comes of the words. -/
theorem outcome_load (name : Bytes) (words : List Bytes) : Outcome words (load (name :: words)) := by
  -- Both marks are looked for as the command line does: their first places are what counts.
  by_cases ended : optionsEnd ∈ words
  · obtain ⟨options, tail, rfl, first⟩ := List.eq_append_cons_of_mem ended
    rw [← List.cons_append, load_marked first]
    cases read : scan options with
    | error complaint => exact .usage first read
    | ok groups =>
      by_cases divided : sidesMark ∈ tail
      · obtain ⟨solution, interactor, rfl, before⟩ := List.eq_append_cons_of_mem divided
        rw [split_marked before]
        by_cases missing : solution = []
        · subst missing
          exact .noSolution first read
        by_cases alone : interactor = []
        · subst alone
          simp only [if_neg missing, if_true]
          exact .noInteractor first read missing before
        · simp only [if_neg missing, if_neg alone]
          exact .contest first read missing before alone
      · rw [split_unmarked divided]
        exact .undivided first read divided
  · rw [load_unmarked ended]
    cases read : scan words with
    | ok groups => exact .unended ended (by simp [read])
    | error complaint =>
      cases request : complaint.isRequest with
      | true =>
        simp only [request, if_true]
        exact .request ended read request
      | false =>
        -- The complaint that stands is the only one there is.
        simp only [request, Bool.false_eq_true, if_false]
        refine .unended ended fun other same => ?_
        rw [read] at same
        cases same
        exact request

/-- What comes of the words is what is loaded. -/
theorem load_of_outcome {words : List Bytes} {outcome : Except Fault Contest}
    (come : Outcome words outcome) (name : Bytes) : load (name :: words) = outcome := by
  -- Each outcome says where the marks stand, which is what loading looks at.
  cases come with
  | request unended asked shown => simp [load_unmarked unended, asked, shown]
  | unended unended unasked =>
    rw [load_unmarked unended]
    cases read : scan words with
    | ok groups => rfl
    | error complaint => simp [unasked complaint read]
  | usage first refused => rw [← List.cons_append, load_marked first, refused]
  | undivided first read unmarked =>
    rw [← List.cons_append, load_marked first, read, split_unmarked unmarked]
  -- Nothing before the mark means that it is the first word.
  | @noSolution options interactor groups first read =>
    have cut : split (sidesMark :: interactor) = .error .noSolutionArgs :=
      split_marked List.not_mem_nil interactor
    rw [← List.cons_append, load_marked first, read]
    simp only [cut]
  | noInteractor first read some_solution before =>
    rw [← List.cons_append, load_marked first, read]
    simp [split_marked before, some_solution]
  | contest first read some_solution before some_interactor =>
    rw [← List.cons_append, load_marked first, read]
    simp [split_marked before, some_solution, some_interactor]

/-- A whole command line has exactly one outcome, told by the places of its two marks and by what
its options are; the program's own name and everything behind the first two hyphens play no part in
whether the options are taken. -/
theorem load_iff (tokens : List Bytes) (outcome : Except Fault Contest) :
    load tokens = outcome ↔ Outcome tokens.tail outcome := by
  -- The program's own name is dropped before anything is looked at.
  have nameless : load tokens = load ([] :: tokens.tail) := rfl
  rw [nameless]
  constructor
  · rintro rfl
    exact outcome_load [] tokens.tail
  · intro come
    exact load_of_outcome come []

/-- The program's name is no mark, and of several marks the first counts. -/
example :
    load (["--", "--", "a", "=", "=", "--"].map Bytes.ofString) =
      .ok (ofParts {} [Bytes.ofString "a"] [Bytes.ofString "=", Bytes.ofString "--"]) := by
  rfl

end Umpire.Contest
