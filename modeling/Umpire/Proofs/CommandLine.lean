import Umpire.CommandLine
import Umpire.Proofs.Options.Scan
import Umpire.Text.Bytes

/-! Which command lines are read, whatever options they hold and whatever follows the first mark after those. -/

namespace Umpire.Mark

variable {mark : Bytes} {words : List Bytes}

/-- No word of a list without the mark stops the search. -/
theorem passed (absent : mark ∉ words) : ∀ word ∈ words, decide (word ≠ mark) = true := by
  intro word member
  -- The word is in the list, and the mark is not.
  have other : word ≠ mark := fun same => absent (same ▸ member)
  simpa using other

/-- What stands before the first mark. -/
theorem takeWhile_marked (absent : mark ∉ words) (after : List Bytes) :
    (words ++ mark :: after).takeWhile (· ≠ mark) = words := by
  rw [List.takeWhile_append_of_pos (passed absent)]
  simp

/-- The first mark, and what stands behind it. -/
theorem dropWhile_marked (absent : mark ∉ words) (after : List Bytes) :
    (words ++ mark :: after).dropWhile (· ≠ mark) = mark :: after := by
  rw [List.dropWhile_append_of_pos (passed absent)]
  simp

/-- Without a mark nothing is left of the search for it. -/
theorem dropWhile_unmarked (absent : mark ∉ words) : words.dropWhile (· ≠ mark) = [] := by
  -- The search passes all words, and there is nothing behind them.
  have whole : (words ++ []).dropWhile (· ≠ mark) = ([] : List Bytes).dropWhile (· ≠ mark) :=
    List.dropWhile_append_of_pos (passed absent)
  rwa [List.append_nil] at whole

/-- Words before the first mark and words behind it are told by the whole. -/
theorem divided_unique {others behind after : List Bytes} (absent : mark ∉ words)
    (also : mark ∉ others) (same : words ++ mark :: behind = others ++ mark :: after) :
    words = others ∧ behind = after := by
  -- Both searches, for what stands before the mark and for the mark itself, find the same in the same words.
  have front := congrArg (·.takeWhile (· ≠ mark)) same
  have back := congrArg (·.dropWhile (· ≠ mark)) same
  simp only [takeWhile_marked absent, takeWhile_marked also] at front
  simp only [dropWhile_marked absent, dropWhile_marked also] at back
  exact ⟨front, List.tail_eq_of_cons_eq back⟩

end Umpire.Mark

namespace Umpire.CommandLine

open Options

/-- With two hyphens the options before the first of them are judged alone, and what follows them
is kept as it is. -/
theorem parse_marked {options : List Bytes} (plain : optionsEnd ∉ options) (name : Bytes)
    (tail : List Bytes) :
    parse (name :: options ++ optionsEnd :: tail) =
      match scan options with
      | .error complaint => .error (.usage complaint)
      | .ok groups => .ok ⟨Settings.ofGroups groups, some tail⟩ := by
  -- The two parts are told apart by the first mark, wherever others stand.
  cases read : scan options <;>
    simp only [parse, List.cons_append, List.tail_cons, Mark.takeWhile_marked plain,
      Mark.dropWhile_marked plain, read]

/-- Without two hyphens only a request is honoured. -/
theorem parse_unmarked {words : List Bytes} (absent : optionsEnd ∉ words) (name : Bytes) :
    parse (name :: words) =
      match scan words with
      | .error complaint =>
        if complaint.isRequest then .error (.usage complaint) else .error .missingSolutionDelimiter
      | .ok _ => .error .missingSolutionDelimiter := by
  cases read : scan words <;>
    simp only [parse, List.tail_cons, Mark.dropWhile_unmarked absent, read]

/-- A command line with two hyphens is read exactly if groups spell its options, and then says what
those groups set. If its options ask for a text right after whole groups, that request is its
end. Everything else is a usage fault that is no request. -/
theorem parse_grammar {options : List Bytes} (plain : optionsEnd ∉ options) (name : Bytes)
    (tail : List Bytes) :
    (∀ line, parse (name :: options ++ optionsEnd :: tail) = .ok line ↔
      ∃ groups, Spells groups options ∧ line = ⟨Settings.ofGroups groups, some tail⟩) ∧
    (∀ complaint, Requests options complaint ↔ complaint.isRequest = true ∧
      parse (name :: options ++ optionsEnd :: tail) = .error (.usage complaint)) ∧
    ((∀ groups, ¬ Spells groups options) → (∀ complaint, ¬ Requests options complaint) →
      ∃ complaint, complaint.isRequest = false ∧
        parse (name :: options ++ optionsEnd :: tail) = .error (.usage complaint)) := by
  -- All three parts are read off what the scan of the options gives.
  rw [parse_marked plain]
  simp only [← scan_ok_iff, ← scan_request_iff]
  cases scan options with
  | ok groups =>
    refine ⟨?_, by simp, by simp⟩
    intro line
    constructor
    · intro same
      cases same
      exact ⟨groups, rfl, rfl⟩
    · rintro ⟨_, same, rfl⟩
      cases same
      rfl
  | error complaint =>
    refine ⟨by simp, by simp, ?_⟩
    intro _ none_asked
    -- A complaint that were a request would have been asked for.
    cases request : complaint.isRequest with
    | false => exact ⟨complaint, request, rfl⟩
    | true => exact absurd ⟨request, rfl⟩ (none_asked complaint)

/-- A flag in one token with a file, and a file named like that flag. -/
theorem parse_of_file_named_like_flag :
    optionsEnd ∉ [Bytes.ofString "-vi=a", Bytes.ofString "-E", Bytes.ofString "-v"] ∧
      parse (Bytes.ofString "pipe" ::
          [Bytes.ofString "-vi=a", Bytes.ofString "-E", Bytes.ofString "-v"] ++
          optionsEnd :: [Bytes.ofString "--"]) =
        .ok ⟨{ input := some (Bytes.ofString "a"), interactorStderr := some (Bytes.ofString "-v"),
               verbose := true }, some [Bytes.ofString "--"]⟩ := by
  have plain : optionsEnd ∉ [Bytes.ofString "-vi=a", Bytes.ofString "-E", Bytes.ofString "-v"] := by
    decide
  -- The first token holds a flag and a whole option, and the last is the value of the one before.
  have spelled : Spells [.file 1 .input .equals (Bytes.ofString "a"),
      .file 0 .interactorStderr .separate (Bytes.ofString "-v")]
      [Bytes.ofString "-vi=a", Bytes.ofString "-E", Bytes.ofString "-v"] :=
    ⟨by decide, by decide⟩
  exact ⟨plain, ((parse_grammar plain _ _).1 _).mpr ⟨_, spelled, rfl⟩⟩

end Umpire.CommandLine
