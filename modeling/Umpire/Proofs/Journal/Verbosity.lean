import Umpire.Journal.Verbosity
import Umpire.Proofs.Report.Language

/-! Which level a value of the environment names: the one whose word stands in it in letters of either case, however
texts are lower-cased. -/

namespace Umpire.Verbosity

open Report (Shows)

/-- The words that mean a level: its name and, for warnings, one more. -/
def Means (word : List Char) (level : Level) : Prop :=
  word = level.name.toList ∨ word = "warning".toList ∧ level = .warn

/-- A text spells a level if, apart from the case of ASCII letters, it is a word that means it. -/
def Spells (text : List Char) (level : Level) : Prop :=
  Means (text.map Char.toLower) level

variable {word text : List Char} {level : Level}

/-- The words in the table are those that mean a level. -/
theorem find_words : (words.find? fun entry => entry.1.toList == word).map (·.2) = some level ↔ Means word level := by
  constructor
  · intro named
    obtain ⟨entry, found, rfl⟩ := Option.map_eq_some_iff.mp named
    have same : entry.1.toList = word := by simpa using List.find?_some found
    -- Every entry of the table is a level under its name, but for the one more word.
    have each : ∀ entry ∈ words, entry.1 = entry.2.name ∨ entry.1 = "warning" ∧ entry.2 = .warn := by decide
    rw [← same]
    rcases each entry (List.mem_of_find?_eq_some found) with name | ⟨more, warn⟩
    · exact .inl (congrArg String.toList name)
    · exact .inr ⟨congrArg String.toList more, warn⟩
  · rintro (rfl | ⟨rfl, rfl⟩)
    · cases level <;> decide
    · decide

/-- Words that mean a level are of small letters of ASCII, and have no k. -/
theorem Means.letters (means : Means word level) :
    word ≠ [] ∧ ∀ d ∈ word, 97 ≤ d.toNat ∧ d.toNat ≤ 122 ∧ d ≠ 'k' := by
  -- A few words, each of which can be looked at.
  rcases means with rfl | ⟨rfl, rfl⟩
  · cases level <;> simp [Level.name]
  · simp

/-- A text that spells a level is of letters of ASCII. -/
theorem Spells.letters (spells : Spells text level) : text ≠ [] ∧ ∀ c ∈ text, c.isAlpha = true := by
  obtain ⟨nonempty, letters⟩ := Means.letters spells
  -- A character whose small form is a letter is one itself.
  refine ⟨fun empty => nonempty (by rw [empty, List.map_nil]), fun c listed => ?_⟩
  obtain ⟨low, high, -⟩ := letters c.toLower (List.mem_map_of_mem listed)
  exact Text.isAlpha_of_toLower ⟨low, high⟩

/-- Letters of ASCII are not white space. -/
theorem isBlank_of_isAlpha {c : Char} (letter : c.isAlpha = true) : Text.isBlank c = false := by
  rw [Text.isAlpha_iff] at letter
  simp [Text.isBlank]
  -- No white space is in the range of the letters.
  omega

/-- However a text is lower-cased, it means a level exactly if the text spells it. -/
theorem means_iff_of_lowers {lowered : List Char} (lowers : Text.Lowers text lowered) :
    Means lowered level ↔ Spells text level := by
  -- What is lower-cased from outside ASCII brings a k or something outside ASCII with it, and no word has either.
  have each {word : List Char} (means : Means word level) : lowered = word ↔ text.map Char.toLower = word :=
    lowers.eq_iff fun d listed => by
      obtain ⟨-, high, different⟩ := means.letters.2 d listed
      exact ⟨by omega, different⟩
  constructor
  · intro means
    rw [Spells, (each means).mp rfl]
    exact means
  · intro spells
    rw [(each spells).mpr rfl]
    exact spells

/-- White space around what spells a level is what trimming takes away. -/
theorem shows_iff_trim : Shows (Spells · level) text ↔ Spells (Text.trim text) level :=
  Report.shows_iff fun _ spells =>
    ⟨spells.letters.1, fun c listed => isBlank_of_isAlpha (spells.letters.2 c listed)⟩

/-- A value of the environment names the level that it shows. -/
theorem ofEnvironment?_eq_some_iff : ofEnvironment? text = some level ↔ Shows (Spells · level) text := by
  rw [ofEnvironment?, find_words, means_iff_of_lowers (Text.lowers_toLower _), shows_iff_trim]

/-- Whatever the environment holds, without option and flag the level is the one that the text shows: a word in letters
of ASCII of either case, with any white space before and behind it. It is that of warnings if the text shows none.
No other characters stand for letters, however they are lower-cased, and each form of a capital sigma gives the same.
With option or flag the environment does not count. -/
theorem environment_names_level (text : List Char) :
    (∀ level, Shows (Spells · level) text → resolve none false (some text) = level) ∧
    ((∀ level, ¬ Shows (Spells · level) text) → resolve none false (some text) = .warn) ∧
    (∀ level, ofEnvironment? text = some level ↔ Shows (Spells · level) text) ∧
    (∀ level, Shows (Spells · level) text → ∀ c ∈ text, Text.isBlank c = true ∨ c.isAlpha = true) ∧
    (∀ lowered, Text.Lowers (Text.trim text) lowered → ∀ level, Means lowered level ↔ Shows (Spells · level) text) ∧
    ∀ option verbose, option ≠ none ∨ verbose = true → ∀ environment,
      resolve option verbose environment = option.getD .info := by
  refine ⟨?_, ?_, fun level => ofEnvironment?_eq_some_iff, ?_, ?_, ?_⟩
  · intro level shown
    have named : ofEnvironment? text = some level := ofEnvironment?_eq_some_iff.mpr shown
    simp only [resolve, Bool.false_eq_true, if_false, Option.bind_some, named, Option.getD_some]
  · intro silent
    have unnamed : ofEnvironment? text = none :=
      Option.eq_none_iff_forall_ne_some.mpr fun level named => silent level (ofEnvironment?_eq_some_iff.mp named)
    simp only [resolve, Bool.false_eq_true, if_false, Option.bind_some, unnamed, Option.getD_none]
  · rintro level ⟨before, core, after, rfl, blank, spells⟩ c listed
    rw [List.append_assoc, List.mem_append, List.mem_append] at listed
    -- Every character is in the white space on one side or among the letters in between.
    rcases listed with front | inside | back
    · exact .inl (blank c (List.mem_append_left _ front))
    · exact .inr (spells.letters.2 c inside)
    · exact .inl (blank c (List.mem_append_right _ back))
  · intro lowered lowers level
    rw [shows_iff_trim, means_iff_of_lowers lowers]
  · intro option verbose given environment
    -- With an option the level is its own; otherwise the flag was given.
    cases option with
    | some level => rfl
    | none => rw [resolve, if_pos (given.resolve_left (not_not_intro rfl)), Option.getD_none]

/-- Blanks outside ASCII are blanks, but letters outside it are no letters: a dotted capital I keeps its dot in small
case, and a dotless i has none. -/
example : ofEnvironment? "\u2003Warning\u0085".toList = some .warn ∧ ofEnvironment? "İnfo".toList = none ∧
    ofEnvironment? "ınfo".toList = none := by
  decide

end Umpire.Verbosity
