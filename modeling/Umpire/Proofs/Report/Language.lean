import Mathlib.Data.List.Basic
import Umpire.Proofs.Report
import Umpire.Proofs.Text.Spelling

/-! The language of reports: which texts are read as reports, and what is objected to in any other. What a text's lines
and a line's trimmed part are is told without saying how they are found. -/

namespace Umpire.Text

/-- What precedes a line feed, without a carriage return at its end. -/
def dropReturn (part : List Char) : List Char :=
  if part.getLast? = some '\r' then part.dropLast else part

/-- The parts of a text between its line feeds. The last of them is a row only if there is something in it, and the
others are so without a carriage return at their end. -/
def rows (chars : List Char) : List (List Char) :=
  let parts := chars.splitOn '\n'
  parts.dropLast.map dropReturn ++ (parts.getLast?.filter fun last => !last.isEmpty).toList

/-- What precedes the first line feed is the first row. -/
theorem rows_break {part rest : List Char} (unbroken : '\n' ∉ part) :
    rows (part ++ '\n' :: rest) = dropReturn part :: rows rest := by
  -- Behind a line feed there is another part, even if it is empty.
  have more : rest.splitOn '\n' ≠ [] := List.splitOn_ne_nil _ _
  rw [rows, rows, List.splitOn_append_cons_self_of_not_mem unbroken]
  rw [List.dropLast_cons_of_ne_nil more, List.getLast?_cons_of_ne_nil more, List.map_cons, List.cons_append]

/-- A text without a line feed is one row, or none if it is empty. -/
theorem rows_unbroken {part : List Char} (unbroken : '\n' ∉ part) :
    rows part = if part.isEmpty then [] else [part] := by
  -- There is nothing to split, and an empty text is not a row.
  rw [rows, List.splitOn_eq_singleton unbroken]
  cases part <;> rfl

/-- What precedes a line feed, if it goes on from a character that neither breaks a line nor ends it before the feed. -/
theorem dropReturn_cons {c : Char} {part : List Char} (turn : part = [] → c ≠ '\r') :
    dropReturn (c :: part) = c :: dropReturn part := by
  -- Only the last character can be dropped, so the first one stays if another follows.
  cases part with
  | nil => simp [dropReturn, turn rfl]
  | cons d rest =>
    rw [dropReturn, dropReturn, List.getLast?_cons_of_ne_nil (List.cons_ne_nil d rest),
      List.dropLast_cons_of_ne_nil (List.cons_ne_nil d rest)]
    split <;> rfl

/-- The first line is what precedes the first line feed. -/
theorem lines_break {part rest : List Char} (unbroken : '\n' ∉ part) :
    lines (part ++ '\n' :: rest) = dropReturn part :: lines rest := by
  induction part with
  | nil => rw [List.nil_append, lines]; rfl
  | cons c others ih =>
    obtain ⟨first, clear⟩ := not_or.mp (mt List.mem_cons.mpr unbroken)
    have ih := ih clear
    rw [List.cons_append]
    by_cases turn : others = [] ∧ c = '\r'
    · -- A carriage return right before the feed belongs to the line's end.
      obtain ⟨rfl, rfl⟩ := turn
      rw [List.nil_append, lines]
      rfl
    · rw [lines, ih, dropReturn_cons fun empty same => turn ⟨empty, same⟩]
      · rintro more rfl same
        refine turn ⟨?_, rfl⟩
        cases others with
        | nil => rfl
        | cons d rest =>
          obtain ⟨rfl, -⟩ := List.cons.inj same
          exact absurd List.mem_cons_self clear
      · exact fun same => first same.symm

/-- A text without a line feed is one line, or none if it is empty. -/
theorem lines_unbroken {part : List Char} (unbroken : '\n' ∉ part) :
    lines part = if part.isEmpty then [] else [part] := by
  -- Every character goes to the one line, which the end of the text ends.
  induction part with
  | nil => rfl
  | cons c others ih =>
    obtain ⟨first, clear⟩ := not_or.mp (mt List.mem_cons.mpr unbroken)
    rw [lines, ih clear]
    · cases others <;> rfl
    · rintro more rfl rfl
      exact clear List.mem_cons_self
    · exact fun same => first same.symm

/-- The lines of a text are its rows. -/
theorem lines_eq_rows (chars : List Char) : lines chars = rows chars := by
  -- Row by row: each one is shorter by what precedes the first line feed.
  induction size : chars.length using Nat.strongRecOn generalizing chars with
  | ind length ih =>
    subst size
    by_cases breaks : '\n' ∈ chars
    · obtain ⟨part, rest, rfl, unbroken⟩ := List.eq_append_cons_of_mem breaks
      have shorter : rest.length < (part ++ '\n' :: rest).length := by
        rw [List.length_append, List.length_cons]
        omega
      rw [lines_break unbroken, rows_break unbroken, ih _ shorter rest rfl]
    · rw [lines_unbroken breaks, rows_unbroken breaks]

/-- What a text holds between white space is found by trimming it, if there is no white space in it. -/
theorem trim_padded {before core after : List Char} (blank : ∀ c ∈ before ++ after, isBlank c = true)
    (nonempty : core ≠ []) (dense : ∀ c ∈ core, isBlank c = false) : trim (before ++ core ++ after) = core := by
  -- What is dropped in front ends where the core begins,
  have first (rest : List Char) : (core ++ rest).dropWhile isBlank = core ++ rest := by
    cases core with
    | nil => exact absurd rfl nonempty
    | cons c others => rw [List.cons_append, List.dropWhile_cons_of_neg (by simp [dense c List.mem_cons_self])]
  -- and at the end, where it ends.
  have last : trimEnd (core ++ after) = trimEnd core := by
    rw [trimEnd, trimEnd, List.reverse_append, List.dropWhile_append_of_pos]
    intro c listed
    exact blank c (List.mem_append_right _ (List.mem_reverse.mp listed))
  have whole : trimEnd core = core := by
    have same := trim_eq_self dense
    rwa [trim, ← List.append_nil core, first, List.append_nil] at same
  rw [trim, List.append_assoc, List.dropWhile_append_of_pos fun c listed => blank c (List.mem_append_left _ listed),
    first, last, whole]

/-- A text is what trimming it leaves, between white space. -/
theorem exists_padding (chars : List Char) : ∃ before after, chars = before ++ trim chars ++ after ∧
    ∀ c ∈ before ++ after, isBlank c = true := by
  -- What is dropped at either end is as much white space as there is.
  have back : chars.dropWhile isBlank =
      trim chars ++ ((chars.dropWhile isBlank).reverse.takeWhile isBlank).reverse := by
    rw [trim, trimEnd, ← List.reverse_append, List.takeWhile_append_dropWhile, List.reverse_reverse]
  refine ⟨chars.takeWhile isBlank, ((chars.dropWhile isBlank).reverse.takeWhile isBlank).reverse, ?_, ?_⟩
  · rw [List.append_assoc, ← back, List.takeWhile_append_dropWhile]
  · intro c listed
    rcases List.mem_append.mp listed with front | back
    · exact List.all_eq_true.mp List.all_takeWhile c front
    · exact List.all_eq_true.mp List.all_takeWhile c (List.mem_reverse.mp back)

end Umpire.Text

namespace Umpire

namespace Numeral

variable {chars : List Char}

/-- Digits are not white space. -/
theorem Digits.isBlank {n : Nat} (digits : Digits chars n) : ∀ c ∈ chars, Text.isBlank c = false := by
  intro c listed
  have isDigit := Char.isDigit_iff_toNat.mp (digits.digits c listed)
  -- All digits lie above the blanks of ASCII and below the others.
  have bounds : 48 ≤ c.toNat ∧ c.toNat ≤ 57 := isDigit
  simp [Text.isBlank]
  omega

/-- There is something in a natural number's spelling, but no white space. -/
theorem SpellsNat.solid {n : Nat} (spells : SpellsNat chars n) :
    chars ≠ [] ∧ ∀ c ∈ chars, Text.isBlank c = false := by
  -- Digits and a plus sign are no white space.
  cases spells with
  | plain digits => exact ⟨digits.nonempty, digits.isBlank⟩
  | plus digits => exact ⟨List.cons_ne_nil _ _, List.forall_mem_cons.mpr ⟨rfl, digits.isBlank⟩⟩

/-- There is something in an integer's spelling, but no white space. -/
theorem SpellsInt.solid {value : Int} (spells : SpellsInt chars value) :
    chars ≠ [] ∧ ∀ c ∈ chars, Text.isBlank c = false := by
  cases spells with
  | natural spells => exact spells.solid
  | minus digits => exact ⟨List.cons_ne_nil _ _, List.forall_mem_cons.mpr ⟨rfl, digits.isBlank⟩⟩

end Numeral

namespace Report

open Numeral (SpellsNat SpellsInt)

variable {line first second third : List Char}

/-- A line shows what some texts spell: it is one of these, with any white space before and behind it. -/
def Shows (spells : List Char → Prop) (line : List Char) : Prop :=
  ∃ before core after, line = before ++ core ++ after ∧ (∀ c ∈ before ++ after, Text.isBlank c = true) ∧ spells core

/-- A line shows what is spelled by the line once it is trimmed. -/
theorem shows_iff {spells : List Char → Prop}
    (solid : ∀ core, spells core → core ≠ [] ∧ ∀ c ∈ core, Text.isBlank c = false) :
    Shows spells line ↔ spells (Text.trim line) := by
  constructor
  · rintro ⟨before, core, after, rfl, blank, spelled⟩
    -- A spelling has no white space, so trimming leaves just it.
    obtain ⟨nonempty, dense⟩ := solid core spelled
    rw [Text.trim_padded blank nonempty dense]
    exact spelled
  · intro spelled
    obtain ⟨before, after, padded, blank⟩ := Text.exists_padding line
    exact ⟨before, Text.trim line, after, padded, blank, spelled⟩

/-- Three lines spell a report: they show its winner's tag and both its statuses. -/
inductive Spells : List (List Char) → Report → Prop where
  | three {first second third : List Char} {report : Report}
      (winner : Shows (SpellsNat · report.winner.tag.toNat) first)
      (solution : Shows (SpellsInt · report.statuses.solution.toInt) second)
      (interactor : Shows (SpellsInt · report.statuses.interactor.toInt) third) :
      Spells [first, second, third] report

/-- What is objected to in some lines: the first of five things that are asked for. -/
inductive Objects : List (List Char) → Objection → Prop where
  /-- There are three lines. -/
  | lineCount {lines : List (List Char)} (others : lines.length ≠ 3) : Objects lines (.lineCount lines.length)
  /-- The first shows a number of a byte. -/
  | tagNumeral {first second third : List Char} {fault : Numeral.Fault}
      (strays : ∀ tag : UInt8, ¬ Shows (SpellsNat · tag.toNat) first)
      (found : Numeral.readByte (Text.trim first) = .error fault) :
      Objects [first, second, third] (.tagNumeral first fault)
  /-- That number is the tag of a side. -/
  | unknownTag {first second third : List Char} {tag : UInt8} (tag_ : Shows (SpellsNat · tag.toNat) first)
      (strays : tag ≠ 1 ∧ tag ≠ 2) : Objects [first, second, third] (.unknownTag ⟨tag⟩)
  /-- The second line shows a signed number of 32 bits. -/
  | solutionStatus {first second third : List Char} {winner : Side} {fault : Numeral.Fault}
      (tag : Shows (SpellsNat · winner.tag.toNat) first)
      (strays : ∀ status : Int32, ¬ Shows (SpellsInt · status.toInt) second)
      (found : Numeral.readInt32 (Text.trim second) = .error fault) :
      Objects [first, second, third] (.statusNumeral second fault)
  /-- So does the third. -/
  | interactorStatus {first second third : List Char} {winner : Side} {solution : Int32} {fault : Numeral.Fault}
      (tag : Shows (SpellsNat · winner.tag.toNat) first) (status : Shows (SpellsInt · solution.toInt) second)
      (strays : ∀ status : Int32, ¬ Shows (SpellsInt · status.toInt) third)
      (found : Numeral.readInt32 (Text.trim third) = .error fault) :
      Objects [first, second, third] (.statusNumeral third fault)

section Objecting

variable {α β γ : Type} {read : Except α γ} {object : α → β}

/-- What is objected to does not touch what is read. -/
theorem mapError_eq_ok_iff {value : γ} : read.mapError object = .ok value ↔ read = .ok value := by
  cases read <;> simp [Except.mapError]

/-- An objection is that to some fault. -/
theorem mapError_eq_error_iff {objection : β} :
    read.mapError object = .error objection ↔ ∃ fault, read = .error fault ∧ objection = object fault := by
  cases read <;> simp [Except.mapError, eq_comm]

/-- Where reading accepts some values, objecting to it says that the input stands for none of them. -/
theorem mapError_eq_error_iff_strays {objection : β} {stands : γ → Prop}
    (accepts : ∀ value, read = .ok value ↔ stands value) :
    read.mapError object = .error objection ↔
      (∀ value, ¬ stands value) ∧ ∃ fault, read = .error fault ∧ objection = object fault := by
  rw [mapError_eq_error_iff]
  refine ⟨fun ⟨fault, found, same⟩ => ⟨fun value stood => ?_, fault, found, same⟩, And.right⟩
  -- What stands for a value would have been read.
  cases found.symm.trans ((accepts value).mpr stood)

end Objecting

/-- The number of a byte is read from the lines that show it. -/
theorem readByte_shown_iff {tag : UInt8} :
    Numeral.readByte (Text.trim line) = .ok tag ↔ Shows (SpellsNat · tag.toNat) line := by
  rw [shows_iff fun _ => SpellsNat.solid, Numeral.readByte_eq_ok_iff]

/-- A signed number of 32 bits is read from the lines that show it. -/
theorem readInt32_shown_iff {status : Int32} :
    Numeral.readInt32 (Text.trim line) = .ok status ↔ Shows (SpellsInt · status.toInt) line := by
  rw [shows_iff fun _ => SpellsInt.solid, Numeral.readInt32_eq_ok_iff]

/-- A tag is read from the lines that show it. -/
theorem readTag_eq_ok_iff {tag : UInt8} : readTag line = .ok tag ↔ Shows (SpellsNat · tag.toNat) line :=
  mapError_eq_ok_iff.trans readByte_shown_iff

/-- A status is read from the lines that show it. -/
theorem readStatus_eq_ok_iff {status : Int32} :
    readStatus line = .ok status ↔ Shows (SpellsInt · status.toInt) line :=
  mapError_eq_ok_iff.trans readInt32_shown_iff

/-- What is objected to in a line that shows no number of a byte. -/
theorem readTag_eq_error_iff {objection : Objection} : readTag line = .error objection ↔
    (∀ tag : UInt8, ¬ Shows (SpellsNat · tag.toNat) line) ∧
      ∃ fault, Numeral.readByte (Text.trim line) = .error fault ∧ objection = .tagNumeral line fault :=
  mapError_eq_error_iff_strays fun _ => readByte_shown_iff

/-- What is objected to in a line that shows no signed number of 32 bits. -/
theorem readStatus_eq_error_iff {objection : Objection} : readStatus line = .error objection ↔
    (∀ status : Int32, ¬ Shows (SpellsInt · status.toInt) line) ∧
      ∃ fault, Numeral.readInt32 (Text.trim line) = .error fault ∧ objection = .statusNumeral line fault :=
  mapError_eq_error_iff_strays fun _ => readInt32_shown_iff

/-- A side is known by its own tag only. -/
theorem ofTag_eq_ok_iff {tag : UInt8} {side : Side} : Side.ofTag tag = .ok side ↔ tag = side.tag := by
  rw [Side.ofTag]
  -- There are two tags, and no other number is one.
  by_cases first : tag = 1
  · subst first
    cases side <;> simp [Side.tag]
  · by_cases second : tag = 2
    · subst second
      cases side <;> simp [Side.tag]
    · cases side <;> simp [first, second, Side.tag]

/-- A number that is no side's tag is what is objected to in itself. -/
theorem ofTag_eq_error_iff {tag : UInt8} {unknown : Side.UnknownTag} :
    Side.ofTag tag = .error unknown ↔ (tag ≠ 1 ∧ tag ≠ 2) ∧ unknown = ⟨tag⟩ := by
  rw [Side.ofTag]
  -- Neither tag is refused, and any other number is.
  by_cases first : tag = 1
  · simp [first]
  · by_cases second : tag = 2
    · simp [second]
    · simp [first, second, eq_comm]

/-- The winner is the side with the tag that is given. -/
theorem readWinner_eq_ok_iff {tag : UInt8} {side : Side} : readWinner tag = .ok side ↔ tag = side.tag :=
  mapError_eq_ok_iff.trans ofTag_eq_ok_iff

/-- What is objected to in a number that is no side's tag. -/
theorem readWinner_eq_error_iff {tag : UInt8} {objection : Objection} :
    readWinner tag = .error objection ↔ (tag ≠ 1 ∧ tag ≠ 2) ∧ objection = .unknownTag ⟨tag⟩ := by
  rw [readWinner, mapError_eq_error_iff]
  simp only [ofTag_eq_error_iff, and_assoc, exists_and_left, exists_eq_left]

/-- What is read from a text is read from its rows: nothing from any number of them but three, and else the tag, the
side with that tag and both statuses in turn. -/
theorem parse_eq (chars : List Char) : parse chars =
    match Text.rows chars with
    | [first, second, third] =>
      (readTag first).bind fun tag => (readWinner tag).bind fun winner => (readStatus second).bind fun solution =>
        (readStatus third).bind fun interactor => .ok ⟨winner, ⟨solution, interactor⟩⟩
    | others => .error (.lineCount others.length) := by
  -- Lines are cut as rows, and all else is how the reading is written down.
  rw [parse, Text.lines_eq_rows]
  rfl

/-- Rows that spell a report are read as it. -/
theorem parse_of_spells {chars : List Char} {report : Report} (spells : Spells (Text.rows chars) report) :
    parse chars = .ok report := by
  rw [parse_eq]
  generalize Text.rows chars = rows at spells
  cases spells with
  | three winner solution interactor =>
    -- Every check is passed.
    simp only [readTag_eq_ok_iff.mpr winner, readWinner_eq_ok_iff.mpr rfl, readStatus_eq_ok_iff.mpr solution,
      readStatus_eq_ok_iff.mpr interactor, Except.bind]

/-- Rows in which something is objected to are refused for that. -/
theorem parse_of_objects {chars : List Char} {objection : Objection} (objects : Objects (Text.rows chars) objection) :
    parse chars = .error objection := by
  rw [parse_eq]
  generalize Text.rows chars = rows at objects
  cases objects with
  | lineCount others =>
    -- Each objection is that of the first check that is not passed.
    split
    · exact absurd rfl others
    · rfl
  | tagNumeral strays found =>
    simp only [readTag_eq_error_iff.mpr ⟨strays, _, found, rfl⟩, Except.bind]
  | unknownTag tag strays =>
    simp only [readTag_eq_ok_iff.mpr tag, readWinner_eq_error_iff.mpr ⟨strays, rfl⟩, Except.bind]
  | solutionStatus tag strays found =>
    simp only [readTag_eq_ok_iff.mpr tag, readWinner_eq_ok_iff.mpr rfl,
      readStatus_eq_error_iff.mpr ⟨strays, _, found, rfl⟩, Except.bind]
  | interactorStatus tag status strays found =>
    simp only [readTag_eq_ok_iff.mpr tag, readWinner_eq_ok_iff.mpr rfl, readStatus_eq_ok_iff.mpr status,
      readStatus_eq_error_iff.mpr ⟨strays, _, found, rfl⟩, Except.bind]

/-- Any rows spell a report, or something is objected to in them. -/
theorem spells_or_objects (rows : List (List Char)) :
    (∃ report, Spells rows report) ∨ ∃ objection, Objects rows objection := by
  by_cases three : rows.length = 3
  · obtain ⟨first, second, third, rfl⟩ := List.length_eq_three.mp three
    -- The checks are gone through in their order, each with those before it passed.
    cases tagged : readTag first with
    | error objection =>
      obtain ⟨strays, fault, found, rfl⟩ := readTag_eq_error_iff.mp tagged
      exact .inr ⟨_, .tagNumeral strays found⟩
    | ok tag =>
      have shown := readTag_eq_ok_iff.mp tagged
      cases won : readWinner tag with
      | error objection =>
        obtain ⟨strays, rfl⟩ := readWinner_eq_error_iff.mp won
        exact .inr ⟨_, .unknownTag shown strays⟩
      | ok winner =>
        obtain rfl := readWinner_eq_ok_iff.mp won
        cases solved : readStatus second with
        | error objection =>
          obtain ⟨strays, fault, found, rfl⟩ := readStatus_eq_error_iff.mp solved
          exact .inr ⟨_, .solutionStatus shown strays found⟩
        | ok solution =>
          have shown' := readStatus_eq_ok_iff.mp solved
          cases answered : readStatus third with
          | error objection =>
            obtain ⟨strays, fault, found, rfl⟩ := readStatus_eq_error_iff.mp answered
            exact .inr ⟨_, .interactorStatus shown shown' strays found⟩
          | ok interactor =>
            have shown'' := readStatus_eq_ok_iff.mp answered
            -- All checks are passed.
            exact .inl ⟨⟨winner, ⟨solution, interactor⟩⟩, .three shown shown' shown''⟩
  · exact .inr ⟨_, .lineCount three⟩

/-- A text is read as a report exactly if its rows spell the report, that is, if there are three of them, of which the
first shows the tag of a side and the others show statuses, each with any sign, leading zeros and white space that may
go with a numeral; and any other text is refused for the first thing that its rows lack, in the order of the checks:
how many there are, a numeral of a byte, the tag of a side, the solution's status, the interactor's. -/
theorem parse_language (chars : List Char) :
    (∀ report, parse chars = .ok report ↔ Spells (Text.rows chars) report) ∧
      ∀ objection, parse chars = .error objection ↔ Objects (Text.rows chars) objection := by
  refine ⟨fun report => ⟨fun read => ?_, parse_of_spells⟩, fun objection => ⟨fun refused => ?_, parse_of_objects⟩⟩
  · -- What the rows do not spell they are refused for, so that reading tells both.
    rcases spells_or_objects (Text.rows chars) with ⟨other, spells⟩ | ⟨objection, objects⟩
    · cases read.symm.trans (parse_of_spells spells)
      exact spells
    · cases read.symm.trans (parse_of_objects objects)
  · rcases spells_or_objects (Text.rows chars) with ⟨report, spells⟩ | ⟨other, objects⟩
    · cases refused.symm.trans (parse_of_spells spells)
    · cases refused.symm.trans (parse_of_objects objects)
      exact objects

/-- Of several things that are wrong the first is told, and the end of the last line may be left out. -/
example : parse "+9\r\n\n99999999999".toList = .error (.unknownTag ⟨9⟩) := by
  rfl

end Report

end Umpire
