import Umpire.Proofs.Text.Numeral
import Umpire.Report

/-! Reports read back as they were written. -/

namespace Umpire

namespace Text

/-- Lines are found one by one, as long as none of them breaks by itself. -/
theorem lines_append {line rest : List Char} (unbroken : ∀ c ∈ line, c ≠ '\n' ∧ c ≠ '\r') :
    lines (line ++ '\n' :: rest) = line :: lines rest := by
  -- A character that is no line break is passed over, and the break behind the last of them ends the line.
  induction line with
  | nil => rw [List.nil_append, lines]
  | cons c others ih =>
    obtain ⟨⟨feed, turn⟩, unbroken⟩ := List.forall_mem_cons.mp unbroken
    rw [List.cons_append, lines, ih unbroken]
    · rintro more rfl
      exact absurd rfl turn
    · rintro rfl
      exact absurd rfl feed

/-- A text without white space is left as it is. -/
theorem trim_eq_self {chars : List Char} (dense : ∀ c ∈ chars, isBlank c = false) : trim chars = chars := by
  -- Without a blank at its front a text loses nothing there, nor, turned around, at its end.
  have whole (chars : List Char) (dense : ∀ c ∈ chars, isBlank c = false) : chars.dropWhile isBlank = chars := by
    cases chars with
    | nil => rfl
    | cons c rest => rw [List.dropWhile_cons, dense c List.mem_cons_self, if_neg Bool.false_ne_true]
  rw [trim, trimEnd, whole chars dense, whole _ fun c listed => dense c (List.mem_reverse.mp listed),
    List.reverse_reverse]

end Text

namespace Numeral

/-- A numeral breaks into no lines and holds no white space. -/
theorem plain_of_mem_ofInt {value : Int} {c : Char} (listed : c ∈ ofInt value) :
    (c ≠ '\n' ∧ c ≠ '\r') ∧ Text.isBlank c = false := by
  -- Signs and digits lie above the blanks of ASCII, line breaks among them, and below all other blanks.
  obtain ⟨above, below⟩ := toNat_of_mem_ofInt listed
  refine ⟨⟨?_, ?_⟩, ?_⟩
  · rintro rfl
    exact absurd above (by decide)
  · rintro rfl
    exact absurd above (by decide)
  · simp [Text.isBlank]
    omega

end Numeral

namespace Report

/-- The text of a report has the three lines. -/
theorem lines_text (report : Report) : Text.lines report.text =
    [Numeral.ofInt report.winner.tag.toNat, Numeral.ofInt report.statuses.solution.toInt,
      Numeral.ofInt report.statuses.interactor.toInt] := by
  -- No numeral breaks, so the breaks are those that end the lines.
  have unbroken (value : Int) := fun c (listed : c ∈ Numeral.ofInt value) => (Numeral.plain_of_mem_ofInt listed).1
  simp only [text, lines, line, List.flatten_cons, List.flatten_nil, List.append_assoc, List.singleton_append,
    Text.lines_append (unbroken _)]
  rfl

/-- A report's text is read as the report. -/
theorem parse_text (report : Report) : parse report.text = .ok report := by
  -- A numeral is trimmed to itself.
  have dense (value : Int) : Text.trim (Numeral.ofInt value) = Numeral.ofInt value :=
    Text.trim_eq_self fun c listed => (Numeral.plain_of_mem_ofInt listed).2
  have tag : readTag (Numeral.ofInt report.winner.tag.toNat) = .ok report.winner.tag := by
    have read : Numeral.readByte (Numeral.ofInt report.winner.tag.toNat) = .ok report.winner.tag :=
      Numeral.readByte_ofNat report.winner.tag
    rw [readTag, dense, read]
    rfl
  have winner : readWinner report.winner.tag = .ok report.winner := by
    cases report.winner <;> rfl
  have status (value : Int32) : readStatus (Numeral.ofInt value.toInt) = .ok value := by
    rw [readStatus, dense, Numeral.readInt32_ofInt]
    rfl
  -- There is nothing after the three lines, and each of them is read as what it was written for.
  rw [parse, lines_text]
  simp only [tag, winner, status, bind, Except.bind, pure, Except.pure]

/-- The text of a report is three numerals, each on a line of its own. -/
theorem text_eq (report : Report) : report.text =
    [toString report.winner.tag, toString report.statuses.solution, toString report.statuses.interactor].flatMap
      (·.toList ++ ['\n']) := by
  simp only [text, lines, line, Numeral.ofInt_eq, List.flatten_cons, List.flatten_nil]
  rfl

/-- No line of a report is broken. -/
theorem count_text (report : Report) : report.text.count '\n' = 3 := by
  -- A numeral has no line feed, so there is one for each line.
  have unbroken (value : Int) : (Numeral.ofInt value).count '\n' = 0 :=
    List.count_eq_zero.mpr fun listed => (Numeral.plain_of_mem_ofInt listed).1.1 rfl
  simp [text, lines, line, unbroken]

/-- A report is three numerals, each on a line of its own, and is read back from them, whatever the winner and the
statuses. To read any text, write what was read and read again comes to the same as to read once. No other report has
the same text. -/
theorem text_round_trip (report : Report) (chars : List Char) :
    report.text = [toString report.winner.tag, toString report.statuses.solution,
        toString report.statuses.interactor].flatMap (·.toList ++ ['\n']) ∧
      report.text.count '\n' = 3 ∧ parse report.text = .ok report ∧
      ((parse chars).bind fun read => parse read.text) = parse chars ∧
      ∀ other : Report, other.text = report.text → other = report := by
  refine ⟨text_eq report, count_text report, parse_text report, ?_, ?_⟩
  · -- A text that is no report stays one at the first reading.
    cases read : parse chars with
    | error objection => rfl
    | ok found => exact parse_text found
  · -- The one text is read as both reports.
    intro other same
    have twice := parse_text other
    rw [same, parse_text] at twice
    cases twice
    rfl

/-- What is read need not look like what is written: blanks, plus signs, leading zeros and other line ends go. -/
example : (parse "\t+2 \r\n007\n-2147483648".toList).map text = .ok "2\n7\n-2147483648\n".toList := by
  rfl

end Report

end Umpire
