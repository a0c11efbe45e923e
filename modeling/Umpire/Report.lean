import Umpire.Side
import Umpire.Text.Lines
import Umpire.Text.Quoted

/-! The report of a contest: three lines that name the winner's tag and both sides' statuses. -/

namespace Umpire

/-- Which side finished first, and how each side ended. -/
structure Report where
  winner : Side
  statuses : PerSide Int32
  deriving DecidableEq, Repr

namespace Report

/-- A numeral on a line of its own. -/
def line (value : Int) : List Char :=
  Numeral.ofInt value ++ ['\n']

/-- The three lines of a report. -/
def lines (report : Report) : List (List Char) :=
  [line report.winner.tag.toNat, line report.statuses.solution.toInt,
    line report.statuses.interactor.toInt]

/-- The text of a report. -/
def text (report : Report) : List Char :=
  report.lines.flatten

/-- Why a text is no report. -/
inductive Objection where
  /-- The text does not have three lines. -/
  | lineCount (found : Nat)
  /-- The first line is no numeral of a byte. -/
  | tagNumeral (line : List Char) (fault : Numeral.Fault)
  /-- The first line is the tag of no side. -/
  | unknownTag (unknown : Side.UnknownTag)
  /-- A status line is no numeral of 32 bits. -/
  | statusNumeral (line : List Char) (fault : Numeral.Fault)
  deriving DecidableEq, Repr

/-- The wording of an objection, which quotes the line at fault. -/
def Objection.message : Objection → String
  | .lineCount found => "expected 3 lines, got " ++ String.ofList (Numeral.ofNat found)
  | .tagNumeral line fault =>
    "invalid winner tag " ++ String.ofList (Text.quoted line) ++ ": " ++ fault.message
  | .unknownTag unknown => unknown.message
  | .statusNumeral line fault =>
    "invalid status " ++ String.ofList (Text.quoted line) ++ ": " ++ fault.message

/-- The tag on a report's first line. -/
def readTag (line : List Char) : Except Objection UInt8 :=
  (Numeral.readByte (Text.trim line)).mapError (.tagNumeral line)

/-- The side with a tag that a report gives. -/
def readWinner (tag : UInt8) : Except Objection Side :=
  (Side.ofTag tag).mapError .unknownTag

/-- The status on one of a report's other lines. -/
def readStatus (line : List Char) : Except Objection Int32 :=
  (Numeral.readInt32 (Text.trim line)).mapError (.statusNumeral line)

/-- Read a report; the first objection, from the line count down to the last line, is the one given. -/
def parse (chars : List Char) : Except Objection Report :=
  match Text.lines chars with
  | [first, second, third] => do
    -- The first objection wins, so the lines are read in order.
    let tag ← readTag first
    let winner ← readWinner tag
    let solution ← readStatus second
    let interactor ← readStatus third
    return ⟨winner, ⟨solution, interactor⟩⟩
  | others => .error (.lineCount others.length)

end Report

end Umpire
