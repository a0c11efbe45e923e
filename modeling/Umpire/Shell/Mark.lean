import Umpire.Shell.Pattern
import Umpire.Shell.Storing

/-! Expanded words before they are cut into fields: characters that remember where they came from. -/

namespace Umpire.Shell

/-- A stretch of an expanded word that has not been cut into fields yet. -/
inductive Mark where
  | char (c : Char) (quoted : Bool)
  /-- A character that came from an expansion and may separate fields. -/
  | soft (c : Char)
  /-- There is a field here, even if it is empty. -/
  | hold
  /-- A new field starts here. -/
  | cut
  deriving DecidableEq, Repr

/-- What words are expanded for. -/
inductive Purpose where
  /-- They are cut into fields. -/
  | fields
  /-- They are one text each. -/
  | one
  deriving DecidableEq, Repr

/-- The marks of a text that came from an expansion. -/
def markText (chars : List Char) (quoted : Bool) : List Mark :=
  if quoted then .hold :: chars.map fun c => .char c true
  else chars.map .soft

/-- The text of some marks. -/
def textOf (marks : List Mark) : List Char :=
  marks.filterMap fun
    | .char c _ => some c
    | .soft c => some c
    | .cut => some ' '
    | .hold => none

/-- The marked characters of some marks, for patterns. -/
def markedOf (marks : List Mark) : List Marked :=
  marks.filterMap fun
    | .char c quoted => some (c, quoted)
    | .soft c => some (c, false)
    | .cut => some (' ', false)
    | .hold => none

/-- The marks of what is given in place of a value: what is not quoted may separate fields. -/
def softened (marks : List Mark) : List Mark :=
  marks.map fun
    | .char c false => .soft c
    | mark => mark

/-- The marks of several texts, each a field of its own. -/
def markTexts (all : List (List Char)) (quoted : Bool) : List Mark :=
  [Mark.cut].intercalate (all.map fun one => markText one quoted)

/-- The marks of what a parameter stands for. -/
def Holding.marks (shell : Session) (purpose : Purpose) (quoted : Bool) : Holding → List Mark
  | .nothing => markText [] quoted
  | .text chars => markText chars quoted
  | .texts all joined =>
    if quoted && joined then markText (joinedBySeparator shell all) true
    else
      match purpose with
      | .fields => markTexts all quoted
      | .one =>
        if joined || !shell.isLarge then markText (joinedBySeparator shell all) quoted
        else markText ([' '].intercalate all) quoted

/-- How far the cutting of marks into fields has come. -/
structure Cutting where
  fields : List (List Marked) := []
  field : List Marked := []
  /-- Whether there is a field, even if it is empty. -/
  held : Bool := false
  /-- Whether a blank has just ended a field. -/
  blank : Bool := false

/-- End the current field. -/
def Cutting.close (cutting : Cutting) (blank : Bool) : Cutting :=
  { fields := cutting.field.reverse :: cutting.fields, blank }

/-- Cut marks into fields. -/
def Cutting.step (separators : List Char) (cutting : Cutting) : Mark → Cutting
  | .char c quoted => { cutting with field := (c, quoted) :: cutting.field, held := true, blank := false }
  | .hold => { cutting with held := true, blank := false }
  | .cut => if cutting.held then cutting.close false else cutting
  | .soft c =>
    if !separators.contains c then
      { cutting with field := (c, false) :: cutting.field, held := true, blank := false }
    else if c == ' ' || c == '\t' || c == '\n' then
      if cutting.held then cutting.close true else cutting
    else if cutting.blank then { cutting with blank := false }
    else cutting.close false

/-- The fields of some marks. -/
def fieldsOf (separators : List Char) (marks : List Mark) : List (List Marked) :=
  let done := marks.foldl (Cutting.step separators) {}
  (if done.held then done.close false else done).fields.reverse

/-- A text without marks. -/
def bare (marked : List Marked) : List Char :=
  marked.map (·.1)

end Umpire.Shell
