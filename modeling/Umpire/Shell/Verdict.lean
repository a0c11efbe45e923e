import Umpire.Shell.Builtin.Judging
import Umpire.Shell.Tracing
import Umpire.Text.Search

/-! The large shell's verdict on a condition between double brackets, as a status. -/

namespace Umpire.Shell.Verdict

open Tool

/-- The text of a regular expression; its quoted characters stand for themselves. -/
def expressionOf (marked : List Marked) : List Char :=
  marked.flatMap fun found =>
    if found.2 && ".[]*^$\\+?()|\x7b\x7d".toList.contains found.1 then ['\\', found.1] else [found.1]

/-- A pattern with a backslash before its quoted characters. -/
def shownPattern (marked : List Marked) : List Char :=
  marked.flatMap fun found => if found.2 then ['\\', found.1] else [found.1]

/-- Search a text for a regular expression, and keep what its groups have matched. -/
def search (text expression : List Char) : Doing Nat := do
  let shell ← get
  let name := ascii "BASH_REMATCH"
  let decoded (chars : List Char) : List Char := Utf8.loose (octets chars)
  let encoded (chars : List Char) : List Char := Bytes.toOctets (Utf8.restored chars)
  match Regex.read { extended := true } (decoded expression) with
  | .error _ => return 2
  | .ok regex =>
    match Regex.find? (shell.has "nocasematch") regex (decoded text) with
    | none =>
      change fun kept => kept.putVariable name { content := .list [] }
      return 1
    | some found =>
      let items := (List.range (regex.groupCount + 1)).map fun index =>
        (index, encoded ((found.group? index).getD []))
      change fun kept => kept.putVariable name { content := .list items }
      return 0

/-- The value of a word as an arithmetic term; what is wrong with it is told. -/
def number? (word : List Char) : Doing (Option Int) :=
  Arithmetic.valueOrTell "[[" word

/-- A comparison of two numbers that an operator names. -/
def comparison? (operator : List Char) : Option (Int → Int → Bool) :=
  match String.ofList operator with
  | "-eq" => some fun a b => a == b
  | "-ne" => some fun a b => a != b
  | "-lt" => some fun a b => a < b
  | "-le" => some fun a b => a ≤ b
  | "-gt" => some fun a b => b < a
  | "-ge" => some fun a b => b ≤ a
  | _ => none

/-- A status that says whether something holds. -/
def statusOf (holds : Bool) : Nat :=
  if holds then 0 else 1

/-- A verdict of the conditions on files and texts. -/
def judged (judging : Condition.Judging Bool) : Doing Nat := do
  match ← outside judging.run with
  | .ok holds => return statusOf holds
  | .error _ => return 2

/-- Tell a condition that is about to be judged. -/
def told (run : Runner) (negated : Bool) (words : List (List Char)) : Doing Unit := do
  let shown := words.map fun word => if word.isEmpty then ['\'', '\''] else word
  traceBetween run (ascii (if negated then "[[ ! " else "[[ ")) ([' '].intercalate shown) (ascii " ]]")

/-- The verdict on a condition. -/
def verdict (run : Runner) (negated : Bool) : Condition → Doing Nat
  | .filled word => do
    let text ← single run word
    told run negated [ascii "-n", text]
    return statusOf !text.isEmpty
  | .unary operator word => do
    let text ← single run word
    told run negated [operator, text]
    match Tool.Condition.unary? (Builtin.surroundings (← get)) operator with
    | some holds => judged (holds text)
    | none => return 2
  | .binary operator left right => do
    let first ← single run left
    let shell ← get
    if operator == ascii "=~" then
      let marked := markedOf (← expand run .one (tildes shell false true right))
      told run negated [first, operator, expressionOf marked]
      search first (expressionOf marked)
    else if operator == ['='] || operator == ascii "==" || operator == ascii "!=" then
      let marked := markedOf (← expand run .one (tildes shell false true right))
      told run negated [first, operator, shownPattern marked]
      let fits := Pattern.fits true (shell.has "nocasematch") (Pattern.ofMarked true marked) first
      return statusOf (fits != (operator == ascii "!="))
    else
      let second ← single run right
      told run negated [first, operator, second]
      match comparison? operator with
      | some holds =>
        let some a ← number? first | return 1
        let some b ← number? second | return 1
        return statusOf (holds a b)
      | none =>
        match Tool.Condition.binary? (Builtin.surroundings (← get)) operator with
        | some holds => judged (holds first second)
        | none => return 2
  | .negated condition => do
    let status ← verdict run (!negated) condition
    return statusOf (status != 0)
  | .both first second => do
    let status ← verdict run false first
    if status != 0 then return status else verdict run false second
  | .either first second => do
    let status ← verdict run false first
    if status = 0 then return status else verdict run false second

end Umpire.Shell.Verdict
