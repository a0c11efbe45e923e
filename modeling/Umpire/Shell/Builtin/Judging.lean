import Umpire.Shell.Builtin.Basic
import Umpire.Tool.Condition

/-! The builtin commands that judge conditions. -/

namespace Umpire.Shell.Builtin

open Tool

/-- What a shell knows besides the host when it judges. -/
def surroundings (shell : Session) : Condition.Surroundings where
  judge := if shell.isLarge then .large else .plain
  isSet name :=
    let real := name.takeWhile inName
    match Parser.subscript? (name.drop real.length) with
    | (some ['@'], []) | (some ['*'], []) => !(entriesOf shell real).isEmpty
    | (some text, []) =>
      let key : Key := match Numeral.readNat 2147483647 text with
        | .ok number => .inr number
        | .error _ => .inl text
      (elementOf? shell real key).isSome || (elementOf? shell real (.inl text)).isSome
    | _ => (parameter shell name) != .nothing
  isOn name := shell.has (String.ofList name)

/-- The wording of an objection. -/
def objectionText (dialect : Dialect) (objection : Condition.Objection) : List Char :=
  match dialect, objection with
  | .plain, .noNumber word => ascii "Illegal number: " ++ word
  | .plain, .missing word => word ++ ascii ": argument expected"
  | .plain, .unclosed => ascii "closing paren expected"
  | .plain, .noUnary word | .plain, .noBinary word | .plain, .unexpected word =>
    word ++ ascii ": unexpected operator"
  | .large, .noNumber word => word ++ ascii ": integer expression expected"
  | .large, .noUnary word => word ++ ascii ": unary operator expected"
  | .large, .noBinary word => word ++ ascii ": binary operator expected"
  | .large, .unexpected _ => ascii "too many arguments"
  | .large, .missing _ => ascii "argument expected"
  | .large, .unclosed => ascii "\x60)' expected"

/-- Judge a condition. -/
def test (bracket : Bool) : Builtin := fun words => do
  let name := if bracket then "[" else "test"
  let shell ← get
  if bracket && words.getLast? != some [']'] then
    told name (match shell.dialect with
      | .plain => ascii "missing ]"
      | .large => ascii "missing \x60]'") 2
  else
    let condition := if bracket then words.dropLast else words
    match ← outside (Condition.truth (surroundings shell) condition) with
    | .ok holds => return if holds then 0 else 1
    | .error objection => told name (objectionText shell.dialect objection) 2

end Umpire.Shell.Builtin
