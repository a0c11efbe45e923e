import Umpire.Shell.Arithmetic
import Umpire.Shell.Parameter

/-! Giving values to variables, with regard to what has been said about them. -/

namespace Umpire.Shell

/-- The wording for a variable that cannot be changed. -/
def fixedMessage (dialect : Dialect) (name : List Char) : List Char :=
  name ++ ascii (match dialect with
    | .plain => ": is read only"
    | .large => ": readonly variable")

/-- A text with its letters in one case. -/
def recased (upper : Bool) (chars : List Char) : List Char :=
  chars.map fun c => if upper then c.toUpper else c.toLower

/-- The value of the element that a key tells, or of a variable. -/
def currentValue (shell : Session) (name : List Char) : Option Key → List Char
  | none => (shell.valueOf? name).getD []
  | some key => (elementOf? shell name key).getD []

/-- Give a variable or an element of one a value, or add to it. Whether it can be changed has been
looked at. -/
def store (name : List Char) (key : Option Key) (adds : Bool) (value : List Char) : Doing Unit := do
  let shell ← get
  let known := (shell.held? name).getD {}
  let old := if adds then currentValue shell name key else []
  let text ← if known.integer then
      let added ← Arithmetic.evaluateHere value
      let before ← if adds then Arithmetic.evaluateHere old else pure 0
      pure (Numeral.ofInt (before + added))
    else pure (old ++ value)
  let cased := match known.upper with
    | some upper => recased upper text
    | none => text
  change fun kept => Arithmetic.store kept name key cased

/-- The key that a subscript tells, whose text has been expanded already. -/
def keyOf (name subscript : List Char) : Doing (Option Key) := do
  let shell ← get
  match ((shell.held? name).map (·.content)).getD .none with
  | .table _ => return some (.inl subscript)
  | content =>
    let number ← Arithmetic.evaluateHere subscript
    if number < 0 && (content.next : Int) + number < 0 then return none
    else return some (.inr (Arithmetic.placeOf content number))

/-- The variable, or the element of one, that a text names. -/
def targetOf (chars : List Char) : Doing (List Char × Option Key) := do
  let name := chars.takeWhile inName
  match Parser.subscript? (chars.drop name.length) with
  | (some text, []) => return (name, ← keyOf name text)
  | _ => return (chars, none)

/-- Give a variable a value for a builtin command, which complains by itself; the answer is whether
that went well. -/
def storeOrTell (name value : List Char) : Doing Bool := do
  let shell ← get
  if shell.isFixed name then
    complain (fixedMessage shell.dialect name)
    if shell.dialect = .plain then throw .giveUp
    return false
  else
    store name none false value
    return true

end Umpire.Shell
