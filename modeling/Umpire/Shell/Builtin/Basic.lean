import Umpire.Shell.Storing

/-! What all builtin commands of a shell share: complaints, options and printing. -/

namespace Umpire.Shell

/-- A command that a shell carries out by itself: its words give a status. -/
abbrev Builtin := List (List Char) → Doing Nat

namespace Builtin

/-- Complain in the name of a command; the plain shell gives the command up, the large one goes on
with a status. -/
def fault (name : String) (chars : List Char) (status : Nat) : Doing Nat := do
  let shell ← get
  let _ ← say 2 (shell.complaintStartIn (ascii name) ++ chars ++ ['\n'])
  match shell.dialect with
  | .plain => throw .giveUp
  | .large => return status

/-- Complain in the name of a command and go on with a status. -/
def told (name : String) (chars : List Char) (status : Nat) : Doing Nat :=
  failing (ascii name) chars status

/-- Tell how a command of the large shell is used. -/
def usage (name text : String) : Doing Nat := do
  let _ ← say 2 (ascii name ++ ascii ": usage: " ++ ascii text ++ ['\n'])
  return 2

/-- Complain about too many words; the large shell does nothing more then, unless it reads a file. -/
def tooMany {α : Type} (name : String) : Doing α := do
  let _ ← told name (ascii "too many arguments") 1
  let shell ← get
  throw (if shell.manner.contains 'c' then .exit 1 else .leaveLine 1)

/-- The options among some words, each with the text that belongs to it, and the other words. -/
structure Chosen where
  options : List (Char × List Char) := []
  words : List (List Char) := []

/-- Whether an option has been chosen. -/
def Chosen.has (chosen : Chosen) (letter : Char) : Bool :=
  chosen.options.any fun option => option.1 == letter

/-- The text of the last choice of an option. -/
def Chosen.text? (chosen : Chosen) (letter : Char) : Option (List Char) :=
  chosen.options.reverse.lookup letter

/-- Why words are no options. -/
inductive Refusal where
  | unknown (letter : Char)
  | incomplete (letter : Char)
  deriving DecidableEq, Repr

/-- Read the letters of a word of options, of which some take a text. -/
def cluster (flags valued : List Char) (next : Option (List Char)) :
    List Char → Except Refusal (List (Char × List Char) × Bool)
  | [] => .ok ([], false)
  | c :: rest =>
    if valued.contains c then
      if !rest.isEmpty then .ok ([(c, rest)], false)
      else
        match next with
        | some text => .ok ([(c, text)], true)
        | none => .error (.incomplete c)
    else if flags.contains c then
      (cluster flags valued next rest).map fun found => ((c, []) :: found.1, found.2)
    else .error (.unknown c)

/-- Read the options at the start of some words. -/
def options? (flags valued : List Char) : List (List Char) → Except Refusal Chosen
  | ('-' :: c :: letters) :: rest =>
    if c == '-' && letters.isEmpty then .ok { words := rest }
    else
      match cluster flags valued rest.head? (c :: letters) with
      | .error refusal => .error refusal
      | .ok (found, took) =>
        (options? flags valued (rest.drop (if took then 1 else 0))).map fun more =>
          { more with options := found ++ more.options }
  | words => .ok { words }
termination_by words => words.length
decreasing_by grind

/-- Do something with the options of a command, or tell what is wrong with them. -/
def withOptions (name help : String) (flags valued : String) (words : List (List Char))
    (work : Chosen → Doing Nat) : Doing Nat := do
  let shell ← get
  match options? flags.toList valued.toList words, shell.dialect with
  | .ok chosen, _ => work chosen
  | .error (.unknown letter), .plain => fault name (ascii "Illegal option -" ++ [letter]) 2
  | .error (.incomplete letter), .plain =>
    fault name (ascii "No arg for -" ++ letter :: ascii " option") 2
  | .error (.unknown letter), .large =>
    let _ ← told name ('-' :: letter :: ascii ": invalid option") 2
    usage name help
  | .error (.incomplete letter), .large =>
    let _ ← told name ('-' :: letter :: ascii ": option requires an argument") 2
    usage name help

/-- Print for a command; a failure to is its failure. -/
def print (name : String) (chars : List Char) : Doing Nat := do
  if chars.isEmpty then return 0
  else
    match ← say 1 chars with
    | .ok () => return 0
    | .error errno =>
      let shell ← get
      match shell.dialect with
      | .plain => told name (ascii name ++ ascii ": I/O error") 1
      | .large => told name (ascii "write error: " ++ ascii errno.usual) 1

/-- The number that a text of digits spells. -/
def natural? (chars : List Char) : Option Nat :=
  match Numeral.readNat 2147483647 chars with
  | .ok number => if chars.head? == some '+' then none else some number
  | .error _ => none

/-- The number that a text spells, with a sign and blanks around it. -/
def integer? (chars : List Char) : Option Int :=
  let isSpace (c : Char) : Bool := c == ' ' || ('\t' ≤ c && c ≤ '\r')
  let text := ((chars.dropWhile isSpace).reverse.dropWhile isSpace).reverse
  match text with
  | '-' :: digits => (natural? digits).map fun n => -(n : Int)
  | '+' :: digits => (natural? digits).map fun n => (n : Int)
  | _ => (natural? text).map fun n => (n : Int)

/-- Whether a command is a special one: what it cannot do ends the plain shell. -/
def isSpecial (name : List Char) : Bool :=
  Parser.specialCommands.any fun known => known.toList == name

end Builtin

end Umpire.Shell
