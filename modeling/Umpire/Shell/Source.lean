import Umpire.Shell.Syntax

/-! Texts of scripts while they are read, and why reading stops. -/

namespace Umpire.Shell

/-- The two shells of the host, which differ in their messages and in what they understand. -/
inductive Dialect where
  | plain
  | large
  deriving DecidableEq, Repr

/-- Why a script cannot be read on. -/
inductive Obstacle where
  /-- The script ends; the word that would have to follow, if there is one. -/
  | ended (wanted : Option String)
  /-- Something cannot stand where it stands; the word that would have to stand there. -/
  | misplaced (found : List Char) (isWord : Bool) (wanted : Option String)
  /-- A quote, brace or parenthesis is not closed. -/
  | unclosed (mark : String)
  /-- The variable of a loop has no name. -/
  | namelessLoop
  /-- A word cannot name a function. -/
  | namelessFunction
  /-- A descriptor is told by a text that is no number. -/
  | noDescriptor
  /-- A condition between double brackets is wrong: why, and what shows it, if the script goes on there. -/
  | wrongCondition (reason near : List Char)
  deriving DecidableEq, Repr

/-- An obstacle and the line on which it was met. -/
structure Stumble where
  line : Nat
  obstacle : Obstacle
  /-- Whether it was met in a script within the script. -/
  isInner : Bool := false
  deriving DecidableEq, Repr

/-- Whether the script would have to go on, so that more text could help. -/
def Stumble.isUnfinished (stumble : Stumble) : Bool :=
  match stumble.obstacle with
  | .ended _ | .unclosed _ => true
  | _ => false

/-- What is still to be read. -/
structure Source where
  rest : List Char
  line : Nat := 1
  dialect : Dialect := .plain
  /-- Lines that have been taken out of the rest, to be counted at the next line end. -/
  taken : Nat := 0
  /-- Texts among the lines that the end of the script breaks off: the line where each is announced,
  and the word that it would have had to end with. -/
  broken : List (Nat × List Char) := []
  /-- The words that stand for other texts where commands start. -/
  aliases : List (List Char × List Char) := []
  /-- The words that have been replaced, each with how much is left once its text has been read; until
  then it stands for itself. -/
  replaced : List (List Char × Nat) := []
  /-- How much is left when a text has been read after which the next word may be replaced too. -/
  nextReplaced : Option Nat := none

/-- More than there is to be read, whatever words are replaced. -/
def Source.room (source : Source) : Nat :=
  source.rest.length + 1 + (source.aliases.map fun known => 2 * known.2.length).foldr (· + ·) 0

namespace Parser

/-- A step of reading. -/
abbrev Reading (α : Type) := StateT Source (Except Stumble) α

/-- Finds the end of a script that stands in parentheses, the first of which has been passed. -/
abbrev Nested := Source → Except Stumble Source

/-- Stop reading. -/
def stumble {α : Type} (obstacle : Obstacle) : Reading α := do
  throw { line := (← get).line, obstacle }

/-- Stop reading at what stands here; the plain shell has read a line end that stands here, and is on the
next line. -/
def stumbleHere {α : Type} (obstacle : Obstacle) : Reading α := do
  let source ← get
  let isOver := source.dialect = .plain && source.rest.head? == some '\n'
  throw { line := source.line + if isOver then 1 + source.taken else 0, obstacle }

/-- Pass over so many characters. -/
def skip (count : Nat) : Reading Unit :=
  modify fun source =>
    let lines := ((source.rest.take count).filter (· == '\n')).length
    { source with
      rest := source.rest.drop count
      line := source.line + lines + if lines = 0 then 0 else source.taken
      taken := if lines = 0 then source.taken else 0 }

/-- Pass over everything before a rest. -/
def skipTo (rest : List Char) : Reading Unit := do
  skip ((← get).rest.length - rest.length)

/-- Whether the script is one of the large shell. -/
def isLarge : Reading Bool := do
  return (← get).dialect = .large

/-- Whether a character ends a word. -/
def endsWord (c : Char) : Bool :=
  " \t\n;&|<>()".toList.contains c

/-- The words that both shells reserve. -/
def reservedWords : List String :=
  ["if", "then", "else", "elif", "fi", "case", "esac", "for", "while", "until", "do", "done", "in", "\x7b",
    "\x7d", "!"]

/-- The commands of a shell's own that are special: what they cannot do ends the plain shell. -/
def specialCommands : List String :=
  [":", ".", "eval", "exec", "exit", "export", "readonly", "return", "set", "shift", "times", "trap",
    "unset", "break", "continue"]

/-- Whether a character is a blank within a line. -/
def isGap (c : Char) : Bool :=
  c == ' ' || c == '\t'

/-- Operators that have more than one character, the longest first. -/
def operators : List String :=
  [";;&", "&>>", "<<-", "<<<", ";;", ";&", "&&", "||", "|&", "<<", ">>", "<&", ">&", "<>", ">|", "&>"]

/-- Stop at what stands here. -/
def misplaced {α : Type} (wanted : Option String) : Reading α := do
  let source ← get
  match source.rest with
  | [] => stumble (.ended wanted)
  | c :: _ =>
    let plainOperators := operators.filter fun operator => operator.toList.head? != some ';' || operator == ";;"
    let known := if source.dialect = .plain then plainOperators else operators
    match known.find? fun operator => operator.toList.isPrefixOf source.rest with
    | some operator => stumble (.misplaced operator.toList false wanted)
    | none =>
      if endsWord c then stumbleHere (.misplaced [c] false wanted)
      else stumble (.misplaced (source.rest.takeWhile fun d => !endsWord d) true wanted)

end Parser

end Umpire.Shell
