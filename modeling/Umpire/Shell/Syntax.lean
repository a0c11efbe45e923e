/-! Shell commands as trees. Texts are lists of octets, so that scripts and data may be any bytes. -/

namespace Umpire.Shell

/-- Where a text is looked for that is to be replaced. -/
inductive Reach where
  | first
  | all
  | start
  | finish
  deriving DecidableEq, Repr

/-- What an expansion does with the value of its parameter. -/
inductive Use where
  | value
  | length
  /-- Another text if there is no value. -/
  | default
  /-- The same, and the parameter keeps that text. -/
  | assign
  /-- A complaint if there is no value. -/
  | require
  /-- Another text if there is a value. -/
  | alternative
  /-- The value without what a pattern matches at its start, or at its end. -/
  | dropStart (longest : Bool)
  | dropEnd (longest : Bool)
  /-- The part from an offset on, of some length if one is given. -/
  | slice
  /-- The value with what a pattern matches replaced. -/
  | replace (reach : Reach)
  /-- The value with its first letter, or all of them, in another case. -/
  | recase (upper all : Bool)
  /-- The value in another form, which a letter names. -/
  | transform (letter : Char)
  /-- The keys of an array. -/
  | keys
  /-- The names of all variables that start with a text. -/
  | names
  /-- Nothing, since what stands between the braces makes no sense. -/
  | senseless
  deriving DecidableEq, Repr

/-- An expansion of a parameter. -/
structure Expansion where
  name : List Char
  /-- The text between brackets that tells an element of an array. -/
  subscript : Option (List Char) := none
  /-- Whether the value is the name of the parameter that is meant. -/
  indirect : Bool := false
  use : Use := .value
  /-- Whether an empty value counts as none. -/
  emptyIsNone : Bool := false
  /-- The text between the operator and the brace, not read yet. -/
  operand : List Char := []
  /-- What stands between the braces, as it is written. -/
  whole : List Char := []
  deriving DecidableEq, Repr

/-- A stretch of a word. -/
inductive Part where
  | text (chars : List Char) (quoted : Bool)
  | parameter (expansion : Expansion) (quoted : Bool)
  /-- What a script prints. -/
  | output (script : List Char) (quoted : Bool)
  /-- The value of an arithmetic term. -/
  | arithmetic (term : List Char) (quoted : Bool)
  /-- The name of an end of a pipe whose other end a script writes to, or reads from. -/
  | process (writes : Bool) (script : List Char)
  /-- The elements of an array between parentheses, not read yet. -/
  | elements (chars : List Char)
  deriving DecidableEq, Repr

/-- A word as it is written. -/
abbrev Word := List Part

/-- An assignment to a variable or to an element of one. -/
structure Assignment where
  name : List Char
  subscript : Option (List Char) := none
  /-- Whether what is given is added to what is there. -/
  adds : Bool := false
  value : Word
  deriving DecidableEq, Repr

/-- What a redirection does. -/
inductive Direction where
  | read
  | write
  /-- Write even to a file that is not to be written over. -/
  | overwrite
  | append
  | both
  /-- Write standard output and standard error to one file. -/
  | writeAll
  | appendAll
  /-- The number, or the hyphen that closes, stands in the word. -/
  | duplicateInput
  | duplicateOutput
  /-- The word is itself what can be read. -/
  | document
  /-- The same, with a line end after it. -/
  | line
  deriving DecidableEq, Repr

/-- Which descriptor a redirection is about. -/
inductive Target where
  | number (fd : Nat)
  /-- A new one, whose number a variable is to have. -/
  | variable (name : List Char)
  deriving DecidableEq, Repr

/-- A redirection of a descriptor. -/
structure Redirection where
  target : Target
  direction : Direction
  word : Word
  /-- How the word is written. -/
  shown : List Char := []
  deriving DecidableEq, Repr

/-- A condition between double brackets. -/
inductive Condition where
  | filled (word : Word)
  | unary (operator : List Char) (word : Word)
  | binary (operator : List Char) (left right : Word)
  | negated (condition : Condition)
  | both (first second : Condition)
  | either (first second : Condition)
  deriving Repr

/-- What happens after an arm of a choice. -/
inductive AfterArm where
  | leave
  /-- The next arm is carried out, whether it fits or not. -/
  | fallThrough
  /-- The arms that follow are tried as well. -/
  | tryNext
  deriving DecidableEq, Repr

/-- A command. -/
inductive Command where
  | nothing
  /-- A command without others in it; how it is written as well. -/
  | simple (line : Nat) (assignments : List Assignment) (words : List Word)
      (redirections : List Redirection) (shown : List Char)
  | sequence (first second : Command)
  | both (first second : Command)
  | either (first second : Command)
  | negated (command : Command)
  /-- A command of which is told how long it takes, perhaps in the form for programs. -/
  | timed (portable : Bool) (command : Command)
  | pipeline (commands : List Command)
  /-- A command that nobody waits for; how it is written as well. -/
  | background (command : Command) (shown : List Char)
  | group (body : Command) (redirections : List Redirection)
  | subshell (body : Command) (redirections : List Redirection)
  | conditional (test body otherwise : Command) (redirections : List Redirection)
  | loop (wanted : Bool) (test body : Command) (redirections : List Redirection)
  /-- A loop over words, or over all arguments; how they are written as well. -/
  | forEach (line : Nat) (name : List Char) (words : Option (List Word)) (shown : List Char)
      (body : Command) (redirections : List Redirection)
  /-- A loop over what is chosen from a menu of words. -/
  | menu (line : Nat) (name : List Char) (words : Option (List Word)) (shown : List Char)
      (body : Command) (redirections : List Redirection)
  /-- A command at the other ends of two pipes, which an array of the name tells. -/
  | coprocess (name : List Char) (command : Command) (shown : List Char)
  /-- A loop told by three arithmetic terms: at the start, before and after every round. -/
  | count (line : Nat) (start test step : List Char) (body : Command)
      (redirections : List Redirection)
  /-- A choice by a word; how it is written as well. -/
  | choice (line : Nat) (word : Word) (shown : List Char) (arms : List (List Word × Command × AfterArm))
      (redirections : List Redirection)
  | arithmetic (line : Nat) (term : List Char) (redirections : List Redirection)
  | condition (line : Nat) (condition : Condition) (shown : List Char) (redirections : List Redirection)
  | define (name : List Char) (body : Command)
  deriving Repr

/-- Whether a character can start a name. -/
def startsName (c : Char) : Bool :=
  c.isAlpha || c == '_'

/-- Whether a character can be part of a name. -/
def inName (c : Char) : Bool :=
  c.isAlphanum || c == '_'

/-- Whether a text is a name. -/
def isName (chars : List Char) : Bool :=
  match chars with
  | [] => false
  | first :: rest => startsName first && rest.all inName

end Umpire.Shell
