import Umpire.Shell.Parser
import Umpire.Shell.State

/-! What the parameters of a shell stand for. -/

namespace Umpire.Shell

/-- What a parameter stands for. -/
inductive Holding where
  | nothing
  | text (chars : List Char)
  /-- Several texts; between quotes they become one if they are to be joined. -/
  | texts (all : List (List Char)) (joined : Bool)
  deriving DecidableEq, Repr

namespace Holding

/-- Change every text. -/
def map (f : List Char → List Char) : Holding → Holding
  | nothing => nothing
  | text chars => text (f chars)
  | texts all joined => texts (all.map f) joined

/-- The texts. -/
def toList : Holding → List (List Char)
  | nothing => []
  | text chars => [chars]
  | texts all _ => all

/-- A text that there may be. -/
def ofOption : Option (List Char) → Holding
  | none => nothing
  | some chars => text chars

end Holding

/-- The characters that separate fields. -/
def separators (shell : Session) : List Char :=
  (shell.valueOf? (ascii "IFS")).getD [' ', '\t', '\n']

/-- Texts joined by the first character that separates fields. -/
def joinedBySeparator (shell : Session) (all : List (List Char)) : List Char :=
  ((separators shell).take 1).intercalate all

/-- The letters of the switches in the order in which each shell tells them. -/
def letters (dialect : Dialect) : List (Char × String) :=
  match dialect with
  | .plain =>
    [('e', "errexit"), ('f', "noglob"), ('I', "ignoreeof"), ('i', "interactive"), ('m', "monitor"),
      ('n', "noexec"), ('s', "stdin"), ('x', "xtrace"), ('v', "verbose"), ('V', "vi"), ('E', "emacs"),
      ('C', "noclobber"), ('a', "allexport"), ('b', "notify"), ('u', "nounset")]
  | .large =>
    [('a', "allexport"), ('b', "notify"), ('e', "errexit"), ('f', "noglob"), ('h', "hashall"),
      ('k', "keyword"), ('m', "monitor"), ('n', "noexec"), ('p', "privileged"), ('t', "onecmd"),
      ('u', "nounset"), ('v', "verbose"), ('x', "xtrace"), ('B', "braceexpand"), ('C', "noclobber"),
      ('E', "errtrace"), ('H', "histexpand"), ('P', "physical"), ('T', "functrace")]

/-- The letters of what has been switched on, and of how the shell was started. -/
def switchedLetters (shell : Session) : List Char :=
  let on := ((letters shell.dialect).filter fun known => shell.has known.2).map (·.1)
  -- The plain shell tells them from the last one to the first.
  (if shell.isLarge then on else on.reverse) ++
    -- The plain shell does not tell that its script was one of its words.
    shell.manner.filter fun c => shell.isLarge || c != 'c'

/-- The number that digits spell. -/
def numberOfDigits (digits : List Char) : Nat :=
  digits.foldl (fun n c => n * 10 + (c.toNat - 48)) 0

/-- What a parameter other than an element of an array stands for. -/
def parameter (shell : Session) (name : List Char) : Holding :=
  match name with
  | ['#'] => .text (numeral shell.arguments.length)
  | ['?'] => .text (numeral shell.status)
  | ['$'] => .text (numeral shell.self)
  | ['!'] => .ofOption (shell.lastBackground.map numeral)
  | ['-'] => .text (switchedLetters shell)
  | ['0'] => .text shell.name
  | ['@'] => .texts shell.arguments false
  | ['*'] => .texts shell.arguments true
  | ['_'] => if shell.isLarge then .text shell.lastWord else .ofOption (shell.valueOf? name)
  | first :: _ =>
    if first.isDigit then .ofOption shell.arguments[numberOfDigits name - 1]?
    else .ofOption (shell.valueOf? name)
  | [] => .nothing

/-- What the variables that a shell makes up by itself stand for. -/
def dynamic? (name : List Char) : Doing (Option Holding) := do
  let shell ← get
  let known := (shell.values.lookup name).isSome
  match String.ofList name, shell.dialect with
  | "LINENO", .large => return some (.text (numeral shell.line))
  | "PIPESTATUS", .large => return some (.texts (shell.statuses.map numeral) false)
  | "RANDOM", .large => do
    let time ← ask .clock
    return some (.text (numeral ((time * 1103515245 + 12345) / 65536 % 32768)))
  | "SECONDS", .large =>
    if known then return none
    else
      let time ← ask .clock
      return some (.text (numeral ((time - shell.started) / 1000000)))
  | "BASHPID", .large => return some (.text (numeral (← ask .identity).1))
  | "BASH_SUBSHELL", .large => return some (.text (numeral shell.depth))
  | "FUNCNAME", .large =>
    let outermost := if shell.isFile && !shell.running.isEmpty then [ascii "main"] else []
    return some (.texts (shell.running ++ outermost) false)
  | "BASH_SOURCE", .large =>
    return some (.texts (shell.sources ++ if shell.isFile then [shell.name] else []) false)
  | "BASH_EXECUTION_STRING", .large =>
    return if shell.manner.contains 'c' then some (.text shell.script) else none
  | "BASH_COMMAND", .large =>
    -- A choice is told as it stands; no simple command starts with its word.
    let isChoice := (ascii "case ").isPrefixOf shell.command
    return some (.text (if isChoice then shell.command else Parser.shownFrom true shell.command))
  | "GROUPS", .large => return some (.texts [['0']] false)
  | "SHELLOPTS", .large =>
    let names := (letters .large).map (·.2) ++
      ["emacs", "history", "ignoreeof", "interactive-comments", "nolog", "pipefail", "posix", "vi"]
    let on := (names.filter shell.has).mergeSort fun a b => a ≤ b
    return some (.text (ascii (":".intercalate on)))
  | "DIRSTACK", .large => return some (.texts shell.stacked false)
  | _, _ => return none

/-- The entries of the array or text that a variable holds, in the order in which they are listed. -/
def entriesOf (shell : Session) (name : List Char) : List (List Char × List Char) :=
  ((shell.held? name).map (·.content.entries)).getD []

/-- The numbers or the key by which an element of an array is told; none if the number is none of it. -/
abbrev Key := List Char ⊕ Nat

/-- The value of an element of an array. -/
def elementOf? (shell : Session) (name : List Char) (key : Key) : Option (List Char) :=
  match ((shell.held? name).map (·.content)).getD .none, key with
  | .table items, .inl text => items.lookup text
  | .table _, .inr _ => none
  | content, .inr number => content.numbered.lookup number
  | _, .inl _ => none

/-- The names of all variables that start with a text, in order. -/
def namesFrom (shell : Session) (start : List Char) : List (List Char) :=
  ((shell.values.map (·.1)).filter fun name => start.isPrefixOf name).mergeSort fun a b =>
    !Bytes.before (octets b) (octets a)

end Umpire.Shell
