import Umpire.Host.Transfer
import Umpire.Shell.Source
import Umpire.Shell.Variable

/-! The state of a shell, and the steps that its commands are made of. -/

namespace Umpire.Shell

/-- A child in the background. -/
structure Job where
  process : Nat
  /-- The number by which it can be named. -/
  number : Nat
  /-- How its command is written. -/
  shown : List Char := []
  deriving DecidableEq, Repr

/-- A function of a shell. -/
structure Function where
  body : Command
  /-- The name of the text that it was made in, by which complaints in it are told. -/
  source : List Char

/-- What a shell keeps. -/
structure Session where
  dialect : Dialect
  /-- The name under which it complains. -/
  name : List Char
  arguments : List (List Char) := []
  values : List (List Char × Variable) := []
  functions : List (List Char × Function) := []
  /-- For every running function, the variables that it has to itself, with what they stood for
  before, the innermost first. -/
  hidden : List (List (List Char × Option Variable)) := []
  /-- The names of the functions that run, and of the commands that read files, the innermost first. -/
  running : List (List Char) := []
  /-- The names of the texts that functions and files being read come from, the innermost first. -/
  sources : List (List Char) := []
  /-- Whether the script is in a file. -/
  isFile : Bool := false
  /-- How many loops are running. -/
  loops : Nat := 0
  /-- How deep the process stands below the one that the script belongs to. -/
  depth : Nat := 0
  /-- Whether nothing is told of the ends of processes, since what the shell prints is collected. -/
  isHushed : Bool := false
  /-- The status of the last command, and those of all commands of the last pipeline. -/
  status : Nat := 0
  statuses : List Nat := [0]
  /-- The process that the script belongs to. -/
  self : Nat := 0
  lastBackground : Option Nat := none
  /-- The last word of the last command. -/
  lastWord : List Char := []
  /-- What is run for signals; zero stands for the end of the shell, an empty text for nothing. -/
  traps : List (Nat × List Char) := []
  /-- What is run for commands that fail. -/
  failureTrap : Option (List Char) := none
  /-- What is run before every command, and what is run after functions and files that are read. -/
  stepTrap : Option (List Char) := none
  returnTrap : Option (List Char) := none
  /-- The command that runs, as it is written, and whether it is part of what a trap says. -/
  command : List Char := []
  inAction : Bool := false
  /-- Processes in the background that have not been waited for, and the statuses of those that have. -/
  jobs : List Job := []
  ended : List (Job × WaitStatus) := []
  /-- The jobs of the shell that this one comes from, which can be shown. -/
  elder : List Job := []
  /-- The process at the other ends of two pipes: the name of the array that tells them, the process and
  the two descriptors. -/
  coprocess : Option (List Char × Nat × Nat × Nat) := none
  /-- The words that stand for other texts where commands start. -/
  aliases : List (List Char × List Char) := []
  /-- The names of what has been switched on. -/
  switches : List String := []
  /-- The letters that tell how the shell was started. -/
  manner : List Char := []
  /-- The line of the command that runs. -/
  line : Nat := 1
  /-- The status of the last script that was run for what it prints, within one command. -/
  lastOutput : Option Nat := none
  /-- How many letters of the current word of options have been read. -/
  optionPlace : Nat := 0
  /-- The builtin command that runs, whose name goes before the plain shell's complaints. -/
  builtin : Option (List Char) := none
  /-- Where traces and complaints about them go while a command's own output is redirected. -/
  traceTo : Nat := 2
  /-- Ends of pipes that are open while one command runs, with the processes at the other ends. -/
  openEnds : List Nat := []
  /-- The text of the script that runs, and its first line, from which complaints quote. -/
  script : List Char := []
  firstLine : Nat := 1
  /-- The kind of script that runs, if it is not the shell's own. -/
  scriptKind : Option (List Char) := none
  /-- The directories that are to be come back to. -/
  stacked : List (List Char) := []
  /-- When the shell was started. -/
  started : Nat := 0
  /-- How many scripts within others are being carried out. -/
  nested : Nat := 0

/-- Ways of leaving a command early. -/
inductive Leap where
  | exit (code : Nat)
  | leaveLoop (levels : Nat)
  | nextRound (levels : Nat)
  | leaveFunction (code : Nat)
  /-- What is left of the line is not carried out. -/
  | leaveLine (code : Nat)
  /-- The plain shell ends, or the builtin command that runs if it is no special one. -/
  | giveUp
  deriving DecidableEq, Repr

/-- A step of a shell: it keeps its state even if it leaves early. -/
abbrev Doing (α : Type) := ExceptT Leap (StateT Session Host.Talk) α

/-- Make one call on the host. -/
def ask (wanted : Host.Call) : Doing wanted.Answer :=
  ExceptT.lift (StateT.lift (Host.call wanted))

/-- Do something that needs nothing of the shell. -/
def outside {α : Type} (talk : Host.Talk α) : Doing α :=
  ExceptT.lift (StateT.lift talk)

/-- The octets of a text. -/
def octets (chars : List Char) : Bytes :=
  Bytes.ofOctets chars

/-- A number as text. -/
def numeral (n : Nat) : List Char :=
  Numeral.ofNat n

/-- A text of ASCII characters. -/
def ascii (text : String) : List Char :=
  text.toList

namespace Session

/-- Whether this is the large shell. -/
def isLarge (shell : Session) : Bool :=
  shell.dialect = .large

/-- Whether something has been switched on. -/
def has (shell : Session) (name : String) : Bool :=
  shell.switches.contains name

/-- Switch something on or off. -/
def switch (shell : Session) (name : String) (on : Bool) : Session :=
  let others := shell.switches.filter (· != name)
  { shell with switches := if on then others ++ [name] else others }

/-- The variable that a name stands for in the end, if names stand for other names. -/
def meant (shell : Session) : Nat → List Char → List Char
  | 0, name => name
  | fuel + 1, name =>
    match shell.values.lookup name with
    | some ⟨.text target, _, _, _, _, true⟩ => shell.meant fuel target
    | _ => name

/-- The variable of a name. -/
def held? (shell : Session) (name : List Char) : Option Variable :=
  shell.values.lookup (shell.meant 8 name)

/-- The value of a variable. -/
def valueOf? (shell : Session) (name : List Char) : Option (List Char) :=
  (shell.held? name).bind (·.content.scalar?)

/-- Put a variable in the place of the one of its name. -/
def putVariable (shell : Session) (name : List Char) (kept : Variable) : Session :=
  let real := shell.meant 8 name
  { shell with values :=
      if (shell.values.lookup real).isSome then
        shell.values.map fun known => if known.1 = real then (real, kept) else known
      else (real, kept) :: shell.values }

/-- Change what a variable holds; all else about it stays. -/
def putContent (shell : Session) (name : List Char) (content : Content) : Session :=
  let known := (shell.held? name).getD {}
  let exported := known.exported || shell.has "allexport"
  shell.putVariable name { known with content := content, exported := exported }

/-- Set a variable to a text; of an array, the first element. -/
def setVariable (shell : Session) (name value : List Char) : Session :=
  let content : Content := match shell.held? name with
    | some ⟨.list items, _, _, _, _, _⟩ => .list (Content.put 0 value items)
    | some ⟨.table items, _, _, _, _, _⟩ => .table (Content.putKey ['0'] value items)
    | _ => .text value
  shell.putContent name content

/-- Forget a variable. -/
def forget (shell : Session) (name : List Char) : Session :=
  let real := shell.meant 8 name
  { shell with values := shell.values.filter fun known => known.1 != real }

/-- Whether a variable cannot be changed. -/
def isFixed (shell : Session) (name : List Char) : Bool :=
  (shell.held? name).any (·.fixed)

/-- The words that stand for other texts in scripts that are read now. -/
def replacements (shell : Session) : List (List Char × List Char) :=
  if shell.isLarge && !shell.has "expand_aliases" then [] else shell.aliases

/-- Put back what variables stood for. -/
def putBack (shell : Session) : List (List Char × Option Variable) → Session
  | [] => shell
  | (name, old) :: rest =>
    let others := shell.values.filter fun known => known.1 != name
    putBack { shell with values := (old.toList.map fun found => (name, found)) ++ others } rest

/-- The place among the plain shell's variables that a name tells, by which they are listed. -/
def plainPlace (name : List Char) : Nat :=
  (name.foldl (fun sum c => sum + c.toNat) ((name.headD '\x00').toNat * 16)) % 39

/-- Variables in the order in which programs get them. -/
def ordered (shell : Session) (pairs : List (List Char × List Char)) : List (List Char × List Char) :=
  match shell.dialect with
  | .plain => pairs.reverse.mergeSort fun a b => plainPlace a.1 ≤ plainPlace b.1
  | .large => pairs.mergeSort fun a b => Content.bucket a.1 ≤ Content.bucket b.1

/-- The environment of programs, with some variables set for one of them. -/
def environment (shell : Session) (more : List (List Char × List Char)) : List (Bytes × Bytes) :=
  let exported := shell.values.filterMap fun known =>
    match known.2.exported, known.2.content with
    | true, .text chars => some (known.1, chars)
    | _, _ => none
  let setIn (pairs : List (List Char × List Char)) (pair : List Char × List Char) :
      List (List Char × List Char) :=
    if (pairs.lookup pair.1).isSome then pairs.map fun known => if known.1 = pair.1 then pair else known
    else
      match shell.dialect with
      | .plain => pair :: pairs
      | .large => pairs ++ [pair]
  let all := match shell.dialect with
    | .plain => shell.ordered (more.foldl setIn exported)
    | .large => more.foldl setIn (shell.ordered exported)
  all.map fun pair => (octets pair.1, octets pair.2)

/-- The start of a complaint. -/
def complaintStart (shell : Session) : List Char :=
  match shell.dialect with
  | .plain =>
    let inBuiltin := match shell.builtin with
      | some name => name ++ ascii ": "
      | none => []
    shell.name ++ ascii ": " ++ numeral shell.line ++ ascii ": " ++ inBuiltin
  | .large =>
    shell.sources.headD shell.name ++ ascii ": line " ++ numeral shell.line ++ ascii ": "

/-- The start of a complaint that names the command that complains in both shells. -/
def complaintStartIn (shell : Session) (command : List Char) : List Char :=
  match shell.dialect with
  | .plain => shell.name ++ ascii ": " ++ numeral shell.line ++ ascii ": " ++ command ++ ascii ": "
  | .large => shell.complaintStart ++ command ++ ascii ": "

/-- Set the status of the last command. -/
def withStatus (shell : Session) (status : Nat) : Session :=
  { shell with status }

end Session

/-- Change the shell. -/
def change (f : Session → Session) : Doing Unit :=
  modify f

/-- Write a text. -/
def say (fd : Nat) (chars : List Char) : Doing (Except Errno Unit) :=
  outside (Host.writeAll fd (octets chars))

/-- Complain on standard error. -/
def complain (chars : List Char) : Doing Unit := do
  let shell ← get
  let _ ← say 2 (shell.complaintStart ++ chars ++ ['\n'])

/-- Complain in the name of a command, and give a status. -/
def failing (name : List Char) (chars : List Char) (status : Nat) : Doing Nat := do
  let shell ← get
  let _ ← say 2 (shell.complaintStartIn name ++ chars ++ ['\n'])
  return status

/-- Set the status of the last command. -/
def setStatus (status : Nat) : Doing Unit :=
  change fun shell => shell.withStatus status

/-- Do something, and tell how it was left instead of leaving. -/
def attempt {α : Type} (doing : Doing α) : Doing (Except Leap α) :=
  ExceptT.mk (do return .ok (← doing.run))

/-- Complain about something that the shell cannot go on after. The plain shell ends then, and the
large one gives up the line, or ends as well. -/
def refuse {α : Type} (chars : List Char) (ends : Bool) : Doing α := do
  complain chars
  let shell ← get
  match shell.dialect with
  | .plain => throw .giveUp
  | .large =>
    if ends then throw (.exit (if shell.depth = 0 then 127 else 1))
    else throw (.leaveLine 1)

end Umpire.Shell
