import Umpire.Shell.Builtin.Table

/-! The words of commands that tell a shell where to go on, or which command is meant. -/

namespace Umpire.Shell.Control

/-- The code that a command is given, if it is a good one. -/
def code? (name : String) (words : List (List Char)) : Doing (Option Nat) := do
  let shell ← get
  match words, shell.dialect with
  | [], _ => return some shell.status
  | word :: _, .plain =>
    match Builtin.natural? word with
    | some code => return some code
    | none => return some (← Builtin.fault name (ascii "Illegal number: " ++ word) 2)
  | [word], .large =>
    match Builtin.integer? word with
    | some code => return some (code % 256).toNat
    | none =>
      let _ ← Builtin.told name (word ++ ascii ": numeric argument required") 2
      return none
  | _, .large => Builtin.tooMany name

/-- Leave the shell. -/
def exit (words : List (List Char)) : Doing Nat := do
  match ← code? "exit" words with
  | some code => throw (.exit (code % 256))
  | none => throw (.exit 2)

/-- Leave the function or the file that is being carried out. -/
def leave (words : List (List Char)) : Doing Nat := do
  let shell ← get
  if shell.isLarge && shell.running.isEmpty then
    if let some word := words.head? then
      if (Builtin.integer? word).isNone then
        let _ ← Builtin.told "return" (word ++ ascii ": numeric argument required") 2
    Builtin.told "return" (ascii "can only \x60return' from a function or sourced script") 2
  else throw (.leaveFunction ((← code? "return" words).getD 2))

/-- Leave loops, or go on with their next round. -/
def leap (name : String) (leap : Nat → Leap) (words : List (List Char)) : Doing Nat := do
  let shell ← get
  let many (levels : Nat) : Doing Nat := do
    if shell.loops = 0 then return 0 else throw (leap (min levels shell.loops))
  match words, shell.dialect with
  | [], .plain => many 1
  | word :: _, .plain =>
    match Builtin.natural? word with
    | some (levels + 1) => many (levels + 1)
    | _ => Builtin.fault name (ascii "Illegal number: " ++ word) 2
  | _, .large =>
    if shell.loops = 0 then
      let _ ← Builtin.told name
        (ascii "only meaningful in a \x60for', \x60while', or \x60until' loop") 0
      return 0
    else
      match words with
      | [] => many 1
      | [word] =>
        match Builtin.integer? word with
        | none =>
          let _ ← Builtin.told name (word ++ ascii ": numeric argument required") 128
          throw (.exit 128)
        | some levels =>
          if 0 < levels then many levels.toNat
          else
            let _ ← Builtin.told name (word ++ ascii ": loop count out of range") 1
            setStatus 1
            throw (.leaveLoop shell.loops)
      | _ => Builtin.tooMany name

/-- The command that words mean, once words which only tell how to look for it are gone. -/
structure Summons where
  words : List (List Char)
  /-- Whether functions are passed over, and whether programs are. -/
  noFunction : Bool := false
  noProgram : Bool := false

/-- The name of the command. -/
def Summons.name (summons : Summons) : List Char :=
  summons.words.headD []

/-- What words mean. -/
def summonsOf (dialect : Dialect) : Summons → List (List Char) → Summons
  | found, first :: rest =>
    let passing (changed : Summons) (others : List (List Char)) : Summons :=
      -- A word that asks about commands is itself the command.
      match others with
      | [] => { found with words := first :: rest }
      | next :: left =>
        if next == ['-', '-'] && !left.isEmpty then { changed with words := left }
        else if next == ['-', 'p'] && !left.isEmpty then { changed with words := left }
        else if next.head? == some '-' then { found with words := first :: rest }
        else changed
    if first == ascii "command" then
      let inner := summonsOf dialect { found with noFunction := true, words := rest } rest
      passing inner rest
    else if dialect = .large && first == ascii "builtin" then
      let inner := summonsOf dialect { found with noFunction := true, noProgram := true, words := rest } rest
      passing inner rest
    else { found with words := first :: rest }
  | found, [] => found

/-- Tell what the words after the word `command` stand for. -/
def describe (words : List (List Char)) : Doing Nat := do
  let shell ← get
  Builtin.withOptions "command" "command [-pVv] command [arg ...]" "pVv" "" words fun chosen => do
    if chosen.has 'v' || chosen.has 'V' then
      Builtin.findCommands (Builtin.isOwn shell.dialect) (chosen.has 'V') chosen.words
    else return 0

/-- How waiting has come to an end: the last process has ended, or a signal has broken it off. -/
inductive Waited where
  | ended (status : Nat)
  | interrupted (status : Nat)
  deriving DecidableEq, Repr

/-- The status that waiting gives. -/
def Waited.status : Waited → Nat
  | .ended status => status
  | .interrupted status => status

/-- Wait for the processes of some jobs; a signal that is remembered breaks the wait off, and what is
said for it is carried out. -/
def waitFor (trap : Nat → Doing Unit) (telling : Bool) : Nat → List Nat → Doing Waited
  | 0, _ => return .ended 127
  | _ + 1, [] => return .ended 0
  | fuel + 1, child :: rest => do
    match ← ask (.reap (some child) true) with
    | .ok (some (_, status)) =>
      noteEnd child status
      if telling && !(← get).isLarge then tellEnd status
      if rest.isEmpty then return .ended status.shell else waitFor trap telling fuel rest
    | .ok none => return .ended 127
    | .error errno =>
      if errno = Errno.interrupted then
        match ← ask .takeSignal with
        | some number =>
          trap number
          return .interrupted (128 + number)
        | none => waitFor trap telling fuel (child :: rest)
      else if rest.isEmpty then return .ended 127
      else waitFor trap telling fuel rest

/-- Wait for the next job that ends. -/
def waitForNext (trap : Nat → Doing Unit) : Nat → Doing Nat
  | 0 => return 127
  | fuel + 1 => do
    match ← ask (.reap none true) with
    | .ok (some (child, status)) =>
      let shell ← get
      change fun kept => { kept with jobs := kept.jobs.filter fun (job : Job) => job.process != child }
      if shell.jobs.any fun (job : Job) => job.process = child then return status.shell
      else waitForNext trap fuel
    | .ok none => return 127
    | .error errno =>
      if errno = Errno.interrupted then
        match ← ask .takeSignal with
        | some number =>
          trap number
          return 128 + number
        | none => waitForNext trap fuel
      else return 127

/-- Wait for one process or job that a word names. The plain shell passes over a process that it does not
know, and the status stays what it was before. -/
def waitForWord (trap : Nat → Doing Unit) (before : Nat) (word : List Char) : Doing Nat := do
  let shell ← get
  let known := shell.jobs.map (·.process)
  let past (holds : Job → Bool) : Option Nat :=
    ((shell.ended.filter fun item => holds item.1).head?).map (·.2.shell)
  match word, shell.dialect with
  | '%' :: name, dialect =>
    let meant := shell.jobNumber? name
    let isMeant (job : Job) : Bool := some job.number = meant
    match (shell.jobs.filter isMeant).map (·.process), past isMeant with
    | first :: rest, _ => return (← waitFor trap true mostWaits (first :: rest)).status
    | [], some status => return status
    | [], none => Builtin.fault "wait" (shell.noJob name) (if dialect = .plain then 2 else 127)
  | _, dialect =>
    match Builtin.natural? word, dialect with
    | none, .plain => Builtin.fault "wait" (ascii "Illegal number: " ++ word) 2
    | none, .large =>
      Builtin.told "wait" (ascii "\x60" ++ word ++ ascii "': not a pid or valid job spec") 1
    | some process, _ =>
      match past fun job => job.process = process, shell.dialect with
      | some status, _ => return status
      | none, dialect =>
        if known.contains process || shell.lastBackground = some process then
          return (← waitFor trap true mostWaits [process]).status
        else
          match dialect with
          | .plain => return before
          | .large =>
            Builtin.told "wait" (ascii "pid " ++ word ++ ascii " is not a child of this shell") 127

/-- Wait for processes in the background. -/
def wait (trap : Nat → Doing Unit) : Builtin := fun words => do
  let shell ← get
  Builtin.withOptions "wait" "wait [-fn] [-p var] [id ...]" (if shell.isLarge then "fn" else "")
    (if shell.isLarge then "p" else "") words fun chosen => do
      if chosen.has 'n' then waitForNext trap mostWaits
      else if chosen.words.isEmpty then
        match ← waitFor trap false mostWaits (shell.jobs.map (·.process)) with
        | .ended _ => return 0
        | .interrupted status => return status
      else
        let mut status := 127
        for word in chosen.words do
          status ← waitForWord trap status word
        return status

end Umpire.Shell.Control
