import Umpire.Host.Install
import Umpire.Shell.State

/-! The processes of a shell: starting and awaiting them, and running programs in them. -/

namespace Umpire.Shell

/-- What a new shell process forgets of the one it comes from: what traps say has no effect in it. -/
def becomeChild : Doing Unit := do
  let shell ← get
  for (number, action) in shell.traps do
    if !action.isEmpty && number != 0 then
      let _ ← ask (.setAction number .standard)
  change fun kept => { kept with
    traps := kept.traps.filter fun known => known.2.isEmpty
    failureTrap := if kept.has "errtrace" then kept.failureTrap else none
    stepTrap := if kept.has "functrace" then kept.stepTrap else none
    returnTrap := if kept.has "functrace" then kept.returnTrap else none
    depth := kept.depth + 1
    isHushed := false
    coprocess := none
    elder := if kept.isLarge then kept.jobs else []
    jobs := [] }

/-- The code with which a new process ends that has left what it does in some way. -/
def codeOfLeap (leap : Leap) (status : Nat) : Nat :=
  match leap with
  | .exit code | .leaveLine code | .leaveFunction code => code
  | .giveUp => 2
  | .leaveLoop _ | .nextRound _ => status

/-- Do something in a new process, which ends with the shell's status then, after what is to be done at
its end. -/
def inChild (atEnd : Nat → Doing Nat) (doing : Doing Unit) : Doing (Option Nat) := do
  match ← ask .fork with
  | .error errno =>
    complain (ascii "Cannot fork: " ++ ascii errno.usual)
    return none
  | .ok (some child) => return some child
  | .ok none =>
    becomeChild
    -- However the child leaves what it does, it never goes on with what its parent does.
    let code ← match ← attempt doing with
      | .error leap => do pure (codeOfLeap leap (← get).status)
      | .ok () => do pure (← get).status
    throw (.exit (← atEnd code))

/-- The wording for an end by a signal. -/
def signalText (signal : Nat) : String :=
  match signal with
  | 1 => "Hangup"
  | 3 => "Quit"
  | 4 => "Illegal instruction"
  | 5 => "Trace/breakpoint trap"
  | 6 => "Aborted"
  | 7 => "Bus error"
  | 8 => "Floating point exception"
  | 9 => "Killed"
  | 10 => "User defined signal 1"
  | 11 => "Segmentation fault"
  | 12 => "User defined signal 2"
  | 14 => "Alarm clock"
  | 15 => "Terminated"
  | 16 => "Stack fault"
  | 24 => "CPU time limit exceeded"
  | 25 => "File size limit exceeded"
  | 26 => "Virtual timer expired"
  | 27 => "Profiling timer expired"
  | 29 => "I/O possible"
  | 30 => "Power failure"
  | 31 => "Bad system call"
  | _ => s!"Unknown signal {signal}"

/-- Tell which signal has ended a process that was waited for. Of the large shell's telling, what shows
the numbers of processes is left out. -/
def tellEnd (status : WaitStatus) : Doing Unit := do
  let shell ← get
  match status.signal? with
  | some signal =>
    let isTrapped := shell.traps.any fun known => known.1 = signal && !known.2.isEmpty
    let isTold := match shell.dialect with
      | .plain => true
      | .large => !shell.isHushed && (signal = Host.Signal.term || isTrapped)
    if isTold && signal != 2 && signal != Host.Signal.pipe then
      let _ ← say 2 (ascii (signalText signal) ++ ['\n'])
  | none => return ()

/-- Wait until a child has ended, and perhaps tell of its end; signals that are remembered have to wait
too. -/
def await (telling : Bool) (child : Nat) : Nat → Doing Nat
  | 0 => return 127
  | fuel + 1 => do
    match ← ask (.reap (some child) true) with
    | .ok (some (_, status)) =>
      if telling then tellEnd status
      return status.shell
    | .ok none => return 127
    | .error errno => if errno = Errno.interrupted then await telling child fuel else return 127

/-- How often a wait is taken up again. -/
def mostWaits : Nat := 1000000

/-- The directories that programs are looked for in. -/
def searched (shell : Session) : List (List Char) :=
  ((shell.valueOf? (ascii "PATH")).getD []).splitOn ':'

/-- The path of the first program of a name in some directories. -/
def whereabouts? (name : List Char) : List (List Char) → Doing (Option (List Char))
  | [] => return none
  | directory :: rest => do
    let path := if name.contains '/' then name
      else (if directory.isEmpty then ['.'] else directory) ++ '/' :: name
    match ← ask (.info (octets path) true) with
    | .ok info =>
      if info.kind == .file && info.mode &&& 0o111 != 0 then return some path
      else whereabouts? name rest
    | .error _ => whereabouts? name rest

/-- Tell that a program could not be run, perhaps in place of the shell. Without directories to search, a
name is a path. -/
def tellRefusal (replacing isPath : Bool) (name : List Char) (refusal : Errno) : Doing Unit := do
  let shell ← get
  let missing := refusal = Errno.noEntry
  let usual := ascii refusal.usual
  match shell.dialect with
  | .plain =>
    complain ((if replacing then ascii "exec: " else []) ++ name ++ ascii ": " ++
      if missing then ascii "not found" else usual)
  | .large =>
    if missing && !isPath then
      if replacing then complain (ascii "exec: " ++ name ++ ascii ": not found")
      else complain (name ++ ascii ": command not found")
    else
      let info ← ask (.info (octets name) true)
      let isDirectory := (info.toOption.map (·.kind)) == some .directory
      let reason := if isDirectory then ascii "Is a directory"
        else if missing && info.toOption.isSome then ascii "cannot execute: required file not found"
        else usual
      complain (name ++ ascii ": " ++ reason)
      if replacing && !missing then
        complain (ascii "exec: " ++ name ++ ascii ": cannot execute: " ++ reason)

/-- The program that runs a file whose form the host does not know. -/
def scriptShell (dialect : Dialect) : Bytes :=
  Bytes.ofString (match dialect with
    | .plain => "/bin/sh"
    | .large => "/bin/bash")

/-- How a program is run. -/
structure Running where
  /-- Whether the command says that the program is to take the shell's place. -/
  replacing : Bool := false
  /-- Whether the shell itself turns into the program. -/
  turning : Bool := false
  /-- Whether the program gets no variables but those that are set for it. -/
  bare : Bool := false
  /-- The name that the program gets for itself, if it is not the one it is found by. -/
  calledAs : Option (List Char) := none

/-- Run a program in this process; it is told if that fails. -/
def runProgram (how : Running) (words : List (List Char)) (more : List (List Char × List Char)) :
    Doing Unit := do
  let shell ← get
  let name := words.headD []
  let searching := match more.lookup (ascii "PATH") with
    | some path => path.splitOn ':'
    | none => searched shell
  let found ← if shell.isLarge then whereabouts? name searching else pure none
  let level := (shell.valueOf? (ascii "SHLVL")).bind fun chars =>
    match Numeral.readNat 999 chars with
    | .ok number => some number
    | .error _ => none
  let lowered : Session := match shell.isLarge && how.turning, level with
    | true, some number => shell.setVariable (ascii "SHLVL") (numeral (number - 1))
    | _, _ => shell
  let told := if shell.isLarge then more ++ [(ascii "_", found.getD name)] else more
  let environment := if how.bare then more.map fun pair => (octets pair.1, octets pair.2)
    else lowered.environment told
  let given := (how.calledAs.getD name :: words.tail).map octets
  let script := some (scriptShell shell.dialect)
  let refusal ← outside (
    if name.isEmpty then return Errno.noEntry
    else if name.contains '/' then Host.runFile (octets name) given environment script
    else if 255 < name.length then return Errno.nameTooLong
    else Host.runFrom (octets name) given environment script Errno.noEntry (searching.map octets))
  let missing := refusal = Errno.noEntry
  tellRefusal how.replacing (name.contains '/' || searching.all (·.isEmpty)) name refusal
  throw (.exit (if missing || refusal = Errno.nameTooLong || refusal = Errno.linkLoop then 127 else 126))

end Umpire.Shell
