import Umpire.Shell.Builtin.Basic
import Umpire.Shell.Jobs
import Umpire.Tool.Mode

/-! Builtin commands about directories, masks, bounds and signals. -/

namespace Umpire.Shell.Builtin

open Tool

/-- The names of a path without those that lead nowhere. -/
def straightened (names : List (List Char)) : List (List Char) :=
  (names.foldl (fun kept name =>
    if name.isEmpty || name == ['.'] then kept
    else if name == ['.', '.'] then kept.drop 1
    else name :: kept) []).reverse

/-- A path seen from a directory, without dots and repeated slashes. -/
def seenFrom (directory path : List Char) : List Char :=
  let whole := if path.head? == some '/' then path else directory ++ '/' :: path
  '/' :: ['/'].intercalate (straightened (whole.splitOn '/'))

/-- The directory in which the process works. -/
def workplace : Doing (List Char) := do
  match ← ask (.readLink (Bytes.ofString "/proc/self/cwd")) with
  | .ok path => return Bytes.toOctets path
  | .error _ => return ['/']

/-- The directory in which the shell works, by the name that it has come by. -/
def directory : Doing (List Char) := do
  let shell ← get
  match shell.valueOf? (ascii "PWD") with
  | some path => return path
  | none => workplace

/-- Set a variable that programs are to see. -/
def setShared (name value : List Char) : Doing Unit :=
  change fun shell =>
    let set := shell.setVariable name value
    set.putVariable name { (set.held? name).getD {} with exported := true }

/-- Go to a directory, and remember where that is. -/
def enter (name : String) (target : List Char) (physical : Bool) : Doing Nat := do
  let shell ← get
  let old ← directory
  let seen := seenFrom old target
  match ← ask (.enterDirectory (octets (if physical then target else seen))) with
  | .ok () =>
    let new ← if physical then workplace else pure seen
    setShared (ascii "OLDPWD") old
    setShared (ascii "PWD") new
    return 0
  | .error errno =>
    match shell.dialect with
    | .plain => told name (ascii "can't cd to " ++ target) 2
    | .large => told name (target ++ ascii ": " ++ ascii errno.usual) 1

/-- Go to another directory. -/
def cd : Builtin := fun words => do
  let shell ← get
  let help := "cd [-L|[-P [-e]] [-@]] [dir]"
  withOptions "cd" help (if shell.isLarge then "LPe@" else "LP") "" words fun chosen => do
    let physical := (chosen.options.getLast?.map (·.1)) == some 'P'
    match chosen.words, shell.dialect with
    | _ :: _ :: _, .large => told "cd" (ascii "too many arguments") 1
    | ['-'] :: _, _ =>
      match shell.valueOf? (ascii "OLDPWD"), shell.dialect with
      | none, .large => told "cd" (ascii "OLDPWD not set") 1
      | found, _ =>
        let target := found.getD (← directory)
        let status ← enter "cd" target physical
        if status = 0 then print "cd" ((← directory) ++ ['\n']) else return status
    | [] :: _, _ => return 0
    | target :: _, _ => enter "cd" target physical
    | [], _ =>
      match shell.valueOf? (ascii "HOME"), shell.dialect with
      | some home, _ => if home.isEmpty then return 0 else enter "cd" home physical
      | none, .plain => return 0
      | none, .large => told "cd" (ascii "HOME not set") 1

/-- Show the working directory. -/
def pwd : Builtin := fun words =>
  withOptions "pwd" "pwd [-LP]" "LP" "" words fun chosen => do
    let physical := (chosen.options.getLast?.map (·.1)) == some 'P'
    print "pwd" ((← if physical then workplace else directory) ++ ['\n'])

/-- Show the directories that are to be come back to. -/
def dirs : Builtin := fun _ => do
  let shell ← get
  print "dirs" ([' '].intercalate ((← directory) :: shell.stacked) ++ ['\n'])

/-- Go to a directory, and remember the one that is left. -/
def pushd : Builtin := fun words => do
  let shell ← get
  let old ← directory
  match words, shell.stacked with
  | [], [] => told "pushd" (ascii "no other directory") 1
  | [], first :: rest =>
    let status ← enter "pushd" first false
    if status != 0 then return status
    change fun kept => { kept with stacked := old :: rest }
    dirs []
  | target :: _, stacked =>
    let status ← enter "pushd" target false
    if status != 0 then return status
    change fun kept => { kept with stacked := old :: stacked }
    dirs []

/-- Come back to the directory that was left last. -/
def popd : Builtin := fun _ => do
  let shell ← get
  match shell.stacked with
  | [] => told "popd" (ascii "directory stack empty") 1
  | first :: rest =>
    let status ← enter "popd" first false
    if status != 0 then return status
    change fun kept => { kept with stacked := rest }
    dirs []

/-- What a mask leaves to everybody, in letters. -/
def maskLetters (mask : Nat) : List Char :=
  let shown (bits : Nat) : List Char := (Mode.letters bits).filter (· != '-')
  let left := 0o777 - mask
  ascii "u=" ++ shown (left / 64) ++ ascii ",g=" ++ shown (left / 8 % 8) ++ ascii ",o=" ++ shown (left % 8)

/-- Show or set the permission bits that new files do not get. -/
def umask : Builtin := fun words => do
  let shell ← get
  let large := shell.isLarge
  withOptions "umask" "umask [-p] [-S] [mode]" (if large then "Sp" else "S") "" words fun chosen => do
    let mask ← ask (.setMask 0)
    let _ ← ask (.setMask mask)
    let digits := Nat.toDigits 8 mask
    let octal := List.replicate (4 - digits.length) '0' ++ digits
    match chosen.words with
    | [] =>
      let shown := if chosen.has 'S' then maskLetters mask else octal
      let start := if !chosen.has 'p' then []
        else if chosen.has 'S' then ascii "umask -S " else ascii "umask "
      print "umask" (start ++ shown ++ ['\n'])
    | word :: _ =>
      let isOctal := word.head?.any Char.isDigit
      match Mode.changed false 0 (0o777 - mask) word with
      | .ok mode =>
        let _ ← ask (.setMask (if isOctal then mode &&& 0o777 else Mode.without 0o777 mode))
        if chosen.has 'S' && large then
          print "umask" (maskLetters (Mode.without 0o777 mode) ++ ['\n'])
        else return 0
      | .error objection =>
        match large, objection with
        | false, .notOctal => told "umask" (ascii "Illegal number: " ++ word) 2
        | false, _ => told "umask" (ascii "Illegal mode: " ++ word) 2
        | true, .notOctal => told "umask" (word ++ ascii ": octal number out of range") 1
        | true, .noOperator c => told "umask" (ascii "\x60" ++ c :: ascii "': invalid symbolic mode operator") 1
        | true, .noPermission c =>
          told "umask" (ascii "\x60" ++ c :: ascii "': invalid symbolic mode character") 1

/-- Show or set how many descriptors a process may have; other bounds are not kept. -/
def ulimit : Builtin := fun words => do
  let shell ← get
  let large := shell.isLarge
  let flags := if large then "SHabcdefiklmnpqrstuvxPRT" else "HSatfdscmlpnvwr"
  let help := "ulimit [-SHabcdefiklmnpqrstuvxPRT] [limit]"
  withOptions "ulimit" help flags "" words fun chosen => do
    if chosen.has 'n' then
      match chosen.words.head? with
      | some word =>
        match natural? word with
        | some limit =>
          let _ ← ask (.setLimit limit)
          return 0
        | none =>
          if large then told "ulimit" (word ++ ascii ": invalid number") 1
          else told "ulimit" (ascii "bad number") 2
      | none =>
        let limit ← ask (.setLimit 0)
        let _ ← ask (.setLimit limit)
        print "ulimit" (numeral limit ++ ['\n'])
    else if chosen.words.isEmpty then
      let value : String := if chosen.has 'c' then "0" else if chosen.has 's' then "8192" else "unlimited"
      print "ulimit" (ascii value ++ ['\n'])
    else return 0

/-- The number of the signal that a word names in a shell. -/
def signalOf? (dialect : Dialect) (chars : List Char) : Option Nat :=
  match dialect with
  | .large => Host.Signal.ofText? chars
  | .plain =>
    let upper := chars.map Char.toUpper
    if "SIG".toList.isPrefixOf upper || upper == "STKFLT".toList then none else Host.Signal.ofText? chars

/-- The name of a signal in a shell. -/
def signalName (dialect : Dialect) (number : Nat) : List Char :=
  if number = 16 && dialect = .plain then ['1', '6']
  else ((Host.Signal.allNames[number - 1]?).getD "").toList

/-- The processes that a word means, which can be those of a job of the shell. -/
def processesOf (command : String) (word : List Char) : Doing (Except Nat (List Int)) := do
  let shell ← get
  match word with
  | '%' :: name =>
    let meant := shell.jobNumber? name
    let known := if shell.isLarge then shell.jobs else shell.jobs ++ shell.ended.map (·.1)
    let processes := (known.filter fun (job : Job) => some job.number = meant).map fun job => (job.process : Int)
    match processes, shell.dialect with
    -- The plain shell takes the process for the first one of a group, which it is not.
    | first :: _, .plain => return .ok [-first]
    | first :: rest, .large => return .ok (first :: rest)
    | [], .plain => return .error (← told command (shell.noJob name) 2)
    | [], .large => return .error (← told command (shell.noJob name) 1)
  | _ =>
    match integer? word, shell.dialect with
    | some number, _ => return .ok [number]
    | none, .plain => return .error (← told command (ascii "Illegal number: " ++ word) 2)
    | none, .large => return .error (← told command (word ++ ascii ": arguments must be process or job IDs") 1)

/-- Send a signal to some processes. -/
def sendAll (number : Nat) (targets : List (List Char)) : Doing Nat := do
  let shell ← get
  let mut status := 0
  let mut sent := false
  for target in targets do
    match ← processesOf "kill" target with
    | .error code =>
      status := code
      -- The plain shell gives up at a word that is no process.
      if !shell.isLarge then return code
    | .ok processes =>
      for process in processes do
        let result ← if process ≤ 0 then ask (.signalGroup process.natAbs number)
          else ask (.signal process.toNat number)
        match result with
        | .ok () => sent := true
        | .error errno =>
          status ← match shell.dialect with
            | .plain => told "kill" (ascii errno.usual ++ ['\n']) 1
            | .large => told "kill" (ascii "(" ++ target ++ ascii ") - " ++ ascii errno.usual) 1
  return if sent && shell.isLarge then 0 else status

/-- Show the names of signals. -/
def listSignals (words : List (List Char)) : Doing Nat := do
  let shell ← get
  match words, shell.dialect with
  | [], .plain =>
    let shown := (List.range 64).map fun k => signalName .plain (k + 1) ++ ['\n']
    print "kill" (ascii "0\n" ++ shown.flatten)
  | [], .large =>
    let numbers := ((List.range 64).map (· + 1)).filter fun n => n != 32 && n != 33
    let cell (place number : Nat) : List Char :=
      let digits := numeral number
      List.replicate (2 - digits.length) ' ' ++ digits ++ ascii ") SIG" ++ signalName .large number ++
        (if place % 5 = 4 then ['\n'] else ['\t'])
    let shown := ((List.range numbers.length).zip numbers).map fun pair => cell pair.1 pair.2
    print "kill" (shown.flatten ++ ['\n'])
  | word :: _, .plain =>
    match word, natural? word with
    | '-' :: c :: _, _ => told "kill" (ascii "Illegal option -" ++ [c]) 2
    | _, none => told "kill" (ascii "Illegal number: " ++ word) 2
    | _, some number =>
      let signal := if 128 < number then number - 128 else number
      if 0 < signal && signal ≤ 64 then print "kill" (signalName .plain signal ++ ['\n'])
      else told "kill" (ascii "invalid signal number or exit status: " ++ word) 2
  | _, .large =>
    let mut status := 0
    for word in words do
      match natural? word with
      | some number =>
        let signal := if 128 < number then number - 128 else number
        if signal = 0 then
          let _ ← print "kill" (ascii "EXIT\n")
        else if signal ≤ 64 then
          let _ ← print "kill" (signalName .large signal ++ ['\n'])
        else status ← told "kill" (word ++ ascii ": invalid signal specification") 1
      | none =>
        match signalOf? .large word with
        | some number =>
          let _ ← print "kill" (numeral number ++ ['\n'])
        | none => status ← told "kill" (word ++ ascii ": invalid signal specification") 1
    return status

/-- Send signals to processes, or list them. -/
def kill : Builtin := fun words => do
  let shell ← get
  let help : Doing Nat := match shell.dialect with
    | .plain => told "kill" (ascii ("Usage: kill [-s sigspec | -signum | -sigspec] [pid | job]... or\n" ++
        "kill -l [exitstatus]")) 2
    | .large => usage "kill" ("kill [-s sigspec | -n signum | -sigspec] pid | jobspec ... or kill -l [sigspec]")
  let chosen (name : List Char) (targets : List (List Char)) : Doing Nat := do
    match signalOf? shell.dialect name, shell.dialect with
    | some number, _ => if targets.isEmpty then help else sendAll number targets
    | none, .plain => told "kill" (ascii "invalid signal number or name: " ++ name) 2
    | none, .large => told "kill" (name ++ ascii ": invalid signal specification") 1
  match words with
  | [] => help
  | ['-', 'l'] :: rest | ['-', 'L'] :: rest =>
    if words.head? == some ['-', 'L'] && !shell.isLarge then told "kill" (ascii "Illegal option -L") 2
    else listSignals rest
  | ['-', '-'] :: targets => if targets.isEmpty then help else sendAll Host.Signal.term targets
  | ['-', 's'] :: [] | ['-', 'n'] :: [] =>
    if shell.isLarge then told "kill" (words.headD [] ++ ascii ": option requires an argument") 1
    else told "kill" (ascii "No arg for -s option") 2
  | ['-', 's'] :: name :: targets => chosen name targets
  | ['-', 'n'] :: name :: targets =>
    if shell.isLarge then chosen name targets else told "kill" (ascii "Illegal option -n") 2
  | ('-' :: name) :: targets =>
    match signalOf? shell.dialect name, shell.dialect, name with
    | some number, _, _ => if targets.isEmpty then help else sendAll number targets
    | none, .plain, 's' :: rest => chosen rest targets
    | none, .plain, c :: _ => told "kill" (ascii "Illegal option -" ++ [c]) 2
    | none, .plain, [] => help
    | none, .large, _ => told "kill" (name ++ ascii ": invalid signal specification") 1
  | targets => sendAll Host.Signal.term targets

/-- Show how much time the shell and its children have taken. -/
def times : Builtin := fun _ => do
  let shell ← get
  let line := ascii (match shell.dialect with
    | .plain => "0m0.000000s 0m0.000000s\n"
    | .large => "0m0.001s 0m0.000s\n")
  print "times" (line ++ line)

end Umpire.Shell.Builtin
