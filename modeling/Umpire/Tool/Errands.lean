import Umpire.Host.Install
import Umpire.Tool.Sequence
import Umpire.Tool.Words

/-! Programs of the host that signal processes or run other programs. -/

namespace Umpire.Tool

open Host

/-- How the program `kill` is used. -/
def killUsage : Bytes :=
  bytes "\nUsage:\n kill [options] <pid> [...]\n\nOptions:\n" ++
    bytes " <pid> [...]            send signal to every <pid> listed\n" ++
    bytes " -<signal>, -s, --signal <signal>\n                        specify the <signal> to be sent\n" ++
    bytes " -q, --queue <value>    integer value to be sent with the signal\n" ++
    bytes " -l, --list=[<signal>]  list all signal names, or convert one to a name\n" ++
    bytes " -L, --table            list all signal names in a nice table\n\n" ++
    bytes " -h, --help     display this help and exit\n -V, --version  output version information and exit\n\n" ++
    bytes "For more details see kill(1).\n"

/-- Send a signal to the processes that words name. -/
def signalAll (number : Nat) (targets : List Bytes) : Talk Nat :=
  eachWord targets fun target => do
    let isGroup := target.head? == some (Bytes.ascii '-')
    match Numeral.readNat 2147483647 (Bytes.toOctets (if isGroup then target.tail else target)) with
    | .error _ =>
      complain (bytes "failed to parse argument: " ++ quoted target)
      return 1
    | .ok process =>
      match ← if isGroup || process = 0 then call (.signalGroup process number) else call (.signal process number) with
      | .ok () => return 0
      | .error errno =>
        complain (bytes "(" ++ target ++ bytes "): " ++ bytes errno.usual)
        return 1

/-- Send a signal to processes, or tell the names of signals. -/
def kill (words : List Bytes) : Talk Nat := do
  let send (name : List Char) (targets : List Bytes) : Talk Nat := do
    match Signal.ofText? name with
    | some number => signalAll number targets
    | none =>
      complain (bytes "invalid argument " ++ Bytes.ofOctets (name.take 1))
      let _ ← writeAll 2 killUsage
      return 1
  match words.map Bytes.toOctets with
  | [] =>
    let _ ← writeAll 2 killUsage
    return 1
  | [['-', 'l']] =>
    let names := Signal.names.map bytes
    let lines := [names.take 16, names.drop 16].map fun line => [Bytes.ascii ' '].intercalate line ++ [lineEnd]
    print lines.flatten
  | ['-', 'l'] :: number :: _ =>
    match Numeral.readNat Signal.highest number with
    | .ok value => print (bytes (Signal.allNames[value - 1]?.getD "") ++ [lineEnd])
    | .error _ => print (numeral ((Signal.ofText? number).getD 0) ++ [lineEnd])
  | ['-', 's'] :: name :: _ => send name (words.drop 2)
  | ['-', '-'] :: _ => signalAll Signal.term words.tail
  | ('-' :: c :: name) :: _ => send (c :: name) words.tail
  | _ => signalAll Signal.term words

/-- The setting of a variable that a word makes. -/
def setting? (word : Bytes) : Option (Bytes × Bytes) :=
  let name := word.takeWhile (· != Bytes.ascii '=')
  if name.length < word.length then some (name, word.drop (name.length + 1)) else none

/-- An environment with one variable set, in the place that it had. -/
def withSetting (environment : List (Bytes × Bytes)) (set : Bytes × Bytes) : List (Bytes × Bytes) :=
  if (environment.lookup set.1).isSome then
    environment.map fun known => if known.1 = set.1 then set else known
  else environment ++ [set]

/-- The environment that leading words make of another, and the words after them. -/
def changedEnvironment (environment : List (Bytes × Bytes)) :
    List Bytes → List (Bytes × Bytes) × List Bytes
  | [] => (environment, [])
  | word :: rest =>
    match setting? word with
    | some set => changedEnvironment (withSetting environment set) rest
    | none => (environment, word :: rest)

/-- The code for a program that cannot be run. -/
def refusalCode (refusal : Errno) : Nat :=
  if refusal = Errno.noEntry then 127 else 126

/-- Run a program in this process; a failure is told in the name of this one. -/
def runFor (start : String) (shown : Bytes → Bytes) (words : List Bytes)
    (environment : List (Bytes × Bytes)) : Talk Nat := do
  let refusal ← runProgram words environment (some shellPath)
  complain (bytes start ++ shown (words.headD []) ++ bytes ": " ++ bytes refusal.usual)
  return refusalCode refusal

/-- Show the environment, or run a program in a changed one. -/
def env (words : List Bytes) : Talk Nat :=
  let known : Known := {
    letters := "0C:iS:u:v"
    long := [("null", '0'), ("chdir", 'C'), ("ignore-environment", 'i'), ("split-string", 'S'), ("unset", 'u'),
      ("debug", 'v')]
    stops := true
    wrong := 125 }
  withOptions known words fun chosen => do
    let split := (chosen.texts 'S').flatMap fun text =>
      (text.splitOn (Bytes.ascii ' ')).filter fun word => !word.isEmpty
    let (fresh, given) := match split ++ chosen.words with
      | first :: rest => if first = bytes "-" then (true, rest) else (false, first :: rest)
      | [] => (false, [])
    let usual ← call .environment
    let start := if fresh || chosen.has 'i' then [] else usual
    let kept := start.filter fun known => !(chosen.texts 'u').contains known.1
    let (environment, rest) := changedEnvironment kept given
    let moved ← match chosen.text? 'C' with
      | some path => call (.enterDirectory path)
      | none => pure (.ok ())
    match moved, rest with
    | .error errno, _ =>
      complain (bytes "cannot change directory to " ++ quoted ((chosen.text? 'C').getD []) ++ bytes ": " ++
        bytes errno.usual)
      return 125
    | .ok (), [] =>
      let ending : Bytes := if chosen.has '0' then [0] else [lineEnd]
      print (environment.map fun known => known.1 ++ Bytes.ascii '=' :: known.2 ++ ending).flatten
    | .ok (), _ =>
      if chosen.has 'v' then
        let set := given.takeWhile fun word => (setting? word).isSome
        let cleaned := if fresh || chosen.has 'i' then [bytes "cleaning environ"]
          else (chosen.texts 'u').map fun name => bytes "unset:    " ++ name
        let entered := (chosen.text? 'C').toList.map fun path => bytes "chdir:    " ++ quoted path
        let numbered := (List.range rest.length).zip rest
        let lines := cleaned ++ (set.map fun word => bytes "setenv:   " ++ word) ++ entered ++
          [bytes "executing: " ++ rest.headD []] ++
          numbered.map fun item => bytes "   arg[" ++ numeral item.1 ++ bytes "]= " ++ cited item.2
        let _ ← writeAll 2 (lines.flatMap fun line => line ++ [lineEnd])
      runFor "" cited rest environment

/-- Show the values of variables. -/
def printenv (words : List Bytes) : Talk Nat :=
  withOptions { letters := "0", long := [("null", '0')], wrong := 2 } words fun chosen => do
    let environment ← call .environment
    let ending : Bytes := if chosen.has '0' then [0] else [lineEnd]
    if chosen.words.isEmpty then
      print (environment.map fun known => known.1 ++ Bytes.ascii '=' :: known.2 ++ ending).flatten
    else
      eachWord chosen.words fun name => do
        match environment.lookup name with
        | some value => print (value ++ ending)
        | none => return 1

/-- Run a program that does not end with the terminal. -/
def nohup (words : List Bytes) : Talk Nat :=
  withOptions { letters := "", stops := true, wrong := 125 } words fun chosen => do
    if chosen.words.isEmpty then misuse (bytes "missing operand") 125
    else
      let _ ← call (.setAction 1 .ignore)
      runFor "failed to run command " quoted chosen.words (← call .environment)

/-- Run a program in a session of its own. -/
def setsid (words : List Bytes) : Talk Nat :=
  withOptions { letters := "cfw", stops := true } words fun chosen => do
    if chosen.words.isEmpty then misuse (bytes "no command specified") 1
    else
      let _ ← call .leadGroup
      runFor "failed to execute " id chosen.words (← call .environment)

/-- How a stream is to be gathered, as the environment tells it, or the complaint about what is asked. -/
def gatheringText (text : Bytes) : Except Bytes Bytes :=
  if text = bytes "L" then .ok text
  else
    match amount? text with
    | none => .error (bytes "invalid mode " ++ cited text)
    | some size =>
      if size ≤ 18446744073709551615 then .ok (numeral size)
      else .error (bytes "invalid mode " ++ cited text ++ bytes ": Value too large for defined data type")

/-- What makes programs gather as the environment tells. -/
def gatheringPath : Bytes :=
  bytes "/usr/libexec/coreutils/libstdbuf.so"

/-- Run a program that gathers otherwise what it prints. -/
def stdbuf (words : List Bytes) : Talk Nat :=
  let known : Known := {
    letters := "i:o:e:"
    long := [("input", 'i'), ("output", 'o'), ("error", 'e')]
    stops := true
    wrong := 125 }
  withOptions known words fun chosen => do
    let named (letter : Char) : Bytes := bytes (match letter with
      | 'i' => "_STDBUF_I"
      | 'o' => "_STDBUF_O"
      | _ => "_STDBUF_E")
    let mut settings : List (Char × Bytes) := []
    for (letter, text) in chosen.options do
      if letter = 'i' && text = bytes "L" then
        return ← misuse (bytes "line buffering stdin is meaningless") 125
      match gatheringText text with
      | .error reason =>
        complain reason
        return 125
      | .ok shown => settings := settings.filter (·.1 != letter) ++ [(letter, shown)]
    if chosen.words.isEmpty then misuse (bytes "missing operand") 125
    else if settings.isEmpty then misuse (bytes "you must specify a buffering mode option") 125
    else
      let environment ← call .environment
      let changed := "ioe".toList.foldl (fun known letter => match settings.lookup letter with
        | some shown => withSetting known (named letter, shown)
        | none => known) environment
      let before := match environment.lookup (bytes "LD_PRELOAD") with
        | some paths => paths ++ bytes ":"
        | none => []
      runFor "failed to run command " cited chosen.words
        (withSetting changed (bytes "LD_PRELOAD", before ++ gatheringPath))

/-- Run a program with another urgency, which makes no difference here. -/
def nice (words : List Bytes) : Talk Nat :=
  withOptions { letters := "n:", long := [("adjustment", 'n')], stops := true, wrong := 125 }
    (adjusted words) fun chosen => do
      let failed (reason : Bytes) : Talk Nat := do
        complain reason
        return 125
      match chosen.text? 'n', chosen.words with
      | none, [] => print (bytes "0\n")
      | some text, rest =>
        if !isInteger text then failed (bytes "invalid adjustment " ++ cited text)
        else if rest.isEmpty then misuse (bytes "a command must be given with an adjustment") 125
        else runFor "" cited rest (← call .environment)
      | none, rest => runFor "" cited rest (← call .environment)
where
  /-- Whether a text spells an integer. -/
  isInteger (text : Bytes) : Bool :=
    match Bytes.toOctets text with
    | '-' :: digits | '+' :: digits | digits => !digits.isEmpty && digits.all Char.isDigit
  /-- The words in which a bare number at the start is spelled as an option. -/
  adjusted : List Bytes → List Bytes
    | word :: rest =>
      if word.head? == some (Bytes.ascii '-') && isInteger word.tail then bytes "-n" :: word.tail :: rest
      else word :: rest
    | [] => []

/-- What there is to run for a limited time, and how its time is limited. -/
structure Limit where
  micros : Nat
  signal : Nat
  /-- After how long the program is killed if it goes on, and whether that does not count. -/
  grace : Option Nat
  keepsStatus : Bool
  name : Bytes
  isTold : Bool
  /-- Whether all that the program has started get the signals, too. -/
  isShared : Bool

/-- End with the signal that has ended something else. -/
def endBy (number : Nat) : Talk Nat := do
  let (self, _) ← call .identity
  let _ ← call (.setAction number .standard)
  let _ ← call (.signal self number)
  return 128 + number

/-- Send a signal to the program, and to all that it has started. -/
def Limit.send (limit : Limit) (worker number : Nat) : Talk Unit := do
  let _ ← call (.signal worker number)
  let toAll (number : Nat) : Talk Unit := do
    if limit.isShared then
      let _ ← call (.setAction number .ignore)
      let _ ← call (.signalGroup 0 number)
  toAll number
  -- What has been stopped would not feel the signal.
  if limit.isShared && number != Signal.kill && number != Signal.resume then
    let _ ← call (.signal worker Signal.resume)
    toAll Signal.resume

/-- Wait for the program and hand signals on to it; the clock ends when the time is over. -/
def oversee (limit : Limit) (worker : Nat) (clock : Option Nat) (isOver : Bool) : Nat → Talk Nat
  | 0 => return 124
  | fuel + 1 => do
    match ← call (.reap none true) with
    | .error errno =>
      if errno = Errno.interrupted then
        match ← call .takeSignal with
        | some number =>
          limit.send worker number
          oversee limit worker clock isOver fuel
        | none => oversee limit worker clock isOver fuel
      else return 125
    | .ok none => return 125
    | .ok (some (process, status)) =>
      if clock = some process then
        -- The time is over, or what was left of it after that.
        let number := if isOver then Signal.kill else limit.signal
        if limit.isTold then
          complain (bytes "sending signal " ++ bytes (Signal.names[number - 1]?.getD "") ++
            bytes " to command " ++ cited limit.name)
        limit.send worker number
        match limit.grace, isOver with
        | some micros, false =>
          match ← call .fork with
          | .ok none =>
            let _ ← call .leadGroup
            let _ ← call (.sleep micros)
            return 0
          | .ok (some other) => oversee { limit with signal := Signal.kill } worker (some other) true fuel
          | .error _ => return 125
        | _, _ => oversee { limit with signal := number } worker none true fuel
      else if process = worker then
        if let some other := clock then
          let _ ← call (.signal other Signal.kill)
        match status.signal?, isOver with
        | some number, false => endBy number
        | some number, true =>
          if number = Signal.kill then endBy number
          else return if limit.keepsStatus then status.shell else 124
        | none, late => return if late && !limit.keepsStatus then 124 else status.shell
      else oversee limit worker clock isOver fuel

/-- Run a program, but only for so long. -/
def timeout (words : List Bytes) : Talk Nat :=
  let known : Known := {
    letters := "fk:ps:v"
    long := [("foreground", 'f'), ("kill-after", 'k'), ("preserve-status", 'p'), ("signal", 's'), ("verbose", 'v')]
    stops := true
    wrong := 125 }
  withOptions known words fun chosen => do
    let wrongTime (word : Bytes) : Talk Nat := misuse (bytes "invalid time interval " ++ cited word) 125
    let signalText := (chosen.text? 's').getD (bytes "TERM")
    let graceText := chosen.text? 'k'
    match Signal.ofText? (Bytes.toOctets signalText), graceText.map micros?, chosen.words with
    | none, _, _ => misuse (cited signalText ++ bytes ": invalid signal") 125
    | _, some none, _ => wrongTime (graceText.getD [])
    | some signal, grace, limit :: program :: rest =>
      match micros? limit with
      | none => wrongTime limit
      | some micros =>
        let told : Limit := ⟨micros, signal, grace.bind id, chosen.has 'p', program, chosen.has 'v',
          !chosen.has 'f'⟩
        if told.isShared then
          let _ ← call .leadGroup
        match ← call .fork with
        | .error _ => return 125
        | .ok none =>
          runFor "failed to run command " cited (program :: rest) (← call .environment)
        | .ok (some worker) =>
          for number in [1, 2, 3, 15] do
            let _ ← call (.setAction number .remember)
          if micros = 0 then oversee told worker none false mostPieces
          else
            match ← call .fork with
            | .error _ => return 125
            | .ok none =>
              let _ ← call .leadGroup
              for number in [1, 2, 3, 15] do
                let _ ← call (.setAction number .standard)
              for fd in [0, 1, 2] do
                let _ ← call (.close fd)
              let _ ← call (.sleep micros)
              return 0
            | .ok (some clock) => oversee told worker (some clock) false mostPieces
    | _, _, _ =>
      hint
      return 125

end Umpire.Tool
