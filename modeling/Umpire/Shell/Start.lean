import Umpire.Shell.Interpreter

/-! Starting a shell: whose words it is given, where its script comes from, and how it ends. -/

namespace Umpire.Shell

/-- How deep and how long a script may run. -/
def mostSteps : Nat := 1000000

/-- Do what a shell is for, and then what is said for its end; the answer is its code. -/
def toTheEnd (doing : Doing Unit) : Doing Nat := do
  let code ← match ← attempt doing with
    | .ok () => do pure (← get).status
    | .error leap => do pure (codeOfLeap leap (← get).status)
  atEnd mostSteps code

/-- Carry out a script that is read while it runs: so many octets at a time, of which every whole line is
carried out before more is read. -/
def runStream (size : Nat) : Nat → Bool → List Char → Nat → Doing Unit
  | 0, _, _, _ => return ()
  | fuel + 1, ended, pending, line => do
    let shell ← get
    let more : Doing Unit := do
      match ← ask (.read 0 size) with
      | .ok (byte :: bytes) => runStream size fuel false (pending ++ Bytes.toOctets (byte :: bytes)) line
      | _ => runStream size fuel true pending line
    let isWhole := pending.getLast? == some '\n'
    if !ended && (pending.isEmpty || (size = 1 && !isWhole)) then more
    else
      change fun kept => { kept with script := pending, firstLine := line }
      match Parser.line?.run
          { rest := pending, line, dialect := shell.dialect, aliases := shell.replacements } with
      | .error stumble =>
        if stumble.isUnfinished && !ended then more
        else
          let status ← Complaint.tell stumble
          if shell.isLarge then finish status else throw .giveUp
      | .ok (none, reached) => if ended then return () else runStream size fuel false [] reached.line
      | .ok (some command, reached) =>
        let taken := pending.take (pending.length - reached.rest.length)
        if !ended && (taken.getLast? != some '\n' || !reached.broken.isEmpty) then more
        else
          tellBroken reached.broken
          runLine mostSteps {} command
          runStream size fuel ended reached.rest reached.line

/-- Carry out a script that comes from standard input. -/
def runInput : Doing Unit := do
  change fun kept => { kept with manner := kept.manner ++ ['s'] }
  runStream (if (← get).isLarge then 1 else 8192) Host.mostPieces false [] 1

/-- Tell that a script cannot be read at all. -/
def noScript (path : List Char) (errno : Errno) : Doing Nat := do
  let shell ← get
  match shell.dialect with
  | .plain =>
    change fun kept => { kept with line := 0 }
    complain (openFailure .plain .read path errno)
    return if errno = Errno.noEntry then 127 else 2
  | .large =>
    let _ ← say 2 (shell.name ++ ascii ": " ++ openFailure .large .read path errno ++ ['\n'])
    return if errno = Errno.noEntry then 127 else 126

/-- The path of a script that a word means. -/
def scriptOf (path : List Char) : Doing (List Char) := do
  match ← ask (.info (octets path) true) with
  | .ok _ => return path
  | .error _ =>
    if path.contains '/' || !(← get).isLarge then return path
    else return (← whereabouts? path (searched (← get))).getD path

/-- Carry out the script in a file. -/
def runFile (path : List Char) (arguments : List (List Char)) : Doing Nat := do
  let shell ← get
  let path ← scriptOf path
  let info ← ask (.info (octets path) true)
  if shell.isLarge && info.toOption.any (·.kind == .directory) then
    let _ ← say 2 (path ++ ascii ": " ++ path ++ ascii ": Is a directory\n")
    return 126
  else
    match ← ask (.openFile (octets path) Host.Access.reading true) with
    | .error errno => noScript path errno
    | .ok fd =>
      let high := if shell.isLarge then 255 else 10
      let _ ← ask (.duplicateFrom fd high true)
      let _ ← ask (.close fd)
      let text ← outside (Host.readAll high)
      let chars := Bytes.toOctets (text.toOption.getD [])
      change fun kept => { kept with name := path, arguments, isFile := true }
      if shell.isLarge && (chars.takeWhile (· != '\n')).contains '\x00' then
        let _ ← say 2 (path ++ ascii ": " ++ path ++ ascii ": cannot execute binary file\n")
        return 126
      else toTheEnd (runText mostSteps { chars } {})

/-- Carry out what the words after the options of a shell mean. -/
def follow (words : List (List Char)) : Doing Nat := do
  let shell ← get
  if shell.manner.contains 'c' then
    match words with
    | [] =>
      let _ ← say 2 (shell.name ++ ascii (match shell.dialect with
        | .plain => ": 0: -c requires an argument\n"
        | .large => ": -c: option requires an argument\n"))
      return 2
    | text :: rest =>
      change fun kept => { kept with name := rest.headD kept.name, arguments := rest.tail }
      toTheEnd (runText mostSteps { chars := text, kind := some (ascii "-c") } { last := shell.isLarge })
  else
    match words with
    | [] => toTheEnd runInput
    | path :: arguments =>
      if shell.manner.contains 's' then
        change fun kept => { kept with arguments := words, manner := kept.manner.filter (· != 's') }
        toTheEnd runInput
      else runFile path arguments

/-- Tell that the shell does not know an option. -/
def noOption (chars : List Char) : Doing Nat := do
  let shell ← get
  match shell.dialect with
  | .plain =>
    let _ ← say 2 (shell.name ++ ascii ": 0: Illegal option " ++ chars ++ ['\n'])
    return 2
  | .large =>
    let _ ← say 2 (shell.name ++ ascii ": " ++ chars ++ ascii ": invalid option\n")
    return 2

/-- Read the letters of an option; the answer is the words that are left, or a code to end with. -/
def readLetters (on : Bool) : List Char → List (List Char) → Doing (Except Nat (List (List Char)))
  | [], rest => return .ok rest
  | c :: letters, rest => do
    let shell ← get
    let sign := if on then '-' else '+'
    match (Umpire.Shell.letters shell.dialect).lookup c with
    | some name =>
      if name == "stdin" then change fun kept => { kept with manner := kept.manner ++ ['s'] }
      else if on && name == "monitor" && !shell.isLarge then
        let _ ← say 2 (shell.name ++ ascii ": 0: can't access tty; job control turned off\n")
      else change fun kept => kept.switch name on
      readLetters on letters rest
    | none =>
      if c == 'c' || c == 's' then
        change fun kept => { kept with manner := kept.manner ++ [c] }
        readLetters on letters rest
      else if c == 'l' || c == 'i' then readLetters on letters rest
      else if c == 'o' || (c == 'O' && shell.isLarge) then
        match rest with
        | name :: others =>
          change fun kept => kept.switch (String.ofList name) on
          readLetters on letters others
        | [] => return .ok []
      else return .error (← noOption [sign, c])

/-- Read the options that a shell is started with. -/
def readOptions : Nat → List (List Char) → Doing (Except Nat (List (List Char)))
  | 0, words => return .ok words
  | fuel + 1, words => do
    match words with
    | ['-', '-'] :: rest | ['-'] :: rest => return .ok rest
    | ('-' :: '-' :: name) :: rest =>
      if (← get).isLarge && ["norc", "noprofile", "posix", "login"].contains (String.ofList name) then
        readOptions fuel rest
      else return .error (← noOption ('-' :: '-' :: name))
    | (sign :: c :: letters) :: rest =>
      if sign == '-' || sign == '+' then
        match ← readLetters (sign == '-') (c :: letters) rest with
        | .error code => return .error code
        | .ok left => readOptions fuel left
      else return .ok words
    | _ => return .ok words

/-- What a shell does that is started with some words. -/
def start (words : List (List Char)) : Doing Nat := do
  match ← readOptions (words.length + 1) words.tail with
  | .error code => return code
  | .ok others => follow others

/-- Give a variable a value, unless it has one. -/
def provideValue (shell : Session) (given : List Char × String × Bool) : Session :=
  let (name, value, exported) := given
  if (shell.values.lookup name).isSome then shell
  else shell.putVariable name { content := .text (ascii value), exported }

/-- What every shell knows from the start. -/
def knownValues (dialect : Dialect) : List (List Char × String × Bool) :=
  let common := [("IFS", " \t\n", false), ("OPTIND", "1", false), ("PS4", "+ ", false),
    ("PATH", "/usr/local/sbin:/usr/local/bin:/usr/sbin:/usr/bin:/sbin:/bin", false)]
  let own := match dialect with
    | .plain => [("PS1", "# ", false), ("PS2", "> ", false)]
    | .large => [("BASH", "/bin/bash", false), ("BASH_VERSION", "5.2.21(1)-release", false),
        ("HOSTTYPE", "x86_64", false), ("MACHTYPE", "x86_64-pc-linux-gnu", false), ("OPTERR", "1", false),
        ("OSTYPE", "linux-gnu", false), ("SHELL", "/bin/bash", false), ("TERM", "dumb", false),
        ("UID", "0", false), ("EUID", "0", false)]
  (common ++ own).map fun known => (ascii known.1, known.2)

/-- Let a shell know where it is and how deep it stands. -/
def lookAround : Doing Unit := do
  let shell ← get
  let (self, parent) ← ask .identity
  let started ← ask .clock
  change fun kept => { kept with self, started }
  change fun kept => (knownValues kept.dialect).foldl provideValue kept
  change fun kept => kept.setVariable (ascii "PPID") (numeral parent)
  let here ← Builtin.workplace
  Builtin.setShared (ascii "PWD") here
  if shell.isLarge then
    if (shell.values.lookup (ascii "OLDPWD")).isNone then
      change fun kept => kept.putVariable (ascii "OLDPWD") { exported := true }
    let level := ((shell.valueOf? (ascii "SHLVL")).bind Builtin.natural?).getD 0
    Builtin.setShared (ascii "SHLVL") (numeral (level + 1))
    change fun kept => { kept.forget ['_'] with
      switches := (Builtin.settings.filter (·.2)).map (·.1) ++ ["braceexpand", "hashall", "interactive-comments"]
      lastWord := (shell.valueOf? ['_']).getD [] }
    for name in ["PPID", "UID", "EUID"] do
      change fun kept => kept.putVariable (ascii name)
        { keptOf kept (ascii name) with fixed := true, integer := true }
    let version := [(0, ascii "5"), (1, ascii "2"), (2, ascii "21"), (3, ascii "1"), (4, ascii "release"),
      (5, ascii "x86_64-pc-linux-gnu")]
    change fun kept => kept.putVariable (ascii "BASH_VERSINFO") { content := .list version, fixed := true }
  change fun kept => kept.setVariable (ascii "OPTIND") ['1']

/-- A shell as a program of the host. -/
def program (dialect : Dialect) (words : List Bytes) : Host.Talk Nat := do
  let environment ← Host.call .environment
  let given := environment.filterMap fun known =>
    let name := Bytes.toOctets known.1
    if isName name then some (name, ({ content := .text (Bytes.toOctets known.2), exported := true } : Variable))
    else none
  let shell : Session := { dialect, name := Bytes.toOctets (words.headD []), values := given.reverse }
  let doing : Doing Nat := do
    lookAround
    start (words.map Bytes.toOctets)
  let (left, reached) ← doing.run.run shell
  return match left with
  | .ok code => code % 256
  | .error leap => codeOfLeap leap reached.status % 256

end Umpire.Shell
