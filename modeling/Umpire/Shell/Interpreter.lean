import Umpire.Shell.Assigning
import Umpire.Shell.Complaint
import Umpire.Shell.Control
import Umpire.Shell.Menu
import Umpire.Shell.Redirecting
import Umpire.Shell.Timing
import Umpire.Shell.Verdict

/-! Carrying out commands. -/

namespace Umpire.Shell

/-- Where a command stands. -/
structure Setting where
  /-- Whether nothing comes after it in its process. -/
  last : Bool := false
  /-- Whether its process was made for it. -/
  alone : Bool := false
  /-- Whether its failure is expected. -/
  tested : Bool := false

namespace Setting

/-- Where a command stands that another one is tested by. -/
def test : Setting :=
  { tested := true }

/-- Where a command stands that more commands come after. -/
def before (setting : Setting) : Setting :=
  { tested := setting.tested }

/-- Where the last of several commands stands. -/
def after (setting : Setting) : Setting :=
  { setting with alone := false }

/-- Where the last command within another one stands. -/
def inside (setting : Setting) (shell : Session) (redirections : List Redirection) : Setting :=
  { last := setting.last && !shell.isLarge && redirections.isEmpty, tested := setting.tested }

end Setting

/-- A text that is run as a script. -/
structure Script where
  chars : List Char
  kind : Option (List Char) := none
  firstLine : Nat := 1

/-- Whether a shell may turn into its last command: nothing is left for it to do then. -/
def Session.mayTurn (shell : Session) : Bool :=
  (shell.traps.all fun known => known.2.isEmpty) && shell.failureTrap.isNone

/-- Set the status of a whole command. -/
def finish (status : Nat) : Doing Unit :=
  change fun kept => { kept with status, statuses := [status] }

/-- Let a descriptor stand for the file of another one, which is given up. -/
def place (fd wanted : Nat) : Doing Unit := do
  if fd != wanted then
    let _ ← ask (.duplicateTo fd wanted)
    let _ ← ask (.close fd)

/-- Let a descriptor that programs do not get stand for the file of another one, which is given up. -/
def placeApart (fd wanted : Nat) : Doing Unit := do
  let _ ← ask (.duplicateFrom fd wanted true)
  let _ ← ask (.close fd)

/-- Give up the pipes to a process that has ended. -/
def releaseCoprocess : Doing Unit := do
  match (← get).coprocess with
  | none => return ()
  | some (name, child, reading, writing) =>
    let known := (← get).jobs.any fun (job : Job) => job.process = child
    let ended ← if !known then pure true
      else match ← ask (.reap (some child) false) with
        | .ok (some (_, status)) => do
          noteEnd child status
          pure true
        | _ => pure false
    if ended then
      let _ ← ask (.close reading)
      let _ ← ask (.close writing)
      change fun kept => { (kept.forget name).forget (name ++ ascii "_PID") with coprocess := none }

/-- Make a pipe; without one nothing can go on. -/
def makePipe : Doing (Nat × Nat) := do
  match ← ask .pipe with
  | .ok ends => return ends
  | .error errno =>
    complain (ascii "Pipe call failed: " ++ ascii errno.usual)
    throw (.exit 2)

/-- Close descriptors. -/
def closeAll : List Nat → Doing Unit
  | [] => return ()
  | fd :: rest => do
    let _ ← ask (.close fd)
    closeAll rest

/-- Read a whole file that a redirection names; what stands in its way is told. -/
def readWhole (run : Runner) (redirection : Redirection) : Doing (List Char × Nat) := do
  let some path ← targetText run redirection | return ([], 1)
  match ← ask (.openFile (octets path) Host.Access.reading false) with
  | .error errno =>
    complain (path ++ ascii ": " ++ ascii errno.usual)
    return ([], 1)
  | .ok fd =>
    let text ← outside (Host.readAll fd)
    let _ ← ask (.close fd)
    return (Bytes.toOctets (text.toOption.getD []), 0)

/-- The redirection of a script that consists of nothing else. -/
def onlyInput? (shell : Session) (text : List Char) : Option Redirection :=
  if !shell.isLarge then none
  else
    match Parser.line?.run { rest := text, dialect := .large } with
    | .ok (some (.simple _ [] [] [only] _), reached) =>
      if only.target = .number 0 && only.direction = .read && reached.rest.isEmpty then some only else none
    | _ => none

/-- A number for an end of a pipe that a command names. -/
def freeEnd (shell : Session) : Nat :=
  ((List.range 64).reverse.find? fun number => 10 ≤ number && !shell.openEnds.contains number).getD 63

/-- Tell of texts among the lines that the end of the script has broken off. -/
def tellBroken (broken : List (Nat × List Char)) : Doing Unit := do
  let shell ← get
  if shell.isLarge then
    let ended := shell.firstLine + (shell.script.filter (· == '\n')).length
    for (line, word) in broken do
      let _ ← say 2 (shell.sources.headD shell.name ++ ascii ": line " ++ numeral ended ++
        ascii ": warning: here-document at line " ++ numeral line ++
        ascii " delimited by end-of-file (wanted \x60" ++ word ++ ascii "')\n")

/-- Carry out the command `exec`, whose redirections are in place already. -/
def replace (arguments : List (List Char)) (pairs : List (List Char × List Char)) : Doing Nat := do
  let shell ← get
  Builtin.withOptions "exec" "exec [-cl] [-a name] [command [argument ...]] [redirection ...]"
    (if shell.isLarge then "cl" else "") (if shell.isLarge then "a" else "") arguments fun chosen => do
      if chosen.words.isEmpty then return 0
      else
        let name := (chosen.text? 'a').getD (chosen.words.headD [])
        let called := if chosen.has 'l' then '-' :: name else name
        runProgram { replacing := true, turning := true, bare := chosen.has 'c', calledAs := some called }
          chosen.words pairs
        return 126

/-- The file that a word means which is to be read as a script. -/
def scriptPath (word : List Char) : Doing (Option (List Char)) := do
  let shell ← get
  if word.contains '/' then return some word
  else
    for directory in searched shell do
      let path := (if directory.isEmpty then ['.'] else directory) ++ '/' :: word
      match ← ask (.info (octets path) true) with
      | .ok info => if info.kind == .file then return some path
      | .error _ => pure ()
    return if shell.isLarge then some word else none

/-- The elements of an array that is declared, as a trace shows them: plain ones have quotes then. -/
def tracedElements (chars : List Char) : List Char :=
  let items := (Parser.elements chars).map fun
    | (none, [.text text _]) => some (Quoting.single .large text)
    | _ => none
  if items.all (·.isSome) then [' '].intercalate (items.filterMap id) else chars

/-- Do something as a loop. -/
def looping (doing : Doing Unit) : Doing Unit := do
  change fun kept => { kept with loops := kept.loops + 1 }
  let left ← attempt doing
  change fun kept => { kept with loops := kept.loops - 1 }
  settled left

/-- Keep a process in the background from the signals and the input that are meant for the shell. -/
def setApart (withoutInput : Bool) : Doing Unit := do
  let _ ← ask (.setAction 2 .ignore)
  let _ ← ask (.setAction 3 .ignore)
  if withoutInput then
    let _ ← ask (.close 0)
    let _ ← ask (.openFile (Bytes.ofString "/dev/null") Host.Access.reading false)

mutual

/-- Carry out what the shell has traps for. -/
def traps : Nat → Doing Unit
  | 0 => return ()
  | fuel + 1 => do
    let shell ← get
    if shell.traps.all fun known => known.1 = 0 || known.2.isEmpty then return ()
    else
      match ← ask .takeSignal with
      | none => return ()
      | some number =>
        runTrap fuel number
        traps fuel

/-- Carry out what is said for a signal. -/
def runTrap : Nat → Nat → Doing Unit
  | 0, _ => return ()
  | fuel + 1, number => do
    match (← get).traps.lookup number with
    | none => return ()
    | some action => runAction fuel 1 action

/-- Carry out what is said for some occasion; the status of the last command stays. -/
def runAction : Nat → Nat → List Char → Doing Unit
  | 0, _, _ => return ()
  | fuel + 1, line, action => do
    let shell ← get
    change fun kept => { kept with inAction := true }
    deeper fuel { chars := action, kind := some (ascii "trap"), firstLine := line } {}
    change fun kept => { kept with
      status := shell.status, statuses := shell.statuses, line := shell.line, inAction := shell.inAction }

/-- Remember the command that comes next, and carry out what is said for every command. -/
def step : Nat → Nat → List Char → Doing Unit
  | 0, _, _ => return ()
  | fuel + 1, line, shown => do
    let shell ← get
    if shell.isLarge && !shell.inAction then
      change fun kept => { kept with command := shown }
      if let some action := shell.stepTrap then
        change fun kept => { kept with line, stepTrap := none }
        runAction fuel line action
        change fun kept => { kept with stepTrap := some action }

/-- Carry out what is said for the end of a function or of a file that is read. -/
def onReturn : Nat → Doing Unit
  | 0 => return ()
  | fuel + 1 => do
    let shell ← get
    if let some action := shell.returnTrap then
      change fun kept => { kept with returnTrap := none }
      runAction fuel shell.line action
      change fun kept => { kept with returnTrap := some action }

/-- Carry out what is said for the end of the shell; the answer is the code with which it ends. -/
def atEnd : Nat → Nat → Doing Nat
  | 0, code => return code
  | fuel + 1, code => do
    setStatus code
    match (← get).traps.lookup 0 with
    | none => return code
    | some action =>
      change fun kept => { kept with
        traps := kept.traps.filter fun known => known.1 != 0
        inAction := true
        running := [], sources := if kept.isLarge then [] else kept.sources, builtin := none, nested := 0 }
      match ← attempt (runText fuel { chars := action, kind := some (ascii "exit trap") } {}) with
      | .error (.exit other) => return other
      | .error .giveUp => return 2
      | _ => return code

/-- What is due after a command whose failure counts. -/
def conclude : Nat → Setting → Doing Unit
  | 0, _ => return ()
  | fuel + 1, setting => do
    traps fuel
    let shell ← get
    if shell.status != 0 && !setting.tested then
      match shell.failureTrap with
      | some action =>
        if !setting.alone then
          change fun kept => { kept with failureTrap := none }
          runAction fuel shell.line action
          change fun kept => { kept with failureTrap := some action }
      | none => pure ()
      if shell.has "errexit" then throw (.exit shell.status)

/-- Run a text as a script within the one that is carried out. -/
def deeper : Nat → Script → Setting → Doing Unit
  | 0, _, _ => return ()
  | fuel + 1, script, setting => do
    change fun kept => { kept with nested := kept.nested + 1 }
    let left ← attempt (runText fuel script setting)
    change fun kept => { kept with nested := kept.nested - 1 }
    settled left

/-- Run a text as a script. -/
def runText : Nat → Script → Setting → Doing Unit
  | 0, _, _ => return ()
  | fuel + 1, script, setting => do
    let shell ← get
    change fun kept => { kept with
      script := script.chars, firstLine := script.firstLine, scriptKind := script.kind }
    let source : Source :=
      { rest := script.chars, line := script.firstLine, dialect := shell.dialect }
    let left ← attempt (runLines fuel true setting source)
    change fun kept => { kept with
      script := shell.script, firstLine := shell.firstLine, scriptKind := shell.scriptKind }
    settled left

/-- Carry out what is left of a text, line by line. -/
def runLines : Nat → Bool → Setting → Source → Doing Unit
  | 0, _, _, _ => return ()
  | fuel + 1, isFirst, setting, source => do
    let before ← get
    match Parser.line?.run { source with aliases := before.replacements } with
    | .error stumble =>
      let status ← Complaint.tell stumble
      if (← get).isLarge then finish status else throw .giveUp
    | .ok (none, reached) =>
      tellBroken (reached.broken.drop source.broken.length)
      if isFirst then finish 0
    | .ok (some command, reached) =>
      tellBroken (reached.broken.drop source.broken.length)
      let shell ← get
      if shell.has "verbose" && (shell.isLarge || !shell.manner.contains 'c') then
        let taken := source.rest.take (source.rest.length - reached.rest.length)
        let _ ← say 2 (if taken.getLast? == some '\n' then taken else taken ++ ['\n'])
      let isEnd := reached.rest.isEmpty && (shell.isLarge || shell.script.getLast? != some '\n')
      runLine fuel { setting with last := setting.last && isEnd } command
      runLines fuel false setting reached

/-- Carry out the command of one line; some failures leave nothing but the line. -/
def runLine : Nat → Setting → Command → Doing Unit
  | 0, _, _ => return ()
  | fuel + 1, setting, command => do
    match ← attempt (evaluate fuel setting command) with
    | .ok () => return ()
    | .error (.leaveLine code) =>
      if 0 < (← get).depth then throw (.exit code) else finish code
    | .error leap => throw leap

/-- How the scripts in words are run. -/
def runner : Nat → Runner
  | 0 => { output := fun _ => return [], process := fun _ _ => return [] }
  | fuel + 1 => { output := output fuel, process := process fuel }

/-- What a script prints. -/
def output : Nat → List Char → Doing (List Char)
  | 0, _ => return []
  | fuel + 1, text => do
    let shell ← get
    match onlyInput? shell text with
    | some redirection =>
      let (chars, status) ← readWhole (runner fuel) redirection
      change fun kept => { kept with lastOutput := some status }
      return chars.filter (· != '\x00')
    | none =>
      let (readEnd, writeEnd) ← makePipe
      let started ← inChild (atEnd fuel) (do
        let _ ← ask (.close readEnd)
        place writeEnd 1
        change fun kept => { kept with isHushed := true }
        if shell.isLarge && !shell.has "inherit_errexit" then
          change fun kept => kept.switch "errexit" false
        -- The plain shell has read the script as a whole already.
        let chars := if shell.isLarge then text
          else (text.reverse.dropWhile fun c => c == '\n' || c == ' ' || c == '\t').reverse
        let script : Script :=
          { chars, kind := some (ascii "command substitution"), firstLine := shell.line }
        deeper fuel script { last := true })
      let _ ← ask (.close writeEnd)
      let printed ← outside (Host.readAll readEnd)
      let _ ← ask (.close readEnd)
      let status ← match started with
        | some child => await (!shell.isLarge) child mostWaits
        | none => pure 2
      change fun kept => { kept with
        lastOutput := some status, status := if shell.isLarge then status else kept.status }
      let bytes := printed.toOption.getD []
      if shell.isLarge && bytes.contains 0 then
        complain (ascii "warning: command substitution: ignored null byte in input")
      return Bytes.toOctets (bytes.filter (· != 0))

/-- A name for the end of a pipe at whose other end a script is run. -/
def process : Nat → Bool → List Char → Doing (List Char)
  | 0, _, _ => return []
  | fuel + 1, writes, text => do
    let shell ← get
    let (readEnd, writeEnd) ← makePipe
    let (mine, other) := if writes then (readEnd, writeEnd) else (writeEnd, readEnd)
    let started ← inChild (atEnd fuel) (do
      let _ ← ask (.close mine)
      closeAll shell.openEnds
      change fun kept => { kept with isHushed := true }
      place other (if writes then 1 else 0)
      let script : Script :=
        { chars := text, kind := some (ascii "process substitution"), firstLine := shell.line }
      deeper fuel script { last := true })
    let _ ← ask (.close other)
    let number := freeEnd shell
    place mine number
    change fun kept => { kept with
      openEnds := number :: kept.openEnds
      lastBackground := started.orElse fun _ => kept.lastBackground }
    return ascii "/dev/fd/" ++ numeral number

/-- Carry out a command, and close the ends of pipes that it has named. -/
def evaluate : Nat → Setting → Command → Doing Unit
  | 0, _, _ => return ()
  | fuel + 1, setting, command => do
    let before := (← get).openEnds
    let left ← attempt (carryOut fuel setting command)
    let now := (← get).openEnds
    if before.length < now.length then
      closeAll (now.take (now.length - before.length))
      change fun kept => { kept with openEnds := before }
    settled left

/-- Carry out a command. -/
def carryOut : Nat → Setting → Command → Doing Unit
  | 0, _, _ => return ()
  | fuel + 1, setting, command => do
    let shell ← get
    let run := runner fuel
    -- Do something with redirections; those that fail count as a failure of the command.
    let redirected (redirections : List Redirection) (doing : Doing Unit) : Doing Unit := do
      if !(← withRedirections run redirections doing) then conclude fuel setting
    match command with
    | .nothing => return ()
    | .simple line assignments words redirections shown =>
      step fuel line shown
      change fun kept => { kept with line, lastOutput := none }
      let called ← calledWords run words
      match shell.dialect with
      | .plain => simplePlain fuel setting assignments called.words redirections
      | .large => simpleLarge fuel setting assignments called redirections
      conclude fuel setting
    | .sequence first second =>
      evaluate fuel setting.before first
      evaluate fuel setting.after second
    | .both first second =>
      evaluate fuel .test first
      if (← get).status = 0 then evaluate fuel setting.after second
    | .either first second =>
      evaluate fuel .test first
      if (← get).status != 0 then evaluate fuel setting.after second
    | .negated inner =>
      if let .nothing := inner then finish 0
      evaluate fuel .test inner
      setStatus (if (← get).status = 0 then 1 else 0)
    | .timed portable inner =>
      let before ← ask .clock
      if let .nothing := inner then finish 0
      let left ← attempt (evaluate fuel setting.before inner)
      let after ← ask .clock
      let reached ← get
      let wanted := if portable then none else reached.valueOf? (ascii "TIMEFORMAT")
      let format := wanted.getD (Timing.usual portable)
      -- A process that has been made for the command tells nothing.
      if !format.isEmpty && reached.depth = shell.depth then
        match Timing.report (after - before) (format.length + 1) format with
        | .ok text => let _ ← say 2 (text ++ ['\n'])
        | .error c => complain (ascii "TIMEFORMAT: \x60" ++ [c] ++ ascii "': invalid format character")
      settled left
    | .pipeline commands =>
      runPipeline fuel setting commands
      conclude fuel setting
    | .background inner shown => runBackground fuel inner shown
    | .group body redirections =>
      redirected redirections (evaluate fuel (setting.inside shell redirections) body)
    | .subshell body redirections =>
      let inner : Doing Unit := do
        if shell.isLarge then change fun kept => { kept with loops := 0, elder := [] }
        match ← redirectAll run redirections with
        | none => redirectionFailed
        | some () => evaluate fuel { last := true, tested := setting.tested } body
      if setting.alone || (!shell.isLarge && setting.last && shell.mayTurn) then inner
      else
        match ← inChild (atEnd fuel) inner with
        | some child => finish (← await true child mostWaits)
        | none => finish 2
        conclude fuel setting
    | .conditional test body otherwise redirections =>
      redirected redirections (do
        evaluate fuel .test test
        if (← get).status = 0 then evaluate fuel (setting.inside shell redirections) body
        else
          match otherwise with
          | .nothing => setStatus 0
          | _ => evaluate fuel (setting.inside shell redirections) otherwise)
    | .loop wanted test body redirections =>
      redirected redirections (looping (rounds fuel wanted setting.before test body 0))
    | .forEach line name words shown body redirections =>
      redirected redirections (do
        change fun kept => { kept with line }
        if shell.isLarge && !isName name then
          complain (ascii "\x60" ++ name ++ ascii "': not a valid identifier")
          finish 1
          conclude fuel setting
        else
          let values ← match words with
            | some written => fields run written
            | none => pure shell.arguments
          let heading := ascii "for " ++ name ++ ' ' :: shown
          if values.isEmpty then finish 0
          looping (eachRound fuel setting.before line heading name body values))
    | .menu line name words shown body redirections =>
      redirected redirections (do
        change fun kept => { kept with line }
        let values ← match words with
          | some written => fields run written
          | none => pure shell.arguments
        traceBetween run (ascii "select ") (name ++ ' ' :: shown) []
        if values.isEmpty then finish 0
        else
          looping (choices fuel setting.before true name body values)
          conclude fuel setting)
    | .coprocess name inner shown => startCoprocess fuel name inner shown
    | .count line start test step body redirections =>
      redirected redirections (do
        change fun kept => { kept with line }
        match ← term fuel line start with
        | none => finish 1
        | some _ => looping (countedRounds fuel setting.before line test step body 0)
        conclude fuel setting)
    | .choice line word shown arms redirections =>
      redirected redirections (do
        change fun kept => { kept with line }
        step fuel line (ascii "case " ++ shown ++ ascii " in ")
        traceBetween run (ascii "case ") shown (ascii " in")
        let text ← single run word
        choose fuel (setting.inside shell redirections) false text arms)
    | .arithmetic line chars redirections =>
      redirected redirections (do
        step fuel line (ascii "((" ++ chars ++ ascii "))")
        change fun kept => { kept with line }
        let value ← term fuel line chars
        finish (match value with
          | some value => if value = 0 then 1 else 0
          | none => 1)
        conclude fuel setting)
    | .condition line condition shown redirections =>
      redirected redirections (do
        step fuel line shown
        change fun kept => { kept with line }
        finish (← Verdict.verdict run false condition)
        conclude fuel setting)
    | .define name body =>
      if shell.isLarge && name.any fun c => "'\"\\$\x60".toList.contains c then
        complain (ascii "\x60" ++ name ++ ascii "': not a valid identifier")
        finish 1
      else
        let source := shell.sources.headD
          (if shell.manner.contains 'c' then ascii "environment" else shell.name)
        change fun kept => { kept with
          functions := (name, ⟨body, source⟩) :: kept.functions.filter fun known => known.1 != name
          status := 0 }

/-- The value of an arithmetic term that is a command or a part of one. -/
def term : Nat → Nat → List Char → Doing (Option Int)
  | 0, _, _ => return none
  | fuel + 1, line, chars => do
    change fun kept => { kept with line }
    let text ← expandText (runner fuel) mostStretches chars
    traceBetween (runner fuel) (ascii "(( ") text (ascii " ))")
    Arithmetic.valueOrTell "((" text

/-- Carry out the arms of a choice, from the first one that fits. -/
def choose : Nat → Setting → Bool → List Char → List (List Word × Command × AfterArm) → Doing Unit
  | 0, _, _, _, _ => return ()
  | _ + 1, _, isFound, _, [] => do
    if !isFound then setStatus 0
  | fuel + 1, setting, isFound, text, (patterns, body, next) :: rest => do
    let shell ← get
    let fitting ← patterns.anyM fun written => do
      let pattern ← patternOf (runner fuel) (shell.has "extglob") written
      return Pattern.fits shell.isLarge (shell.has "nocasematch") pattern text
    if fitting then enter fuel setting text body next rest
    else choose fuel setting isFound text rest

/-- Carry out one arm of a choice and what comes after it. -/
def enter : Nat → Setting → List Char → Command → AfterArm →
    List (List Word × Command × AfterArm) → Doing Unit
  | 0, _, _, _, _, _ => return ()
  | fuel + 1, setting, text, body, next, rest => do
    let isLast := next = .leave
    let here := if isLast then setting else setting.before
    match body with
    | .nothing => setStatus 0
    | _ => evaluate fuel here body
    match next, rest with
    | .leave, _ => return ()
    | .fallThrough, (_, other, after) :: others => enter fuel setting text other after others
    | .fallThrough, [] => return ()
    | .tryNext, _ => choose fuel setting true text rest

/-- Carry out one round of a loop; the answer is whether another one may follow. -/
def oneRound : Nat → Setting → Command → Doing Bool
  | 0, _, _ => return false
  | fuel + 1, setting, body => do
    match ← attempt (evaluate fuel setting body) with
    | .ok () => return true
    | .error (.leaveLoop levels) =>
      if 1 < levels then throw (.leaveLoop (levels - 1)) else return false
    | .error (.nextRound levels) =>
      if 1 < levels then throw (.nextRound (levels - 1)) else return true
    | .error leap => throw leap

/-- Carry out a loop while its test holds, or until it does; the status is that of its last round. -/
def rounds : Nat → Bool → Setting → Command → Command → Nat → Doing Unit
  | 0, _, _, _, _, status => setStatus status
  | fuel + 1, wanted, setting, test, body, status => do
    -- Every round takes some of the host's time.
    let _ ← ask .clock
    traps fuel
    let goOn ← oneRound fuel .test test
    if !goOn then return ()
    else if ((← get).status = 0) == wanted then
      let another ← oneRound fuel setting body
      if another then rounds fuel wanted setting test body (← get).status
    else setStatus status

/-- Carry out a loop over values. -/
def eachRound : Nat → Setting → Nat → List Char → List Char → Command → List (List Char) → Doing Unit
  | 0, _, _, _, _, _, _ => return ()
  | _ + 1, _, _, _, _, _, [] => return ()
  | fuel + 1, setting, line, shown, name, body, value :: rest => do
    let _ ← ask .clock
    step fuel line shown
    change fun kept => { kept with line }
    traceBetween (runner fuel) [] shown []
    let shell ← get
    if shell.isFixed name then
      if !shell.isLarge then refuse (fixedMessage .plain name) false
      complain (fixedMessage .large name)
      finish 1
    else
      store name none false value
      let another ← oneRound fuel setting body
      if another then eachRound fuel setting line shown name body rest

/-- Let words be chosen from a menu, and carry out a command for each of them. -/
def choices : Nat → Setting → Bool → List Char → Command → List (List Char) → Doing Unit
  | 0, _, _, _, _, _ => return ()
  | fuel + 1, setting, showing, name, body, words => do
    let _ ← ask .clock
    if showing then
      let _ ← say 2 (Menu.text words)
    let asking := ((← get).valueOf? (ascii "PS3")).getD (ascii "#? ")
    let _ ← say 2 asking
    let status ← Builtin.read (traps fuel) []
    let reply := ((← get).valueOf? (ascii "REPLY")).getD []
    if status != 0 then
      let _ ← say 1 ['\n']
      finish 1
    else if reply.isEmpty then choices fuel setting true name body words
    else
      let chosen := match Builtin.integer? reply with
        | some number => if 1 ≤ number then words[number.toNat - 1]?.getD [] else []
        | none => []
      store name none false chosen
      let another ← oneRound fuel setting body
      let left := ((← get).valueOf? (ascii "REPLY")).getD []
      if another then choices fuel setting left.isEmpty name body words

/-- Carry out a loop while a term is not zero. -/
def countedRounds : Nat → Setting → Nat → List Char → List Char → Command → Nat → Doing Unit
  | 0, _, _, _, _, _, status => finish status
  | fuel + 1, setting, line, test, step, body, status => do
    let _ ← ask .clock
    traps fuel
    match ← term fuel line test with
    | none => finish 1
    | some value =>
      if value = 0 then finish status
      else if ← oneRound fuel setting body then
        let reached := (← get).status
        match ← term fuel line step with
        | none => finish 1
        | some _ => countedRounds fuel setting line test step body reached

/-- Start the commands of a pipeline, each in a process of its own, the first perhaps with nothing to
read. -/
def startPipeline : Nat → Setting → Bool → Option Nat → List Command → Doing (List Nat)
  | 0, _, _, _, _ => return []
  | _ + 1, _, _, _, [] => return []
  | fuel + 1, setting, apart, input, command :: rest => do
    -- What is said for every command is carried out before its process is made.
    if let .simple line _ _ _ shown := command then
      let kept ← get
      if !kept.has "functrace" then step fuel line shown
    let pipe? ← if rest.isEmpty then pure none else do pure (some (← makePipe))
    let started ← inChild (atEnd fuel) (do
      if apart then setApart input.isNone
      if let some (readEnd, writeEnd) := pipe? then
        let _ ← ask (.close readEnd)
        place writeEnd 1
      if let some fd := input then place fd 0
      evaluate fuel { last := true, alone := (← get).isLarge, tested := setting.tested } command)
    if let some (_, writeEnd) := pipe? then
      let _ ← ask (.close writeEnd)
    if let some fd := input then
      let _ ← ask (.close fd)
    return started.toList ++ (← startPipeline fuel setting apart (pipe?.map (·.1)) rest)

/-- Carry out a pipeline. -/
def runPipeline : Nat → Setting → List Command → Doing Unit
  | 0, _, _ => return ()
  | fuel + 1, setting, commands => do
    let shell ← get
    let children ← startPipeline fuel setting false none commands
    let statuses ← children.mapM fun child =>
      await (!shell.isLarge || children.getLast? == some child) child mostWaits
    let status := if shell.has "pipefail" then
        ((statuses.reverse.find? (· != 0))).getD 0
      else (statuses.getLast?).getD 2
    change fun kept => { kept with status, statuses }

/-- Carry out a command in the background. -/
def runBackground : Nat → Command → List Char → Doing Unit
  | 0, _, _ => return ()
  | fuel + 1, inner, shown => do
    let children ← match inner with
      | .pipeline commands => startPipeline fuel {} true none commands
      | _ => do
        let started ← inChild (atEnd fuel) (do
          setApart true
          evaluate fuel { last := true, alone := (← get).isLarge } inner)
        pure started.toList
    match children.getLast? with
    | some child =>
      let shell ← get
      let number := shell.nextJob
      let jobs := children.map fun process => (⟨process, number, shown⟩ : Job)
      change fun kept => { kept with lastBackground := some child, jobs := kept.jobs ++ jobs }
      finish 0
    | none => finish 2

/-- Start a command at the other ends of two pipes. -/
def startCoprocess : Nat → List Char → Command → List Char → Doing Unit
  | 0, _, _, _ => return ()
  | fuel + 1, name, inner, shown => do
    let shell ← get
    let (readEnd, farWrite) ← makePipe
    let (farRead, writeEnd) ← makePipe
    let started ← inChild (atEnd fuel) (do
      let _ ← ask (.close readEnd)
      let _ ← ask (.close writeEnd)
      place farWrite 1
      place farRead 0
      setApart false
      evaluate fuel { last := true, alone := true } inner)
    closeAll [farWrite, farRead]
    let taken := shell.openEnds ++ match shell.coprocess with
      | some (_, _, reading, writing) => [reading, writing]
      | none => []
    let free := (List.range 64).reverse.filter fun number => 10 ≤ number && !taken.contains number
    let reading := free.headD 63
    let writing := (free.drop 3).headD 60
    placeApart readEnd reading
    placeApart writeEnd writing
    match started with
    | some child =>
      let number := shell.nextJob
      change fun kept => { kept with
        coprocess := some (name, child, reading, writing)
        lastBackground := some child
        jobs := kept.jobs ++ [⟨child, number, shown⟩] }
      change fun kept => (kept.putVariable name
        { content := .list [(0, numeral reading), (1, numeral writing)] }).setVariable
          (name ++ ascii "_PID") (numeral child)
      finish 0
    | none => finish 1

/-- Carry out a simple command of the plain shell: its redirections come first, and its assignments last
if it is a special one. -/
def simplePlain : Nat → Setting → List Assignment → List (List Char) → List Redirection → Doing Unit
  | 0, _, _, _, _ => return ()
  | fuel + 1, setting, assignments, words, redirections => do
    let run := runner fuel
    let summons := Control.summonsOf .plain { words } words
    let name := summons.name
    let special := !summons.noFunction && (Builtin.isSpecial name || name == ascii "local")
    let isExec := name == ascii "exec"
    let lasting := words.isEmpty || (special && name != ascii "local")
    let kept ← if isExec then pure [] else keep redirections
    let left ← attempt (do
      match ← redirectAll run redirections with
      | none =>
        redirectionFailed
        if special then throw .giveUp
      | some () =>
        change fun shell => { shell with traceTo := ((kept.lookup 2).getD none).getD 2 }
        let before := standing (← get) assignments
        let (pairs, shown) ← if lasting then do pure ([], ← assignAll run assignments)
          else assignForCommand run assignments
        traceCommand run shown words
        change fun shell => { shell with traceTo := 2 }
        if words.isEmpty then finish ((← get).lastOutput.getD 0)
        else
          perform fuel setting summons pairs [] special
          if !lasting then change fun shell => shell.putBack before)
    change fun shell => { shell with traceTo := 2 }
    putBack kept
    settled left

/-- Carry out a simple command of the large shell. -/
def simpleLarge : Nat → Setting → List Assignment → Called → List Redirection → Doing Unit
  | 0, _, _, _, _ => return ()
  | fuel + 1, setting, assignments, called, redirections => do
    let run := runner fuel
    let words := called.words
    if words.isEmpty then
      let shown ← assignAll run assignments
      traceCommand run shown []
      finish ((← get).lastOutput.getD 0)
      if !redirections.isEmpty then
        let _ ← withRedirections run redirections (return ())
    else
      let summons := Control.summonsOf .large { words } words
      let before := standing (← get) assignments
      let (pairs, shown) ← assignForCommand run assignments
      for array in called.arrays do
        if let [.elements chars] := array.value then
          traceCommand run [array.name ++ ascii "=(" ++ tracedElements chars ++ [')']] []
      traceCommand run shown words
      let declares := summons.name == ascii "export" || summons.name == ascii "readonly"
      for word in summons.words.tail do
        if let some (name, _, _, value) := Parser.assignmentHead? .large word then
          if declares then traceCommand run [name ++ '=' :: Quoting.traced .large value] []
      let left ← attempt (perform fuel setting summons pairs redirections false)
      change fun shell => { shell.putBack before with lastWord := words.getLast?.getD [] }
      settled left
      for array in called.arrays do
        let _ ← assign run true array
    change fun kept => { kept with statuses := [kept.status] }

/-- Carry out the command that some words mean; the redirections still have to be put in place. -/
def perform : Nat → Setting → Control.Summons → List (List Char × List Char) → List Redirection →
    Bool → Doing Unit
  | 0, _, _, _, _, _ => return ()
  | fuel + 1, setting, summons, pairs, redirections, special => do
    let shell ← get
    let run := runner fuel
    let name := summons.name
    let arguments := summons.words.tail
    let function? := if summons.noFunction then none else shell.functions.lookup name
    match function? with
    | some function =>
      let _ ← withRedirections run redirections (callFunction fuel setting name function arguments)
    | none =>
      if name == ascii "exec" then
        match ← redirectAll run redirections with
        | none => redirectionFailed
        | some () => setStatus (← replace arguments pairs)
      else if Builtin.isOwn shell.dialect name then
        let _ ← withRedirections run redirections (callOwn fuel setting special name arguments)
      else if summons.noProgram then
        complain (ascii "builtin: " ++ name ++ ascii ": not a shell builtin")
        setStatus 1
      else
        let turning := shell.mayTurn &&
          (setting.alone || (setting.last && (!shell.isLarge || redirections.isEmpty)))
        let program : Doing Unit := do
          match ← redirectAll run redirections with
          | none =>
            redirectionFailed
            throw (.exit (← get).status)
          | some () => runProgram { turning } summons.words pairs
        if turning then program
        else
          match ← inChild (fun code => return code) program with
          | some child =>
            setStatus (← await true child mostWaits)
            releaseCoprocess
          | none => setStatus 2

/-- Carry out a command of the shell's own. What the plain shell gives up there does not end it, unless
the command is a special one. -/
def callOwn : Nat → Setting → Bool → List Char → List (List Char) → Doing Unit
  | 0, _, _, _, _ => return ()
  | fuel + 1, setting, special, name, arguments => do
    let shell ← get
    if !shell.isLarge then change fun kept => { kept with builtin := some name }
    let left ← attempt (own fuel setting name arguments)
    change fun kept => { kept with builtin := shell.builtin }
    match left with
    | .ok status => setStatus status
    | .error .giveUp => if special then throw .giveUp else setStatus 2
    | .error leap => throw leap

/-- The status that a command of the shell's own comes to. -/
def own : Nat → Setting → List Char → List (List Char) → Doing Nat
  | 0, _, _, _ => return 127
  | fuel + 1, setting, name, arguments => do
    let shell ← get
    match String.ofList name with
    | "exit" => Control.exit arguments
    | "return" => Control.leave arguments
    | "break" => Control.leap "break" .leaveLoop arguments
    | "continue" => Control.leap "continue" .nextRound arguments
    | "eval" =>
      let words := if arguments.head? == some ['-', '-'] then arguments.tail else arguments
      let line := if shell.isLarge then shell.line else 1
      let script : Script :=
        { chars := [' '].intercalate words, kind := some (ascii "eval"), firstLine := line }
      deeper fuel script { tested := setting.tested }
      return (← get).status
    | "." => readScript fuel setting name arguments
    | "command" => Control.describe arguments
    | "builtin" => return 0
    | "type" => Builtin.type (Builtin.isOwn shell.dialect) arguments
    | "wait" =>
      let status ← Control.wait (runTrap fuel) arguments
      releaseCoprocess
      return status
    | _ =>
      if shell.isLarge && name == ascii "source" then readScript fuel setting name arguments
      else
        match Builtin.find? shell.dialect (traps fuel) name with
        | some builtin => builtin arguments
        | none => return 127

/-- Carry out the script in a file within the one that is carried out. -/
def readScript : Nat → Setting → List Char → List (List Char) → Doing Nat
  | 0, _, _, _ => return 127
  | fuel + 1, setting, name, arguments => do
    let shell ← get
    let words := if arguments.head? == some ['-', '-'] then arguments.tail else arguments
    match words with
    | [] =>
      if !shell.isLarge then return 0
      else
        let _ ← failing name (ascii "filename argument required") 2
        let _ ← say 2 (name ++ ascii ": usage: " ++ name ++ ascii " filename [arguments]\n")
        return 2
    | word :: others =>
      let command := String.ofList name
      let some path ← scriptPath word
        | Builtin.fault command (word ++ ascii ": not found") 2
      let info ← ask (.info (octets path) true)
      if shell.isLarge && info.toOption.any (·.kind == .directory) then
        Builtin.told command (word ++ ascii ": is a directory") 1
      else
        match ← ask (.openFile (octets path) Host.Access.reading true), shell.dialect with
        | .error errno, .large =>
          complain (openFailure .large .read word errno)
          return 1
        | .error errno, .plain => Builtin.fault command (openFailure .plain .read word errno) 2
        | .ok fd, _ =>
          let text ← outside (Host.readAll fd)
          let _ ← ask (.close fd)
          change fun kept => { kept with
            running := if shell.isLarge then ascii "source" :: kept.running else kept.running
            sources := if shell.isLarge then path :: kept.sources else kept.sources
            builtin := if shell.isLarge then none else some path
            arguments := if shell.isLarge && !others.isEmpty then others else kept.arguments }
          let script : Script := { chars := Bytes.toOctets (text.toOption.getD []) }
          let left ← attempt (deeper fuel script { tested := setting.tested })
          change fun kept => { kept with
            running := shell.running, sources := shell.sources, builtin := shell.builtin, line := shell.line
            arguments := if shell.isLarge && !others.isEmpty then shell.arguments else kept.arguments }
          match left with
          | .ok () =>
            onReturn fuel
            return (← get).status
          | .error (.leaveFunction code) =>
            onReturn fuel
            return code
          | .error leap => throw leap

/-- Call a function: its words are the arguments while it runs. -/
def callFunction : Nat → Setting → List Char → Function → List (List Char) → Doing Unit
  | 0, _, _, _, _ => return ()
  | fuel + 1, setting, name, function, arguments => do
    let shell ← get
    let large := shell.isLarge
    change fun kept => { kept with
      arguments
      hidden := [] :: kept.hidden
      running := name :: kept.running
      sources := function.source :: kept.sources
      loops := 0
      optionPlace := if large then kept.optionPlace else 0
      failureTrap := if kept.has "errtrace" then kept.failureTrap else none
      stepTrap := if kept.has "functrace" then kept.stepTrap else none
      returnTrap := if kept.has "functrace" then kept.returnTrap else none }
    step fuel shell.line shell.command
    let left ← attempt (evaluate fuel { tested := setting.tested } function.body)
    match left with
    | .ok () | .error (.leaveFunction _) => onReturn fuel
    | .error _ => pure ()
    change fun kept =>
      { kept.putBack (kept.hidden.headD []) with
        arguments := shell.arguments
        hidden := shell.hidden
        running := shell.running
        sources := shell.sources
        loops := shell.loops
        line := shell.line
        optionPlace := if large then kept.optionPlace else shell.optionPlace
        failureTrap := kept.failureTrap.orElse fun _ => shell.failureTrap
        stepTrap := kept.stepTrap.orElse fun _ => shell.stepTrap
        returnTrap := kept.returnTrap.orElse fun _ => shell.returnTrap }
    match left with
    | .ok () => return ()
    | .error (.leaveFunction code) => setStatus code
    | .error leap => throw leap

end

end Umpire.Shell
