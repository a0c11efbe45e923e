import Umpire.Tool.Names
import Umpire.Tool.Outlet
import Umpire.Tool.Script

/-! The line editor `sed`: how its scripts are carried out. -/

namespace Umpire.Tool.Editor

open Host Script

/-- How the editor has been told to work. -/
structure Manner where
  silent : Bool
  /-- Whether every file stands for itself. -/
  separate : Bool
  /-- Whether files are written back, and what is added to the names of what they were. -/
  inPlace : Option Bytes
  eager : Bool
  width : Nat
  /-- What ends a line. -/
  mark : UInt8

/-- A line that has been read, whether it had an end, and where it is from. -/
structure Line where
  text : List Char
  hasEnd : Bool
  path : Bytes

/-- When a range that has started is over. -/
inductive Ending where
  | at (line : Nat)
  | by (place : Spot)
  deriving DecidableEq, Repr

/-- What is printed when the work on a line is done. -/
inductive Later where
  | text (text : List Char)
  | file (path : Bytes)
  | lineOf (path : Bytes)

/-- All that the editor keeps in mind. -/
structure Desk where
  manner : Manner
  program : List Instruction
  /-- The files still to be read, the one that is being read, and what has been read of it. -/
  paths : List Bytes
  input : Option (Bytes × Nat) := none
  ready : List Line := []
  rest : Bytes := []
  line : Nat := 0
  current : Line := ⟨[], true, []⟩
  held : Line := ⟨[], true, []⟩
  hasReplaced : Bool := false
  later : List Later := []
  ranges : List (Nat × Ending) := []
  lastRegex : Option Regex := none
  /-- What is to be printed. -/
  outlet : Outlet
  /-- What the file is to become that is edited, the latest part first. -/
  edited : List Bytes := []
  /-- Whether what was printed last lacks its end. -/
  lacksEnd : Bool := false
  files : List (Bytes × Nat) := []
  readers : List (Bytes × List Bytes) := []
  code : Nat := 0

/-- A step of the editor's work; an early end has a code. -/
abbrev Work (α : Type) := StateT Desk (ExceptT Nat Talk) α

/-- Make a call. -/
def ask (wanted : Call) : Work wanted.Answer :=
  StateT.lift (ExceptT.lift (call wanted))

/-- Do something that is no part of the editor's own work. -/
def outside {α : Type} (work : Talk α) : Work α :=
  StateT.lift (ExceptT.lift work)

/-- Stop with a complaint. -/
def failed {α : Type} (reason : Bytes) (code : Nat) : Work α := do
  outside (complain reason)
  StateT.lift (throw code)

/-- Write bytes, which stand for so many that were to be written. -/
def write (wanted : Option Nat) (data : Bytes) : Work Unit := do
  if !data.isEmpty then
    match ← outside (writeAll 1 data) with
    | .ok () => pure ()
    | .error errno =>
      let what : Bytes := match wanted with
        | none => bytes "flush"
        | some 1 => bytes "write 1 item to"
        | some count => bytes "write " ++ numeral count ++ bytes " items to"
      failed (bytes "couldn't " ++ what ++ bytes " stdout: " ++ bytes errno.usual) 4

/-- Write out what has been printed. -/
def flush : Work Unit := do
  let desk ← get
  set { desk with outlet := desk.outlet.emptied }
  write none desk.outlet.held

/-- Print bytes as they are. -/
def put (data : Bytes) : Work Unit := do
  let desk ← get
  if desk.manner.inPlace.isSome then set { desk with edited := data :: desk.edited }
  else
    let (ready, outlet) := desk.outlet.take data
    set { desk with outlet }
    write (some data.length) ready

/-- Print a text with its end, after the end that is still lacking. -/
def showLine (text : List Char) (hasEnd : Bool) : Work Unit := do
  let desk ← get
  let start : Bytes := if desk.lacksEnd then [desk.manner.mark] else []
  set { desk with lacksEnd := !hasEnd }
  put (start ++ Utf8.restored text)
  if hasEnd then put [desk.manner.mark]
  if desk.manner.eager then flush

/-- Print a text that has its own end. -/
def showText (text : List Char) : Work Unit := do
  let desk ← get
  let start : Bytes := if desk.lacksEnd then [desk.manner.mark] else []
  set { desk with lacksEnd := false }
  put (start ++ Utf8.restored text)
  if desk.manner.eager then flush

/-- The name of a file as it was and as it is kept. -/
def keptName (path suffix : Bytes) : Bytes :=
  let star := Bytes.ascii '*'
  if suffix.contains star then
    let name := suffix.flatMap fun byte => if byte == star then lastName path else [byte]
    if name.contains (Bytes.ascii '/') then name else inside (directoryOf path) name
  else path ++ suffix

/-- Write back the file that has been edited. -/
def writeBack (path : Bytes) : Work Unit := do
  let desk ← get
  match desk.manner.inPlace with
  | none => pure ()
  | some suffix =>
    set { desk with edited := [], lacksEnd := false }
    let mode := match ← ask (.info path true) with
      | .ok info => info.mode
      | .error _ => 0o644
    let _ ← if suffix.isEmpty then ask (.remove path) else ask (.rename path (keptName path suffix))
    match ← ask (.openFile path Access.writing false) with
    | .error errno => failed (bytes "couldn't open file " ++ path ++ bytes ": " ++ bytes errno.usual) 4
    | .ok fd =>
      let _ ← outside (writeAll fd desk.edited.reverse.flatten)
      let _ ← ask (.close fd)
      let _ ← ask (.setMode path mode)

/-- Open the next file that can be opened. -/
def openNext : Nat → Work Bool
  | 0 => return false
  | fuel + 1 => do
    let desk ← get
    match desk.paths with
    | [] => return false
    | path :: paths =>
      set { desk with paths }
      let missed (reason : Bytes) (code : Nat) : Work Bool := do
        outside (complain reason)
        modify fun desk => { desk with code }
        openNext fuel
      let isEdited := desk.manner.inPlace.isSome
      let known ← ask (.info path true)
      let isOther : Bool := match known with
        | .ok info => info.kind != .file
        | .error _ => false
      if isEdited && isOther then
        missed (bytes "couldn't edit " ++ path ++ bytes ": not a regular file") 4
      else
        match ← outside (openInput path) with
        | .error errno =>
          missed (bytes "can't read " ++ path ++ bytes ": " ++ bytes errno.usual) 2
        | .ok fd =>
          modify fun desk => { desk with
            input := some (path, fd)
            line := if desk.manner.separate then 0 else desk.line }
          return true

/-- The complete lines that some bytes start with, and what is left. -/
def completeLines (mark : UInt8) (path : Bytes) (data : Bytes) : List Line × Bytes :=
  let parts := data.splitOn mark
  (parts.dropLast.map fun text => ⟨Utf8.loose text, true, path⟩, parts.getLastD [])

/-- Read until a line is ready; the answer is whether there is one. Without `onwards`, only the file that
is being read counts. -/
def fill (onwards : Bool) : Nat → Work Bool
  | 0 => return false
  | fuel + 1 => do
    let desk ← get
    if !desk.ready.isEmpty then return true
    else
      match desk.input with
      | none =>
        if ← pure onwards <&&> openNext (desk.paths.length + 1) then fill onwards fuel else return false
      | some (path, fd) =>
        match ← ask (.read fd (if desk.manner.eager then 1 else chunk)) with
        | .error errno =>
          if errno = Errno.interrupted then fill onwards fuel
          else failed (bytes "read error on " ++ path ++ bytes ": " ++ bytes errno.usual) 4
        | .ok [] =>
          if fd != 0 then
            let _ ← ask (.close fd)
          let last : List Line := if desk.rest.isEmpty then [] else [⟨Utf8.loose desk.rest, false, path⟩]
          modify fun desk => { desk with input := none, ready := last, rest := [] }
          fill onwards fuel
        | .ok data =>
          let (lines, rest) := completeLines desk.manner.mark path (desk.rest ++ data)
          set { desk with ready := lines, rest }
          fill onwards fuel

/-- Whether the line that is worked on is the last one. -/
def isLast : Work Bool := do
  let desk ← get
  return !(← fill (!desk.manner.separate) mostPieces)

/-- Print what was to be printed after the work on a line. -/
def showLater : Work Unit := do
  let later := (← get).later
  modify fun desk => { desk with later := [] }
  for item in later do
    match item with
    | .text text => showText text
    | .file path =>
      match ← outside (readInput (if path = bytes "/dev/stdin" then bytes "-" else path)) with
      | .ok data =>
        showText []
        put data
      | .error _ => pure ()
    | .lineOf path =>
      let lines ← match (← get).readers.lookup path with
        | some lines => pure lines
        | none => do
          let data ← outside (readInput path)
          pure ((linesOf (data.toOption.getD [])).map bareLine)
      modify fun desk =>
        { desk with readers := (path, lines.tail) :: desk.readers.filter fun known => known.1 != path }
      if let line :: _ := lines then showLine (Utf8.loose line) true

/-- Take the next line in place of the current one; the answer is whether there is one. -/
def nextLine : Work Bool := do
  showLater
  if !(← fill false mostPieces) then
    -- The file is at its end: it is written back before the next one is read.
    let path := (← get).current.path
    if 0 < (← get).line then writeBack path
    if (← get).manner.separate then modify fun desk => { desk with line := 0 }
  if !(← fill true mostPieces) then return false
  else
    modify fun desk => match desk.ready with
      | line :: ready =>
        { desk with ready, current := line, line := desk.line + 1, hasReplaced := false }
      | [] => desk
    return true

/-- The regular expression that is meant, which is then the last one that was used. -/
def regexMeant (given : Option Regex) : Work Regex := do
  match given, (← get).lastRegex with
  | some regex, _ =>
    modify fun desk => { desk with lastRegex := some regex }
    return regex
  | none, some regex => return regex
  | none, none => failed (bytes "no previous regular expression") 1

/-- Whether the current line is at a place. -/
def isAt (place : Spot) : Work Bool := do
  let desk ← get
  match place with
  | .line number => return desk.line = number
  | .last => isLast
  | .matching regex fold =>
    let meant ← regexMeant regex
    return (Regex.find? fold meant desk.current.text).isSome
  | .every first step =>
    return if step = 0 then desk.line = first else first ≤ desk.line && (desk.line - first) % step = 0
  | .offset _ | .multiple _ => return false

/-- How a range that starts at the current line will be over; none if it is the only line. -/
def endingOf (line : Nat) (finish : Spot) : Option Ending :=
  match finish with
  | .line number => if number ≤ line then none else some (.at number)
  | .offset count => if count = 0 then none else some (.at (line + count))
  | .multiple count => if count = 0 then none else some (.at ((line / count + 1) * count))
  | other => some (.by other)

/-- Whether a command is for the current line, and whether a range goes on after it. -/
def isMeant (place : Nat) (wanted : Instruction) : Work (Bool × Bool) := do
  let desk ← get
  let leave : Work Unit :=
    modify fun desk => { desk with ranges := desk.ranges.filter fun known => known.1 != place }
  match wanted.start, wanted.finish with
  | none, _ => return (true, false)
  | some start, none => return (← isAt start, false)
  | some start, some finish =>
    let active : Option Ending := match desk.ranges.lookup place with
      | some ending => some ending
      | none => none
    match active with
    | some (.at last) =>
      if last ≤ desk.line then leave
      return (desk.line ≤ last, desk.line < last)
    | some (.by finish) =>
      let isOver ← isAt finish
      if isOver then leave
      return (true, !isOver)
    | none =>
      if ← isAt start then
        match endingOf desk.line finish with
        | none => return (true, false)
        | some ending =>
          modify fun desk => { desk with ranges := (place, ending) :: desk.ranges }
          return (true, true)
      else return (false, false)

/-- The place after the brace that closes the block after some place. -/
def afterBlock (program : List Instruction) : Nat → Nat → Nat → Nat
  | 0, place, _ => place
  | fuel + 1, place, depth =>
    match (program[place]?).map Instruction.action with
    | some .opening => afterBlock program fuel (place + 1) (depth + 1)
    | some .closing => if depth = 0 then place + 1 else afterBlock program fuel (place + 1) (depth - 1)
    | some _ => afterBlock program fuel (place + 1) depth
    | none => place

/-- The place of a label; a label that is set several times is where it was set last. -/
def placeOf? (program : List Instruction) (name : List Char) : Option Nat :=
  if name.isEmpty then some program.length
  else
    ((program.zip (List.range program.length)).reverse.find? fun entry => entry.1.action == .label name).map (·.2)

/-- A text in the letter case that is asked for. -/
def recased (all next : Option Casing) : List Char → List Char
  | [] => []
  | c :: rest =>
    let whole (c : Char) : Char := match all with
      | some .upper => c.toUpper
      | some .lower => c.toLower
      | _ => c
    (match next with
      | some .upperNext => c.toUpper
      | some .lowerNext => c.toLower
      | _ => whole c) :: rest.map whole

/-- What replaces a match. -/
def replacementOf (found : Regex.Match) : Option Casing → Option Casing → List Portion → List Char
  | _, _, [] => []
  | all, next, portion :: rest =>
    match portion with
    | .casing .done => replacementOf found none none rest
    | .casing casing =>
      if casing = .upper || casing = .lower then replacementOf found (some casing) next rest
      else replacementOf found all (some casing) rest
    | .text chars =>
      recased all next chars ++ replacementOf found all (if chars.isEmpty then next else none) rest
    | .group index =>
      let chars := (found.group? index).getD []
      recased all next chars ++ replacementOf found all (if chars.isEmpty then next else none) rest

/-- A text with matches replaced from some place on, and whether there was one. -/
def replacedFrom (exchange : Exchange) (regex : Regex) (text : List Char) :
    Nat → Nat → Nat → Option Nat → List Char × Bool
  | 0, _, place, _ => (text.drop place, false)
  | fuel + 1, count, place, lastEnd =>
    match Regex.findAfter? exchange.fold regex text place with
    | none => (text.drop place, false)
    | some found =>
      let before := (text.drop place).take (found.start - place)
      let after := found.start + found.chars.length
      -- No empty match right after another one counts.
      if found.chars.isEmpty && lastEnd = some found.start then
        match text.drop found.start with
        | [] => (before, false)
        | c :: _ =>
          let (rest, changed) := replacedFrom exchange regex text fuel count (found.start + 1) none
          (before ++ c :: rest, changed)
      else
        let isWanted := count = exchange.first || (exchange.all && exchange.first ≤ count)
        let shown := if isWanted then replacementOf found none none exchange.portions else found.chars
        let skipped : List Char := if found.chars.isEmpty then (text.drop after).take 1 else []
        if isWanted && !exchange.all then (before ++ shown ++ text.drop after, true)
        else if found.chars.isEmpty && skipped.isEmpty then (before ++ shown, isWanted)
        else
          let (rest, changed) :=
            replacedFrom exchange regex text fuel (count + 1) (after + skipped.length)
              (if skipped.isEmpty then some after else none)
          (before ++ shown ++ skipped ++ rest, changed || isWanted)

/-- A text in which every character can be seen, in lines of a length. -/
def unfolded (length : Nat) (text : List Char) : List Char :=
  let shown (c : Char) : List Char :=
    if c == '\\' then ['\\', '\\'] else if ' ' ≤ c && c ≤ '~' then [c] else escapeOf c
  let (lines, _) := text.foldl (fun (state : List Char × Nat) c =>
    let part := shown c
    if 1 < length && length - 1 < state.2 + part.length then
      (part.reverse ++ ['\n', '\\'] ++ state.1, part.length)
    else (part.reverse ++ state.1, state.2 + part.length)) ([], 0)
  lines.reverse ++ ['$']

/-- The descriptor of a file that is written to. -/
def fileOf (path : Bytes) : Work (Option Nat) := do
  match (← get).files.lookup path with
  | some fd => return some fd
  | none =>
    if path = bytes "/dev/stderr" then return some 2
    else
      match ← ask (.openFile path Access.writing false) with
      | .ok fd =>
        modify fun desk => { desk with files := (path, fd) :: desk.files }
        return some fd
      | .error errno => failed (bytes "couldn't open file " ++ path ++ bytes ": " ++ bytes errno.usual) 4

/-- Write a line to a file. -/
def writeLine (path text : List Char) : Work Unit := do
  let name := Utf8.restored path
  if name = bytes "/dev/stdout" then showLine text true
  else
    match ← fileOf name with
    | some fd =>
      let _ ← outside (writeAll fd (Utf8.restored text ++ [lineEnd]))
    | none => pure ()

/-- How it goes on after a command. -/
inductive Next where
  | at (place : Nat)
  /-- The work on the line is done; it is printed if that is wanted. -/
  | done
  /-- The work on the line is done and the line is gone. -/
  | gone
  /-- The script is carried out again with what is left of the line. -/
  | again
  | quit (code : Nat) (silent : Bool)

/-- Give the current line another text. -/
def setText (text : List Char) : Work Unit :=
  modify fun desk => { desk with current := { desk.current with text } }

/-- Carry out a command of one letter. -/
def letter (c : Char) (place : Nat) : Work Next := do
  let desk ← get
  let current := desk.current
  let held := desk.held
  let mark := Char.ofNat desk.manner.mark.toNat
  let firstLine := current.text.takeWhile (· != mark)
  let onwards : Next := .at (place + 1)
  match c with
  | '=' =>
    showText (Numeral.ofNat desk.line ++ ['\n'])
    return onwards
  | 'd' => return .gone
  | 'D' =>
    if firstLine.length = current.text.length then return .gone
    else
      setText (current.text.drop (firstLine.length + 1))
      return .again
  | 'g' =>
    modify fun desk => { desk with current := { held with path := current.path } }
    return onwards
  | 'G' =>
    modify fun desk => { desk with current := { current with text := current.text ++ mark :: held.text } }
    return onwards
  | 'h' =>
    modify fun desk => { desk with held := current }
    return onwards
  | 'H' =>
    modify fun desk => { desk with held := { held with text := held.text ++ mark :: current.text } }
    return onwards
  | 'x' =>
    modify fun desk => { desk with current := { held with path := current.path }, held := current }
    return onwards
  | 'n' =>
    if ← isLast then return .done
    else
      if !desk.manner.silent then showLine current.text current.hasEnd
      if ← nextLine then return onwards else return .quit 0 true
  | 'N' =>
    if ← isLast then return .done
    else if ← nextLine then
      modify fun desk =>
        { desk with current := { desk.current with text := current.text ++ mark :: desk.current.text } }
      return onwards
    else return .quit 0 true
  | 'p' =>
    showLine current.text current.hasEnd
    return onwards
  | 'P' =>
    showLine firstLine (current.hasEnd || firstLine.length != current.text.length)
    return onwards
  | 'F' =>
    showText (Utf8.loose current.path ++ ['\n'])
    return onwards
  | _ =>
    setText []
    return onwards

/-- Carry out a command. -/
def perform (wanted : Script.Action) (place : Nat) (goesOn : Bool) : Work Next := do
  let desk ← get
  let onwards : Next := .at (place + 1)
  let later (item : Later) : Work Next := do
    modify fun desk => { desk with later := desk.later ++ [item] }
    return onwards
  let jump (name : List Char) : Work Next :=
    return .at ((placeOf? desk.program name).getD desk.program.length)
  match wanted with
  | .opening | .closing | .label _ => return onwards
  | .goTo name => jump name
  | .goIfReplaced name =>
    if desk.hasReplaced then
      modify fun desk => { desk with hasReplaced := false }
      jump name
    else return onwards
  | .goUnlessReplaced name =>
    if desk.hasReplaced then
      modify fun desk => { desk with hasReplaced := false }
      return onwards
    else jump name
  | .exchange exchange =>
    let regex ← regexMeant exchange.regex
    let text := desk.current.text
    let (changed, isChanged) := replacedFrom exchange regex text (text.length + 2) 1 0 none
    if isChanged then
      setText changed
      modify fun desk => { desk with hasReplaced := true }
      if exchange.prints then showLine changed desk.current.hasEnd
      if let some path := exchange.file then writeLine path changed
    return onwards
  | .swap table =>
    setText (desk.current.text.map fun c => (table.lookup c).getD c)
    return onwards
  | .append text => later (.text text)
  | .insert text =>
    showText text
    return onwards
  | .change text =>
    if !goesOn then showText text
    return .gone
  | .readFile path => later (.file (Utf8.restored path))
  | .readLine path => later (.lineOf (Utf8.restored path))
  | .unfold length =>
    showText (unfolded (length.getD desk.manner.width) desk.current.text ++ ['\n'])
    return onwards
  | .writeFile path firstLine =>
    let text := desk.current.text
    writeLine path (if firstLine then text.takeWhile (· != '\n') else text)
    return onwards
  | .quit code silent => return .quit code silent
  | .letter c => letter c place

/-- Carry out the script from some place on. -/
def carryOut : Nat → Nat → Work Next
  | 0, _ => return .done
  | fuel + 1, place => do
    let program := (← get).program
    match program[place]? with
    | none => return .done
    | some wanted =>
      let (isHere, goesOn) ← isMeant place wanted
      if isHere != wanted.negated then
        match ← perform wanted.action place (goesOn && !wanted.negated) with
        | .at next => carryOut fuel next
        | other => return other
      else if wanted.action == .opening then carryOut fuel (afterBlock program program.length (place + 1) 0)
      else carryOut fuel (place + 1)

/-- Print the current line unless only what is asked for is printed. -/
def showCurrent : Work Unit := do
  let desk ← get
  if !desk.manner.silent then showLine desk.current.text desk.current.hasEnd

/-- Leave what has been read of standard input, but not taken, to others, where that can be. -/
def leaveRest (desk : Desk) : Work Unit := do
  if let some (_, 0) := desk.input then
    let sizes := desk.ready.map fun line => (Utf8.restored line.text).length + line.hasEnd.toNat
    let _ ← ask (.goBack 0 (desk.rest.length + sizes.foldr (· + ·) 0))

/-- Work on line after line; with `again`, first once more on what is left of the current one. -/
def workOn : Nat → Bool → Work Nat
  | 0, _ => return 0
  | fuel + 1, again => do
    if ← pure again <||> nextLine then
      match ← carryOut mostPieces 0 with
      | .at _ | .done =>
        showCurrent
        workOn fuel false
      | .gone => workOn fuel false
      | .again =>
        showLater
        workOn fuel true
      | .quit code silent =>
        if !silent then showCurrent
        showLater
        let desk ← get
        leaveRest desk
        if desk.manner.inPlace.isSome then
          -- What has not been read of the file stays as it is.
          let rest := desk.ready.map fun line =>
            Utf8.restored line.text ++ (if line.hasEnd then [desk.manner.mark] else [])
          let more ← match desk.input with
            | some (_, fd) => outside (readAll fd)
            | none => pure (.ok [])
          put (rest.flatten ++ desk.rest ++ more.toOption.getD [])
          writeBack desk.current.path
        return code
    else return 0

/-- The files that a script writes to. -/
def writtenFiles (program : List Instruction) : List Bytes :=
  (program.filterMap fun wanted => match wanted.action with
    | .writeFile path _ => some (Utf8.restored path)
    | .exchange exchange => exchange.file.map Utf8.restored
    | _ => none).filter fun path => path != bytes "/dev/stdout"

/-- The labels that a script goes to but does not have. -/
def lostLabel? (program : List Instruction) : Option (List Char) :=
  program.findSome? fun wanted =>
    match wanted.action with
    | .goTo name | .goIfReplaced name | .goUnlessReplaced name =>
      if (placeOf? program name).isNone then some name else none
    | _ => none

/-- Do the whole work. -/
def work : Work Nat := do
  let desk ← get
  for path in writtenFiles desk.program do
    let _ ← fileOf path
  -- A range from before the first line on has started already.
  modify fun desk =>
    let starts := (desk.program.zip (List.range desk.program.length)).filterMap fun entry =>
      match entry.1.start, entry.1.finish with
      | some (.line 0), some finish => some (entry.2, Ending.by finish)
      | _, _ => none
    { desk with ranges := starts }
  let code ← workOn mostPieces false
  flush
  let left ← get
  return if code = 0 then left.code else code

/-- A part of a script: where it is from and its text. -/
structure Part where
  file : Option Bytes
  text : List Char

/-- Say where in the parts of a script something is wrong. -/
def flawShown (reason : String) (at? : Nat) : Nat → List Part → Bytes
  | _, [] => bytes reason
  | number, part :: rest =>
    if at? ≤ part.text.length || rest.isEmpty then
      match part.file with
      | none =>
        -- It is bytes that are counted.
        let read := (Utf8.restored (part.text.take at?)).length + (at? - part.text.length)
        bytes "-e expression #" ++ numeral number ++ bytes ", char " ++ numeral read ++ bytes (": " ++ reason)
      | some path =>
        let line := ((part.text.take (at? - 1)).filter (· == '\n')).length + 1
        bytes "file " ++ path ++ bytes " line " ++ numeral line ++ bytes (": " ++ reason)
    else
      flawShown reason (at? - part.text.length - 1) (if part.file.isNone then number + 1 else number) rest

/-- Tell how the editor is used. -/
def usage (reason : Option Bytes) : Talk Nat := do
  if let some reason := reason then complain reason
  let _ ← writeAll 2 (bytes "Usage: " ++ (← ownName) ++
    bytes " [OPTION]... \x7bscript-only-if-no-other-script\x7d [input-file]...\n")
  return 1

/-- The parts of the script that options and words give, and the words after it. -/
def partsOf (chosen : Chosen) : Talk (Except Bytes (List Part × List Bytes)) := do
  let mut parts : List Part := []
  for (letter, text) in chosen.options do
    if letter == 'e' then parts := parts ++ [⟨none, Utf8.loose text⟩]
    else if letter == 'f' then
      match ← readInput text with
      | .error errno =>
        return .error (bytes "couldn't open file " ++ text ++ bytes ": " ++ bytes errno.usual)
      | .ok data => parts := parts ++ [⟨some text, Utf8.loose (bareLine data)⟩]
  match parts, chosen.words with
  | [], script :: rest => return .ok ([⟨none, Utf8.loose script⟩], rest)
  | _, words => return .ok (parts, words)

/-- Edit lines by a script. -/
def sed (words : List Bytes) : Talk Nat := do
  let known : Known := {
    letters := "e:Ef:i::l:nrsuz#"
    long := [("expression", 'e'), ("regexp-extended", 'E'), ("file", 'f'), ("in-place", 'i'), ("line-length", 'l'),
      ("quiet", 'n'), ("silent", 'n'), ("separate", 's'), ("unbuffered", 'u'), ("null-data", 'z'), ("posix", '#'),
      ("debug", '#')] }
  match readOptions known (words.length + 1) words with
  | .error reason => usage (some reason)
  | .ok chosen =>
    match ← partsOf chosen with
    | .error reason =>
      complain reason
      return 4
    | .ok ([], _) => usage none
    | .ok (parts, paths) =>
      let script := ['\n'].intercalate (parts.map (·.text))
      match Script.read (chosen.has 'E' || chosen.has 'r') script with
      | .error (place, reason) =>
        complain (match place with
          | some place => flawShown reason place 1 parts
          | none => bytes reason)
        return if place.isSome then 1 else 4
      | .ok program =>
        match lostLabel? program with
        | some name =>
          complain (bytes "can't find label for jump to \x60" ++ Utf8.restored name ++ bytes "'")
          return 4
        | none =>
          if chosen.has 'i' && paths.isEmpty then
            complain (bytes "no input files")
            return 4
          else
            let isQuiet := "#n".toList.isPrefixOf script
            let manner : Manner := {
              silent := chosen.has 'n' || isQuiet
              separate := chosen.has 's' || chosen.has 'i'
              inPlace := chosen.text? 'i'
              eager := chosen.has 'u'
              width := ((chosen.text? 'l').bind natural?).getD 70
              mark := if chosen.has 'z' then 0 else lineEnd }
            let wanted := gatheringOf? (← call .environment)
            let usual : Outlet := {}
            let start : Desk := {
              manner
              program
              paths := if paths.isEmpty then [bytes "-"] else paths
              outlet := { usual with gathering := wanted.getD usual.gathering } }
            match ← (work.run start).run with
            | .ok (code, _) => return code
            | .error code => return code

end Umpire.Tool.Editor
