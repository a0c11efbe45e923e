import Umpire.Tool.Errands
import Umpire.Tool.Format

/-! The program that runs others with words that it reads. -/

namespace Umpire.Tool.Batch

open Host

/-- How words are told apart. -/
structure Manner where
  /-- What ends a word; without it blanks do, and quotes count. -/
  separator : Option Char := none
  /-- Whether a line is one word. -/
  wholeLines : Bool := false

/-- What a character is read as. -/
inductive Stage where
  | between
  | within
  | quoted (mark : Char)
  | escaped
  deriving DecidableEq, Repr

/-- How far a word has been read, its last character first. -/
structure Reading where
  stage : Stage := .between
  chars : List Char := []

/-- What has been read. -/
inductive Token where
  | word (chars : List Char)
  | lineEnd
  deriving DecidableEq, Repr

/-- Read a character that stands between no quotes. -/
def Manner.bare (manner : Manner) (reading : Reading) (c : Char) : Reading × List Token :=
  if c == '\n' then ({}, [.word reading.chars.reverse, .lineEnd])
  else if !manner.wholeLines && (c == ' ' || c == '\t') then ({}, [.word reading.chars.reverse])
  else if c == '\\' then ({ reading with stage := .escaped }, [])
  else if c == '\'' || c == '"' then ({ reading with stage := .quoted c }, [])
  else (⟨.within, c :: reading.chars⟩, [])

/-- Read one character; a quote that is still open at the end of a line is a mistake. -/
def Manner.step (manner : Manner) (reading : Reading) (c : Char) : Except Char (Reading × List Token) :=
  match manner.separator, reading.stage with
  | some mark, _ =>
    .ok (if c == mark then ({}, [.word reading.chars.reverse, .lineEnd])
      else ({ reading with chars := c :: reading.chars }, []))
  | none, .between => .ok (if c == ' ' || ('\t' ≤ c && c ≤ '\r') then (reading, []) else manner.bare reading c)
  | none, .within => .ok (manner.bare reading c)
  | none, .quoted mark =>
    if c == '\n' then .error mark
    else if c == mark then .ok ({ reading with stage := .within }, [])
    else .ok ({ reading with chars := c :: reading.chars }, [])
  | none, .escaped => .ok (⟨.within, c :: reading.chars⟩, [])

/-- Read characters as far as they make sense. -/
def Manner.tokens (manner : Manner) : Reading → List Char → List Token × Except Char Reading
  | reading, [] => ([], .ok reading)
  | reading, c :: rest =>
    match manner.step reading c with
    | .error mark => ([], .error mark)
    | .ok (next, found) =>
      let (others, reached) := manner.tokens next rest
      (found ++ others, reached)

/-- What is left to be read at the end of the text. -/
def Reading.finish (reading : Reading) : Except Char (List Token) :=
  match reading.stage with
  | .quoted mark => .error mark
  | _ => .ok (if reading.chars.isEmpty then [] else [.word reading.chars.reverse])

/-- What is run, and with how many words at once. -/
structure Plan where
  program : List Bytes
  /-- What stands for the word that is read, of which there is only one at once then. -/
  mark : Option Bytes
  words : Option Nat
  lines : Option Nat
  /-- How many bytes all words may have together. -/
  size : Nat
  /-- How many programs may run at the same time. -/
  workers : Option Nat
  isTold : Bool
  /-- Whether the programs share standard input, since the words come from elsewhere. -/
  sharesInput : Bool
  /-- The word that ends the text. -/
  lastWord : Option Bytes

/-- What there is to be run with, the latest word first, and what has been run. -/
structure Supply where
  words : List Bytes := []
  /-- How many bytes the words have together. -/
  size : Nat := 0
  lines : Nat := 0
  isOver : Bool := false
  hasRun : Bool := false
  /-- The programs that run, with their names. -/
  running : List (Nat × Bytes) := []
  code : Nat := 0

/-- A step of running programs; an early end has a code. -/
abbrev Work (α : Type) := StateT Supply (ExceptT Nat Talk) α

/-- Do something that leaves the supply as it is. -/
def outside {α : Type} (work : Talk α) : Work α :=
  StateT.lift (ExceptT.lift work)

/-- End early with a code. -/
def stop {α : Type} (code : Nat) : Work α :=
  StateT.lift (throw code)

/-- Stop with a complaint. -/
def failed {α : Type} (reason : Bytes) (code : Nat) : Work α := do
  outside (complain reason)
  stop code

/-- A word with every occurrence of a mark replaced. -/
def substituted (mark value : Bytes) : Nat → Bytes → Bytes
  | 0, word => word
  | _ + 1, [] => []
  | fuel + 1, byte :: rest =>
    if !mark.isEmpty && mark.isPrefixOf (byte :: rest) then
      value ++ substituted mark value fuel ((byte :: rest).drop mark.length)
    else byte :: substituted mark value fuel rest

/-- Wait for a program to end. -/
def await : Work Unit := do
  match ← outside (call (.reap none true)) with
  | .ok (some (child, status)) =>
    let supply ← get
    let name := (supply.running.lookup child).getD []
    set { supply with running := supply.running.filter (·.1 != child) }
    match status.signal?, status.shell with
    | some number, _ => failed (name ++ bytes ": terminated by signal " ++ numeral number) 125
    | none, 255 => failed (name ++ bytes ": exited with status 255; aborting") 124
    | none, 0 => pure ()
    | none, _ => modify fun supply => { supply with code := 123 }
  | _ => modify fun supply => { supply with running := [] }

/-- Wait for all programs that run but so many. -/
def awaitAllBut (most : Nat) : Nat → Work Unit
  | 0 => pure ()
  | fuel + 1 => do
    let supply ← get
    if most < supply.running.length then
      await
      awaitAllBut most fuel

/-- Do what a process does that is to run a program: a failure is told through a pipe. -/
def enter (sharesInput : Bool) (words : List Bytes) (told : Nat) : Talk Nat := do
  if !sharesInput then
    if let .ok nothing ← call (.openFile (bytes "/dev/null") Access.reading false) then
      let _ ← call (.duplicateTo nothing 0)
      let _ ← call (.close nothing)
  let refusal ← runProgram words (← call .environment) (some shellPath)
  let code := refusalCode refusal
  let _ ← writeAll told [UInt8.ofNat code]
  complain (words.headD [] ++ bytes ": " ++ bytes refusal.usual)
  return code

/-- Run a program. -/
def launch (plan : Plan) (words : List Bytes) : Work Unit := do
  if let some most := plan.workers then
    awaitAllBut (most - 1) ((← get).running.length + 1)
  if plan.isTold then
    let _ ← outside (writeAll 2 ([Bytes.ascii ' '].intercalate (words.map wordShown) ++ [lineEnd]))
  modify fun supply => { supply with hasRun := true }
  match ← outside (call .pipe) with
  | .error errno => failed (bytes "could not create pipe before fork: " ++ bytes errno.usual) 1
  | .ok (listen, tell) =>
    match ← outside (call .fork) with
    | .error errno => failed (bytes "cannot fork: " ++ bytes errno.usual) 1
    | .ok none => stop (← outside (enter plan.sharesInput words tell))
    | .ok (some child) =>
      let _ ← outside (call (.close tell))
      let heard ← outside (call (.read listen 1))
      let _ ← outside (call (.close listen))
      match heard with
      | .ok [code] =>
        let _ ← outside (call (.reap (some child) true))
        stop code.toNat
      | _ => modify fun supply => { supply with running := supply.running ++ [(child, words.headD [])] }

/-- Run the program with the words that there are. -/
def launchAll (plan : Plan) : Work Unit := do
  let supply ← get
  set { supply with words := [], size := 0, lines := 0 }
  launch plan (plan.program ++ supply.words.reverse)

/-- Take a word into the supply, which is used first if there is no room for it, and at once if it is
complete then. -/
def supplyWord (plan : Plan) (word : Bytes) : Work Unit := do
  -- Every word needs room for its end as well.
  let fixed := (plan.program.map fun part => part.length + 1).foldr (· + ·) 0
  let needed := word.length + 1
  let supply ← get
  if plan.size < fixed + needed then
    if !supply.words.isEmpty then launchAll plan
    failed (bytes "argument line too long") 1
  if plan.size < fixed + supply.size + needed then launchAll plan
  modify fun supply => { supply with words := word :: supply.words, size := supply.size + needed }
  let supply ← get
  if plan.words.any (· ≤ supply.words.length) then launchAll plan

/-- Take what has been read into account. -/
def take (plan : Plan) (token : Token) : Work Unit := do
  let supply ← get
  if supply.isOver then pure ()
  else
    match token, plan.mark with
    | .word chars, mark =>
      let word := Bytes.ofOctets chars
      if plan.lastWord == some word then set { supply with isOver := true }
      else
        match mark with
        | some mark =>
          let filled := plan.program.map fun part => substituted mark word (part.length + 1) part
          launch plan filled
        | none => supplyWord plan word
    | .lineEnd, _ =>
      set { supply with lines := supply.lines + 1 }
      if plan.lines.any (· ≤ supply.lines + 1) then launchAll plan

/-- Complain about a quote that is not closed, after what is complete has been run. -/
def lackingQuote (plan : Plan) (mark : Char) : Work Unit := do
  let supply ← get
  if plan.mark.isNone && !supply.words.isEmpty then launchAll plan
  failed (bytes "unmatched " ++ bytes (if mark == '"' then "double" else "single") ++
    bytes " quote; by default quotes are special to xargs unless you use the -0 option") 1

/-- Take each of some tokens into account. -/
def takeAll (plan : Plan) : List Token → Work Unit
  | [] => pure ()
  | token :: rest => do
    take plan token
    takeAll plan rest

/-- Run the program with what is read, as soon as there is enough of it. -/
def feed (plan : Plan) (manner : Manner) (fd : Nat) : Nat → Reading → Work Unit
  | 0, _ => pure ()
  | fuel + 1, reading => do
    match ← outside (call (.read fd 4096)) with
    | .error _ | .ok [] =>
      match reading.finish with
      | .error mark => lackingQuote plan mark
      | .ok tokens => takeAll plan tokens
    | .ok data =>
      let (tokens, reached) := manner.tokens reading (Bytes.toOctets data)
      takeAll plan tokens
      match reached with
      | .error mark => lackingQuote plan mark
      | .ok next =>
        let supply ← get
        if !supply.isOver then feed plan manner fd fuel next

/-- Run the program for all that is read. -/
def runAll (plan : Plan) (manner : Manner) (runsAnyway : Bool) (fd : Nat) : Work Nat := do
  feed plan manner fd mostPieces {}
  let supply ← get
  if !supply.words.isEmpty || (runsAnyway && !supply.hasRun && plan.mark.isNone) then launchAll plan
  awaitAllBut 0 ((← get).running.length + 1)
  return (← get).code

/-- What options have said of how many words are taken at once. -/
structure Portion where
  mark : Option Bytes := none
  words : Option Nat := none
  lines : Option Nat := none

/-- The complaint that of two options the one before counts no more. -/
def overruled (former option : String) : Bytes :=
  bytes "warning: options " ++ bytes former ++ bytes " and " ++ bytes option ++
    bytes " are mutually exclusive, ignoring previous " ++ bytes former ++ bytes " value"

/-- Take an option into account, of which the latest counts; the complaints are of those that were given
before. -/
def Portion.with (portion : Portion) (letter : Char) (text : Bytes) : Portion × List Bytes :=
  let told (isGiven : Bool) (former option : String) : List Bytes :=
    if isGiven then [overruled former option] else []
  match letter with
  | 'I' =>
    ({ mark := some (if text.isEmpty then bytes "\x7b\x7d" else text) },
      told portion.words.isSome "--max-args" "--replace/-I/-i" ++
        told portion.lines.isSome "--max-lines" "--replace/-I/-i")
  | 'n' =>
    let count := natural? text
    -- A single word at once is what a mark stands for anyway.
    if portion.mark.isSome && count == some 1 then (portion, [])
    else
      ({ words := count },
        told portion.lines.isSome "--max-lines" "--max-args/-n" ++
          told portion.mark.isSome "--replace" "--max-args/-n")
  | 'L' =>
    ({ lines := some ((natural? text).getD 1) },
      told portion.words.isSome "--max-args" "-L" ++ told portion.mark.isSome "--replace" "-L")
  | _ => (portion, [])

/-- The complaint about the number of an option, if it is none or too small. -/
def numberFault? (letter : Char) (text : Bytes) : Option Bytes :=
  let option := bytes " for -" ++ Bytes.ofOctets [letter] ++ bytes " option"
  match natural? text with
  | none => some (bytes "invalid number \"" ++ text ++ bytes "\"" ++ option)
  | some 0 =>
    if letter == 'P' then none else some (bytes "value 0" ++ option ++ bytes " should be >= 1")
  | some _ => none

/-- The character that separates words, or the complaint about how it is spelled. -/
def separatorOf (text : Bytes) : Except Bytes Char :=
  match Bytes.toOctets text with
  | [c] => .ok c
  | '\\' :: rest =>
    match (Format.unescaped .program .argument ('\\' :: rest)).text with
    | [c] => .ok c
    | _ => .error (bytes "Invalid escape sequence " ++ text ++ bytes " in input delimiter specification.")
  | _ => .error (bytes "Invalid input delimiter specification " ++ text ++
      bytes ": the delimiter must be either a single character or an escape sequence starting with \\.")

/-- Run a program with words that are read. -/
def xargs (words : List Bytes) : Talk Nat :=
  let known : Known := {
    letters := "0a:d:E:I:i::L:l::n:oP:prs:tx"
    long := [("null", '0'), ("arg-file", 'a'), ("delimiter", 'd'), ("replace", 'i'), ("max-lines", 'l'),
      ("max-args", 'n'), ("max-procs", 'P'), ("max-chars", 's'), ("no-run-if-empty", 'r'), ("verbose", 't'),
      ("exit", 'x')]
    stops := true }
  withOptions known words fun chosen => do
    let failed (reason : Bytes) : Talk Nat := do
      complain reason
      return 1
    let mut portion : Portion := {}
    for (letter, text) in chosen.options do
      let isNumber := "nLPs".toList.contains letter || (letter == 'l' && !text.isEmpty)
      if let some reason := (if isNumber then numberFault? letter text else none) then
        return ← misuse reason 1
      let meant := if letter == 'i' then 'I' else if letter == 'l' then 'L' else letter
      let (next, warnings) := portion.with meant text
      for warning in warnings do
        complain warning
      portion := next
    let separator : Except Bytes (Option Char) := match chosen.last? "0d" with
      | some 'd' => (separatorOf ((chosen.text? 'd').getD [])).map some
      | some _ => .ok (some '\x00')
      | none => .ok none
    match separator with
    | .error reason => failed reason
    | .ok separator =>
      let path := (chosen.text? 'a').getD (bytes "-")
      match ← openInput path with
      | .error errno => failed (bytes "Cannot open input file " ++ cited path ++ bytes ": " ++ bytes errno.usual)
      | .ok fd =>
        let number (letter : Char) : Option Nat := (chosen.text? letter).bind natural?
        let plan : Plan := {
          program := if chosen.words.isEmpty then [bytes "echo"] else chosen.words
          mark := portion.mark
          words := portion.words
          lines := portion.lines
          size := (number 's').getD 131072
          workers := if number 'P' = some 0 then none else some ((number 'P').getD 1)
          isTold := chosen.has 't'
          sharesInput := fd != 0
          lastWord := if separator.isNone then chosen.text? 'E' else none }
        let work := runAll plan { separator, wholeLines := portion.mark.isSome } (!chosen.has 'r') fd
        match ← (work.run {}).run with
        | .ok (code, _) => return code
        | .error code => return code

end Umpire.Tool.Batch
