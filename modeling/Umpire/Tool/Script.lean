import Umpire.Text.Search
import Umpire.Tool.Flags

/-! The scripts of the line editor `sed`: how they are spelled. -/

namespace Umpire.Tool.Script

/-- Which lines are meant. -/
inductive Spot where
  | line (number : Nat)
  | last
  /-- Lines that match; without a regular expression, the last one that was used. -/
  | matching (regex : Option Regex) (fold : Bool)
  /-- Every so many lines from one on. -/
  | every (first step : Nat)
  /-- So many lines after another place, or up to a multiple. -/
  | offset (count : Nat)
  | multiple (count : Nat)
  deriving DecidableEq, Repr

/-- How letters of what replaces something are changed. -/
inductive Casing where
  | upper
  | lower
  | upperNext
  | lowerNext
  | done
  deriving DecidableEq, Repr

/-- A stretch of what replaces something. -/
inductive Portion where
  | text (chars : List Char)
  | group (index : Nat)
  | casing (casing : Casing)
  deriving DecidableEq, Repr

/-- A replacement of what matches. -/
structure Exchange where
  regex : Option Regex
  portions : List Portion
  /-- Which match is replaced first, and whether those after it are as well. -/
  first : Nat := 1
  all : Bool := false
  prints : Bool := false
  fold : Bool := false
  file : Option (List Char) := none
  deriving DecidableEq, Repr

/-- What is done with lines. -/
inductive Action where
  /-- The commands up to the brace that closes. -/
  | opening
  | closing
  | label (name : List Char)
  | goTo (name : List Char)
  | goIfReplaced (name : List Char)
  | goUnlessReplaced (name : List Char)
  | exchange (exchange : Exchange)
  | swap (table : List (Char × Char))
  | append (text : List Char)
  | insert (text : List Char)
  | change (text : List Char)
  | readFile (path : List Char)
  /-- The next line of a file. -/
  | readLine (path : List Char)
  /-- Print the text so that every character can be seen, in lines of a length if one is given. -/
  | unfold (length : Option Nat)
  | writeFile (path : List Char) (firstLine : Bool)
  | quit (code : Nat) (silent : Bool)
  /-- A command of one letter. -/
  | letter (c : Char)
  deriving DecidableEq, Repr

/-- A command with the lines that it is for. -/
structure Instruction where
  start : Option Spot := none
  finish : Option Spot := none
  negated : Bool := false
  action : Action
  deriving DecidableEq, Repr

/-- What is still to be read of a script. -/
structure Source where
  rest : List Char
  extended : Bool
  /-- How many characters the script has. -/
  size : Nat
  /-- How many braces are open. -/
  depth : Nat := 0

/-- A complaint, and how far the script had been read; none if that does not matter. -/
abbrev Flaw := Option Nat × String

/-- A step of reading. -/
abbrev Reading (α : Type) := StateT Source (Except Flaw) α

/-- Stop with a complaint. -/
def wrong {α : Type} (reason : String) : Reading α := do
  let source ← get
  throw (some (source.size - source.rest.length), reason)

/-- Take the next character. -/
def next? : Reading (Option Char) := do
  let source ← get
  match source.rest with
  | [] => return none
  | c :: rest =>
    set { source with rest }
    return some c

/-- Pass over characters while they are of some kind. -/
def skipWhile (holds : Char → Bool) : Reading Unit :=
  modify fun source => { source with rest := source.rest.dropWhile holds }

/-- Whether a character is a blank within a line. -/
def isGap (c : Char) : Bool :=
  c == ' ' || c == '\t'

/-- A number at this place. -/
def number? : Reading (Option Nat) := do
  let digits := (← get).rest.takeWhile Char.isDigit
  if digits.isEmpty then return none
  else
    modify fun source => { source with rest := source.rest.drop digits.length }
    return some (digits.foldl (fun n c => n * 10 + (c.toNat - 48)) 0)

/-- The text up to a mark that no backslash shields, and what follows the mark. Within brackets the mark
is a character like others. -/
def upTo (mark : Char) (inRegex : Bool) : Nat → Bool → List Char → List Char →
    Option (List Char × List Char)
  | 0, _, _, _ => none
  | _ + 1, _, _, [] => none
  | fuel + 1, inSet, taken, '\\' :: c :: rest =>
    if inSet then upTo mark inRegex fuel inSet ('\\' :: taken) (c :: rest)
    else if c == mark then upTo mark inRegex fuel inSet (if inRegex && mark.isAlphanum then c :: taken
      else if inRegex && "|(){}.*+?[]^$".toList.contains mark then c :: '\\' :: taken else c :: taken) rest
    else upTo mark inRegex fuel inSet (c :: '\\' :: taken) rest
  | fuel + 1, inSet, taken, c :: rest =>
    if inSet then
      -- A bracket right after the start of a set does not close it.
      let isStart := taken.head? == some '[' || (taken.head? == some '^' && (taken.drop 1).head? == some '[')
      match c, rest with
      | '[', d :: _ =>
        if d == ':' || d == '.' || d == '=' then
          let inner := rest.tail.takeWhile (· != d)
          let after := rest.drop (inner.length + 3)
          let name := rest.take (inner.length + 3)
          upTo mark inRegex fuel true (name.reverse ++ ('[' :: taken)) after
        else upTo mark inRegex fuel true (c :: taken) rest
      | ']', _ => upTo mark inRegex fuel isStart (c :: taken) rest
      | _, _ => upTo mark inRegex fuel true (c :: taken) rest
    else if c == mark then some (taken.reverse, rest)
    else if c == '[' && inRegex then upTo mark inRegex fuel true (c :: taken) rest
    else upTo mark inRegex fuel false (c :: taken) rest

/-- The text up to a mark. -/
def delimited (mark : Char) (inRegex : Bool) (reason : String) : Reading (List Char) := do
  let source ← get
  match upTo mark inRegex (source.rest.length + 2) false [] source.rest with
  | some (text, rest) =>
    set { source with rest }
    return text
  | none =>
    set { source with rest := [] }
    wrong reason

/-- The character whose number an escape tells after its letter, and what follows. -/
def numbered? (chars : List Char) : Option (Char × List Char) :=
  let digits (base most : Nat) (rest : List Char) : Option (Char × List Char) :=
    let taken := (rest.take most).takeWhile fun c => (Numeral.hexDigit? c).any (· < base)
    let value := taken.foldl (fun n c => n * base + (Numeral.hexDigit? c).getD 0) 0
    if taken.isEmpty then none else some (Char.ofNat (value % 256), rest.drop taken.length)
  match chars with
  | 'x' :: rest => digits 16 2 rest
  | 'o' :: rest => digits 8 3 rest
  | 'd' :: rest => digits 10 3 rest
  | _ => none

/-- The text of a regular expression in which no character is told by its number. -/
def withoutNumbers : Nat → List Char → List Char
  | 0, chars => chars
  | fuel + 1, chars =>
    match chars with
    | '\\' :: rest =>
      match numbered? rest with
      | some (c, left) =>
        let shown : List Char := if "*.[]^$\\/+?()\x7b\x7d|".toList.contains c then ['\\', c] else [c]
        shown ++ withoutNumbers fuel left
      | none => '\\' :: rest.take 1 ++ withoutNumbers fuel rest.tail
    | c :: rest => c :: withoutNumbers fuel rest
    | [] => []

/-- The regular expression that a text spells; an empty text means the last one that was used. With
`several`, the texts that it is for may have several lines. -/
def regexOf (chars : List Char) (several : Bool) : Reading (Option Regex) := do
  if chars.isEmpty then return none
  else
    let extended := (← get).extended
    let spelling : Regex.Spelling := { extended, escapes := true, strict := true, careful := true, several }
    match Regex.read spelling (withoutNumbers (chars.length + 1) chars) with
    | .ok regex => return some regex
    | .error .bareClass => throw (none, Regex.Fault.bareClass.message)
    | .error fault => wrong fault.message

/-- The letters after a regular expression that tells lines: whether the case of letters counts for
nothing, and whether texts have several lines. -/
def matchMarks : Nat → Bool × Bool → Reading (Bool × Bool)
  | 0, marks => return marks
  | fuel + 1, marks => do
    match (← get).rest with
    | 'I' :: _ =>
      let _ ← next?
      matchMarks fuel (true, marks.2)
    | 'M' :: _ =>
      let _ ← next?
      matchMarks fuel (marks.1, true)
    | _ => return marks

/-- The lines that match what is spelled up to a mark. -/
def matchingSpot (mark : Char) : Reading Spot := do
  let text ← delimited mark true "unterminated address regex"
  let (fold, several) ← matchMarks 8 (false, false)
  return .matching (← regexOf text several) fold

/-- The place that stands here. -/
def place? : Reading (Option Spot) := do
  match ← number? with
  | some first =>
    match (← get).rest with
    | '~' :: _ =>
      let _ ← next?
      let step ← number?
      return some (.every first (step.getD 0))
    | _ => return some (.line first)
  | none =>
    match (← get).rest with
    | '$' :: _ =>
      let _ ← next?
      return some .last
    | '/' :: _ =>
      let _ ← next?
      return some (← matchingSpot '/')
    | '\\' :: mark :: _ =>
      let _ ← next?
      let _ ← next?
      return some (← matchingSpot mark)
    | _ => return none

/-- The place that stands after a comma. -/
def secondSpot : Reading Spot := do
  match (← get).rest with
  | '+' :: _ =>
    let _ ← next?
    return .offset ((← number?).getD 0)
  | '~' :: _ =>
    let _ ← next?
    return .multiple ((← number?).getD 0)
  | _ =>
    match ← place? with
    | some found => return found
    | none =>
      let _ ← next?
      wrong "unexpected \x60,'"

/-- The text that is added to lines: it goes on while lines end with a backslash. -/
def addedText : Nat → List Char → Reading (List Char)
  | 0, taken => return taken.reverse
  | fuel + 1, taken => do
    match ← next? with
    | none => return taken.reverse
    | some '\n' => return taken.reverse
    | some '\\' =>
      match ← next? with
      | some c => addedText fuel ((Regex.escaped? c).getD c :: taken)
      | none => return taken.reverse
    | some c => addedText fuel (c :: taken)

/-- The text of a command that adds lines. -/
def textOf : Reading (List Char) := do
  skipWhile isGap
  let source ← get
  match source.rest with
  | [] => wrong "expected \\ after \x60a', \x60c' or \x60i'"
  | ['\\'] =>
    set { source with rest := [] }
    return []
  | '\\' :: '\n' :: rest => set { source with rest }
  -- Blanks after the backslash belong to the text.
  | '\\' :: rest => set { source with rest }
  | _ => pure ()
  return (← addedText (source.rest.length + 1) []) ++ ['\n']

/-- A name up to the end of the command. -/
def labelName (stops : Char → Bool) : Reading (List Char) := do
  skipWhile isGap
  let name := (← get).rest.takeWhile fun c => !stops c
  modify fun source => { source with rest := source.rest.drop name.length }
  return (name.reverse.dropWhile isGap).reverse

/-- The portions of what replaces something. -/
def portionsOf : Nat → List Char → List Char → List Portion
  | 0, _, _ => []
  | _ + 1, [], text => if text.isEmpty then [] else [.text text.reverse]
  | fuel + 1, chars, text =>
    let flushed : List Portion := if text.isEmpty then [] else [.text text.reverse]
    match chars with
    | '&' :: rest => flushed ++ .group 0 :: portionsOf fuel rest []
    | '\\' :: c :: rest =>
      if c.isDigit then flushed ++ .group (c.toNat - 48) :: portionsOf fuel rest []
      else
        let cased (casing : Casing) : List Portion := flushed ++ .casing casing :: portionsOf fuel rest []
        match c with
        | 'U' => cased .upper
        | 'L' => cased .lower
        | 'u' => cased .upperNext
        | 'l' => cased .lowerNext
        | 'E' => cased .done
        | _ =>
          match numbered? (c :: rest) with
          | some (shown, left) => portionsOf fuel left (shown :: text)
          | none => portionsOf fuel rest ((Regex.escaped? c).getD c :: text)
    | c :: rest => portionsOf fuel rest (c :: text)
    | [] => flushed

/-- The letters after a replacement; with the answer goes whether texts have several lines. -/
def exchangeFlags : Nat → Exchange → Bool → Reading (Exchange × Bool)
  | 0, found, several => return (found, several)
  | fuel + 1, found, several => do
    match (← get).rest with
    | c :: _ =>
      if c.isDigit then
        match ← number? with
        | some (count + 1) => exchangeFlags fuel { found with first := count + 1 } several
        | _ => wrong "number option to \x60s' command may not be zero"
      else if c == '\n' || c == ';' || c == '\x7d' || c == '#' || isGap c || c == '\r' then
        return (found, several)
      else
        let _ ← next?
        match c with
        | 'g' =>
          if found.all then wrong "multiple \x60g' options to \x60s' command"
          exchangeFlags fuel { found with all := true } several
        | 'p' =>
          if found.prints then wrong "multiple \x60p' options to \x60s' command"
          exchangeFlags fuel { found with prints := true } several
        | 'i' | 'I' => exchangeFlags fuel { found with fold := true } several
        | 'm' | 'M' => exchangeFlags fuel found true
        | 'w' =>
          let path ← labelName (· == '\n')
          if path.isEmpty then wrong "missing filename in r/R/w/W commands"
          return ({ found with file := some path }, several)
        | _ => wrong "unknown option to \x60s'"
    | [] => return (found, several)

/-- The highest group that some portions name. -/
def highestGroup (portions : List Portion) : Nat :=
  (portions.map fun
    | .group index => index
    | _ => 0).foldl max 0

/-- The characters of one side of an exchange of single characters. -/
def swapped : List Char → List Char
  | '\\' :: 'n' :: rest => '\n' :: swapped rest
  | '\\' :: 't' :: rest => '\t' :: swapped rest
  | '\\' :: '\\' :: rest => '\\' :: swapped rest
  | c :: rest => c :: swapped rest
  | [] => []

/-- What the command of a letter does. -/
def action (c : Char) (addressed : Nat) : Reading Action := do
  let isLabelEnd (c : Char) : Bool := c == '\n' || c == ';' || c == '\x7d' || isGap c
  let single : Reading Unit := do
    if 1 < addressed then wrong "command only uses one address"
  let path : Reading (List Char) := do
    let name ← labelName (· == '\n')
    if name.isEmpty then wrong "missing filename in r/R/w/W commands"
    return name
  match c with
  | '\x7b' =>
    modify fun source => { source with depth := source.depth + 1 }
    return .opening
  | '\x7d' =>
    if (← get).depth = 0 then wrong "unexpected \x60\x7d'"
    if 0 < addressed then wrong "\x7d doesn't want any addresses"
    modify fun source => { source with depth := source.depth - 1 }
    return .closing
  | ':' =>
    if 0 < addressed then wrong ": doesn't want any addresses"
    let name ← labelName (fun c => c == '\n' || c == ';' || isGap c)
    if name.isEmpty then wrong "\":\" lacks a label"
    return .label name
  | 'b' => return .goTo (← labelName isLabelEnd)
  | 't' => return .goIfReplaced (← labelName isLabelEnd)
  | 'T' => return .goUnlessReplaced (← labelName isLabelEnd)
  | 'a' => return .append (← textOf)
  | 'i' => return .insert (← textOf)
  | 'c' => return .change (← textOf)
  | 'r' => return .readFile (← path)
  | 'R' => return .readLine (← path)
  | 'w' => return .writeFile (← path) false
  | 'W' => return .writeFile (← path) true
  | 'q' | 'Q' =>
    single
    skipWhile isGap
    return .quit ((← number?).getD 0) (c == 'Q')
  | 'l' =>
    skipWhile isGap
    return .unfold (← number?)
  | 's' =>
    match ← next? with
    | none => wrong "unterminated \x60s' command"
    | some mark =>
      let sought ← delimited mark true "unterminated \x60s' command"
      let written ← delimited mark false "unterminated \x60s' command"
      let portions := portionsOf (written.length + 1) written []
      let (found, several) ← exchangeFlags 16 { regex := none, portions } false
      let regex ← regexOf sought several
      let groups := ((regex.map (·.groupCount)).getD 9)
      let most := highestGroup portions
      if groups < most then
        wrong ("invalid reference \\" ++ toString most ++ " on \x60s' command's RHS")
      return .exchange { found with regex }
  | 'y' =>
    match ← next? with
    | none => wrong "unterminated \x60y' command"
    | some mark =>
      let before ← delimited mark false "unterminated \x60y' command"
      let after ← delimited mark false "unterminated \x60y' command"
      let a := swapped before
      let b := swapped after
      if a.length != b.length then wrong "strings for \x60y' command are different lengths"
      return .swap (a.zip b)
  | _ =>
    if "=dDgGhHnNpPxFz".toList.contains c then return .letter c
    else wrong ("unknown command: \x60" ++ String.ofList [c] ++ "'")

/-- Pass over what may stand after a command. -/
def ending (action : Action) : Reading Unit := do
  match action with
  | .opening | .append _ | .insert _ | .change _ | .readFile _ | .readLine _ | .writeFile .. | .label _ =>
    return ()
  | _ =>
    skipWhile isGap
    match (← get).rest with
    | [] | '#' :: _ | '\x7d' :: _ => return ()
    | c :: _ =>
      let _ ← next?
      if c == '\n' || c == ';' then return () else wrong "extra characters after command"

/-- The commands of a script. -/
def instructions : Nat → Reading (List Instruction)
  | 0 => return []
  | fuel + 1 => do
    skipWhile fun c => isGap c || c == '\n' || c == ';'
    match (← get).rest with
    | [] =>
      if 0 < (← get).depth then throw (some 0, "unmatched \x60\x7b'")
      return []
    | '#' :: _ =>
      skipWhile (· != '\n')
      instructions fuel
    | _ =>
      let start ← place?
      skipWhile isGap
      let finish ← match start, (← get).rest with
        | some _, ',' :: _ => do
          let _ ← next?
          skipWhile isGap
          pure (some (← secondSpot))
        | _, _ => pure none
      skipWhile isGap
      let negated := (← get).rest.head? == some '!'
      if negated then
        let _ ← next?
        skipWhile isGap
        if (← get).rest.head? == some '!' then
          let _ ← next?
          wrong "multiple \x60!'s"
      match ← next? with
      | none => wrong "missing command"
      | some c =>
        match start, finish with
        | some (.line 0), some (.matching ..) => pure ()
        | some (.line 0), _ | some (.every 0 0), _ => wrong "invalid usage of line address 0"
        | _, _ => pure ()
        let action ← action c (start.toList.length + finish.toList.length)
        ending action
        return { start, finish, negated, action } :: (← instructions fuel)

/-- The commands that a script spells. -/
def read (extended : Bool) (chars : List Char) : Except Flaw (List Instruction) := do
  let (found, _) ← (instructions (chars.length + 2)).run { rest := chars, extended, size := chars.length }
  return found

end Umpire.Tool.Script
