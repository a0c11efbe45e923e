import Umpire.Text.Search
import Umpire.Tool.Outlet

/-! The programs of the host that search texts for regular expressions. -/

namespace Umpire.Tool

open Host

/-- What lines are searched for. -/
structure Sought where
  regexes : List Regex
  fold : Bool := false
  /-- Whether a match has to be a word of its own, or the whole line. -/
  words : Bool := false
  lines : Bool := false

/-- Whether a match between two spots may count. -/
def Sought.allows (sought : Sought) (start finish : Regex.Spot) : Bool :=
  (!sought.lines || (start.place = 0 && finish.rest.isEmpty)) &&
    (!sought.words || (!start.before.any Regex.isOfWord && !finish.rest.head?.any Regex.isOfWord))

/-- How far the longest match at a spot reaches. -/
def Sought.reach? (sought : Sought) (spot : Regex.Spot) : Option Regex.Spot :=
  let all := sought.regexes.flatMap fun regex => Regex.ends sought.fold regex { spot with groups := [] }
  (Regex.distinct all).find? (sought.allows spot)

/-- The stretches of a line that match, from a spot on, each with its place. -/
def Sought.matches (sought : Sought) : Nat → Regex.Spot → List (Nat × List Char)
  | 0, _ => []
  | fuel + 1, spot =>
    match sought.reach? spot with
    | some found =>
      let size := found.place - spot.place
      let part := (spot.place, spot.rest.take size)
      if spot.rest.isEmpty then [part]
      else if size = 0 then part :: sought.matches fuel spot.next
      else part :: (if found.rest.isEmpty then [] else sought.matches fuel (spot.after size))
    | none => if spot.rest.isEmpty then [] else sought.matches fuel spot.next

/-- Whether a line has a match. -/
def Sought.isIn (sought : Sought) : Nat → Regex.Spot → Bool
  | 0, _ => false
  | fuel + 1, spot =>
    (sought.reach? spot).isSome || (!spot.rest.isEmpty && sought.isIn fuel spot.next)

/-- What is printed of the lines that are found. -/
structure Report where
  sought : Sought
  inverted : Bool := false
  parts : Bool := false
  numbers : Bool := false
  places : Bool := false
  counts : Bool := false
  lists : Bool := false
  listsOthers : Bool := false
  quiet : Bool := false
  most : Option Nat := none
  before : Nat := 0
  after : Nat := 0
  isText : Bool := false

/-- How far searching a file has come. -/
structure Progress where
  line : Nat := 0
  place : Nat := 0
  found : Nat := 0
  /-- The lines before that may still be printed, the latest first. -/
  held : List (Nat × Nat × Bytes) := []
  following : Nat := 0
  lastShown : Nat := 0
  isBinary : Bool := false
  /-- Whether a line was to be printed that is no text. -/
  hasBroken : Bool := false

/-- Whether anything but whole lines is printed. -/
def Report.isBrief (report : Report) : Bool :=
  report.counts || report.lists || report.listsOthers || report.quiet

/-- A line as it is printed, after the name of its file, its number and its place. -/
def Report.lineOf (report : Report) (title : Bytes) (mark : Char) (line place : Nat) (text : Bytes) : Bytes :=
  let sign : Bytes := [Bytes.ascii mark]
  (if title.isEmpty then [] else title ++ sign) ++
    (if report.numbers then numeral line ++ sign else []) ++
    (if report.places then numeral place ++ sign else []) ++ text ++ [lineEnd]

/-- Whether a line is not printed because it is no text. -/
def Report.hides (report : Report) (text : Bytes) : Bool :=
  !report.isText && (Utf8.loose text).any Regex.isBroken

/-- Take one line into account; the answer is what is printed. -/
def Report.step (report : Report) (title : Bytes) (progress : Progress) (line : Bytes) : Progress × Bytes :=
  let number := progress.line + 1
  let text := bareLine line
  let chars := Utf8.loose text
  let selected := report.sought.isIn (chars.length + 2) { rest := chars } != report.inverted
  let moved := { progress with line := number, place := progress.place + line.length }
  let hasContext := 0 < report.before || 0 < report.after
  if selected then
    let next := { moved with found := progress.found + 1, held := [], following := report.after, lastShown := number }
    if report.isBrief || progress.isBinary then (next, [])
    else
      let held := progress.held.reverse
      let first := match held with
        | (earliest, _) :: _ => earliest
        | [] => number
      let gap := if hasContext && 0 < progress.lastShown && progress.lastShown + 1 < first then bytes "--\n" else []
      let contextLines := (held.filter fun item => !report.hides item.2.2).map fun item =>
        report.lineOf title '-' item.1 item.2.1 item.2.2
      let hasBroken := progress.hasBroken || report.hides text || held.any fun item => report.hides item.2.2
      let shown : Bytes :=
        if report.hides text then []
        else if report.parts then
          if report.inverted then []
          else
            let all := report.sought.matches (chars.length + 2) { rest := chars }
            ((all.filter fun part => !part.2.isEmpty).map fun part =>
              let before := (Utf8.restored (chars.take part.1)).length
              report.lineOf title ':' number (progress.place + before) (Utf8.restored part.2)).flatten
        else report.lineOf title ':' number progress.place text
      ({ next with hasBroken }, gap ++ (if report.parts then [] else contextLines.flatten) ++ shown)
  else if 0 < progress.following && !report.isBrief && !progress.isBinary then
    let isHidden := report.hides text
    let shown := if report.parts || isHidden then [] else report.lineOf title '-' number progress.place text
    let hasBroken := progress.hasBroken || isHidden
    ({ moved with following := progress.following - 1, lastShown := number, hasBroken }, shown)
  else
    let held := ((number, progress.place, text) :: progress.held).take report.before
    ({ moved with held }, [])

/-- Whether nothing more has to be looked at. -/
def Report.isDone (report : Report) (progress : Progress) : Bool :=
  (0 < progress.found && (report.quiet || report.lists || report.listsOthers || progress.isBinary)) ||
    (report.most.any (· ≤ progress.found) && progress.following = 0)

/-- Take lines into account until nothing more has to be looked at. -/
def Report.steps (report : Report) (title : Bytes) : Progress → List Bytes → Progress × List Bytes
  | progress, [] => (progress, [])
  | progress, line :: rest =>
    if report.isDone progress then (progress, [])
    else if report.most.any (· ≤ progress.found) then
      -- Only what follows the last line that counts is still printed.
      let (next, shown) := (if 0 < progress.following then
        let text := bareLine line
        ({ progress with line := progress.line + 1, following := progress.following - 1 },
          report.lineOf title '-' (progress.line + 1) progress.place text) else (progress, []))
      let (reached, others) := report.steps title next rest
      (reached, shown :: others)
    else
      let (next, shown) := report.step title progress line
      let (reached, others) := report.steps title next rest
      (reached, shown :: others)

/-- Search a file piece by piece. -/
def searchPieces (report : Report) (title : Bytes) (fd : Nat) : Nat → Bytes → Progress →
    Printing (Except Errno Progress)
  | 0, _, progress => return .ok progress
  | fuel + 1, pending, progress => do
    if report.isDone progress then return .ok progress
    else
      match ← Printing.ask (.read fd chunk) with
      | .error errno => return .error errno
      | .ok data =>
        let whole := pending ++ data
        let isBinary := progress.isBinary || (!report.isText && data.contains 0)
        let lines := linesOf whole
        let broken := !data.isEmpty && (lines.getLast?.any fun line => line.getLast? != some lineEnd)
        let ready := if broken then lines.dropLast else lines
        let left := if broken then lines.getLastD [] else []
        let (reached, shown) := report.steps title { progress with isBinary } ready
        Printing.put shown.flatten
        if data.isEmpty then return .ok reached
        else searchPieces report title fd fuel left reached

/-- The paths of all files at some paths and below them. Below the paths that are given, links count only
if wanted, and other things than files not at all. -/
def filesBelow (follows isGiven : Bool) : Nat → List Bytes → Talk (List Bytes)
  | 0, _ => return []
  | _ + 1, [] => return []
  | fuel + 1, path :: rest => do
    let here ← match ← call (.info path (follows || isGiven)) with
      | .ok info =>
        if info.kind == .directory then
          match ← call (.list path) with
          | .ok names =>
            let ordered := names.mergeSort fun a b => !Bytes.before b a
            let start := if path.getLast? == some (Bytes.ascii '/') then path else path ++ bytes "/"
            filesBelow follows false fuel (ordered.map fun name => start ++ name)
          | .error _ => pure []
        else pure (if isGiven || info.kind == .file then [path] else [])
      | .error _ => pure (if isGiven then [path] else [])
    return here ++ (← filesBelow follows isGiven fuel rest)

/-- Complain about words of `grep`. -/
def wrongSearch (reason : Option Bytes) : Talk Nat := do
  if let some text := reason then complain text
  let _ ← writeAll 2 (bytes "Usage: grep [OPTION]... PATTERNS [FILE]...\n" ++
    bytes "Try 'grep --help' for more information.\n")
  return 2

/-- The options of `grep`. -/
def searchOptions : Known := {
  letters := "A:abB:C:cD:d:Ee:Ff:GHhIiLlm:noPqRrsUuvwxyz#::%:"
  long := [("after-context", 'A'), ("text", 'a'), ("byte-offset", 'b'), ("before-context", 'B'), ("context", 'C'),
    ("count", 'c'), ("directories", 'd'), ("devices", 'D'), ("extended-regexp", 'E'), ("regexp", 'e'),
    ("fixed-strings", 'F'), ("file", 'f'),
    ("basic-regexp", 'G'), ("with-filename", 'H'), ("no-filename", 'h'), ("ignore-case", 'i'),
    ("files-without-match", 'L'), ("files-with-matches", 'l'), ("max-count", 'm'), ("line-number", 'n'),
    ("only-matching", 'o'), ("perl-regexp", 'P'), ("quiet", 'q'), ("silent", 'q'),
    ("dereference-recursive", 'R'), ("recursive", 'r'), ("no-messages", 's'), ("invert-match", 'v'),
    ("word-regexp", 'w'), ("line-regexp", 'x'), ("null-data", 'z'), ("color", '#'), ("colour", '#'),
    ("line-buffered", 'u'), ("include", '%'), ("exclude", '%')]
  wrong := 2 }

/-- Words in which a bare number asks for lines around those that are found. -/
def aroundSpelledOut (words : List Bytes) : List Bytes :=
  words.flatMap fun word =>
    match Bytes.toOctets word with
    | '-' :: c :: digits => if (c :: digits).all Char.isDigit then [bytes "-C", word.tail] else [word]
    | _ => [word]

/-- Print the lines that have what patterns ask for. -/
def grepAs (usual : Char) (words : List Bytes) : Talk Nat := do
  let spelled := aroundSpelledOut words
  match readOptions searchOptions (spelled.length + 1) spelled with
  | .error reason => wrongSearch (some reason)
  | .ok chosen =>
    let mut patterns : List Bytes := chosen.texts 'e'
    for path in chosen.texts 'f' do
      match ← readInput path with
      | .ok data => patterns := patterns ++ (linesOf data).map bareLine
      | .error errno =>
        complainBarely path errno
        return 2
    let given := chosen.has 'e' || chosen.has 'f'
    match given, chosen.words with
    | false, [] => wrongSearch none
    | _, all =>
      let (texts, paths) := if given then (patterns, all) else ([all.headD []], all.tail)
      let kind := (chosen.last? "EFGP").getD usual
      let spelling : Regex.Spelling := {
        extended := kind == 'E' || kind == 'P'
        lenient := true
        careful := true
        digits := kind == 'P' }
      let literal (chars : List Char) : Regex := Regex.inOrder (chars.map Regex.exactly)
      let compiled := (texts.flatMap fun text => text.splitOn lineEnd).mapM fun text =>
        if kind == 'F' then .ok (literal (Utf8.loose text)) else Regex.read spelling (Utf8.loose text)
      match compiled with
      | .error fault =>
        complain (bytes fault.message)
        return 2
      | .ok regexes =>
        let recursive := chosen.has 'r' || chosen.has 'R'
        let starts := if !paths.isEmpty then paths else if recursive then [bytes "."] else [bytes "-"]
        let passes := chosen.text? 'd' == some (bytes "skip")
        let found ← if recursive then filesBelow (chosen.has 'R') true 1000 starts else pure starts
        let files := if recursive && paths.isEmpty then
            found.map fun path => if (bytes "./").isPrefixOf path then path.drop 2 else path
          else found
        let titled := chosen.last? "hH" == some 'H' ||
          (chosen.last? "hH" != some 'h' && (1 < paths.length || recursive))
        let number (letter : Char) : Option Nat := (chosen.text? letter).bind natural?
        let around := (number 'C').getD 0
        let report : Report := {
          sought := {
            regexes
            fold := chosen.has 'i' || chosen.has 'y'
            words := chosen.has 'w'
            lines := chosen.has 'x' }
          inverted := chosen.has 'v'
          parts := chosen.has 'o'
          numbers := chosen.has 'n'
          places := chosen.has 'b'
          counts := chosen.has 'c'
          lists := chosen.has 'l'
          listsOthers := chosen.has 'L'
          quiet := chosen.has 'q'
          most := number 'm'
          before := (number 'B').getD around
          after := (number 'A').getD around
          isText := chosen.has 'a' }
        let print := if chosen.has 'u' then Printing.done { gathering := .lines, code := 2 }
          else Printing.run { code := 2 }
        print do
          let mut code := 1
          let mut failed := false
          let mut shownAny := false
          for path in files do
            let shownName := if path = bytes "-" then bytes "(standard input)" else path
            let title : Bytes := if titled then shownName else []
            let result ← match ← Printing.aside (openInput path) with
              | .error errno => pure (.error errno)
              | .ok fd => do
                if ← pure (!report.isBrief) <&&> Printing.aside (feedsItself fd) then
                  Printing.tell (complain (path ++ bytes ": input file is also the output"))
                  failed := true
                  continue
                let start : Progress := { lastShown := if shownAny then 1 else 0 }
                let progress ← searchPieces report title fd mostPieces [] start
                if fd != 0 then
                  let _ ← Printing.ask (.close fd)
                pure progress
            match result with
            | .error errno =>
              if !(passes && errno = Errno.isDirectory) then
                if !chosen.has 's' then Printing.tell (complainBarely path errno)
                failed := true
            | .ok progress =>
              let hit := 0 < progress.found
              if hit then code := 0
              if hit && !report.isBrief then shownAny := true
              if report.counts && !report.quiet then
                Printing.put ((if titled then title ++ bytes ":" else []) ++ numeral progress.found ++ [lineEnd])
              if (report.lists && hit) || (report.listsOthers && !hit) then
                Printing.put (shownName ++ [lineEnd])
              if ((progress.isBinary && hit) || progress.hasBroken) && !report.isBrief then
                Printing.tell (complain (shownName ++ bytes ": binary file matches"))
              if hit && report.quiet then return 0
          return if failed then 2 else code

/-- Search with the usual spelling of patterns. -/
def grep (words : List Bytes) : Talk Nat :=
  grepAs 'G' words

/-- Why an expression has no value. -/
inductive NoValue where
  | syntaxError (reason : Bytes)
  | noInteger
  | division
  | badPattern (fault : Regex.Fault)

/-- A step of evaluating an expression. -/
abbrev Valuing (α : Type) := StateT (List (List Char)) (Except NoValue) α

/-- The integer that a text spells. -/
def integerOf? (chars : List Char) : Option Int :=
  let digits := if chars.head? == some '-' then chars.tail else chars
  if digits.isEmpty || !digits.all Char.isDigit then none
  else
    let size : Nat := digits.foldl (fun n c => n * 10 + (c.toNat - 48)) 0
    some (if chars.head? == some '-' then -(size : Int) else size)

/-- The integer that a text has to spell. -/
def integerOf (chars : List Char) : Valuing Int :=
  match integerOf? chars with
  | some value => return value
  | none => throw .noInteger

/-- Whether a value counts as none. -/
def isNull (chars : List Char) : Bool :=
  chars.isEmpty || integerOf? chars == some 0

/-- Take one of some operators if it comes next. -/
def takeOperator? (operators : List String) : Valuing (Option String) := do
  match ← get with
  | word :: rest =>
    match operators.find? fun operator => operator.toList == word with
    | some operator =>
      set rest
      return some operator
    | none => return none
  | [] => return none

/-- Complain that words are missing, which is told by the word before them. -/
def lacking (before : List Char) : Valuing (List Char) :=
  throw (.syntaxError (bytes "syntax error: missing argument after " ++ cited (Bytes.ofOctets before)))

/-- What a text has in common with a pattern at its start: what the group has matched, or how much. -/
def matched (text pattern : List Char) : Valuing (List Char) := do
  let decoded := Utf8.loose (Bytes.ofOctets text)
  match Regex.read { extended := false } (Utf8.loose (Bytes.ofOctets pattern)) with
  | .error fault => throw (.badPattern fault)
  | .ok regex =>
    let grouped := 0 < regex.groupCount
    match Regex.ends false regex { rest := decoded } with
    | found :: _ =>
      if grouped then
        let part := ((found.groups.lookup 1).map (·.2)).getD []
        return Bytes.toOctets (Utf8.restored part)
      else return Numeral.ofNat found.place
    | [] => return if grouped then [] else ['0']

mutual

/-- A word, a word of its own kind, or an expression in parentheses. -/
def valueOfPrimary (before : List Char) : Nat → Valuing (List Char)
  | 0 => throw (.syntaxError [])
  | fuel + 1 => do
    match ← get with
    | [] => lacking before
    | word :: rest =>
      set rest
      let next : Valuing (List Char) := valueOfPrimary word fuel
      match String.ofList word with
      | "(" =>
        let value ← valueOfEither word fuel
        match ← get with
        | [')'] :: left =>
          set left
          return value
        | [] =>
          throw (.syntaxError (bytes "syntax error: expecting ')' after " ++ cited (Bytes.ofOctets value)))
        | other :: _ =>
          throw (.syntaxError (bytes "syntax error: expecting ')' instead of " ++ cited (Bytes.ofOctets other)))
      | ")" => throw (.syntaxError (bytes "syntax error: unexpected ')'"))
      | "+" =>
        match ← get with
        | literal :: left =>
          set left
          return literal
        | [] => lacking word
      | "length" => return Numeral.ofNat (Utf8.loose (Bytes.ofOctets (← next))).length
      | "match" =>
        let text ← next
        matched text (← next)
      | "index" =>
        let text ← next
        let set ← next
        let chars := Utf8.loose (Bytes.ofOctets text)
        let place := chars.findIdx (Utf8.loose (Bytes.ofOctets set)).contains
        return Numeral.ofNat (if place < chars.length then place + 1 else 0)
      | "substr" =>
        let text ← next
        let start := integerOf? (← next)
        let size := integerOf? (← next)
        match start, size with
        | some (.ofNat (first + 1)), some (.ofNat count) =>
          let chars := Utf8.loose (Bytes.ofOctets text)
          return Bytes.toOctets (Utf8.restored ((chars.drop first).take count))
        | _, _ => return []
      | _ => return word

/-- Texts compared with patterns. -/
def valueOfMatch (before : List Char) : Nat → Valuing (List Char)
  | 0 => throw (.syntaxError [])
  | fuel + 1 => do
    let first ← valueOfPrimary before fuel
    moreMatches fuel first

/-- What follows a text that may be compared with patterns. -/
def moreMatches : Nat → List Char → Valuing (List Char)
  | 0, _ => throw (.syntaxError [])
  | fuel + 1, value => do
    match ← takeOperator? [":"] with
    | some _ =>
      let pattern ← valueOfPrimary [':'] fuel
      moreMatches fuel (← matched value pattern)
    | none => return value

/-- Products. -/
def valueOfProduct (before : List Char) : Nat → Valuing (List Char)
  | 0 => throw (.syntaxError [])
  | fuel + 1 => do
    let first ← valueOfMatch before fuel
    moreFactors fuel first

/-- The factors after the first one. -/
def moreFactors : Nat → List Char → Valuing (List Char)
  | 0, _ => throw (.syntaxError [])
  | fuel + 1, value => do
    match ← takeOperator? ["*", "/", "%"] with
    | none => return value
    | some operator =>
      let other ← valueOfMatch operator.toList fuel
      let a ← integerOf value
      let b ← integerOf other
      if operator != "*" && b = 0 then throw .division
      let result := if operator == "*" then a * b else if operator == "/" then Int.tdiv a b else Int.tmod a b
      moreFactors fuel (Numeral.ofInt result)

/-- Sums. -/
def valueOfSum (before : List Char) : Nat → Valuing (List Char)
  | 0 => throw (.syntaxError [])
  | fuel + 1 => do
    let first ← valueOfProduct before fuel
    moreSummands fuel first

/-- The summands after the first one. -/
def moreSummands : Nat → List Char → Valuing (List Char)
  | 0, _ => throw (.syntaxError [])
  | fuel + 1, value => do
    match ← takeOperator? ["+", "-"] with
    | none => return value
    | some operator =>
      let other ← valueOfProduct operator.toList fuel
      let a ← integerOf value
      let b ← integerOf other
      moreSummands fuel (Numeral.ofInt (if operator == "+" then a + b else a - b))

/-- Comparisons, of numbers if both sides are some. -/
def valueOfComparison (before : List Char) : Nat → Valuing (List Char)
  | 0 => throw (.syntaxError [])
  | fuel + 1 => do
    let first ← valueOfSum before fuel
    moreComparisons fuel first

/-- The sides of comparisons after the first one. -/
def moreComparisons : Nat → List Char → Valuing (List Char)
  | 0, _ => throw (.syntaxError [])
  | fuel + 1, value => do
    match ← takeOperator? ["<", "<=", "=", "==", "!=", ">=", ">"] with
    | none => return value
    | some operator =>
      let other ← valueOfSum operator.toList fuel
      let result : Ordering := match integerOf? value, integerOf? other with
        | some a, some b => compare a b
        | _, _ =>
          if value == other then .eq
          else if Bytes.before (Bytes.ofOctets value) (Bytes.ofOctets other) then .lt else .gt
      let holds : Bool := match operator with
        | "<" => result == .lt
        | "<=" => result != .gt
        | "!=" => result != .eq
        | ">=" => result != .lt
        | ">" => result == .gt
        | _ => result == .eq
      moreComparisons fuel (if holds then ['1'] else ['0'])

/-- Values that all have to be something. -/
def valueOfBoth (before : List Char) : Nat → Valuing (List Char)
  | 0 => throw (.syntaxError [])
  | fuel + 1 => do
    let first ← valueOfComparison before fuel
    moreBoth fuel first

/-- The values after the first of those that all have to be something. -/
def moreBoth : Nat → List Char → Valuing (List Char)
  | 0, _ => throw (.syntaxError [])
  | fuel + 1, value => do
    match ← takeOperator? ["&"] with
    | none => return value
    | some _ =>
      let other ← valueOfComparison ['&'] fuel
      moreBoth fuel (if isNull value || isNull other then ['0'] else value)

/-- The first of some values that is something. -/
def valueOfEither (before : List Char) : Nat → Valuing (List Char)
  | 0 => throw (.syntaxError [])
  | fuel + 1 => do
    let first ← valueOfBoth before fuel
    moreEither fuel first

/-- The values after the first of those of which one is wanted. -/
def moreEither : Nat → List Char → Valuing (List Char)
  | 0, _ => throw (.syntaxError [])
  | fuel + 1, value => do
    match ← takeOperator? ["|"] with
    | none => return value
    | some _ =>
      let other ← valueOfBoth ['|'] fuel
      moreEither fuel (if !isNull value then value else if isNull other then ['0'] else other)

end

/-- Print the value of an expression. -/
def expr (words : List Bytes) : Talk Nat := do
  let given := if words.head? == some (bytes "--") then words.tail else words
  let failed (reason : Bytes) (code : Nat) : Talk Nat := do
    complain reason
    return code
  match given with
  | [] => misuse (bytes "missing operand") 2
  | _ =>
    match (valueOfEither [] (40 * given.length + 100)).run (given.map Bytes.toOctets) with
    | .error (.syntaxError reason) => failed reason 2
    | .error .noInteger => failed (bytes "non-integer argument") 2
    | .error .division => failed (bytes "division by zero") 2
    | .error (.badPattern fault) => failed (bytes fault.message) 2
    | .ok (value, []) =>
      let _ ← print (Bytes.ofOctets value ++ [lineEnd])
      return if isNull value then 1 else 0
    | .ok (_, extra :: _) =>
      failed (bytes "syntax error: unexpected argument " ++ cited (Bytes.ofOctets extra)) 2

end Umpire.Tool
