import Umpire.Text.Utf8

/-! Regular expressions in their basic and extended spelling, and where they match: as far to the left as
possible, and there as long as possible. -/

namespace Umpire

/-- A regular expression. -/
inductive Regex where
  /-- Any character. -/
  | any
  /-- One character in, or out of, some ranges. -/
  | oneOf (wanted : Bool) (ranges : List (Char × Char))
  | start
  | finish
  /-- Where a line of a text of several lines starts, or ends. -/
  | lineStart
  | lineFinish
  /-- Between a character of a word and another one, or not. -/
  | boundary (wanted : Bool)
  | wordStart
  | wordEnd
  | nothing
  | group (index : Nat) (inner : Regex)
  | sequence (first second : Regex)
  | either (first second : Regex)
  | repeated (inner : Regex) (least : Nat) (most : Option Nat)
  /-- What a group has matched. -/
  | reference (index : Nat)
  deriving DecidableEq, Repr, Inhabited

namespace Regex

/-- Why a text is no regular expression. -/
inductive Fault where
  | openGroup
  | closedGroup
  | openSet
  | emptySet
  | openInterval
  | badInterval
  | hugeInterval
  | badRange
  | badClass
  /-- A set that looks like a class without a set around it. -/
  | bareClass
  | nothingToRepeat
  | badReference
  | trailingBackslash
  deriving DecidableEq, Repr

/-- The wording of a fault. -/
def Fault.message : Fault → String
  | .openGroup => "Unmatched ( or \\("
  | .closedGroup => "Unmatched ) or \\)"
  | .openSet => "Unmatched [, [^, [:, [., or [="
  | .emptySet => "Invalid regular expression"
  | .openInterval => "Unmatched \\\x7b"
  | .badInterval => "Invalid content of \\\x7b\\\x7d"
  | .hugeInterval => "Regular expression too big"
  | .badRange => "Invalid range end"
  | .badClass => "Invalid character class name"
  | .bareClass => "character class syntax is [[:space:]], not [:space:]"
  | .nothingToRepeat => "Invalid preceding regular expression"
  | .badReference => "Invalid back reference"
  | .trailingBackslash => "Trailing backslash"

/-- The ranges of a named class of characters. -/
def classOf? (name : List Char) : Option (List (Char × Char)) :=
  match String.ofList name with
  | "digit" => some [('0', '9')]
  | "alpha" => some [('a', 'z'), ('A', 'Z')]
  | "alnum" => some [('0', '9'), ('a', 'z'), ('A', 'Z')]
  | "lower" => some [('a', 'z')]
  | "upper" => some [('A', 'Z')]
  | "space" => some [(' ', ' '), ('\t', '\r')]
  | "blank" => some [(' ', ' '), ('\t', '\t')]
  | "xdigit" => some [('0', '9'), ('a', 'f'), ('A', 'F')]
  | "punct" => some [('!', '/'), (':', '@'), ('[', '\x60'), ('\x7b', '~')]
  | "cntrl" => some [('\x00', '\x1f'), ('\x7f', '\x7f')]
  | "print" => some [(' ', '~'), ('\xa0', '\uffff')]
  | "graph" => some [('!', '~'), ('\xa1', '\uffff')]
  | _ => none

/-- The characters that words are made of. -/
def wordRanges : List (Char × Char) :=
  [('0', '9'), ('a', 'z'), ('A', 'Z'), ('_', '_'), ('\xc0', '\u024f')]

/-- Blanks. -/
def blankRanges : List (Char × Char) :=
  [(' ', ' '), ('\t', '\r')]

/-- One character and no other. -/
def exactly (c : Char) : Regex :=
  .oneOf true [(c, c)]

/-- The regular expressions of a list, one after the other. -/
def inOrder (parts : List Regex) : Regex :=
  parts.foldr (fun part rest => if rest = .nothing then part else .sequence part rest) .nothing

/-- How a regular expression is spelled. -/
structure Spelling where
  extended : Bool
  /-- Whether an extended one may have signs that repeat where there is nothing to repeat, which are passed
  over, and braces that open no interval, which are characters like others. -/
  lenient : Bool := false
  /-- Whether a basic one may neither repeat what is repeated already nor start with an interval. -/
  strict : Bool := false
  /-- Whether a set that looks like a class is wrong. -/
  careful : Bool := false
  /-- Whether texts have several lines, at whose ends matches may start and end and that no set of other
  characters joins. -/
  several : Bool := false
  /-- Whether escapes for line ends and the like are known, also in sets. -/
  escapes : Bool := false
  /-- Whether escapes for digits are known. -/
  digits : Bool := false

/-- What is still to be read, and how many groups there have been. -/
structure Source where
  rest : List Char
  groups : Nat := 0

/-- A step of reading. -/
abbrev Reading (α : Type) := StateT Source (Except Fault) α

/-- Go on with a rest. -/
def goOn (rest : List Char) : Reading Unit :=
  modify fun source => { source with rest := rest }

/-- The character that an escape stands for, where escapes are known. -/
def escaped? (c : Char) : Option Char :=
  match c with
  | 'n' => some '\n'
  | 't' => some '\t'
  | 'r' => some '\r'
  | 'f' => some '\x0c'
  | 'v' => some '\x0b'
  | 'a' => some '\x07'
  | _ => none

/-- The ranges of a set up to its closing bracket. -/
def setRanges (spelling : Spelling) : Nat → Bool → List (Char × Char) → Reading (List (Char × Char))
  | 0, _, _ => throw .openSet
  | fuel + 1, first, ranges => do
    match (← get).rest with
    | [] => throw .openSet
    | ']' :: rest =>
      if first then single fuel ranges ']' rest
      else
        goOn rest
        return ranges
    | '[' :: mark :: rest =>
      if mark == ':' || mark == '=' || mark == '.' then
        let name := rest.takeWhile (· != mark)
        match rest.drop name.length with
        | _ :: ']' :: left =>
          goOn left
          if mark == ':' then
            match classOf? name with
            | some found => setRanges spelling fuel false (ranges ++ found)
            | none => throw .badClass
          else setRanges spelling fuel false (ranges ++ name.map fun c => (c, c))
        | _ => throw .openSet
      else single fuel ranges '[' (mark :: rest)
    | '\\' :: c :: rest =>
      match if spelling.escapes then escaped? c else none with
      | some shown => single fuel ranges shown rest
      | none => single fuel ranges '\\' (c :: rest)
    | c :: rest => single fuel ranges c rest
where
  /-- One character, or a range that starts with it. -/
  single (fuel : Nat) (ranges : List (Char × Char)) (low : Char) (rest : List Char) :
      Reading (List (Char × Char)) := do
    match rest with
    | '-' :: ']' :: _ =>
      goOn rest
      setRanges spelling fuel false (ranges ++ [(low, low)])
    | '-' :: high :: left =>
      if high < low then throw .badRange
      goOn left
      setRanges spelling fuel false (ranges ++ [(low, high)])
    | _ =>
      goOn rest
      setRanges spelling fuel false (ranges ++ [(low, low)])

/-- What stands before a comma or before the end of an interval, whether it is the comma, and what
follows. -/
def bound? (close : List Char) : List Char → Option (List Char × Bool × List Char)
  | [] => none
  | c :: rest =>
    if close.isPrefixOf (c :: rest) then some ([], false, (c :: rest).drop close.length)
    else if c == ',' then some ([], true, rest)
    else (bound? close rest).map fun (taken, others) => (c :: taken, others)

/-- How often a part may be repeated at most. -/
def mostRepeats : Nat := 32767

/-- The bounds of an interval up to its closing brace, and what follows; none if the brace opens none and
that is allowed. -/
def interval (spelling : Spelling) (chars : List Char) :
    Except Fault (Option (Nat × Option Nat × List Char)) :=
  let close : List Char := if spelling.extended then ['\x7d'] else ['\\', '\x7d']
  let number (digits : List Char) : Nat := digits.foldl (fun n c => n * 10 + (c.toNat - 48)) 0
  let none? (fault : Fault) : Except Fault (Option (Nat × Option Nat × List Char)) :=
    if spelling.extended && spelling.lenient then .ok none else .error fault
  match bound? close chars with
  | none => none? .openInterval
  | some (low, hasComma, rest) =>
    if low.isEmpty && !hasComma then .error .badInterval
    else if !low.all Char.isDigit then none? .badInterval
    else if !hasComma then
      if mostRepeats < number low then .error .hugeInterval else .ok (some (number low, some (number low), rest))
    else
      match bound? close rest with
      | none => none? .openInterval
      | some (high, another, left) =>
        let most : Option Nat := if high.isEmpty then none else some (number high)
        if !high.all Char.isDigit then none? .badInterval
        else if another || most.any (· < number low) then .error .badInterval
        else if mostRepeats < most.getD (number low) then .error .hugeInterval
        else .ok (some (number low, most, left))

/-- Whether a set looks like a class: it has a colon at its start and another one at its end. -/
def looksLikeClass (rest : List Char) : Bool :=
  let inner := rest.takeWhile (· != ']')
  inner.head? == some ':' && 2 < inner.length && inner.getLast? == some ':'

mutual

/-- Alternatives up to the end, or up to the parenthesis that closes a group. -/
def alternatives (spelling : Spelling) : Nat → Bool → Reading Regex
  | 0, _ => throw .openGroup
  | fuel + 1, inGroup => do
    let first ← branch spelling fuel inGroup []
    return (← moreAlternatives spelling fuel inGroup).foldl .either first

/-- The alternatives after the first one. -/
def moreAlternatives (spelling : Spelling) : Nat → Bool → Reading (List Regex)
  | 0, _ => throw .openGroup
  | fuel + 1, inGroup => do
    let next : Option (List Char) := match spelling.extended, (← get).rest with
      | true, '|' :: rest => some rest
      | false, '\\' :: '|' :: rest => some rest
      | _, _ => none
    match next with
    | none => return []
    | some rest =>
      goOn rest
      let found ← branch spelling fuel inGroup []
      return found :: (← moreAlternatives spelling fuel inGroup)

/-- The parts of one alternative. -/
def branch (spelling : Spelling) : Nat → Bool → List Regex → Reading Regex
  | 0, _, _ => throw .openGroup
  | fuel + 1, inGroup, parts => do
    let source ← get
    let extended := spelling.extended
    let finished : Regex := inOrder parts.reverse
    let isStart := parts.isEmpty || parts == [.start] || parts == [.lineStart]
    -- A sign that repeats where nothing is to be repeated.
    let stray : Reading Regex :=
      if spelling.lenient then branch spelling fuel inGroup parts else throw .nothingToRepeat
    match source.rest with
    | [] => return finished
    | '|' :: rest =>
      if extended then return finished
      else
        goOn rest
        repeatable spelling fuel inGroup parts (exactly '|')
    | ')' :: rest =>
      if extended then
        if inGroup then return finished else throw .closedGroup
      else
        goOn rest
        repeatable spelling fuel inGroup parts (exactly ')')
    | '(' :: rest =>
      goOn rest
      if extended then grouped spelling fuel inGroup parts
      else repeatable spelling fuel inGroup parts (exactly '(')
    | '^' :: rest =>
      goOn rest
      let here : Regex := if spelling.several then .lineStart else .start
      if extended || parts.isEmpty then branch spelling fuel inGroup (here :: parts)
      else repeatable spelling fuel inGroup parts (exactly '^')
    | '$' :: rest =>
      goOn rest
      let atEnd := rest.isEmpty || "\\)".toList.isPrefixOf rest || "\\|".toList.isPrefixOf rest
      let here : Regex := if spelling.several then .lineFinish else .finish
      if extended || atEnd then branch spelling fuel inGroup (here :: parts)
      else repeatable spelling fuel inGroup parts (exactly '$')
    | '*' :: rest =>
      goOn rest
      if isStart then
        if extended then stray else repeatable spelling fuel inGroup parts (exactly '*')
      else repeatable spelling fuel inGroup parts (exactly '*')
    | '.' :: rest =>
      goOn rest
      repeatable spelling fuel inGroup parts (if spelling.several then .oneOf false [('\n', '\n')] else .any)
    | '[' :: rest =>
      let wanted := rest.head? != some '^'
      let inner := if wanted then rest else rest.tail
      if inner.isEmpty then throw .emptySet
      if spelling.careful && looksLikeClass inner then throw .bareClass
      goOn inner
      let ranges ← setRanges spelling (rest.length + 1) true []
      let others : List (Char × Char) := if spelling.several && !wanted then [('\n', '\n')] else []
      repeatable spelling fuel inGroup parts (.oneOf wanted (ranges ++ others))
    | '\\' :: rest =>
      match rest with
      | [] => throw .trailingBackslash
      | c :: after =>
        if !extended && (c == '|' || (c == ')' && inGroup)) then return finished
        else
          goOn after
          if !extended && c == '(' then grouped spelling fuel inGroup parts
          else if !extended && c == ')' then throw .closedGroup
          else if !extended && c == '\x7b' && isStart && spelling.strict then throw .nothingToRepeat
          else if c.isDigit && c != '0' then
            if source.groups < c.toNat - 48 then throw .badReference
            repeatable spelling fuel inGroup parts (.reference (c.toNat - 48))
          else
            match c with
            | 'w' => repeatable spelling fuel inGroup parts (.oneOf true wordRanges)
            | 'W' => repeatable spelling fuel inGroup parts (.oneOf false wordRanges)
            | 's' => repeatable spelling fuel inGroup parts (.oneOf true blankRanges)
            | 'S' => repeatable spelling fuel inGroup parts (.oneOf false blankRanges)
            | 'b' => branch spelling fuel inGroup (.boundary true :: parts)
            | 'B' => branch spelling fuel inGroup (.boundary false :: parts)
            | '<' => branch spelling fuel inGroup (.wordStart :: parts)
            | '>' => branch spelling fuel inGroup (.wordEnd :: parts)
            | '\x60' => branch spelling fuel inGroup (.start :: parts)
            | '\'' => branch spelling fuel inGroup (.finish :: parts)
            | 'd' =>
              if spelling.digits then repeatable spelling fuel inGroup parts (.oneOf true [('0', '9')])
              else repeatable spelling fuel inGroup parts (exactly c)
            | _ =>
              let shown := if spelling.escapes then (escaped? c).getD c else c
              repeatable spelling fuel inGroup parts (exactly shown)
    | c :: rest =>
      goOn rest
      if extended && isStart && (c == '+' || c == '?') then stray
      else if extended && isStart && c == '\x7b' then
        match interval spelling rest with
        | .ok (some (_, _, left)) =>
          goOn left
          stray
        | _ => if spelling.lenient then repeatable spelling fuel inGroup parts (exactly c) else stray
      else repeatable spelling fuel inGroup parts (exactly c)

/-- A group whose opening parenthesis has been passed. -/
def grouped (spelling : Spelling) : Nat → Bool → List Regex → Reading Regex
  | 0, _, _ => throw .openGroup
  | fuel + 1, inGroup, parts => do
    let index := (← get).groups + 1
    modify fun source => { source with groups := index }
    let inner ← alternatives spelling fuel true
    let close : List Char := if spelling.extended then [')'] else ['\\', ')']
    let rest := (← get).rest
    if !close.isPrefixOf rest then throw .openGroup
    goOn (rest.drop close.length)
    repeatable spelling fuel inGroup parts (.group index inner)

/-- What follows a part that may be repeated. -/
def repeatable (spelling : Spelling) : Nat → Bool → List Regex → Regex → Reading Regex
  | 0, _, _, _ => throw .openGroup
  | fuel + 1, inGroup, parts, part => do
    let rest := (← get).rest
    let extended := spelling.extended
    let again (least : Nat) (most : Option Nat) (left : List Char) : Reading Regex := do
      goOn left
      repeatable spelling fuel inGroup parts (.repeated part least most)
    let plain : Reading Regex := branch spelling fuel inGroup (part :: parts)
    let counted (left : List Char) : Reading Regex := do
      match interval spelling left with
      | .ok (some (least, most, after)) => again least most after
      | .ok none => plain
      | .error fault => throw fault
    let isTwice : Bool := match part with
      | .repeated .. => spelling.strict && !extended
      | _ => false
    match rest with
    | '*' :: left => if isTwice then throw .nothingToRepeat else again 0 none left
    | '+' :: left => if extended then again 1 none left else plain
    | '?' :: left => if extended then again 0 (some 1) left else plain
    | '\x7b' :: left => if extended then counted left else plain
    | '\\' :: '+' :: left => if extended then plain else again 1 none left
    | '\\' :: '?' :: left => if extended then plain else again 0 (some 1) left
    | '\\' :: '\x7b' :: left =>
      if extended then plain else if isTwice then throw .nothingToRepeat else counted left
    | _ => plain

end

/-- Read a regular expression. -/
def read (spelling : Spelling) (chars : List Char) : Except Fault Regex := do
  let (found, _) ← (alternatives spelling (20 * chars.length + 100) false).run { rest := chars }
  return found

end Regex

end Umpire
