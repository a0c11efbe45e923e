import Umpire.Shell.Source
import Umpire.Text.Numeral

/-! Reading words: quotes, escapes and expansions as they are written. -/

namespace Umpire.Shell.Parser

/-- The characters up to a closing backquote, freed of backslashes that shield, and what follows. -/
def untilBackquote (quoted : Bool) (taken : List Char) : List Char → Option (List Char × List Char)
  | [] => none
  | '\\' :: c :: rest =>
    if c == '\x60' || c == '\\' || c == '$' || (quoted && c == '"') then
      untilBackquote quoted (c :: taken) rest
    else untilBackquote quoted (c :: '\\' :: taken) rest
  | c :: rest =>
    if c == '\x60' then some (taken.reverse, rest) else untilBackquote quoted (c :: taken) rest

/-- Whether single quotes shield what is between them. -/
inductive Singles where
  | always
  | never
  /-- Only within braces, as the large shell has it between double quotes. -/
  | inBraces
  deriving DecidableEq, Repr

/-- What follows the closing mark of something that has been opened, or the mark that is missing. Quoted
marks do not count, and what is opened inside is closed inside. -/
def after (close : Char) (singles : Singles) : Nat → List Char → Except Char (List Char)
  | 0, _ => .error close
  | _ + 1, [] => .error close
  | fuel + 1, '\\' :: _ :: rest => after close singles fuel rest
  | fuel + 1, c :: rest =>
    if c == close then .ok rest
    else
      let inner : Except Char (List Char) :=
        if c == '\'' && (singles = .always || (singles = .inBraces && close == '\x7d')) then
          let quoted := rest.takeWhile (· != '\'')
          if quoted.length = rest.length then .error '\'' else .ok (rest.drop (quoted.length + 1))
        else if c == '"' then after '"' (if singles = .inBraces then .inBraces else .never) fuel rest
        else if c == '\x60' then
          match untilBackquote false [] rest with
          | some (_, left) => .ok left
          | none => .error c
        else if c == '(' && close == ')' then after ')' .always fuel rest
        else if c == '$' then
          match rest with
          | '\x7b' :: deeper => after '\x7d' singles fuel deeper
          | '(' :: deeper => after ')' .always fuel deeper
          | _ => .ok rest
        else .ok rest
      inner.bind fun left => after close singles fuel left

/-- What follows the closing mark of something that has been opened. -/
def after? (close : Char) (inDouble : Bool) (fuel : Nat) (chars : List Char) : Option (List Char) :=
  (after close (if inDouble then .never else .always) fuel chars).toOption

/-- What stands before the closing mark of something that has been opened, and what follows it; or the mark
that is missing. -/
def enclosed (close : Char) (singles : Singles) (chars : List Char) : Except Char (List Char × List Char) :=
  (after close singles (chars.length + 1) chars).map fun rest =>
    (chars.take (chars.length - rest.length - 1), rest)

/-- What stands before the closing mark of something that has been opened, and what follows it. -/
def enclosed? (close : Char) (inDouble : Bool) (chars : List Char) : Option (List Char × List Char) :=
  (enclosed close (if inDouble then .never else .always) chars).toOption

/-- Whether a character names a parameter by itself. -/
def isSpecial (c : Char) : Bool :=
  c.isDigit || "@*#?-$!".toList.contains c

/-- The operator of an expansion and its operand, from the characters after the name. -/
def useOf (large : Bool) (chars : List Char) : Use × Bool × List Char :=
  match chars with
  | [] => (.value, false, [])
  | ':' :: '-' :: rest => (.default, true, rest)
  | ':' :: '=' :: rest => (.assign, true, rest)
  | ':' :: '?' :: rest => (.require, true, rest)
  | ':' :: '+' :: rest => (.alternative, true, rest)
  | '-' :: rest => (.default, false, rest)
  | '=' :: rest => (.assign, false, rest)
  | '?' :: rest => (.require, false, rest)
  | '+' :: rest => (.alternative, false, rest)
  | '#' :: '#' :: rest => (.dropStart true, false, rest)
  | '#' :: rest => (.dropStart false, false, rest)
  | '%' :: '%' :: rest => (.dropEnd true, false, rest)
  | '%' :: rest => (.dropEnd false, false, rest)
  | c :: rest =>
    if !large then (.senseless, false, [])
    else
      match c, rest with
      | ':', _ => (.slice, false, rest)
      | '/', '/' :: others => (.replace .all, false, others)
      | '/', '#' :: others => (.replace .start, false, others)
      | '/', '%' :: others => (.replace .finish, false, others)
      | '/', _ => (.replace .first, false, rest)
      | '^', '^' :: others => (.recase true true, false, others)
      | '^', _ => (.recase true false, false, rest)
      | ',', ',' :: others => (.recase false true, false, others)
      | ',', _ => (.recase false false, false, rest)
      | '@', [letter] => (.transform letter, false, [])
      | _, _ => (.senseless, false, [])

/-- The name that a text starts with, and what follows it. -/
def parameterName? (chars : List Char) : Option (List Char × List Char) :=
  match chars with
  | [] => none
  | c :: rest =>
    if startsName c then some (chars.takeWhile inName, chars.dropWhile inName)
    else if c.isDigit then some (chars.takeWhile Char.isDigit, chars.dropWhile Char.isDigit)
    else if isSpecial c then some ([c], rest)
    else none

/-- The text between brackets that a text starts with, and what follows it. -/
def subscript? (chars : List Char) : Option (List Char) × List Char :=
  match chars with
  | '[' :: rest =>
    match enclosed? ']' false rest with
    | some (inner, after) => (some inner, after)
    | none => (none, chars)
  | _ => (none, chars)

/-- The expansion that stands between braces. -/
def expansionOf (large : Bool) (chars : List Char) : Expansion :=
  let senseless : Expansion := { name := [], use := .senseless, whole := chars }
  let named (indirect : Bool) (chars : List Char) : Expansion :=
    match parameterName? chars with
    | none => senseless
    | some (name, rest) =>
      let (subscript, after) := if large && isName name then subscript? rest else (none, rest)
      let (use, emptyIsNone, operand) := useOf large after
      { name, subscript, indirect, use, emptyIsNone, operand, whole := chars }
  let found : Expansion := match chars with
    | '#' :: c :: rest =>
      match parameterName? (c :: rest) with
      | some (name, after) =>
        let (subscript, left) := if large && isName name then subscript? after else (none, after)
        if left.isEmpty then { name, subscript, use := .length }
        else named false chars
      | none => named false chars
    | '!' :: c :: rest =>
      if !large then named false chars
      else
        match parameterName? (c :: rest) with
        | some (name, ['*']) | some (name, ['@']) => { name, use := .names }
        | some (name, after) =>
          match subscript? after with
          | (some ['@'], []) | (some ['*'], []) => { name, subscript := some ['@'], use := .keys }
          | _ => if isSpecial c && c != '@' && c != '*' && !c.isDigit then named false chars
            else named true (c :: rest)
        | none => named false chars
    | _ => named false chars
  { found with whole := chars }

/-- The octets of a code point. -/
def utf8Octets (value : Nat) : List Char :=
  (String.utf8EncodeChar (Char.ofNat value)).map fun byte => Char.ofNat byte.toNat

/-- The value of the hexadecimal digits that a text starts with, up to so many. -/
def hexadecimal (most : Nat) (chars : List Char) : Option (Nat × List Char) :=
  let digits := (chars.take most).takeWhile fun c => (Numeral.hexDigit? c).isSome
  if digits.isEmpty then none
  else some ((digits.filterMap Numeral.hexDigit?).foldl (fun n digit => n * 16 + digit) 0,
    chars.drop digits.length)

/-- A text with the escapes of the large shell's own quotes. -/
def unescaped : Nat → List Char → List Char
  | 0, _ => []
  | _ + 1, [] => []
  | fuel + 1, '\\' :: c :: rest =>
    let digits := ((c :: rest).take 3).takeWhile fun d => '0' ≤ d && d ≤ '7'
    if !digits.isEmpty then
      let value := digits.foldl (fun n d => n * 8 + (d.toNat - 48)) 0
      Char.ofNat (value % 256) :: unescaped fuel ((c :: rest).drop digits.length)
    else
      let coded (most : Nat) (shown : Nat → List Char) : List Char :=
        match hexadecimal most rest with
        | some (value, left) => shown value ++ unescaped fuel left
        | none => '\\' :: c :: unescaped fuel rest
      match c with
      | 'a' => '\x07' :: unescaped fuel rest
      | 'b' => '\x08' :: unescaped fuel rest
      | 'e' | 'E' => '\x1b' :: unescaped fuel rest
      | 'f' => '\x0c' :: unescaped fuel rest
      | 'n' => '\n' :: unescaped fuel rest
      | 'r' => '\r' :: unescaped fuel rest
      | 't' => '\t' :: unescaped fuel rest
      | 'v' => '\x0b' :: unescaped fuel rest
      | '\\' | '\'' | '"' | '?' => c :: unescaped fuel rest
      | 'x' => coded 2 fun value => [Char.ofNat value]
      | 'u' => coded 4 utf8Octets
      | 'U' => coded 8 utf8Octets
      | 'c' =>
        match rest with
        | d :: left => Char.ofNat (d.toNat % 32) :: unescaped fuel left
        | [] => ['\\', 'c']
      | _ => '\\' :: c :: unescaped fuel rest
  | fuel + 1, c :: rest => c :: unescaped fuel rest

/-- The text between the large shell's own quotes, and what follows the closing one. -/
def untilQuote (taken : List Char) : List Char → Option (List Char × List Char)
  | [] => none
  | '\\' :: c :: rest => untilQuote (c :: '\\' :: taken) rest
  | c :: rest => if c == '\'' then some (taken.reverse, rest) else untilQuote (c :: taken) rest

/-- A script in parentheses, the first of which has been passed. -/
def scriptInside (nested : Nested) : Reading (List Char) := do
  let source ← get
  match nested source with
  | .error reason => throw { reason with isInner := true }
  | .ok reached =>
    set reached
    return source.rest.take (source.rest.length - reached.rest.length - 1)

/-- A stretch that starts with a dollar sign, which has been passed already. -/
def dollar (nested : Nested) (quoted : Bool) : Reading Part := do
  let source ← get
  let large := source.dialect = .large
  match source.rest with
  | '(' :: '(' :: rest =>
    match enclosed ')' .always rest with
    | .ok (term, ')' :: left) =>
      skipTo left
      return .arithmetic term quoted
    | .error mark => stumble (.unclosed (if mark == ')' then "))" else String.ofList [mark]))
    | .ok (_, left) =>
      if large && !left.isEmpty then
        skip 1
        return .output (← scriptInside nested) quoted
      else stumble (.unclosed "))")
  | '(' :: _ =>
    skip 1
    return .output (← scriptInside nested) quoted
  | '\x7b' :: rest =>
    let singles : Singles := if !quoted then .always else if large then .inBraces else .never
    match enclosed '\x7d' singles rest with
    | .ok (inner, left) =>
      skipTo left
      return .parameter (expansionOf large inner) quoted
    | .error mark => stumble (.unclosed (String.ofList [mark]))
  | '[' :: rest =>
    match if large then enclosed? ']' false rest else none with
    | some (term, left) =>
      skipTo left
      return .arithmetic term quoted
    | none => return .text ['$'] quoted
  | c :: _ =>
    if startsName c then
      skipTo (source.rest.dropWhile inName)
      return .parameter { name := source.rest.takeWhile inName } quoted
    else if isSpecial c then
      skip 1
      return .parameter { name := [c] } quoted
    else return .text ['$'] quoted
  | [] => return .text ['$'] quoted

/-- A script between backquotes, the first of which stands here. -/
def backquoted (quoted : Bool) : Reading Part := do
  match untilBackquote quoted [] ((← get).rest.drop 1) with
  | none => stumble (.unclosed "\x60")
  | some (script, left) =>
    skipTo left
    return .output script quoted

/-- What a text is read as in which double quotes shield. -/
inductive Shield where
  /-- The text ends at the closing quote. -/
  | quotes
  /-- Double quotes have no meaning. -/
  | document
  /-- Double quotes come and go. -/
  | operand
  deriving DecidableEq, Repr

/-- The rest of a text that double quotes shield. -/
def shielded (nested : Nested) (shield : Shield) : Nat → List Part → Reading (List Part)
  | 0, parts => return parts.reverse
  | fuel + 1, parts => do
    match (← get).rest with
    | [] => if shield = .quotes then stumble (.unclosed "\"") else return parts.reverse
    | '"' :: _ =>
      skip 1
      match shield with
      | .quotes => return parts.reverse
      | .document => shielded nested shield fuel (.text ['"'] true :: parts)
      | .operand => shielded nested shield fuel parts
    | '\\' :: c :: _ =>
      skip 2
      let isShielded := c == '$' || c == '\x60' || c == '\\' || (c == '"' && shield != .document) ||
        (c == '\x7d' && shield = .operand)
      if c == '\n' then shielded nested shield fuel parts
      else if isShielded then shielded nested shield fuel (.text [c] true :: parts)
      else shielded nested shield fuel (.text ['\\', c] true :: parts)
    | '$' :: _ =>
      skip 1
      let part ← dollar nested true
      shielded nested shield fuel (part :: parts)
    | '\x60' :: _ =>
      let part ← backquoted (shield != .document)
      let kept := match part with
        | .output script _ => .output script true
        | other => other
      shielded nested shield fuel (kept :: parts)
    | c :: _ =>
      skip 1
      shielded nested shield fuel (.text [c] true :: parts)

/-- Whether a character and a parenthesis after it start a choice of patterns. -/
def opensChoice (c : Char) : Bool :=
  "?*+@!".toList.contains c

/-- The rest of a word. With `open`, characters that end words are part of it. -/
def wordParts (nested : Nested) (isOpen : Bool) : Nat → List Part → Reading (List Part)
  | 0, parts => return parts.reverse
  | fuel + 1, parts => do
    let source ← get
    let large := source.dialect = .large
    match source.rest with
    | [] => return parts.reverse
    | '\\' :: '\n' :: _ =>
      skip 2
      wordParts nested isOpen fuel parts
    | '\\' :: c :: _ =>
      skip 2
      wordParts nested isOpen fuel (.text [c] true :: parts)
    | '\'' :: rest =>
      let inner := rest.takeWhile (· != '\'')
      if inner.length = rest.length then stumble (.unclosed "'")
      skip (inner.length + 2)
      wordParts nested isOpen fuel (.text inner true :: parts)
    | '"' :: _ =>
      skip 1
      let line := (← get).line
      let inner ← (fun state => match shielded nested .quotes (source.rest.length + 1) [] state with
        | .error ⟨_, .unclosed "\"", _⟩ => .error { line, obstacle := .unclosed "\"" }
        | other => other)
      -- Empty quotes still make a word; others are told by what stands between them.
      let kept := if inner.isEmpty then [.text [] true] else inner.reverse
      wordParts nested isOpen fuel (kept ++ parts)
    | '$' :: '\'' :: rest =>
      if !large then
        skip 1
        wordParts nested isOpen fuel (.text ['$'] false :: parts)
      else
        match untilQuote [] rest with
        | some (inner, left) =>
          skipTo left
          wordParts nested isOpen fuel (.text (unescaped (inner.length + 1) inner) true :: parts)
        | none => stumble (.unclosed "'")
    | '$' :: '"' :: _ =>
      skip 1
      wordParts nested isOpen fuel (if large then parts else .text ['$'] false :: parts)
    | '$' :: _ =>
      skip 1
      let part ← dollar nested false
      wordParts nested isOpen fuel (part :: parts)
    | '\x60' :: _ =>
      let part ← backquoted false
      wordParts nested isOpen fuel (part :: parts)
    | '<' :: '(' :: _ | '>' :: '(' :: _ =>
      if large && !isOpen then
        let writes := source.rest.head? == some '<'
        skip 2
        let script ← scriptInside nested
        wordParts nested isOpen fuel (.process writes script :: parts)
      else if isOpen then
        skip 1
        wordParts nested isOpen fuel (.text (source.rest.take 1) false :: parts)
      else return parts.reverse
    | c :: '(' :: rest =>
      -- A choice of patterns is read as the text that it is.
      if large && opensChoice c && (c != '!' || isOpen || !parts.isEmpty) then
        match enclosed? ')' false rest with
        | some (inner, left) =>
          skipTo left
          wordParts nested isOpen fuel (.text (c :: '(' :: inner ++ [')']) false :: parts)
        | none => stumble (.unclosed ")")
      else if endsWord c && !isOpen then return parts.reverse
      else
        skip 1
        wordParts nested isOpen fuel (.text [c] false :: parts)
    | c :: _ =>
      if endsWord c && !isOpen then return parts.reverse
      else
        skip 1
        wordParts nested isOpen fuel (.text [c] false :: parts)

/-- Stretches of plain text joined where nothing stands between them. -/
def merge : List Part → Word
  | [] => []
  | .text a qa :: rest =>
    match merge rest with
    | .text b qb :: others => if qa == qb then .text (a ++ b) qa :: others else .text a qa :: .text b qb :: others
    | others => .text a qa :: others
  | part :: rest => part :: merge rest

/-- One word; none if none starts here. -/
def word? (nested : Nested) : Reading (Option Word) := do
  let source ← get
  match source.rest with
  | [] => return none
  | c :: rest =>
    let isProcess := source.dialect = .large && (c == '<' || c == '>') && rest.head? == some '('
    if endsWord c && !isProcess then return none
    else return some (merge (← wordParts nested false (source.rest.length + 1) []))

/-- A word if one stands here, and the text by which it is written. -/
def writtenWord? (nested : Nested) : Reading (Option (Word × List Char)) := do
  let start := (← get).rest
  let found ← word? nested
  let left := (← get).rest
  return found.map fun word => (word, start.take (start.length - left.length))

/-- The end of a script in parentheses, told by its parentheses and quotes alone. -/
def roughly : Nested := fun source =>
  match after? ')' false (source.rest.length + 1) source.rest with
  | some rest => .ok { source with rest := rest }
  | none => .error { line := source.line, obstacle := .unclosed ")" }

/-- Read the operand of an expansion or another text that is one word. -/
def operand (dialect : Dialect) (chars : List Char) (quoted : Bool) : Word :=
  let fuel := chars.length + 1
  let reading := if quoted then shielded roughly .operand fuel [] else wordParts roughly true fuel []
  match reading.run { rest := chars, dialect := dialect } with
  | .ok (parts, _) => merge parts
  | .error _ => [.text chars quoted]

/-- Read a text in which expansions are followed but quotes have no meaning. -/
def documentOf (dialect : Dialect) (line : Nat) (chars : List Char) : Except Stumble Word :=
  (shielded roughly .document (chars.length + 1) []).run { rest := chars, line, dialect := dialect }
    |>.map fun found => merge found.1

end Umpire.Shell.Parser
