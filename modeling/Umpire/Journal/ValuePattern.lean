import Umpire.Text.Numeral

/-! Patterns for the values of journal fields: which texts are well formed as such a pattern. -/

namespace Umpire.Filter.ValuePattern

/-- Read what follows a backslash where a single character is wanted: the character it stands for and
what follows; none if it stands for none. Classes and boundaries of words are not provided. -/
def escaped? : List Char → Option (Char × List Char)
  | [] => none
  | 'x' :: rest => code? 2 rest
  | 'u' :: rest => code? 4 rest
  | 'U' :: rest => code? 8 rest
  | c :: rest =>
    if "aftnrv".toList.contains c then some (control c, rest)
    else if c.isAlphanum || c == '<' || c == '>' || 0x7F ≤ c.toNat || c.toNat < 0x20 then none
    else some (c, rest)
where
  /-- The character that a letter stands for. -/
  control : Char → Char
    | 'a' => '\x07'
    | 'f' => '\x0c'
    | 't' => '\t'
    | 'n' => '\n'
    | 'r' => '\r'
    | _ => '\x0b'
  /-- Read a code point of so many hexadecimal digits. -/
  code? (width : Nat) (chars : List Char) : Option (Char × List Char) :=
    match (chars.take width).mapM Numeral.hexDigit? with
    | none => none
    | some digits =>
      let value := digits.foldl (fun n digit => n * 16 + digit) 0
      if digits.length < width || !decide value.isValidChar then none
      else some (Char.ofNat value, chars.drop width)

/-- Read one character of a set, which a backslash may spell. -/
def member? : List Char → Option (Char × List Char)
  | [] => none
  | '\\' :: rest => escaped? rest
  | c :: rest => some (c, rest)

/-- What follows the start of a set: a caret, and hyphens or a closing bracket that are members. -/
def afterStart (chars : List Char) : List Char :=
  let inner := if chars.head? == some '^' then chars.tail else chars
  let members := inner.dropWhile (· == '-')
  if members.length == inner.length && members.head? == some ']' then members.tail else members

/-- What follows sets that have been opened so deep, if they are closed and their ranges ascend. -/
def afterSet? : Nat → Nat → List Char → Option (List Char)
  | 0, _, _ => none
  | _ + 1, _, [] => none
  | _ + 1, 0, chars => some chars
  | fuel + 1, depth + 1, ']' :: rest => afterSet? fuel depth rest
  | fuel + 1, depth + 1, '[' :: rest => afterSet? fuel (depth + 2) (afterStart rest)
  | fuel + 1, depth + 1, '&' :: '&' :: rest => afterSet? fuel (depth + 1) rest
  | fuel + 1, depth + 1, '-' :: '-' :: rest => afterSet? fuel (depth + 1) rest
  | fuel + 1, depth + 1, '~' :: '~' :: rest => afterSet? fuel (depth + 1) rest
  | fuel + 1, depth + 1, chars => do
    let (first, rest) ← member? chars
    match rest with
    | '-' :: ']' :: _ | '-' :: '-' :: _ => afterSet? fuel (depth + 1) rest
    | '-' :: after =>
      let (last, rest) ← member? after
      if last < first then none else afterSet? fuel (depth + 1) rest
    | _ => afterSet? fuel (depth + 1) rest

/-- How a group opens. -/
inductive Opening where
  | group
  /-- A group that has a name. -/
  | named (name : List Char)
  /-- Settings, which are no group. -/
  | settings
  deriving DecidableEq, Repr

/-- Whether letters between a question mark and the end of a group's head are settings, each at most
once and after at most one minus sign. Matching without regard to case is not provided. -/
def areSettings (letters : List Char) : Bool :=
  letters.all ("msUuRx-".toList.contains ·) && letters.eraseDups == letters &&
    letters.getLast? != some '-'

/-- Read the head of a group after its parenthesis; none if it is malformed. -/
def opening? : List Char → Option (Opening × List Char)
  | '?' :: 'P' :: '<' :: rest | '?' :: '<' :: rest => do
    let name := rest.takeWhile (· != '>')
    let first ← name.head?
    let within (c : Char) : Bool := c.isAlphanum || c == '_' || c == '.' || c == '[' || c == ']'
    if rest.length == name.length || !(first.isAlpha || first == '_') || !name.all within then none
    else some (.named name, rest.drop (name.length + 1))
  | '?' :: rest =>
    let letters := rest.takeWhile fun c => c != ':' && c != ')'
    match rest.drop letters.length with
    | ':' :: after => if areSettings letters then some (.group, after) else none
    | ')' :: after => if areSettings letters && !letters.isEmpty then some (.settings, after) else none
    | _ => none
  | rest => some (.group, rest)

/-- Whether the rest of a pattern is well formed, after so many open groups, some names and, if it can
be repeated, a piece. -/
def isWellFormedFrom : Nat → Nat → List (List Char) → Bool → List Char → Bool
  | 0, _, _, _, _ => false
  | _ + 1, depth, _, _, [] => depth == 0
  | fuel + 1, depth, names, repeatable, c :: rest =>
    match c with
    | '(' =>
      match opening? rest with
      | some (.group, after) => isWellFormedFrom fuel (depth + 1) names false after
      | some (.named name, after) =>
        !names.contains name && isWellFormedFrom fuel (depth + 1) (name :: names) false after
      | some (.settings, after) => isWellFormedFrom fuel depth names false after
      | none => false
    | ')' => 0 < depth && isWellFormedFrom fuel (depth - 1) names true rest
    | '|' => isWellFormedFrom fuel depth names false rest
    | '*' | '+' | '?' =>
      let after := if rest.head? == some '?' then rest.tail else rest
      repeatable && isWellFormedFrom fuel depth names true after
    -- A count of repetitions would end at a brace, which ends the whole field before.
    | '\x7b' => false
    | '[' =>
      match afterSet? (rest.length + 2) 1 (afterStart rest) with
      | some after => isWellFormedFrom fuel depth names true after
      | none => false
    | '\\' =>
      match rest with
      | 'A' :: after | 'z' :: after => isWellFormedFrom fuel depth names true after
      | _ =>
        match escaped? rest with
        | some (_, after) => isWellFormedFrom fuel depth names true after
        | none => false
    | _ => isWellFormedFrom fuel depth names true rest

/-- Whether a text is a number with a plus sign, which is no pattern but a value all the same. -/
def isPlusNumber : List Char → Bool
  | '+' :: rest =>
    let lowered := rest.map Char.toLower
    let whole := rest.takeWhile Char.isDigit
    let fraction := match rest.drop whole.length with
      | '.' :: after => after.takeWhile Char.isDigit
      | _ => []
    let point := (rest.drop whole.length).head? == some '.'
    let scale := rest.drop (whole.length + fraction.length + if point then 1 else 0)
    let isScale := match scale with
      | [] => true
      | mark :: after =>
        let digits := if after.head? == some '+' || after.head? == some '-' then after.tail else after
        (mark == 'e' || mark == 'E') && !digits.isEmpty && digits.all Char.isDigit
    ["inf", "infinity", "nan"].any (·.toList == lowered) ||
      (!(whole.isEmpty && fraction.isEmpty) && isScale)
  | _ => false

/-- Whether a text can be the value that a field is compared with. -/
def isWellFormed (chars : List Char) : Bool :=
  isPlusNumber chars || isWellFormedFrom (chars.length + 1) 0 [] false chars

end Umpire.Filter.ValuePattern
