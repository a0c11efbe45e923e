import Umpire.Host.Call

/-! Conditions: whether words say something true of texts, numbers and files. Texts are octets. -/

namespace Umpire.Tool.Condition

/-- Who judges: the plain shell, the large one, or a program of its own. They read words differently. -/
inductive Judge where
  | plain
  | large
  | program
  deriving DecidableEq, Repr

/-- Why a condition has no truth. -/
inductive Objection where
  | noNumber (word : List Char)
  /-- An operator on one word, or on two, would have to stand where a word stands. -/
  | noUnary (word : List Char)
  | noBinary (word : List Char)
  /-- Words are left over, of which this is the first. -/
  | unexpected (word : List Char)
  /-- Nothing follows a word. -/
  | missing (word : List Char)
  | unclosed
  deriving DecidableEq, Repr

/-- A step of judging. -/
abbrev Judging (α : Type) := ExceptT Objection Host.Talk α

/-- What a judge knows besides the host. -/
structure Surroundings where
  judge : Judge
  /-- Whether a variable has a value, and whether a setting is switched on. -/
  isSet : List Char → Bool := fun _ => false
  isOn : List Char → Bool := fun _ => false

/-- What a path leads to. -/
def infoOf (path : List Char) (follow : Bool) : Judging (Option Host.Info) :=
  ExceptT.lift (do return (← Host.call (.info (Bytes.ofOctets path) follow)).toOption)

/-- A condition on the file that a path leads to. -/
def onFile (follow : Bool) (holds : Host.Info → Bool) (path : List Char) : Judging Bool := do
  return (← infoOf path follow).any holds

/-- Operators on one word that only some judges know. -/
def isKnown (judge : Judge) (letter : Char) : Bool :=
  match letter with
  | 'a' | 'o' | 'v' | 'R' => judge = .large
  | 'N' => judge != .plain
  | _ => true

/-- A condition on one word. -/
def unary? (known : Surroundings) (operator : List Char) : Option (List Char → Judging Bool) :=
  match operator with
  | ['-', letter] =>
    if !isKnown known.judge letter then none
    else
      match letter with
      | 'n' => some fun word => return !word.isEmpty
      | 'z' => some fun word => return word.isEmpty
      | 'a' | 'e' | 'r' | 'w' | 'O' | 'G' => some (onFile true fun _ => true)
      | 'f' => some (onFile true fun info => info.kind == .file)
      | 'd' => some (onFile true fun info => info.kind == .directory)
      | 'p' => some (onFile true fun info => info.kind == .fifo)
      | 'c' => some (onFile true fun info => info.kind == .device)
      | 'b' | 'S' => some (onFile true fun _ => false)
      | 's' => some (onFile true fun info => 0 < info.size)
      | 'x' => some (onFile true fun info => info.kind == .directory || info.mode &&& 0o111 != 0)
      | 'u' => some (onFile true fun info => info.mode &&& 0o4000 != 0)
      | 'g' => some (onFile true fun info => info.mode &&& 0o2000 != 0)
      | 'k' => some (onFile true fun info => info.mode &&& 0o1000 != 0)
      | 'N' => some (onFile true fun _ => false)
      | 'h' | 'L' => some (onFile false fun info => info.kind == .link)
      | 't' | 'R' => some fun _ => return false
      | 'v' => some fun word => return known.isSet word
      | 'o' => some fun word => return known.isOn word
      | _ => none
  | _ => none

/-- The number that a word spells, blanks around it aside. -/
def number (judge : Judge) (word : List Char) : Judging Int := do
  let isBlank (c : Char) : Bool := c == ' ' || ('\t' ≤ c && c ≤ '\r')
  let trimmed := ((word.dropWhile isBlank).reverse.dropWhile isBlank).reverse
  let negative := trimmed.head? == some '-'
  let digits := if negative || trimmed.head? == some '+' then trimmed.tail else trimmed
  if digits.isEmpty || !digits.all Char.isDigit then throw (.noNumber word)
  let size : Nat := digits.foldl (fun n c => n * 10 + (c.toNat - 48)) 0
  let value : Int := if negative then -(size : Int) else size
  if judge != .program && (value < -9223372036854775808 || 9223372036854775807 < value) then
    throw (.noNumber word)
  return value

/-- A condition on two words. -/
def binary? (known : Surroundings) (operator : List Char) :
    Option (List Char → List Char → Judging Bool) :=
  let onNumbers (holds : Int → Int → Bool) : List Char → List Char → Judging Bool :=
    fun a b => do return holds (← number known.judge a) (← number known.judge b)
  let onFiles (holds : Option Host.Info → Option Host.Info → Bool) : List Char → List Char → Judging Bool :=
    fun a b => do return holds (← infoOf a true) (← infoOf b true)
  let before (a b : List Char) : Bool := Bytes.before (Bytes.ofOctets a) (Bytes.ofOctets b)
  match String.ofList operator with
  | "=" => some fun a b => return a == b
  | "==" => if known.judge = .plain then none else some fun a b => return a == b
  | "!=" => some fun a b => return a != b
  | "<" => some fun a b => return before a b
  | ">" => some fun a b => return before b a
  | "-eq" => some (onNumbers fun a b => a == b)
  | "-ne" => some (onNumbers fun a b => a != b)
  | "-lt" => some (onNumbers fun a b => a < b)
  | "-le" => some (onNumbers fun a b => a ≤ b)
  | "-gt" => some (onNumbers fun a b => b < a)
  | "-ge" => some (onNumbers fun a b => b ≤ a)
  -- Times are not kept: a file is newer than one that is missing, but the plain shell compares no such two.
  | "-nt" => some (onFiles fun a b => known.judge != .plain && a.isSome && b.isNone)
  | "-ot" => some (onFiles fun a b => known.judge != .plain && a.isNone && b.isSome)
  | "-ef" => some (onFiles fun a b => a.isSome && a.map (·.identity) == b.map (·.identity))
  | _ => none

namespace Plain

/-- What a word means to the plain shell where it stands. -/
inductive Token where
  | ended
  | operand
  | unary
  | binary
  | negation
  | conjunction
  | disjunction
  | opening
  | closing
  deriving DecidableEq, Repr

/-- The meaning of the first of some words. -/
def token (known : Surroundings) (words : List (List Char)) : Token :=
  let isBinary (word : List Char) : Bool := (binary? known word).isSome
  match words with
  | [] => .ended
  | word :: rest =>
    if isBinary word then .binary
    else if (unary? known word).isSome then
      -- An operator is meant as a text where it cannot be one.
      match rest with
      | [] => .operand
      | [_] => .unary
      | next :: _ => if isBinary next then .operand else .unary
    else
      match word with
      | ['!'] => .negation
      | ['-', 'a'] => .conjunction
      | ['-', 'o'] => .disjunction
      | ['('] => if rest.isEmpty then .operand else .opening
      | [')'] => .closing
      | _ => .operand

mutual

/-- Conditions of which one must hold; the answer leaves the last word that was read. -/
def disjunction (known : Surroundings) : Nat → Token → List (List Char) →
    Judging (Bool × List (List Char))
  | 0, _, words => return (false, words)
  | fuel + 1, first, words => do
    let (holds, left) ← conjunction known fuel first words
    if token known left.tail = .disjunction then
      let rest := left.tail.tail
      let (others, after) ← disjunction known fuel (token known rest) rest
      return (holds || others, after)
    else return (holds, left)

/-- Conditions of which all must hold. -/
def conjunction (known : Surroundings) : Nat → Token → List (List Char) →
    Judging (Bool × List (List Char))
  | 0, _, words => return (false, words)
  | fuel + 1, first, words => do
    let (holds, left) ← negation known fuel first words
    if token known left.tail = .conjunction then
      let rest := left.tail.tail
      let (others, after) ← conjunction known fuel (token known rest) rest
      return (holds && others, after)
    else return (holds, left)

/-- A condition that may be negated. -/
def negation (known : Surroundings) : Nat → Token → List (List Char) →
    Judging (Bool × List (List Char))
  | 0, _, words => return (false, words)
  | fuel + 1, first, words => do
    if first != .negation then primary known fuel first words
    else
      let next := token known words.tail
      let (holds, left) ← negation known fuel next (if next = .ended then words else words.tail)
      return (!holds, left)

/-- A condition without connectives. -/
def primary (known : Surroundings) : Nat → Token → List (List Char) →
    Judging (Bool × List (List Char))
  | 0, _, words => return (false, words)
  | fuel + 1, first, words => do
    let word := words.headD []
    match first with
    | .ended => return (false, words)
    | .opening =>
      let next := token known words.tail
      if next = .closing then return (false, words.tail)
      else
        let (holds, left) ← disjunction known fuel next words.tail
        if token known left.tail = .closing then return (holds, left.tail) else throw .unclosed
    | _ =>
      match (if first = .unary then unary? known word else none), words.tail with
      | some holds, operand :: _ => return (← holds operand, words.tail)
      | some _, [] => throw (.missing word)
      | none, operator :: rest =>
        match binary? known operator, rest with
        | some holds, operand :: _ => return (← holds word operand, rest)
        | some _, [] => throw (.missing operator)
        | none, _ => return (!word.isEmpty, words)
      | none, [] => return (!word.isEmpty, words)

end

/-- The truth of some words as the plain shell reads them; three or four of them are read by their
number first. -/
def truth (known : Surroundings) : Nat → Bool → List (List Char) → Judging Bool
  | 0, _, _ => return false
  | fuel + 1, wanted, words => do
    let whole (first : Token) (words : List (List Char)) : Judging Bool := do
      let (holds, left) ← disjunction known (8 * words.length + 16) first words
      match left with
      | word :: _ :: _ => throw (.unexpected word)
      | _ => return holds == wanted
    let inside : Judging Bool := do
      match words.head?, words.getLast? with
      | some ['('], some [')'] =>
        let inner := words.tail.dropLast
        whole (token known inner) inner
      | some ['!'], _ => truth known fuel false words.tail
      | _, _ => whole (token known words) words
    match words with
    | [] => return !wanted
    | [_, operator, _] => if (binary? known operator).isSome then whole .operand words else inside
    | [_, _, _, _] => inside
    | _ => whole (token known words) words

end Plain

namespace Large

/-- A judgement on one word: whether it is not empty. -/
def one (word : List Char) : Bool :=
  !word.isEmpty

/-- A judgement on two words. -/
def two (known : Surroundings) (first second : List Char) : Judging Bool := do
  if first == ['!'] then return !one second
  else
    match unary? known first, known.judge, first with
    | some holds, _, _ => holds second
    | none, .program, ['-', _] => throw (.noUnary first)
    | none, .program, _ => throw (.missing second)
    | none, _, _ => throw (.noUnary first)

mutual

/-- Conditions of which one must hold, and the words after them. -/
def disjunction (known : Surroundings) : Nat → List (List Char) → Judging (Bool × List (List Char))
  | 0, _ => throw (.missing [])
  | fuel + 1, words => do
    let (holds, left) ← conjunction known fuel words
    match left with
    | ['-', 'o'] :: rest =>
      let (others, after) ← disjunction known fuel rest
      return (holds || others, after)
    | _ => return (holds, left)

/-- Conditions of which all must hold, and the words after them. -/
def conjunction (known : Surroundings) : Nat → List (List Char) → Judging (Bool × List (List Char))
  | 0, _ => throw (.missing [])
  | fuel + 1, words => do
    let (holds, left) ← primary known fuel words
    match left with
    | ['-', 'a'] :: rest =>
      let (others, after) ← conjunction known fuel rest
      return (holds && others, after)
    | _ => return (holds, left)

/-- A condition without connectives, and the words after it. -/
def primary (known : Surroundings) : Nat → List (List Char) → Judging (Bool × List (List Char))
  | 0, _ => throw (.missing [])
  | _ + 1, [] => throw (.missing [])
  | fuel + 1, first :: rest => do
    if first == ['!'] then
      let (holds, left) ← primary known fuel rest
      return (!holds, left)
    else if first == ['('] then
      let (holds, left) ← disjunction known fuel rest
      match left with
      | [')'] :: after => return (holds, after)
      | _ => throw .unclosed
    else
      match rest with
      | operator :: second :: left =>
        match binary? known operator with
        | some holds => return (← holds first second, left)
        | none => single first rest
      | _ => single first rest
where
  /-- A condition on one word, or that a word is not empty. -/
  single (first : List Char) (rest : List (List Char)) : Judging (Bool × List (List Char)) := do
    match unary? known first, rest with
    | some holds, word :: left => return (← holds word, left)
    | _, _ => return (one first, rest)

end

/-- The truth of words that are read as a whole. -/
def whole (known : Surroundings) (words : List (List Char)) : Judging Bool := do
  let (holds, left) ← disjunction known (4 * words.length + 8) words
  match left with
  | [] => return holds
  | word :: _ => throw (.unexpected word)

/-- The truth of three words. -/
def three (known : Surroundings) (first second third : List Char) : Judging Bool := do
  match binary? known second with
  | some holds => holds first third
  | none =>
    if second == ['-', 'a'] then return one first && one third
    else if second == ['-', 'o'] then return one first || one third
    else if first == ['!'] then return !(← two known second third)
    else if first == ['('] && third == [')'] then return one second
    else throw (.noBinary second)

/-- The truth of some words; few words are read by their number, so that a word which looks like an
operator can be meant as itself. -/
def truth (known : Surroundings) (words : List (List Char)) : Judging Bool := do
  match words with
  | [] => return false
  | [word] => return one word
  | [first, second] => two known first second
  | [first, second, third] => three known first second third
  | [first, second, third, fourth] =>
    if first == ['!'] then return !(← three known second third fourth)
    else if first == ['('] && fourth == [')'] then two known second third
    else whole known words
  | _ => whole known words

end Large

/-- The truth of some words. -/
def truth (known : Surroundings) (words : List (List Char)) : Host.Talk (Except Objection Bool) :=
  (match known.judge with
    | .plain => Plain.truth known (words.length + 1) true words
    | _ => Large.truth known words).run

end Umpire.Tool.Condition
