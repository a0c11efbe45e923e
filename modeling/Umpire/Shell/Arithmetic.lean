import Umpire.Shell.State
import Umpire.Shell.Word

/-! The values of arithmetic terms, which can set variables. -/

namespace Umpire.Shell.Arithmetic

/-- Why a term has no value. -/
inductive Fault where
  | noOperand
  | noEnd
  | noColon
  | noParenthesis
  | noOperator
  | zeroDivision
  | negativePower
  | tooGreat
  | noBase
  | notAssignable
  | tooDeep
  /-- A variable's value is no number. -/
  | noNumber (text : List Char)
  /-- A variable cannot be changed, or has no value where it needs one. -/
  | fixed (name : List Char)
  | unset (name : List Char)
  deriving DecidableEq, Repr

/-- A fault, the whole term, and what follows of it from where the fault was found. -/
structure Failure where
  fault : Fault
  term : List Char
  rest : List Char
  deriving DecidableEq, Repr

/-- The wording of a failure. -/
def Failure.message (failure : Failure) (dialect : Dialect) : List Char :=
  let term := failure.term.dropWhile fun c => c == ' ' || c == '\t' || c == '\n'
  let told (reason : String) : List Char :=
    match dialect with
    | .plain => ascii "arithmetic expression: " ++ ascii reason ++ ascii ": \"" ++ failure.term ++ ['"']
    | .large =>
      term ++ ascii ": " ++ ascii reason ++ ascii " (error token is \"" ++ failure.rest ++ ascii "\")"
  match dialect, failure.fault with
  | .plain, .noOperand => told "expecting primary"
  | .plain, .noColon => told "expecting ':'"
  | .plain, .noParenthesis => told "expecting ')'"
  | .plain, .zeroDivision => told "division by zero"
  | _, .noNumber text => ascii "Illegal number: " ++ text
  | .plain, .fixed name => name ++ ascii ": is read only"
  | .large, .fixed name => name ++ ascii ": readonly variable"
  | .plain, .unset name => name ++ ascii ": parameter not set"
  | .large, .unset name => name ++ ascii ": unbound variable"
  | .plain, _ => told "expecting EOF"
  | .large, .noOperand => told "syntax error: operand expected"
  | .large, .noEnd => told "syntax error in expression"
  | .large, .noOperator => told "syntax error: invalid arithmetic operator"
  | .large, .noColon => told "\x60:' expected for conditional expression"
  | .large, .noParenthesis => told "missing \x60)'"
  | .large, .zeroDivision => told "division by 0"
  | .large, .negativePower => told "exponent less than 0"
  | .large, .tooGreat => told "value too great for base"
  | .large, .noBase => told "invalid arithmetic base"
  | .large, .notAssignable => told "attempted assignment to non-variable"
  | .large, .tooDeep => told "expression recursion level exceeded"

/-- How far a calculation has come. -/
structure Progress where
  /-- The term as a whole. -/
  term : List Char
  /-- What is still to be read, and what there was to be read at the last sign or number. -/
  rest : List Char
  last : List Char
  shell : Session

/-- A step of a calculation. -/
abbrev Calculating (α : Type) := StateT Progress (Except Failure) α

/-- Give up for what was read last. -/
def fail {α : Type} (fault : Fault) : Calculating α := do
  let progress ← get
  throw ⟨fault, progress.term, progress.last⟩

/-- A number as a word of the host, which keeps its lowest bits only. -/
def word (a : Int) : Int :=
  (BitVec.ofInt 64 a).toInt

/-- The truth of a condition as a number. -/
def truth (holds : Bool) : Int :=
  if holds then 1 else 0

/-- Two numbers as the host's words, on which bits are joined. -/
def bitwise (join : Nat → Nat → Nat) (a b : Int) : Int :=
  (BitVec.ofNat 64 (join (BitVec.ofInt 64 a).toNat (BitVec.ofInt 64 b).toNat)).toInt

/-- The operators that join two terms, with how tightly they bind, the longest spelling first. -/
def operators : List (String × Nat) :=
  [("<<", 8), (">>", 8), ("<=", 7), (">=", 7), ("==", 6), ("!=", 6), ("&&", 2), ("||", 1), ("*", 10),
    ("/", 10), ("%", 10), ("+", 9), ("-", 9), ("<", 7), (">", 7), ("&", 5), ("^", 4), ("|", 3)]

/-- The operators that an equals sign after them makes assignments of. -/
def assigning : List String :=
  ["<<", ">>", "*", "/", "%", "+", "-", "&", "^", "|"]

/-- A power, within the host's words. -/
def power (base : Int) : Nat → Int → Int
  | 0, result => result
  | count + 1, result => power base count (word (result * base))

/-- What an operator makes of two numbers; none if it divides by zero. -/
def join (operator : String) (a b : Int) : Option Int :=
  match operator with
  | "*" => some (word (a * b))
  | "/" => if b = 0 then none else some (word (Int.tdiv a b))
  | "%" => if b = 0 then none else some (Int.tmod a b)
  | "+" => some (word (a + b))
  | "-" => some (word (a - b))
  | "<<" => some (word (a * (Nat.pow 2 ((b % 64).toNat) : Nat)))
  | ">>" => some (Int.fdiv a (Nat.pow 2 ((b % 64).toNat) : Nat))
  | "<" => some (truth (a < b))
  | ">" => some (truth (b < a))
  | "<=" => some (truth (a ≤ b))
  | ">=" => some (truth (b ≤ a))
  | "==" => some (truth (a == b))
  | "!=" => some (truth (a != b))
  | "&" => some (bitwise Nat.land a b)
  | "^" => some (bitwise Nat.xor a b)
  | "|" => some (bitwise Nat.lor a b)
  | _ => none

/-- Blanks between the parts of a term. -/
def isBlank (c : Char) : Bool :=
  c == ' ' || c == '\t' || c == '\n'

/-- Pass over blanks, and start with the next sign or number. -/
def start : Calculating (List Char) := do
  let progress ← get
  let rest := progress.rest.dropWhile isBlank
  let last := if rest.isEmpty then progress.last else rest
  set { progress with rest := rest, last := last }
  return rest

/-- Go on with a rest. -/
def goOn (rest : List Char) : Calculating Unit :=
  modify fun progress => { progress with rest := rest }

/-- The operator that a text starts with, if it is no assignment. -/
def operatorAt? (chars : List Char) : Option (String × Nat) :=
  (operators.find? fun known => known.1.toList.isPrefixOf chars).bind fun found =>
    let isAssignment := assigning.contains found.1 && (chars.drop found.1.length).head? == some '='
    if isAssignment then none else some found

/-- The assignment that a text starts with: the operator that it applies, or none, and the rest. -/
def assignmentAt? (chars : List Char) : Option (Option String × List Char) :=
  match chars with
  | '=' :: '=' :: _ => none
  | '=' :: rest => some (none, rest)
  | _ =>
    (assigning.find? fun name => (name.toList ++ ['=']).isPrefixOf chars).map fun name =>
      (some name, chars.drop (name.length + 1))

/-- Digits as a number. -/
def decimal (digits : List Char) : Nat :=
  digits.foldl (fun n c => n * 10 + (c.toNat - 48)) 0

/-- The value of a digit in the large shell's bases, of which some tell cases apart. -/
def digitIn (base : Nat) (c : Char) : Nat :=
  if c.isDigit then c.toNat - 48
  else if c.isLower then c.toNat - 87
  else if c.isUpper then if base ≤ 36 then c.toNat - 55 else c.toNat - 29
  else if c == '@' then 62
  else if c == '_' then 63
  else 64

/-- The value of digits in a base of the large shell; none if one of them is too great. -/
def inBase? (base : Nat) (digits : List Char) : Option Int :=
  if digits.any fun c => base ≤ digitIn base c then none
  else some (word (digits.foldl (fun value c => value * base + digitIn base c) (0 : Nat)))

/-- Read a number of the large shell. -/
def largeNumber (chars : List Char) : Calculating Int := do
  let isPart (c : Char) : Bool := c.isAlphanum || c == '#' || c == '@' || c == '_'
  let digits := chars.takeWhile isPart
  goOn (chars.drop digits.length)
  let found : Option Int := match digits with
    | '0' :: 'x' :: rest | '0' :: 'X' :: rest => inBase? 16 rest
    | '0' :: rest => if rest.contains '#' then none else inBase? 8 rest
    | _ =>
      let base := digits.takeWhile (· != '#')
      if base.length = digits.length then inBase? 10 digits
      else inBase? (decimal base) (digits.drop (base.length + 1))
  let base := digits.takeWhile (· != '#')
  let size := decimal base
  if base.length < digits.length && (size < 2 || 64 < size) then
    modify fun progress => { progress with last := digits }
    fail .noBase
  match found with
  | some value => return value
  | none =>
    modify fun progress => { progress with last := digits }
    fail .tooGreat

/-- The greatest and the least number of the host's words. -/
def greatest : Int := 9223372036854775807

/-- The number that a text starts with as the plain shell reads it, and what follows. A number that is
too great counts as the greatest. -/
def plainNumber (chars : List Char) : Int × List Char :=
  let based (base : Nat) (digits : List Char) : Int × List Char :=
    let isDigit (c : Char) : Bool := (Numeral.hexDigit? c).any (· < base)
    let taken := digits.takeWhile isDigit
    let value : Nat := (taken.filterMap Numeral.hexDigit?).foldl (fun n digit => n * base + digit) 0
    (min greatest value, digits.drop taken.length)
  let isDigit (base : Nat) (c : Char) : Bool := (Numeral.hexDigit? c).any (· < base)
  match chars with
  | '0' :: mark :: c :: rest =>
    if (mark == 'x' || mark == 'X') && isDigit 16 c then based 16 (c :: rest)
    else if (mark == 'b' || mark == 'B') && isDigit 2 c then based 2 (c :: rest)
    else based 8 chars
  | '0' :: _ => based 8 chars
  | _ => based 10 chars

/-- The number that a whole text is for the plain shell, blanks around it aside; an empty one is
zero. -/
def plainValue? (chars : List Char) : Option Int :=
  let isSpace (c : Char) : Bool := c == ' ' || ('\t' ≤ c && c ≤ '\r')
  let text := chars.dropWhile isSpace
  let (negative, digits) := match text with
    | '-' :: rest => (true, rest)
    | '+' :: rest => (false, rest)
    | _ => (false, text)
  if !(digits.head?.any Char.isDigit) then if text.isEmpty then some 0 else none
  else
    let (value, rest) := plainNumber digits
    if (rest.dropWhile isSpace).isEmpty then some (if negative then -value else value) else none

/-- The place of an element that a number tells; negative ones count from the end. -/
def placeOf (content : Content) (number : Int) : Nat :=
  if number < 0 then ((content.next : Int) + number).toNat else number.toNat

/-- Change an element of an array, or a variable if no element is told. -/
def store (shell : Session) (name : List Char) (key : Option (List Char ⊕ Nat)) (chars : List Char) :
    Session :=
  let content := ((shell.held? name).map (·.content)).getD .none
  match key with
  | none => shell.setVariable name chars
  | some (.inl text) =>
    match content with
    | .table items => shell.putContent name (.table (Content.putKey text chars items))
    | _ => shell.putContent name (.table [(text, chars)])
  | some (.inr number) => shell.putContent name (.list (Content.put number chars content.numbered))

/-- The value of an element of an array, or of a variable if no element is told. -/
def load? (shell : Session) (name : List Char) (key : Option (List Char ⊕ Nat)) : Option (List Char) :=
  let content := ((shell.held? name).map (·.content)).getD .none
  match key with
  | none => content.scalar?
  | some (.inl text) =>
    match content with
    | .table items => items.lookup text
    | _ => none
  | some (.inr number) => content.numbered.lookup number

/-- How deep values may name other variables. -/
def deepest : Nat := 1024

mutual

/-- The value of a text within a calculation; the text that is being read stays. -/
def inner : Nat → Nat → List Char → Calculating Int
  | 0, _, _ => fail .tooDeep
  | fuel + 1, depth, chars => do
    if (chars.dropWhile isBlank).isEmpty then return 0
    let outer ← get
    if deepest < depth then
      throw ⟨.tooDeep, chars, chars⟩
    set { outer with term := chars, rest := chars, last := chars }
    let value ← comma fuel depth true
    if !(← start).isEmpty then fail .noEnd
    modify fun progress => { outer with shell := progress.shell }
    return value

/-- The element that a subscript tells. -/
def key : Nat → Nat → List Char → Option (List Char) → Calculating (Option (List Char ⊕ Nat))
  | 0, _, _, _ => return none
  | _ + 1, _, _, none => return none
  | fuel + 1, depth, name, some subscript => do
    let shell := (← get).shell
    match ((shell.held? name).map (·.content)).getD .none with
    | .table _ => return some (.inl subscript)
    | content => return some (.inr (placeOf content (← inner fuel (depth + 1) subscript)))

/-- The value of a variable as a number. -/
def valueOf : Nat → Nat → List Char → Option (List Char ⊕ Nat) → Calculating Int
  | 0, _, _, _ => fail .tooDeep
  | fuel + 1, depth, name, element => do
    let shell := (← get).shell
    match load? shell name element, shell.dialect with
    | none, _ => if shell.has "nounset" then fail (.unset name) else return 0
    | some text, .plain =>
      match plainValue? text with
      | some value => return value
      | none => fail (.noNumber text)
    | some text, .large => inner fuel (depth + 1) text

/-- Give a variable a number. -/
def assign : Nat → List Char → Option (List Char ⊕ Nat) → Int → Calculating Unit
  | 0, _, _, _ => return ()
  | _ + 1, name, element, value => do
    let shell := (← get).shell
    if shell.isFixed name then fail (.fixed name)
    modify fun progress => { progress with shell := store shell name element (Numeral.ofInt value) }

/-- Several terms of which the last has the value; the plain shell has only one. -/
def comma : Nat → Nat → Bool → Calculating Int
  | 0, _, _ => fail .tooDeep
  | fuel + 1, depth, live => do
    let value ← assignment fuel depth live
    match (← start), (← get).shell.dialect with
    | ',' :: rest, .large =>
      goOn rest
      comma fuel depth live
    | _, _ => return value

/-- A term that may give its value to a variable. Nothing is changed unless it is `live`. -/
def assignment : Nat → Nat → Bool → Calculating Int
  | 0, _, _ => fail .tooDeep
  | fuel + 1, depth, live => do
    let chars ← start
    let shell := (← get).shell
    let large := shell.isLarge
    let name := if chars.head?.any startsName then chars.takeWhile inName else []
    let (subscript, after) := if large && !name.isEmpty then Parser.subscript? (chars.drop name.length)
      else (none, chars.drop name.length)
    match if name.isEmpty then none else assignmentAt? (after.dropWhile isBlank) with
    | some (operator, rest) =>
      goOn rest
      let value ← assignment fuel depth live
      if !live then return value
      let element ← key fuel depth name subscript
      match operator with
      | none =>
        assign fuel name element value
        return value
      | some known =>
        match join known (← valueOf fuel depth name element) value with
        | some joined =>
          assign fuel name element joined
          return joined
        | none => fail .zeroDivision
    | none =>
      let value ← conditional fuel depth live
      if large && (assignmentAt? (← start)).isSome then fail .notAssignable
      return value

/-- A term, with a choice between two others if one follows. -/
def conditional : Nat → Nat → Bool → Calculating Int
  | 0, _, _ => fail .tooDeep
  | fuel + 1, depth, live => do
    let test ← joined fuel depth 1 live
    match ← start with
    | '?' :: rest =>
      goOn rest
      let first ← comma fuel depth (live && test != 0)
      match ← start with
      | ':' :: left =>
        goOn left
        let second ← conditional fuel depth (live && test == 0)
        return if test != 0 then first else second
      | _ => fail .noColon
    | _ => return test

/-- Terms joined by operators that bind at least as tightly as told. -/
def joined : Nat → Nat → Nat → Bool → Calculating Int
  | 0, _, _, _ => fail .tooDeep
  | fuel + 1, depth, least, live => do
    let first ← raised fuel depth live
    joinedRest fuel depth least first live

/-- What is joined to a first value. -/
def joinedRest : Nat → Nat → Nat → Int → Bool → Calculating Int
  | 0, _, _, _, _ => fail .tooDeep
  | fuel + 1, depth, least, first, live => do
    let rest ← start
    match operatorAt? rest with
    | none => return first
    | some (operator, tightness) =>
      if tightness < least then return first
      else
        let left := rest.drop operator.length
        goOn left
        -- The second value of a connective counts only if the first does not settle it.
        let matters := if operator == "&&" then first != 0 else if operator == "||" then first == 0 else true
        let second ← joined fuel depth (tightness + 1) (live && matters)
        let value ← if operator == "&&" then pure (truth (first != 0 && second != 0))
          else if operator == "||" then pure (truth (first != 0 || second != 0))
          else if !live then pure 0
          else
            match join operator first second with
            | some value => pure value
            | none =>
              modify fun progress => { progress with last := left.dropWhile isBlank }
              fail .zeroDivision
        joinedRest fuel depth least value live

/-- A term raised to a power, which only the large shell can. -/
def raised : Nat → Nat → Bool → Calculating Int
  | 0, _, _ => fail .tooDeep
  | fuel + 1, depth, live => do
    let base ← factor fuel depth live
    match (← start), (← get).shell.dialect with
    | '*' :: '*' :: rest, .large =>
      goOn rest
      let exponent ← raised fuel depth live
      if exponent < 0 then if live then fail .negativePower else return 0
      else return power base exponent.toNat 1
    | _, _ => return base

/-- One term without operators around it. -/
def factor : Nat → Nat → Bool → Calculating Int
  | 0, _, _ => fail .tooDeep
  | fuel + 1, depth, live => do
    let chars ← start
    let large := (← get).shell.isLarge
    let stepped (change : Int) (rest : List Char) : Calculating Int := do
      let name := rest.takeWhile inName
      let (subscript, after) := Parser.subscript? (rest.drop name.length)
      goOn after
      if !live then return 0
      let element ← key fuel depth name subscript
      let value := word ((← valueOf fuel depth name element) + change)
      assign fuel name element value
      return value
    match chars with
    | [] => fail .noOperand
    | '(' :: rest =>
      goOn rest
      let value ← comma fuel depth live
      match ← start with
      | ')' :: left =>
        goOn left
        return value
      | _ => fail .noParenthesis
    | '!' :: rest =>
      goOn rest
      return truth ((← factor fuel depth live) == 0)
    | '~' :: rest =>
      goOn rest
      return -(← factor fuel depth live) - 1
    | c :: rest =>
      let twice := large && rest.head? == some c
      let named := (rest.drop 1).dropWhile isBlank
      if (c == '+' || c == '-') && twice && named.head?.any startsName then
        stepped (if c == '+' then 1 else -1) named
      else if c == '-' then
        goOn rest
        return word (-(← factor fuel depth live))
      else if c == '+' then
        goOn rest
        factor fuel depth live
      else if c.isDigit then
        if large then largeNumber chars
        else
          let (value, left) := plainNumber chars
          goOn left
          return value
      else if startsName c then
        let name := chars.takeWhile inName
        let (subscript, after) := if large then Parser.subscript? (chars.drop name.length)
          else (none, chars.drop name.length)
        goOn after
        let element ← if live then key fuel depth name subscript else pure none
        let value ← if live then valueOf fuel depth name element else pure 0
        match large, after.dropWhile isBlank with
        | true, '+' :: '+' :: left =>
          goOn left
          if live then assign fuel name element (word (value + 1))
          return value
        | true, '-' :: '-' :: left =>
          goOn left
          if live then assign fuel name element (word (value - 1))
          return value
        | _, _ => return value
      else fail .noOperand

end

/-- How much a calculation may take. -/
def mostSteps : Nat := 1000000

/-- The value of a whole term, and the shell with the variables that it sets. -/
def evaluate (shell : Session) (chars : List Char) : Except Failure (Int × Session) :=
  let whole : Calculating Int := do
    let value ← comma mostSteps 0 true
    match ← start with
    | [] => return value
    | c :: _ =>
      let isStrange := !(c.isAlphanum || "+-*/%<>=!&|^~?:(),_\"'$".toList.contains c)
      if isStrange then fail .noOperator else fail .noEnd
  if shell.isLarge && (chars.dropWhile isBlank).isEmpty then .ok (0, shell)
  else
    match whole.run ⟨chars, chars, chars, shell⟩ with
    | .ok (value, progress) => .ok (value, progress.shell)
    | .error failure => .error failure

/-- The value of a whole term, which sets variables; without one, that is told. -/
def evaluateHere (chars : List Char) : Doing Int := do
  let shell ← get
  match evaluate shell chars with
  | .ok (value, changed) =>
    set changed
    return value
  | .error failure =>
    let ends := match failure.fault with
      | .unset _ => true
      | _ => false
    refuse (failure.message shell.dialect) ends

/-- The value of a whole term, for a command that goes on without one once it has told why. -/
def valueOrTell (command : String) (chars : List Char) : Doing (Option Int) := do
  let shell ← get
  match evaluate shell chars with
  | .ok (value, changed) =>
    set changed
    return some value
  | .error failure =>
    complain (ascii command ++ ascii ": " ++ failure.message shell.dialect)
    return none

end Umpire.Shell.Arithmetic
