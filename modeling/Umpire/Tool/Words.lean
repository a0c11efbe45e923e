import Umpire.Tool.Condition
import Umpire.Tool.Flags
import Umpire.Tool.Format

/-! Programs of the host that work on their words alone: they print them or judge them. -/

namespace Umpire.Tool

open Host

/-- Print words with blanks between them. -/
def echo (words : List Bytes) : Talk Nat :=
  let isFlag (word : Bytes) : Bool :=
    match Bytes.toOctets word with
    | '-' :: c :: letters => (c :: letters).all fun letter => ['n', 'e', 'E'].contains letter
    | _ => false
  let flags := ((words.takeWhile isFlag).map fun word => word.tail).flatten
  let joined := [Bytes.ascii ' '].intercalate (words.dropWhile isFlag)
  let ending := if flags.contains (Bytes.ascii 'n') then [] else [lineEnd]
  let escapes := (flags.filter fun letter => letter != Bytes.ascii 'n').getLast? == some (Bytes.ascii 'e')
  if escapes then
    let found := Format.unescaped .program .word (Bytes.toOctets joined)
    print (Bytes.ofOctets found.text ++ if found.stop then [] else ending)
  else print (joined ++ ending)

/-- What is wrong with a word or a directive of a format, and whether that is a failure. -/
def objectionText (objection : Format.Objection) : Bytes × Bool :=
  let shown (word : List Char) : Bytes := cited (Bytes.ofOctets word)
  match objection with
  | .noNumber word => (shown word ++ bytes ": expected a numeric value", true)
  | .partly word => (shown word ++ bytes ": value not completely converted", true)
  | .outOfRange word => (shown word ++ bytes ": Numerical result out of range", true)
  | .noDirective _ whole => (Bytes.ofOctets whole ++ bytes ": invalid conversion specification", true)
  | .followed rest => (bytes "warning: " ++ Bytes.ofOctets rest ++
      bytes ": character(s) following character constant have been ignored", false)
  | .noDigits _ => (bytes "missing hexadecimal number in escape", true)
  | .noCharacter escape => (bytes "invalid universal character name " ++ Bytes.ofOctets escape, true)

/-- Tell what is wrong with parts of a format, each after what is printed before it; the answer is what
is left to be printed, and a code. -/
def printPieces : Bytes → List Format.Piece → Talk (Bytes × Nat)
  | held, [] => return (held, 0)
  | held, .text chars :: rest => printPieces (held ++ Bytes.ofOctets chars) rest
  | held, .count _ _ :: rest => printPieces held rest
  | held, .objection objection :: rest => do
    let before ← print held
    let (text, isFailure) := objectionText objection
    complain text
    let (left, code) ← printPieces [] rest
    return (left, max (max before code) (if isFailure then 1 else 0))

/-- Print words by a format. -/
def printf (words : List Bytes) : Talk Nat := do
  let given := if words.head? == some (bytes "--") then words.tail else words
  match given with
  | [] => lacksOperand
  | format :: arguments =>
    let shown (word : List Char) : List Char := Bytes.toOctets (wordShown (Bytes.ofOctets word))
    let printed := Format.print .program shown (Bytes.toOctets format) (arguments.map Bytes.toOctets)
    let (given, code) ← printPieces [] printed.pieces
    let code ← max code <$> print given
    match printed.left, printed.stop with
    | word :: _, false =>
      complain (bytes "warning: ignoring excess arguments, starting with " ++ cited (Bytes.ofOctets word))
    | _, _ => pure ()
    return code

/-- Judge a condition, which ends with a bracket if it started with one. -/
def test (bracket : Bool) (words : List Bytes) : Talk Nat := do
  if bracket && words.getLast? != some (bytes "]") then
    complain (bytes "missing " ++ cited (bytes "]"))
    return 2
  else
    let condition := if bracket then words.dropLast else words
    match ← Condition.truth { judge := .program } (condition.map Bytes.toOctets) with
    | .ok holds => return if holds then 0 else 1
    | .error objection =>
      let shown (word : List Char) : Bytes := cited (Bytes.ofOctets word)
      complain (match objection with
        | .noNumber word => bytes "invalid integer " ++ shown word
        | .noUnary word => shown word ++ bytes ": unary operator expected"
        | .noBinary word => shown word ++ bytes ": binary operator expected"
        | .unexpected word => bytes "extra argument " ++ shown word
        | .missing word => bytes "missing argument after " ++ shown word
        | .unclosed => cited (bytes ")") ++ bytes " expected")
      return 2

/-- The last name of a path, or what is left of slashes. -/
def lastName (path : Bytes) : Bytes :=
  if path.isEmpty then []
  else ((path.splitOn (Bytes.ascii '/')).filter fun name => !name.isEmpty).getLastD (bytes "/")

/-- A name without a suffix, unless nothing would be left. -/
def withoutSuffix (suffix name : Bytes) : Bytes :=
  if suffix != name && suffix.isSuffixOf name then name.take (name.length - suffix.length) else name

/-- Show the last names of paths. -/
def basename (words : List Bytes) : Talk Nat :=
  let known : Known := {
    letters := "as:z"
    long := [("multiple", 'a'), ("suffix", 's'), ("zero", 'z')]
    stops := true }
  withOptions known words fun chosen => do
    let several := chosen.has 'a' || chosen.has 's'
    let ending : Bytes := if chosen.has 'z' then [0] else [lineEnd]
    match chosen.words, several with
    | [], _ => lacksOperand
    | all, true =>
      let suffix := (chosen.text? 's').getD []
      print (all.map fun path => withoutSuffix suffix (lastName path) ++ ending).flatten
    | [path], false => print (lastName path ++ ending)
    | [path, suffix], false => print (withoutSuffix suffix (lastName path) ++ ending)
    | _ :: _ :: third :: _, false => extraOperand third 1

/-- A path without its last name. -/
def directoryOf (path : Bytes) : Bytes :=
  let isSlash (byte : UInt8) : Bool := byte == Bytes.ascii '/'
  let trimmed := (path.reverse.dropWhile isSlash).reverse
  let rest := (trimmed.reverse.dropWhile fun byte => !isSlash byte).reverse
  let shown := (rest.reverse.dropWhile isSlash).reverse
  if trimmed.isEmpty then (if path.isEmpty then bytes "." else bytes "/")
  else if rest.isEmpty then bytes "."
  else if shown.isEmpty then bytes "/"
  else shown

/-- Show paths without their last names. -/
def dirname (words : List Bytes) : Talk Nat :=
  withOptions { letters := "z", long := [("zero", 'z')] } words fun chosen =>
    let ending : Bytes := if chosen.has 'z' then [0] else [lineEnd]
    if chosen.words.isEmpty then lacksOperand
    else print (chosen.words.map fun path => directoryOf path ++ ending).flatten

end Umpire.Tool
