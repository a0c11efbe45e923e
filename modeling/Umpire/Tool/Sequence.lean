import Umpire.Tool.Flags
import Umpire.Tool.Format

/-! Programs of the host that count and that let time pass. -/

namespace Umpire.Tool

open Host

/-- A decimal: a whole number of units of which so many tens are one. -/
structure Decimal where
  units : Int
  places : Nat
  /-- Whether it is spelled with an exponent or otherwise than by its digits. -/
  isUnusual : Bool := false
  deriving DecidableEq, Repr

/-- A power of ten. -/
def ten (places : Nat) : Nat :=
  Nat.pow 10 places

/-- The units of a decimal, of which so many tens are one. -/
def Decimal.at (decimal : Decimal) (places : Nat) : Int :=
  decimal.units * (ten (places - decimal.places) : Nat)

/-- The decimal that a word spells. -/
def decimal? (word : Bytes) : Option Decimal :=
  let chars := (Bytes.toOctets word).dropWhile fun c => c == ' '
  let negative := chars.head? == some '-'
  let unsigned := if negative || chars.head? == some '+' then chars.tail else chars
  let signed (n : Nat) : Int := if negative then -(n : Int) else n
  let value (digits : List Char) : Nat := digits.foldl (fun n c => n * 10 + (c.toNat - 48)) 0
  match unsigned with
  | '0' :: x :: digits =>
    if (x == 'x' || x == 'X') && !digits.isEmpty && digits.all fun c => (Numeral.hexDigit? c).isSome then
      let size : Nat := (digits.filterMap Numeral.hexDigit?).foldl (fun n digit => n * 16 + digit) 0
      some { units := signed size, places := 0, isUnusual := true }
    else usual signed value unsigned
  | _ => usual signed value unsigned
where
  /-- A decimal with a point and an exponent, or without. -/
  usual (signed : Nat → Int) (value : List Char → Nat) (chars : List Char) : Option Decimal :=
    let whole := chars.takeWhile Char.isDigit
    let (part, rest) : List Char × List Char := match chars.drop whole.length with
      | '.' :: after => (after.takeWhile Char.isDigit, after.dropWhile Char.isDigit)
      | other => ([], other)
    if whole.isEmpty && part.isEmpty then none
    else
      let units := value (whole ++ part)
      match rest with
      | [] => some { units := signed units, places := part.length }
      | e :: exponent =>
        let down := exponent.head? == some '-'
        let digits := if down || exponent.head? == some '+' then exponent.tail else exponent
        if (e != 'e' && e != 'E') || digits.isEmpty || !digits.all Char.isDigit then none
        else
          let size := value digits
          if down then some { units := signed units, places := part.length + size, isUnusual := true }
          else if part.length ≤ size then
            some { units := signed (units * ten (size - part.length)), places := 0, isUnusual := true }
          else some { units := signed units, places := part.length - size, isUnusual := true }

/-- So many units as text, with a point before the last places. -/
def shownUnits (units : Int) (places : Nat) : List Char :=
  let digits := Numeral.ofNat units.natAbs
  let filled := List.replicate (places + 1 - digits.length) '0' ++ digits
  let whole := filled.take (filled.length - places)
  (if units < 0 then ['-'] else []) ++ whole ++
    if places = 0 then [] else '.' :: filled.drop (filled.length - places)

/-- A number with zeros before it up to a width. -/
def withZeros (width : Nat) (chars : List Char) : List Char :=
  match chars with
  | '-' :: digits => '-' :: List.replicate (width - chars.length) '0' ++ digits
  | _ => List.replicate (width - chars.length) '0' ++ chars

/-- The words of `seq` that are options: a negative number is none. -/
def sequenceOptions : List Bytes → List Bytes
  | [] => []
  | word :: rest =>
    if word.head? == some (Bytes.ascii '-') && ((Bytes.toOctets word).tail.head?.any fun c => c.isDigit || c == '.')
    then bytes "--" :: word :: rest
    else if word = bytes "-s" || word = bytes "-f" then word :: rest.take 1 ++ sequenceOptions (rest.drop 1)
    else if word.head? == some (Bytes.ascii '-') then word :: sequenceOptions rest
    else bytes "--" :: word :: rest
termination_by words => words.length
decreasing_by all_goals grind

/-- Print numbers block by block, so that nobody has to wait for all of them. -/
def countUp (line : Nat → Bytes) (total : Nat) : Nat → Nat → Talk Nat
  | 0, _ => return 0
  | fuel + 1, start =>
    if total ≤ start then return 0
    else do
      let size := min 1000 (total - start)
      let block := ((List.range size).map fun k => line (start + k)).flatten
      match ← writeAll 1 block with
      | .ok () => countUp line total fuel (start + size)
      | .error errno =>
        complain (bytes "write error: " ++ bytes errno.usual)
        return 1

/-- A format from its first directive on, doubled percent signs passed over. -/
def fromDirective : List Char → List Char
  | '%' :: '%' :: rest => fromDirective rest
  | '%' :: rest => '%' :: rest
  | _ :: rest => fromDirective rest
  | [] => []

/-- What is wrong with a format, which is to have one directive for a number. -/
def formatFault? (format : List Char) : Option String :=
  match fromDirective format with
  | [] => some "has no % directive"
  | _ :: rest =>
    let unflagged := rest.dropWhile "-+#0 '".toList.contains
    let sized := match unflagged.dropWhile Char.isDigit with
      | '.' :: digits => digits.dropWhile Char.isDigit
      | other => other
    match if sized.head? == some 'L' then sized.tail else sized with
    | [] => some "ends in %"
    | c :: after =>
      if !"efgaEFGA".toList.contains c then some ("has unknown %" ++ String.ofList [c] ++ " directive")
      else if (fromDirective after).isEmpty then none
      else some "has too many % directives"

/-- Print numbers in sequence. -/
def seq (words : List Bytes) : Talk Nat :=
  let known : Known := {
    letters := "f:s:w"
    long := [("format", 'f'), ("separator", 's'), ("equal-width", 'w')]
    stops := true }
  withOptions known (sequenceOptions words) fun chosen => do
    let wrong := chosen.words.find? fun word => (decimal? word).isNone
    let fault := (chosen.text? 'f').bind fun text => (formatFault? (Bytes.toOctets text)).map (text, ·)
    match chosen.words, fault, wrong with
    | [], _, _ => lacksOperand
    | _ :: _ :: _ :: fourth :: _, _, _ => extraOperand fourth 1
    | _, some (text, reason), _ =>
      complain (bytes "format " ++ cited text ++ bytes " " ++ bytes reason)
      return 1
    | _, none, some wrong => misuse (bytes "invalid floating point argument: " ++ cited wrong) 1
    | given, none, none =>
      let one : Decimal := { units := 1, places := 0 }
      let (first, step, last) := match given.filterMap decimal? with
        | [last] => (one, one, last)
        | [first, last] => (first, one, last)
        | first :: step :: last :: _ => (first, step, last)
        | [] => (one, one, one)
      if step.units = 0 then
        misuse (bytes "invalid Zero increment value: " ++ cited ((given.drop 1).headD [])) 1
      else
        let places := max first.places step.places
        let scale := max places last.places
        let count : Nat := (Int.fdiv (last.at scale - first.at scale) (step.at scale) + 1).toNat
        let value (k : Nat) : Int := first.at places + step.at places * k
        let whole := (last.units / (ten last.places : Nat)) * (ten places : Nat)
        let width := max (shownUnits (first.at places) places).length (shownUnits whole places).length
        let shown (k : Nat) : List Char :=
          let plain := shownUnits (value k) places
          match chosen.text? 'f' with
          | some format =>
            (Format.print .program id (Bytes.toOctets format) [shownUnits (value k) places]).text
          | none => if chosen.has 'w' then withZeros width plain else plain
        let separator := (chosen.text? 's').getD [lineEnd]
        let line (k : Nat) : Bytes :=
          Bytes.ofOctets (shown k) ++ if k + 1 = count then [lineEnd] else separator
        countUp line count (count + 1) 0

/-- The time that a word stands for, in millionths of a second. -/
def micros? (word : Bytes) : Option Nat :=
  let chars := Bytes.toOctets word
  let (digits, unit) := match chars.getLast? with
    | some 's' => (chars.dropLast, 1)
    | some 'm' => (chars.dropLast, 60)
    | some 'h' => (chars.dropLast, 3600)
    | some 'd' => (chars.dropLast, 86400)
    | _ => (chars, 1)
  if String.ofList digits == "inf" || String.ofList digits == "infinity" then some 1000000000000000
  else
    match decimal? (Bytes.ofOctets digits) with
    | some found =>
      if found.units < 0 then none
      else some (found.units.toNat * 1000000 * unit / ten found.places)
    | none => none

/-- Let time pass. -/
def sleep (words : List Bytes) : Talk Nat :=
  withOptions { letters := "" } words fun chosen => do
    if chosen.words.isEmpty then lacksOperand
    else
      let wrong := chosen.words.filter fun word => (micros? word).isNone
      if wrong.isEmpty then
        let _ ← call (.sleep ((chosen.words.filterMap micros?).foldr (· + ·) 0))
        return 0
      else
        for word in wrong do
          complain (bytes "invalid time interval " ++ cited word)
        hint
        return 1

end Umpire.Tool
