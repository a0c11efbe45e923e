import Umpire.Shell.Word
import Umpire.Text.Numeral

/-! Braces that make several words of one: alternatives between commas, and sequences. -/

namespace Umpire.Shell.Braces

/-- A stretch of a word that braces can stand in, or one that they cannot. -/
inductive Piece where
  | char (c : Char)
  | other (part : Part)
  deriving DecidableEq, Repr

/-- The pieces of a word. -/
def pieces (word : Word) : List Piece :=
  word.flatMap fun
    | .text chars false => chars.map .char
    | part => [.other part]

/-- The word of some pieces. -/
def joined (found : List Piece) : Word :=
  Parser.merge (found.map fun
    | .char c => .text [c] false
    | .other part => part)

/-- The alternatives up to the closing brace, and what follows it; none if there is no such brace. -/
def alternatives? (depth : Nat) (current : List Piece) (found : List (List Piece)) :
    List Piece → Option (List (List Piece) × List Piece)
  | [] => none
  | .char '\x7b' :: rest => alternatives? (depth + 1) (.char '\x7b' :: current) found rest
  | .char '\x7d' :: rest =>
    match depth with
    | 0 => some ((current.reverse :: found).reverse, rest)
    | left + 1 => alternatives? left (.char '\x7d' :: current) found rest
  | .char ',' :: rest =>
    if depth = 0 then alternatives? depth [] (current.reverse :: found) rest
    else alternatives? depth (.char ',' :: current) found rest
  | piece :: rest => alternatives? depth (piece :: current) found rest

/-- The number that a text spells, with an optional sign. -/
def integer? (chars : List Char) : Option Int :=
  let (negative, digits) := match chars with
    | '-' :: rest => (true, rest)
    | '+' :: rest => (false, rest)
    | _ => (false, chars)
  if digits.isEmpty || !digits.all Char.isDigit then none
  else
    let value : Nat := digits.foldl (fun n c => n * 10 + (c.toNat - 48)) 0
    some (if negative then -(value : Int) else value)

/-- A number with zeros before its digits up to a width. -/
def padded (width : Nat) (value : Int) : List Char :=
  let digits := Numeral.ofNat value.natAbs
  let sign := if value < 0 then ['-'] else []
  sign ++ List.replicate (width - sign.length - digits.length) '0' ++ digits

/-- The numbers from one to another in steps of some size. -/
def numbers (first last step : Int) : List Int :=
  let size := if step = 0 then 1 else step.natAbs
  let count := (last - first).natAbs / size + 1
  (List.range count).map fun k : Nat =>
    if first ≤ last then first + (k * size : Nat) else first - (k * size : Nat)

/-- Whether a numeral has a zero that only makes it wider. -/
def isWide (chars : List Char) : Bool :=
  match chars with
  | '-' :: '0' :: _ :: _ | '+' :: '0' :: _ :: _ | '0' :: _ :: _ => true
  | _ => false

/-- The parts of a text between double dots. -/
def betweenDots (current : List Char) : List Char → List (List Char)
  | [] => [current.reverse]
  | '.' :: '.' :: rest => current.reverse :: betweenDots [] rest
  | c :: rest => betweenDots (c :: current) rest

/-- The texts of a sequence; none if the text between braces is no sequence. -/
def sequence? (chars : List Char) : Option (List (List Char)) :=
  let bounds (first last step : List Char) : Option (List (List Char)) := do
    let size ← integer? step
    match integer? first, integer? last with
    | some low, some high =>
      let width := if isWide first || isWide last then max first.length last.length else 0
      some ((numbers low high size).map (padded width))
    | _, _ =>
      match first, last with
      | [a], [b] =>
        if a.isAlpha && b.isAlpha then
          some ((numbers a.toNat b.toNat size).map fun value => [Char.ofNat value.toNat])
        else none
      | _, _ => none
  match betweenDots [] chars with
  | [first, last] => bounds first last ['1']
  | [first, last, step] => bounds first last step
  | _ => none

/-- The text of some pieces, if they are all characters. -/
def textOf? (found : List Piece) : Option (List Char) :=
  found.mapM fun
    | .char c => some c
    | .other _ => none

/-- The lists of pieces that a list of pieces stands for. -/
def expand : Nat → List Piece → List (List Piece)
  | 0, found => [found]
  | _ + 1, [] => [[]]
  | fuel + 1, .char '\x7b' :: rest =>
    let plain := (expand fuel rest).map fun others => .char '\x7b' :: others
    match alternatives? 0 [] [] rest with
    | none => plain
    | some (found, after) =>
      let several : Option (List (List Piece)) := match found with
        | [only] =>
          ((textOf? only).bind sequence?).map fun texts => texts.map fun text => text.map .char
        | _ => some (found.flatMap (expand fuel))
      match several with
      | none => plain
      | some texts =>
        let others := expand fuel after
        texts.flatMap fun text => others.map fun left => text ++ left
  | fuel + 1, piece :: rest => (expand fuel rest).map fun others => piece :: others

/-- The words that a word stands for. -/
def words (word : Word) : List Word :=
  let found := pieces word
  if found.contains (.char '\x7b') then (expand (found.length + 1) found).map joined else [word]

end Umpire.Shell.Braces
