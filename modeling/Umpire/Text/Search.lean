import Umpire.Text.Regex

/-! Where regular expressions match: as far to the left as possible, and there as long as possible. -/

namespace Umpire

namespace Regex

/-- A place in a text, with what has been matched before it. -/
structure Spot where
  before : Option Char := none
  rest : List Char
  place : Nat := 0
  /-- The stretches that groups have matched, the latest first. -/
  groups : List (Nat × Nat × List Char) := []

/-- The spot after the next character. -/
def Spot.next (spot : Spot) : Spot :=
  match spot.rest with
  | [] => spot
  | c :: left => { spot with before := some c, rest := left, place := spot.place + 1 }

/-- The spot so many characters further on. -/
def Spot.after (spot : Spot) : Nat → Spot
  | 0 => spot
  | count + 1 => spot.next.after count

/-- Whether a character is part of a word. -/
def isOfWord (c : Char) : Bool :=
  wordRanges.any fun range => range.1 ≤ c && c ≤ range.2

/-- Of several spots, those that are the first at their place, the furthest first. -/
def distinct (spots : List Spot) : List Spot :=
  let kept := spots.foldl (fun known spot =>
    if known.any fun other => other.place = spot.place then known else spot :: known) []
  kept.reverse.mergeSort fun a b => b.place ≤ a.place

/-- Whether two characters count as the same. -/
def same (fold : Bool) (a b : Char) : Bool :=
  a == b || (fold && a.toLower == b.toLower)

/-- Whether a character is a byte that belongs to none, which only itself stands for. -/
def isBroken (c : Char) : Bool :=
  0x10FF80 ≤ c.toNat

/-- Whether a character is in one of some ranges. -/
def inRanges (fold : Bool) (ranges : List (Char × Char)) (c : Char) : Bool :=
  let isIn (c : Char) : Bool := ranges.any fun range => range.1 ≤ c && c ≤ range.2
  isIn c || (fold && (isIn c.toLower || isIn c.toUpper))

/-- Take steps from some spots as often as it is allowed; every step has to lead to new places once the
least number of them has been taken. -/
def iterate (step : Spot → List Spot) (least : Nat) (most : Option Nat) :
    Nat → Nat → List Spot → List Spot → List Spot
  | 0, _, _, found => found
  | fuel + 1, taken, current, found =>
    let reached := if least ≤ taken then found ++ current else found
    if current.isEmpty || most.any (· ≤ taken) then reached
    else
      let next := distinct (current.flatMap step)
      let fresh := if taken < least then next
        else next.filter fun spot => !(reached.any fun known => known.place = spot.place)
      iterate step least most fuel (taken + 1) fresh reached

/-- The spots that a regular expression leads to, the furthest first. -/
def ends (fold : Bool) : Regex → Spot → List Spot
  | .nothing, spot => [spot]
  | .any, spot =>
    match spot.rest with
    | [] => []
    | c :: _ => if isBroken c then [] else [spot.next]
  | .oneOf wanted ranges, spot =>
    match spot.rest with
    | [] => []
    | c :: _ => if inRanges fold ranges c == wanted && (wanted || !isBroken c) then [spot.next] else []
  | .start, spot => if spot.before.isNone then [spot] else []
  | .lineStart, spot => if spot.before.all (· == '\n') then [spot] else []
  | .lineFinish, spot => if spot.rest.head?.all (· == '\n') then [spot] else []
  | .finish, spot => if spot.rest.isEmpty then [spot] else []
  | .boundary wanted, spot =>
    if (spot.before.any isOfWord != spot.rest.head?.any isOfWord) == wanted then [spot] else []
  | .wordStart, spot =>
    if !spot.before.any isOfWord && spot.rest.head?.any isOfWord then [spot] else []
  | .wordEnd, spot => if spot.before.any isOfWord && !spot.rest.head?.any isOfWord then [spot] else []
  | .group index inner, spot =>
    (ends fold inner spot).map fun found =>
      let matched := spot.rest.take (found.place - spot.place)
      { found with groups := (index, spot.place, matched) :: found.groups }
  | .sequence first second, spot => distinct ((ends fold first spot).flatMap (ends fold second))
  | .either first second, spot => distinct (ends fold first spot ++ ends fold second spot)
  | .repeated inner least most, spot =>
    distinct (iterate (ends fold inner) least most (spot.rest.length + least + 2) 0 [spot] [])
  | .reference index, spot =>
    match spot.groups.lookup index with
    | none => []
    | some (_, wanted) =>
      let here := spot.rest.take wanted.length
      if here.length = wanted.length && (here.zip wanted).all fun pair => same fold pair.1 pair.2 then
        [spot.after wanted.length]
      else []

/-- A stretch of a text that fits a regular expression. -/
structure Match where
  start : Nat
  chars : List Char
  /-- The stretches that groups have matched. -/
  groups : List (Nat × Nat × List Char)

/-- The first match at some spot or after it. -/
def findFrom (fold : Bool) (regex : Regex) : Nat → Spot → Option Match
  | 0, _ => none
  | fuel + 1, spot =>
    match ends fold regex { spot with groups := [] } with
    | found :: _ => some ⟨spot.place, spot.rest.take (found.place - spot.place), found.groups⟩
    | [] => if spot.rest.isEmpty then none else findFrom fold regex fuel spot.next

/-- The first match in a text. -/
def find? (fold : Bool) (regex : Regex) (text : List Char) : Option Match :=
  findFrom fold regex (text.length + 1) { rest := text }

/-- The first match in a text after so many characters. -/
def findAfter? (fold : Bool) (regex : Regex) (text : List Char) (count : Nat) : Option Match :=
  findFrom fold regex (text.length + 1) (Spot.after { rest := text } count)

/-- How many groups a regular expression has. -/
def groupCount : Regex → Nat
  | .group index inner => max index inner.groupCount
  | .sequence first second | .either first second => max first.groupCount second.groupCount
  | .repeated inner _ _ => inner.groupCount
  | _ => 0

/-- What a group has matched. -/
def Match.group? (found : Match) (index : Nat) : Option (List Char) :=
  if index = 0 then some found.chars else (found.groups.lookup index).map (·.2)

end Regex

end Umpire
