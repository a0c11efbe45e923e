import Umpire.Text.Utf8

/-! Patterns that texts are matched against: any text, any character, sets of characters and choices. -/

namespace Umpire.Shell

/-- A character of a text, and whether it was quoted, which takes its special meaning away. -/
abbrev Marked := Char × Bool

/-- How often one of several patterns may occur. -/
inductive Choice where
  | optional
  | any
  | some
  | one
  /-- Anything that fits none of them. -/
  | none
  deriving DecidableEq, Repr

/-- A stretch of a pattern. -/
inductive Piece where
  | any
  | one
  | exact (c : Char)
  /-- One character in, or out of, some ranges. -/
  | oneOf (wanted : Bool) (ranges : List (Char × Char))
  | choice (kind : Choice) (alternatives : List (List Piece))
  deriving Repr

namespace Pattern

/-- The octets of a text, taken together where they are one character. -/
def characters (chars : List Char) : List (List Char) :=
  (Utf8.pieces (Bytes.ofOctets chars)).flatMap fun
    | .char c => [Bytes.toOctets (Bytes.ofChars [c])]
    | .broken bytes => (Bytes.toOctets bytes).map fun c => [c]

/-- The ranges of a named class of characters. -/
def classOf (name : List Char) : List (Char × Char) :=
  match String.ofList name with
  | "digit" => [('0', '9')]
  | "alpha" => [('a', 'z'), ('A', 'Z')]
  | "alnum" => [('0', '9'), ('a', 'z'), ('A', 'Z')]
  | "lower" => [('a', 'z')]
  | "upper" => [('A', 'Z')]
  | "space" => [(' ', ' '), ('\t', '\r')]
  | "blank" => [(' ', ' '), ('\t', '\t')]
  | "xdigit" => [('0', '9'), ('a', 'f'), ('A', 'F')]
  | "punct" => [('!', '/'), (':', '@'), ('[', '\x60'), ('\x7b', '~')]
  | "cntrl" => [('\x00', '\x1f'), ('\x7f', '\x7f')]
  | "print" => [(' ', '~')]
  | "graph" => [('!', '~')]
  | "word" => [('0', '9'), ('a', 'z'), ('A', 'Z'), ('_', '_')]
  | _ => []

/-- The ranges of a set up to its closing bracket, and what follows; none if it is not closed. -/
def readSet : Nat → Bool → List (Char × Char) → List Marked → Option (List (Char × Char) × List Marked)
  | 0, _, _, _ => .none
  | _ + 1, _, _, [] => .none
  | fuel + 1, first, ranges, (c, quoted) :: rest =>
    if c == ']' && !quoted && !first then .some (ranges, rest)
    else if c == '[' && !quoted && (rest.head?.map (·.1)) == .some ':' &&
        ((rest.drop 1).any fun marked => marked.1 == ':') then
      let name := (rest.drop 1).takeWhile fun marked => marked.1 != ':'
      let after := rest.drop (name.length + 3)
      readSet fuel false (ranges ++ classOf (name.map (·.1))) after
    else
      let (low, left) := match c, quoted, rest with
        | '\\', false, (d, _) :: others => (d, others)
        | _, _, _ => (c, rest)
      match left with
      | ('-', false) :: (d, closing) :: after =>
        if d == ']' && !closing then readSet fuel false (ranges ++ [(low, low)]) left
        else readSet fuel false (ranges ++ [(low, d)]) after
      | _ => readSet fuel false (ranges ++ [(low, low)]) left

/-- The alternatives of a choice up to its closing parenthesis, and what follows. -/
def alternatives? (depth : Nat) (current : List Marked) (found : List (List Marked)) :
    List Marked → Option (List (List Marked) × List Marked)
  | [] => .none
  | ('(', false) :: rest => alternatives? (depth + 1) (('(', false) :: current) found rest
  | (')', false) :: rest =>
    match depth with
    | 0 => .some ((current.reverse :: found).reverse, rest)
    | left + 1 => alternatives? left ((')', false) :: current) found rest
  | ('|', false) :: rest =>
    if depth = 0 then alternatives? depth [] (current.reverse :: found) rest
    else alternatives? depth (('|', false) :: current) found rest
  | marked :: rest => alternatives? depth (marked :: current) found rest

/-- The choice that a character opens. -/
def choiceOf? (c : Char) : Option Choice :=
  match c with
  | '?' => .some .optional
  | '*' => .some .any
  | '+' => .some .some
  | '@' => .some .one
  | '!' => .some .none
  | _ => .none

/-- The pieces of a pattern, which has choices if it is `extended`. -/
def compile (extended : Bool) : Nat → List Marked → List Piece
  | 0, _ => []
  | _ + 1, [] => []
  | fuel + 1, (c, quoted) :: rest =>
    let choice : Option (Choice × List (List Marked) × List Marked) :=
      match extended && !quoted, choiceOf? c, rest with
      | true, .some kind, ('(', false) :: inner =>
        (alternatives? 0 [] [] inner).map fun found => (kind, found.1, found.2)
      | _, _, _ => .none
    match choice with
    | .some (kind, texts, after) =>
      .choice kind (texts.map (compile extended fuel)) :: compile extended fuel after
    | .none =>
      if quoted then .exact c :: compile extended fuel rest
      else if c == '*' then .any :: compile extended fuel rest
      else if c == '?' then .one :: compile extended fuel rest
      else if c == '\\' then
        match rest with
        | (d, _) :: after => .exact d :: compile extended fuel after
        | [] => [.exact c]
      else if c == '[' then
        let negated := match rest with
          | ('!', false) :: _ | ('^', false) :: _ => true
          | _ => false
        let inner := if negated then rest.drop 1 else rest
        match readSet (inner.length + 1) true [] inner with
        | .some (ranges, after) => .oneOf (!negated) ranges :: compile extended fuel after
        | .none => .exact c :: compile extended fuel rest
      else .exact c :: compile extended fuel rest

/-- How many octets the first character of a text has. -/
def width (wide : Bool) (chars : List Char) : Nat :=
  if wide then (((characters (chars.take 4)).head?).map List.length).getD 1 else 1

/-- Whether a whole text fits a pattern; with `wide`, a character can have several octets. -/
def fitsWithin (wide fold : Bool) : Nat → List Piece → List Char → Bool
  | 0, _, _ => false
  | _ + 1, [], chars => chars.isEmpty
  | fuel + 1, .any :: rest, chars =>
    fitsWithin wide fold fuel rest chars ||
      match chars with
      | [] => false
      | _ :: left => fitsWithin wide fold fuel (.any :: rest) left
  | fuel + 1, .choice kind alternatives :: rest, chars =>
    let once (after : List Piece) : Bool :=
      alternatives.any fun inner => fitsWithin wide fold fuel (inner ++ after) chars
    match kind with
    | .one => once rest
    | .optional => fitsWithin wide fold fuel rest chars || once rest
    | .none => (List.range (chars.length + 1)).any fun size =>
        !(alternatives.any fun inner => fitsWithin wide fold fuel inner (chars.take size)) &&
          fitsWithin wide fold fuel rest (chars.drop size)
    | .any | .some =>
      (kind = .any && fitsWithin wide fold fuel rest chars) ||
        (kind = .some && once rest) ||
        -- Every further occurrence takes something of the text.
        (List.range chars.length).any fun size =>
          (alternatives.any fun inner => fitsWithin wide fold fuel inner (chars.take (size + 1))) &&
            fitsWithin wide fold fuel (.choice .any alternatives :: rest) (chars.drop (size + 1))
  | _ + 1, _ :: _, [] => false
  | fuel + 1, .one :: rest, chars => fitsWithin wide fold fuel rest (chars.drop (width wide chars))
  | fuel + 1, .exact d :: rest, c :: chars =>
    (c == d || (fold && c.toLower == d.toLower)) && fitsWithin wide fold fuel rest chars
  | fuel + 1, .oneOf wanted ranges :: rest, c :: chars =>
    let isIn (c : Char) : Bool := ranges.any fun range => range.1 ≤ c && c ≤ range.2
    let found := isIn c || (fold && (isIn c.toLower || isIn c.toUpper))
    let size := if wanted then 1 else width wide (c :: chars)
    found == wanted && fitsWithin wide fold fuel rest (chars.drop (size - 1))

/-- How many stretches a pattern has, those of its choices included. -/
def size : Nat → List Piece → Nat
  | 0, pieces => pieces.length
  | fuel + 1, pieces => (pieces.map fun
    | .choice _ alternatives => ((alternatives.map (size fuel)).foldr (· + ·) 0) + 2
    | _ => 1).foldr (· + ·) 0

/-- Whether a whole text fits a pattern. -/
def fits (wide fold : Bool) (pieces : List Piece) (chars : List Char) : Bool :=
  fitsWithin wide fold ((size 8 pieces + 2) * (chars.length + 2)) pieces chars

/-- The pieces of a whole pattern. -/
def ofMarked (extended : Bool) (marked : List Marked) : List Piece :=
  compile extended (marked.length + 1) marked

/-- A text without the shortest or longest start that fits a pattern. -/
def withoutStart (wide longest : Bool) (pattern : List Piece) (chars : List Char) : List Char :=
  let sizes := List.range (chars.length + 1)
  let ordered := if longest then sizes.reverse else sizes
  match ordered.find? fun size => fits wide false pattern (chars.take size) with
  | .some size => chars.drop size
  | .none => chars

/-- A text without the shortest or longest end that fits a pattern. -/
def withoutEnd (wide longest : Bool) (pattern : List Piece) (chars : List Char) : List Char :=
  let sizes := List.range (chars.length + 1)
  let ordered := if longest then sizes else sizes.reverse
  match ordered.find? fun size => fits wide false pattern (chars.drop size) with
  | .some size => chars.take size
  | .none => chars

/-- Whether a text has an unquoted character that makes it a pattern. -/
def isPattern (extended : Bool) (marked : List Marked) : Bool :=
  (marked.any fun found => !found.2 && (found.1 == '*' || found.1 == '?' || found.1 == '[')) ||
    (extended && (marked.zip marked.tail).any fun pair =>
      !pair.1.2 && "+@!".toList.contains pair.1.1 && pair.2 == ('(', false))

end Pattern

end Umpire.Shell
