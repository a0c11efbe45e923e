import Umpire.Shell.Mark
import Umpire.Shell.Quoting

/-! What expansions make of the texts that parameters stand for. -/

namespace Umpire.Shell

/-- A text freed of the line ends that it ends with. -/
def withoutLineEnds (chars : List Char) : List Char :=
  (chars.reverse.dropWhile (· == '\n')).reverse

/-- How many characters a text has; in the large shell, several octets can be one. -/
def lengthOf (dialect : Dialect) (chars : List Char) : Nat :=
  match dialect with
  | .plain => chars.length
  | .large => (Pattern.characters chars).length

/-- How many characters stand before the first one of a kind that nothing shields. -/
def plainUntil (stop : Char) : Nat → List Char → Nat
  | 0, chars => chars.length
  | _ + 1, [] => 0
  | fuel + 1, '\\' :: _ :: rest => 2 + plainUntil stop fuel rest
  | fuel + 1, c :: rest =>
    if c == stop then 0
    else
      let size := rest.length + 1
      let inner : Option (List Char) :=
        match c, rest with
        | '\'', _ =>
          let quoted := rest.takeWhile (· != '\'')
          if quoted.length = rest.length then none else some (rest.drop (quoted.length + 1))
        | '"', _ => Parser.after? '"' true size rest
        | '\x60', _ => Parser.after? '\x60' false size rest
        | '(', _ => Parser.after? ')' false size rest
        | '$', '\x7b' :: deeper => Parser.after? '\x7d' false size deeper
        | _, _ => none
      match inner with
      | some left => (size - left.length) + plainUntil stop fuel left
      | none => 1 + plainUntil stop fuel rest

/-- The two parts of a text around the first character of a kind that nothing shields. -/
def splitPlain (stop : Char) (chars : List Char) : List Char × Option (List Char) :=
  let size := plainUntil stop (chars.length + 1) chars
  (chars.take size, if size < chars.length then some (chars.drop (size + 1)) else none)

/-- The part of a list from an offset on, of some length, where negative numbers count from the end;
none if the length is less than nothing. -/
def sliceOf {α : Type} (offset : Int) (length : Option Int) (all : List α) : Option (List α) :=
  let count : Int := all.length
  let start := if offset < 0 then count + offset else offset
  let finish : Int := match length with
    | none => count
    | some size => if size < 0 then count + size else start + size
  if start < 0 || count < start then some []
  else if finish < start then none
  else some ((all.drop start.toNat).take (finish - start).toNat)

/-- The size of the longest start of a text that fits a pattern. -/
def longestFit? (wide : Bool) (pattern : List Piece) (chars : List Char) : Option Nat :=
  (List.range (chars.length + 1)).reverse.find? fun size =>
    Pattern.fits wide false pattern (chars.take size)

/-- A text for what has been matched, in which an unquoted ampersand stands for that itself. -/
def replacement (marks : List Mark) (found : List Char) : List Char :=
  marks.flatMap fun
    | .char '&' false | .soft '&' => found
    | .char c _ => [c]
    | .soft c => [c]
    | .cut => [' ']
    | .hold => []

/-- A text with every match of a pattern replaced, or only the first one. -/
def replaceFrom (wide all : Bool) (pattern : List Piece) (marks : List Mark) : Nat → List Char → List Char
  | 0, chars => chars
  | _ + 1, [] => []
  | fuel + 1, c :: rest =>
    match longestFit? wide pattern (c :: rest) with
    | some (size + 1) =>
      let found := (c :: rest).take (size + 1)
      let left := rest.drop size
      replacement marks found ++ if all then replaceFrom wide all pattern marks fuel left else left
    | _ => c :: replaceFrom wide all pattern marks fuel rest

/-- A text with what a pattern matches replaced. -/
def replaced (wide : Bool) (reach : Reach) (pattern : List Piece) (marks : List Mark)
    (chars : List Char) : List Char :=
  let fitsNothing := chars.isEmpty && Pattern.fits wide false pattern []
  match reach with
  | .first =>
    if fitsNothing then replacement marks [] else replaceFrom wide false pattern marks (chars.length + 1) chars
  | .all =>
    if fitsNothing then replacement marks [] else replaceFrom wide true pattern marks (chars.length + 1) chars
  | .start =>
    match longestFit? wide pattern chars with
    | some size => replacement marks (chars.take size) ++ chars.drop size
    | none => chars
  | .finish =>
    match (List.range (chars.length + 1)).find? fun size => Pattern.fits wide false pattern (chars.drop size) with
    | some size => chars.take size ++ replacement marks (chars.drop size)
    | none => chars

/-- A text with its first character, or all of those that fit a pattern, in another case. -/
def recasedWhere (upper all : Bool) (pattern : List Piece) (chars : List Char) : List Char :=
  let changed (c : Char) : Char :=
    if Pattern.fits false false pattern [c] then if upper then c.toUpper else c.toLower else c
  match chars with
  | [] => []
  | c :: rest => changed c :: if all then rest.map changed else rest

/-- The letters of what has been said about a variable. -/
def attributeLetters (kept : Variable) : List Char :=
  let ofContent := match kept.content with
    | .list _ => ['a']
    | .table _ => ['A']
    | _ => []
  let ofCase := match kept.upper with
    | some true => ['u']
    | some false => ['l']
    | none => []
  ofContent ++ (if kept.integer then ['i'] else []) ++ (if kept.refers then ['n'] else []) ++
    (if kept.fixed then ['r'] else []) ++ (if kept.exported then ['x'] else []) ++ ofCase

/-- The elements of an array as they can be assigned. -/
def shownElements (content : Content) : List Char :=
  let entries := content.entries.map fun entry =>
    let isBare := entry.1.all fun c => inName c || c == '.' || c == '-'
    let key := if isBare then entry.1 else Quoting.double entry.1
    ['['] ++ key ++ ascii "]=" ++ Quoting.double entry.2
  match content with
  | .table _ => ['('] ++ (entries.map fun entry => entry ++ [' ']).flatten ++ [')']
  | _ => ['('] ++ [' '].intercalate entries ++ [')']

/-- A command that makes a variable what it is. -/
def declaration (name : List Char) (kept : Variable) : List Char :=
  let found := attributeLetters kept
  let flags := if found.isEmpty then ascii "--" else '-' :: found
  let value := match kept.content with
    | .none => []
    | .text chars => '=' :: Quoting.double chars
    | content => '=' :: shownElements content
  ascii "declare " ++ flags ++ [' '] ++ name ++ value

/-- A text in the form that a letter names. -/
def transformed (letter : Char) (name : List Char) (kept : Variable) (chars : List Char) : List Char :=
  match letter with
  | 'Q' => Quoting.value chars
  | 'U' => recased true chars
  | 'L' => recased false chars
  | 'u' => recasedWhere true false [.one] chars
  | 'E' => Parser.unescaped (chars.length + 1) chars
  | 'a' => attributeLetters kept
  | 'A' =>
    let found := attributeLetters kept
    (if found.isEmpty then [] else ascii "declare -" ++ found ++ [' ']) ++ name ++ ['='] ++
      Quoting.value chars
  | _ => chars

end Umpire.Shell
