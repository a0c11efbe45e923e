import Umpire.Text.Bytes
import Umpire.Text.Floating
import Umpire.Text.Numeral

/-! Formatted texts: the escapes and directives by which words are printed. Texts are octets. -/

namespace Umpire.Tool.Format

/-- Who prints: the plain shell, the large one, or a program of its own. -/
inductive Printer where
  | plain
  | large
  | program
  deriving DecidableEq, Repr

/-- What a text with escapes is. -/
inductive Place where
  /-- A format. -/
  | format
  /-- A word that a format prints. -/
  | argument
  /-- A word that is printed with blanks around it. -/
  | word
  deriving DecidableEq, Repr

/-- Why a word cannot be printed as it should be. -/
inductive Objection where
  /-- A word starts with no number, or is not all of one. -/
  | noNumber (word : List Char)
  | partly (word : List Char)
  | outOfRange (word : List Char)
  /-- A word for a character goes on after it. -/
  | followed (rest : List Char)
  /-- An escape lacks the digits of its number; its letter. -/
  | noDigits (letter : Char)
  /-- An escape tells a number that no character has; how it is written. -/
  | noCharacter (escape : List Char)
  /-- A directive cannot be understood; its last character and the whole of it. -/
  | noDirective (last : Option Char) (whole : List Char)
  deriving DecidableEq, Repr

/-- The value of up to so many octal digits, and what follows. -/
def octal (most : Nat) (chars : List Char) : Nat × List Char :=
  let digits := (chars.take most).takeWhile fun c => '0' ≤ c && c ≤ '7'
  (digits.foldl (fun n c => n * 8 + (c.toNat - 48)) 0, chars.drop digits.length)

/-- The character of a simple escape. -/
def simple? (c : Char) : Option Char :=
  match c with
  | 'a' => some '\x07'
  | 'b' => some '\x08'
  | 'e' => some '\x1b'
  | 'f' => some '\x0c'
  | 'n' => some '\n'
  | 'r' => some '\r'
  | 't' => some '\t'
  | 'v' => some '\x0b'
  | '\\' => some '\\'
  | _ => none

/-- The octet of a number, of which eight bits are kept. -/
def octet (n : Nat) : Char :=
  Char.ofNat (n % 256)

/-- The value of up to so many hexadecimal digits, and what follows; none if there is no such digit. -/
def hexadecimal? (most : Nat) (chars : List Char) : Option (Nat × List Char) :=
  let digits := (chars.take most).takeWhile fun c => (Numeral.hexDigit? c).isSome
  if digits.isEmpty then none
  else some ((digits.filterMap Numeral.hexDigit?).foldl (fun n digit => n * 16 + digit) 0,
    chars.drop digits.length)

/-- The octets of a number in the way in which code points are written. -/
def utf8 (value : Nat) : List Char :=
  let more : Nat := if value < 0x80 then 0 else if value < 0x800 then 1 else if value < 0x10000 then 2
    else if value < 0x200000 then 3 else if value < 0x4000000 then 4 else 5
  let lead : Nat := if more = 0 then 0 else 256 - Nat.pow 2 (7 - more)
  octet (lead + value / Nat.pow 64 more) ::
    (List.range more).reverse.map fun place => octet (128 + value / Nat.pow 64 place % 64)

/-- What the escape after a backslash stands for. -/
structure Escape where
  shown : List Char
  /-- What follows the escape. -/
  left : List Char
  objection : Option Objection := none

/-- The escape of a code point that has up to so many digits; a program insists on all of them. -/
def codePoint (printer : Printer) (letter : Char) (most : Nat) (rest : List Char) : Escape :=
  match printer, hexadecimal? most rest with
  | _, none => ⟨['\\', letter], rest, some (.noDigits letter)⟩
  | .program, some (value, left) =>
    let digits := rest.take (rest.length - left.length)
    let written := ['\\', letter] ++ digits
    if digits.length < most then ⟨[], left, some (.noDigits letter)⟩
    else if 0xd800 ≤ value && value < 0xe000 then ⟨[], left, some (.noCharacter written)⟩
    else if 0x10ffff < value then ⟨'\\' :: letter :: digits.map Char.toUpper, left, none⟩
    else ⟨utf8 value, left, none⟩
  | _, some (value, left) => ⟨utf8 value, left, none⟩

/-- What the escape after a backslash stands for; one that is not known stands for itself. -/
def escape (printer : Printer) (place : Place) (chars : List Char) : Escape :=
  match chars with
  | [] => ⟨['\\'], [], none⟩
  | c :: rest =>
    let isOctal := '0' ≤ c && c ≤ '7'
    -- The shells go on with the character after the backslash.
    let unknown : Escape :=
      if printer = .program then ⟨['\\', c], rest, none⟩ else ⟨['\\'], chars, none⟩
    if c == '0' && place != .format then
      let (value, left) := octal 3 rest
      ⟨[octet value], left, none⟩
    else if isOctal && !(printer = .large && place = .word) then
      let (value, left) := octal 3 chars
      ⟨[octet value], left, none⟩
    else
      match simple? c with
      | some shown => ⟨[shown], rest, none⟩
      | none =>
        if printer = .plain then unknown
        else if c == 'x' then
          match hexadecimal? 2 rest with
          | some (value, left) => ⟨[octet value], left, none⟩
          | none => ⟨['\\', 'x'], rest, if place = .word then none else some (.noDigits 'x')⟩
        else if (c == 'u' || c == 'U') && !(printer = .program && place = .word) then
          let found := codePoint printer c (if c == 'u' then 4 else 8) rest
          { found with objection := if place = .word then none else found.objection }
        else if c == '"' && (place = .format || (printer = .program && place = .argument)) then
          ⟨[c], rest, none⟩
        else if printer = .large && c == 'E' then ⟨['\x1b'], rest, none⟩
        else if printer = .large && place = .format && (c == '\'' || c == '?') then ⟨[c], rest, none⟩
        else unknown

/-- Whether a program prints nothing more after an objection. -/
def Objection.isLast (printer : Printer) (objection : Objection) : Bool :=
  match printer, objection with
  | .program, .noDigits _ | .program, .noCharacter _ => true
  | _, _ => false

/-- A text with its escapes replaced. -/
structure Unescaped where
  text : List Char := []
  objections : List Objection := []
  /-- Whether nothing more is to be printed. -/
  stop : Bool := false

/-- A text with its escapes replaced, with so much fuel. -/
def unescape (printer : Printer) (place : Place) : Nat → List Char → Unescaped
  | 0, _ => {}
  | _ + 1, [] => {}
  | fuel + 1, '\\' :: rest =>
    if rest.head? == some 'c' && place != .format then { stop := true }
    else
      let found := escape printer place rest
      if found.objection.any (·.isLast printer) then
        { objections := found.objection.toList, stop := true }
      else
        let after := unescape printer place fuel found.left
        { after with
          text := found.shown ++ after.text
          objections := found.objection.toList ++ after.objections }
  | fuel + 1, c :: rest =>
    let after := unescape printer place fuel rest
    { after with text := c :: after.text }

/-- A text with its escapes replaced. -/
def unescaped (printer : Printer) (place : Place) (chars : List Char) : Unescaped :=
  unescape printer place (chars.length + 1) chars

/-- A directive: how a word is printed. -/
structure Directive where
  left : Bool := false
  zeros : Bool := false
  plus : Bool := false
  space : Bool := false
  alternate : Bool := false
  width : Nat := 0
  precision : Option Nat := none
  kind : Char
  deriving DecidableEq, Repr

/-- A text filled up to a width. -/
def fill (directive : Directive) (chars : List Char) : List Char :=
  let missing := directive.width - chars.length
  if directive.left then chars ++ List.replicate missing ' '
  else List.replicate missing ' ' ++ chars

/-- A number filled up to a width, perhaps with zeros after its sign and mark. -/
def fillNumber (directive : Directive) (sign digits : List Char) : List Char :=
  let missing := directive.width - sign.length - digits.length
  if directive.zeros && !directive.left then sign ++ List.replicate missing '0' ++ digits
  else fill directive (sign ++ digits)

/-- A number that a word spells, and what is wrong with the word. -/
structure Spelled where
  value : Int
  objection : Option Objection := none

/-- The code of the character for which a word stands after a quote, and what follows it. -/
def codeOf (printer : Printer) (chars : List Char) : Nat × List Char :=
  match printer, chars with
  | _, [] => (0, [])
  | .plain, c :: rest => (c.toNat, rest)
  | _, c :: rest =>
    let lead := c.toNat
    let size := if lead < 0xc0 then 0 else if lead < 0xe0 then 1 else if lead < 0xf0 then 2 else 3
    let more := rest.take size
    if size = 0 || more.length < size then (lead, rest)
    else
      let first := lead % (Nat.pow 2 (6 - size))
      (more.foldl (fun n d => n * 64 + d.toNat % 64) first, rest.drop size)

/-- What a program says of a word for a character that goes on after it. -/
def tellFollowed (printer : Printer) (rest : List Char) : Option Objection :=
  if printer = .program && !rest.isEmpty then some (.followed rest) else none

/-- The whole number that a word spells, within the host's words. -/
def number (printer : Printer) (signed : Bool) (word : List Char) : Spelled :=
  match word with
  | '\'' :: rest | '"' :: rest =>
    let (code, others) := codeOf printer rest
    ⟨code, tellFollowed printer others⟩
  | _ =>
    let trimmed := word.dropWhile fun c => c == ' ' || ('\t' ≤ c && c ≤ '\r')
    let negative := trimmed.head? == some '-'
    let unsigned := if negative || trimmed.head? == some '+' then trimmed.tail else trimmed
    let (base, digits) : Nat × List Char := match unsigned with
      | '0' :: mark :: c :: rest =>
        if (mark == 'x' || mark == 'X') && (Numeral.hexDigit? c).isSome then (16, c :: rest)
        else (8, unsigned)
      | '0' :: _ => (8, unsigned)
      | _ => (10, unsigned)
    let isDigit (c : Char) : Bool := (Numeral.hexDigit? c).any (· < base)
    let taken := digits.takeWhile isDigit
    let value : Nat := (taken.filterMap Numeral.hexDigit?).foldl (fun n digit => n * base + digit) 0
    let exact : Int := if negative then -(value : Int) else value
    let greatest : Int := if signed then 9223372036854775807 else 18446744073709551615
    let least : Int := if signed then -9223372036854775808 else -18446744073709551615
    if taken.isEmpty then ⟨0, if word.isEmpty then none else some (.noNumber word)⟩
    else if taken.length < digits.length then ⟨max least (min greatest exact), some (.partly word)⟩
    else if exact < least || greatest < exact then
      ⟨if signed then max least (min greatest exact) else greatest, some (.outOfRange word)⟩
    else ⟨exact, none⟩

/-- The digits of a natural number in a base. -/
def digits (base n : Nat) : List Char :=
  Nat.toDigits base n

/-- A whole number as a directive prints it. -/
def shownNumber (directive : Directive) (value : Int) : List Char :=
  let natural := (BitVec.ofInt 64 value).toNat
  let isSigned := directive.kind == 'd' || directive.kind == 'i'
  let plain := match directive.kind with
    | 'x' => digits 16 natural
    | 'X' => (digits 16 natural).map Char.toUpper
    | 'o' => digits 8 natural
    | 'u' => digits 10 natural
    | _ => Numeral.ofNat value.natAbs
  let least := directive.precision.getD 1
  let isZero := natural = 0
  let spelled := if isZero && least = 0 then [] else List.replicate (least - plain.length) '0' ++ plain
  let shown := if directive.kind == 'o' && directive.alternate && spelled.head? != some '0' then '0' :: spelled
    else spelled
  let sign : List Char :=
    if isSigned then
      if value < 0 then ['-'] else if directive.plus then ['+'] else if directive.space then [' '] else []
    else if directive.alternate && !isZero && directive.kind == 'x' then ['0', 'x']
    else if directive.alternate && !isZero && directive.kind == 'X' then ['0', 'X']
    else []
  -- A precision takes the place of leading zeros.
  fillNumber { directive with zeros := directive.zeros && directive.precision.isNone } sign shown

/-- The number with a fraction that a word spells, and what is wrong with the word. -/
def fraction (printer : Printer) (word : List Char) : Floating.Value × Option Objection :=
  match word with
  | '\'' :: rest | '"' :: rest =>
    let (code, others) := codeOf printer rest
    (.finite false ⟨code, 1⟩, tellFollowed printer others)
  | _ =>
    let trimmed := word.dropWhile fun c => c == ' ' || ('\t' ≤ c && c ≤ '\r')
    match Floating.read? trimmed with
    | none => (.finite false ⟨0, 1⟩, if word.isEmpty then none else some (.noNumber word))
    | some (value, rest) => (value, if rest.isEmpty then none else some (.partly word))

/-- A number with a fraction as a directive prints it. -/
def shownFraction (printer : Printer) (directive : Directive) (value : Floating.Value) : List Char :=
  let isUpper := directive.kind.isUpper
  let cased (chars : List Char) : List Char := if isUpper then chars.map Char.toUpper else chars
  let sign (negative : Bool) : List Char :=
    if negative then ['-'] else if directive.plus then ['+'] else if directive.space then [' '] else []
  match value with
  | .infinite negative => fill directive (sign negative ++ cased "inf".toList)
  | .notANumber negative => fill directive (sign negative ++ cased "nan".toList)
  | .finite negative ratio =>
    let bits := if printer = .plain then 53 else 64
    let kept := ratio.withBits bits
    let places := directive.precision.getD 6
    let shown := match directive.kind.toLower with
      | 'f' => Floating.fixed places directive.alternate kept
      | 'e' => Floating.scientific places directive.alternate kept
      | _ => Floating.general places directive.alternate kept
    fillNumber directive (sign negative) (cased shown)

/-- Read the flags of a directive. -/
def flags (directive : Directive) : List Char → Directive × List Char
  | '-' :: rest => flags { directive with left := true } rest
  | '0' :: rest => flags { directive with zeros := true } rest
  | '+' :: rest => flags { directive with plus := true } rest
  | ' ' :: rest => flags { directive with space := true } rest
  | '#' :: rest => flags { directive with alternate := true } rest
  | '\'' :: rest => flags directive rest
  | rest => (directive, rest)

/-- A size that a directive has. -/
structure Size where
  value : Option Int := none
  /-- What follows the size in the format, and the words that are left. -/
  after : List Char
  words : List (List Char)
  objection : Option Objection := none

/-- A number that a directive gives itself or takes from a word. -/
def size (printer : Printer) (chars : List Char) (words : List (List Char)) : Size :=
  match chars with
  | '*' :: rest =>
    let spelled := number printer true (words.headD [])
    ⟨some spelled.value, rest, words.tail, spelled.objection⟩
  | _ =>
    let taken := chars.takeWhile Char.isDigit
    let value : Nat := taken.foldl (fun n c => n * 10 + (c.toNat - 48)) 0
    ⟨if taken.isEmpty then none else some value, chars.drop taken.length, words, none⟩

/-- Whether a program understands a directive with such flags; what stands between the mark and the
letter. -/
def isPossible (between : List Char) (kind : Char) : Bool :=
  let refused (c : Char) : List Char :=
    match c with
    | '#' => "cdisu".toList
    | '0' => "cs".toList
    | '\'' => "aAceEosxX".toList
    | '.' => ['c']
    | _ => []
  let flags := between.takeWhile fun c => "-0+ #'".toList.contains c
  let dot := if between.contains '.' then ['.'] else []
  if kind == 'b' || kind == 'q' then between.isEmpty
  else (flags ++ dot).all fun c => !(refused c).contains kind

/-- What a part of a format comes to. -/
inductive Piece where
  | text (chars : List Char)
  | objection (objection : Objection)
  /-- The variable of a name is to hold how many octets the format has printed before. -/
  | count (name : List Char) (sum : Nat)
  deriving DecidableEq, Repr

/-- What printing words by a format gives. -/
structure Printed where
  pieces : List Piece := []
  /-- The words that have not been printed. -/
  left : List (List Char) := []
  /-- Whether nothing more is to be printed. -/
  stop : Bool := false
  /-- Whether some directive took a word. -/
  took : Bool := false

/-- Put something in front of what is printed. -/
def Printed.after (printed : Printed) (pieces : List Piece) : Printed :=
  { printed with pieces := pieces ++ printed.pieces }

/-- Everything that is printed. -/
def Printed.text (printed : Printed) : List Char :=
  printed.pieces.flatMap fun
    | .text chars => chars
    | _ => []

/-- Everything that is to be told. -/
def Printed.objections (printed : Printed) : List Objection :=
  printed.pieces.filterMap fun
    | .objection objection => some objection
    | _ => none

/-- What comes of a format with the octets counted for the variables that are to hold how many they are. -/
def counted : Nat → List Piece → List Piece
  | _, [] => []
  | sum, .text chars :: rest => .text chars :: counted (sum + chars.length) rest
  | sum, .count name _ :: rest => .count name sum :: counted sum rest
  | sum, .objection objection :: rest => .objection objection :: counted sum rest

/-- The variables that are to hold how many octets have been printed. -/
def Printed.counts (printed : Printed) : List (List Char × Nat) :=
  printed.pieces.filterMap fun
    | .count name sum => some (name, sum)
    | _ => none

/-- Print words by a format, once. The quoting of a word is that of who prints. -/
def once (printer : Printer) (quoted : List Char → List Char) : Nat → List Char → List (List Char) → Printed
  | 0, _, words => { left := words }
  | _ + 1, [], words => { left := words }
  | fuel + 1, '\\' :: rest, words =>
    if printer = .program && rest.head? == some 'c' then { stop := true, left := words }
    else
      let found := escape printer .format rest
      let told := found.objection.toList.map Piece.objection
      if found.objection.any (·.isLast printer) then { pieces := told, stop := true }
      else (once printer quoted fuel found.left words).after (.text found.shown :: told)
  | fuel + 1, '%' :: '%' :: rest, words => (once printer quoted fuel rest words).after [.text ['%']]
  | fuel + 1, '%' :: rest, words =>
    let (flagged, afterFlags) := flags { kind := 's' } rest
    let width := size printer afterFlags words
    let precision : Size := match width.after with
      | '.' :: digits =>
        let found := size printer digits width.words
        { found with value := some (found.value.getD 0) }
      | left => ⟨none, left, width.words, none⟩
    let words := precision.words
    let sizes := (width.objection.toList ++ precision.objection.toList).map Piece.objection
    let afterSizes := if printer = .plain then precision.after
      else precision.after.dropWhile fun c => "hlLjzt".toList.contains c
    let directive (kind : Char) : Directive := { flagged with
      left := flagged.left || (width.value.any (· < 0))
      width := (width.value.getD 0).natAbs
      precision := if precision.value.any (· < 0) then none else precision.value.map Int.toNat
      kind }
    let between := rest.take (rest.length - afterSizes.length)
    let whole := '%' :: between ++ afterSizes.take 1
    match afterSizes with
    | [] => { left := words, pieces := [.objection (.noDirective none whole)], stop := true }
    | kind :: left =>
      let told := directive kind
      let word := words.headD []
      let cut (chars : List Char) : List Char :=
        match told.precision with
        | some most => chars.take most
        | none => chars
      let goOn (pieces : List Piece) : Printed :=
        { (once printer quoted fuel left words.tail).after (sizes ++ pieces) with took := true }
      let shown (chars : List Char) (objection : Option Objection) : List Piece :=
        objection.toList.map Piece.objection ++ [.text chars]
      let noDirective : Printed :=
        { left := words, pieces := [.objection (.noDirective (some kind) whole)], stop := true }
      if printer = .program && !isPossible between kind then noDirective
      else if kind == 's' then goOn [.text (fill told (cut word))]
      else if kind == 'c' then goOn [.text (fill told (if word.isEmpty then ['\x00'] else word.take 1))]
      else if kind == 'b' then
        let found := unescaped printer .argument word
        let objections := found.objections.map Piece.objection
        let pieces := match printer with
          | .program => .text found.text :: objections
          | _ => objections ++ [.text (fill told (cut found.text))]
        if found.stop then { pieces := sizes ++ pieces, left := words.tail, stop := true, took := true }
        else goOn pieces
      else if kind == 'q' && printer != .plain then
        if printer = .program && words.isEmpty then goOn []
        else goOn [.text (fill told (cut (quoted word)))]
      else if kind == 'Q' && printer = .large then goOn [.text (fill told (quoted (cut word)))]
      else if kind == 'n' && printer = .large then goOn [.count word 0]
      else if "diouxX".toList.contains kind then
        let spelled := number printer (kind == 'd' || kind == 'i') word
        goOn (shown (shownNumber told spelled.value) spelled.objection)
      else if "feEgGF".toList.contains kind then
        let (value, objection) := fraction printer word
        goOn (shown (shownFraction printer told value) objection)
      else noDirective
  | fuel + 1, c :: rest, words => (once printer quoted fuel rest words).after [.text [c]]

/-- Print words by a format, again and again while words are left. -/
def repeated (printer : Printer) (quoted : List Char → List Char) (format : List Char) :
    Nat → List (List Char) → Printed
  | 0, _ => {}
  | fuel + 1, words =>
    let first := once printer quoted (format.length + 1) format words
    let printed := { first with pieces := counted 0 first.pieces }
    if printed.left.isEmpty || printed.stop || !printed.took then printed
    else (repeated printer quoted format fuel printed.left).after printed.pieces

/-- What printing words by a format gives in all. -/
def print (printer : Printer) (quoted : List Char → List Char) (format : List Char)
    (words : List (List Char)) : Printed :=
  repeated printer quoted format (words.length + 1) words

end Umpire.Tool.Format
