import Umpire.Host.Transfer
import Umpire.Text.Utf8

/-! What the programs of the host share: their complaints, and the options among their words. -/

namespace Umpire.Tool

open Host

/-- The bytes of a text. -/
abbrev bytes (text : String) : Bytes :=
  Bytes.ofString text

/-- The line end. -/
def lineEnd : UInt8 :=
  Bytes.ascii '\n'

/-- A number as bytes. -/
def numeral (n : Nat) : Bytes :=
  Bytes.ofChars (Numeral.ofNat n)

/-- The name by which this program was called. -/
def ownName : Talk Bytes := do
  return (← call .words).headD []

/-- Complain on standard error in the name of a program. -/
def complainAs (name reason : Bytes) : Talk Unit := do
  let _ ← writeAll 2 (name ++ bytes ": " ++ reason ++ [lineEnd])

/-- Complain on standard error. -/
def complain (reason : Bytes) : Talk Unit := do
  complainAs (← ownName) reason

/-- Whether a character can be printed. -/
def isPrintable (c : Char) : Bool :=
  ' ' ≤ c && c != '\x7f' && !('\x80' ≤ c && c ≤ '\x9f') && c.toNat < 0x10FF80

/-- The escapes for a character that cannot be printed. -/
def escapeOf (c : Char) : List Char :=
  match c with
  | '\x07' => ['\\', 'a']
  | '\x08' => ['\\', 'b']
  | '\x0c' => ['\\', 'f']
  | '\n' => ['\\', 'n']
  | '\r' => ['\\', 'r']
  | '\t' => ['\\', 't']
  | '\x0b' => ['\\', 'v']
  | _ =>
    (Utf8.restored [c]).flatMap fun byte =>
      let digits := Nat.toDigits 8 byte.toNat
      '\\' :: (List.replicate (3 - digits.length) '0' ++ digits)

/-- The rest of a word between single quotes; an escape needs quotes of its own. -/
def shellEscaped : Bool → List Char → List Char
  | _, [] => []
  | isEscape, c :: rest =>
    let close : List Char := if isEscape then ['\'', '\''] else []
    if c == '\'' then close ++ ['\'', '\\', '\'', '\''] ++ shellEscaped false rest
    else if isPrintable c then close ++ c :: shellEscaped false rest
    else (if isEscape then [] else ['\'', '$', '\'']) ++ escapeOf c ++ shellEscaped true rest

/-- Whether a character means nothing to a shell within double quotes, whatever it is to other programs. -/
def isHarmless (c : Char) : Bool :=
  c.isAlphanum || " %+,-./:]_'".toList.contains c

/-- Whether a shell would not read a text as itself. -/
def needsQuotes (chars : List Char) : Bool :=
  match chars with
  | [] => true
  | [c] => "\x7b\x7d".toList.contains c || marked c || c == '#' || c == '~'
  | first :: _ => first == '#' || first == '~' || chars.any marked
where
  /-- Whether a character would not be read as itself wherever it stands. -/
  marked (c : Char) : Bool :=
    !isPrintable c || " !\"$&'()*;<=>?[\\^\x60|".toList.contains c

/-- A word between quotes, as a shell would read it. -/
def quoted (word : Bytes) : Bytes :=
  let chars := Utf8.loose word
  Utf8.restored (if chars.contains '\'' && chars.all isHarmless then ['"'] ++ chars ++ ['"']
    else ['\''] ++ shellEscaped false chars ++ ['\''])

/-- A word between quotes if a shell needs them. -/
def wordShown (word : Bytes) : Bytes :=
  if needsQuotes (Utf8.loose word) then quoted word else word

/-- A word between the quotes that are printed, with escapes for what does not fit there. -/
def cited (word : Bytes) : Bytes :=
  Utf8.restored (['‘'] ++ ((Utf8.loose word).flatMap fun c =>
    if c == '’' || c == '\\' then ['\\', c] else if isPrintable c then [c] else escapeOf c) ++ ['’'])

/-- Complain about a path and the host's refusal. -/
def complainOf (path : Bytes) (errno : Errno) : Talk Unit :=
  let shown := if path.contains (Bytes.ascii ':') then quoted path else wordShown path
  complain (shown ++ bytes ": " ++ bytes errno.usual)

/-- Complain about a path and the host's refusal without regard to what is in the path. -/
def complainBarely (path : Bytes) (errno : Errno) : Talk Unit :=
  complain (path ++ bytes ": " ++ bytes errno.usual)

/-- Tell where more can be read about this program. -/
def hint : Talk Unit := do
  let _ ← writeAll 2 (bytes "Try '" ++ (← ownName) ++ bytes " --help' for more information.\n")

/-- Complain about words that make no sense; the answer is the program's code. -/
def misuse (reason : Bytes) (code : Nat) : Talk Nat := do
  complain reason
  hint
  return code

/-- Print on standard output; the answer is the program's code. -/
def print (data : Bytes) : Talk Nat := do
  match ← writeAll 1 data with
  | .ok () => return 0
  | .error errno =>
    complain (bytes "write error: " ++ bytes errno.usual)
    return 1

/-- Do something with each of some words; the code is the greatest of all. -/
def eachWord (words : List Bytes) (step : Bytes → Talk Nat) : Talk Nat := do
  let mut code := 0
  for word in words do
    code := max code (← step word)
  return code

/-- The options that a program knows. -/
structure Known where
  /-- Their letters; one takes a text if a colon follows it, and only a joined one if two do. -/
  letters : String
  /-- Their long names, and the letters that these stand for. -/
  long : List (String × Char) := []
  /-- Whether the first word that is none ends them. -/
  stops : Bool := false
  /-- The code if the words make no sense. -/
  wrong : Nat := 1

/-- The options among some words, each with its text, and the other words. -/
structure Chosen where
  options : List (Char × Bytes) := []
  words : List Bytes := []

namespace Chosen

/-- Whether an option is among them. -/
def has (chosen : Chosen) (letter : Char) : Bool :=
  chosen.options.any fun option => option.1 == letter

/-- The text of the last option of a letter. -/
def text? (chosen : Chosen) (letter : Char) : Option Bytes :=
  chosen.options.reverse.lookup letter

/-- The texts of all options of a letter. -/
def texts (chosen : Chosen) (letter : Char) : List Bytes :=
  (chosen.options.filter fun option => option.1 == letter).map (·.2)

/-- The last of some options that has been chosen. -/
def last? (chosen : Chosen) (letters : String) : Option Char :=
  ((chosen.options.reverse.find? fun option => letters.toList.contains option.1)).map (·.1)

/-- The words, or the name of standard input if there are none. -/
def inputs (chosen : Chosen) : List Bytes :=
  if chosen.words.isEmpty then [bytes "-"] else chosen.words

end Chosen

/-- How many colons follow a letter; none if the letter is not known. -/
def colons? (letter : Char) : List Char → Option Nat
  | [] => none
  | c :: rest =>
    if c == letter && c != ':' then some (rest.takeWhile (· == ':')).length else colons? letter rest

/-- Read the letters of one word; the answer tells whether the next word belongs to it. -/
def readLetters (known : Known) (next : Option Bytes) :
    List Char → Except Bytes (List (Char × Bytes) × Bool)
  | [] => .ok ([], false)
  | c :: rest =>
    let named : Bytes := bytes " -- '" ++ Bytes.ofOctets [c] ++ bytes "'"
    match colons? c known.letters.toList with
    | none => .error (bytes "invalid option" ++ named)
    | some 0 => (readLetters known next rest).map fun found => ((c, []) :: found.1, found.2)
    | some 1 =>
      if !rest.isEmpty then .ok ([(c, Bytes.ofOctets rest)], false)
      else
        match next with
        | some text => .ok ([(c, text)], true)
        | none => .error (bytes "option requires an argument" ++ named)
    | some _ => .ok ([(c, Bytes.ofOctets rest)], false)

/-- Read a long option, whose name may be cut short. -/
def readLong (known : Known) (next : Option Bytes) (word : Bytes) :
    Except Bytes (List (Char × Bytes) × Bool) :=
  let isSign (byte : UInt8) : Bool := byte == Bytes.ascii '='
  let name := word.takeWhile fun byte => !isSign byte
  let given : Option Bytes := if name.length < word.length then some (word.drop (name.length + 1)) else none
  let shown := bytes "--" ++ name
  let fitting := known.long.filter fun option => name.isPrefixOf (bytes option.1)
  let exact := fitting.filter fun option => bytes option.1 == name
  let letters := (if exact.isEmpty then fitting else exact).map (·.2)
  match letters.eraseDups with
  | [] => .error (bytes "unrecognized option '" ++ bytes "--" ++ word ++ bytes "'")
  | [letter] =>
    let full := bytes "--" ++ bytes ((if exact.isEmpty then fitting else exact).headD ("", ' ')).1
    match (colons? letter known.letters.toList).getD 0, given, next with
    | 0, none, _ => .ok ([(letter, [])], false)
    | 0, some _, _ => .error (bytes "option " ++ quoted full ++ bytes " doesn't allow an argument")
    | _, some text, _ => .ok ([(letter, text)], false)
    | 1, none, some text => .ok ([(letter, text)], true)
    | 1, none, none => .error (bytes "option " ++ quoted full ++ bytes " requires an argument")
    | _, none, _ => .ok ([(letter, [])], false)
  | _ =>
    let all := fitting.map fun option => bytes " '--" ++ bytes option.1 ++ bytes "'"
    .error (bytes "option " ++ quoted shown ++ bytes " is ambiguous; possibilities:" ++ all.flatten)

/-- Read the options among some words. -/
def readOptions (known : Known) : Nat → List Bytes → Except Bytes Chosen
  | 0, words => .ok { words }
  | _ + 1, [] => .ok {}
  | fuel + 1, word :: rest =>
    let goOn (found : List (Char × Bytes) × Bool) : Except Bytes Chosen :=
      (readOptions known fuel (if found.2 then rest.tail else rest)).map fun more =>
        { more with options := found.1 ++ more.options }
    match Bytes.toOctets word with
    | ['-', '-'] => .ok { words := rest }
    | '-' :: '-' :: _ => (readLong known rest.head? (word.drop 2)).bind goOn
    | '-' :: c :: letters => (readLetters known rest.head? (c :: letters)).bind goOn
    | _ =>
      if known.stops then .ok { words := word :: rest }
      else (readOptions known fuel rest).map fun more => { more with words := word :: more.words }

/-- Do what a program does, given its options, or tell what is wrong with them. -/
def withOptions (known : Known) (words : List Bytes) (work : Chosen → Talk Nat) : Talk Nat := do
  match readOptions known (words.length + 1) words with
  | .ok chosen => work chosen
  | .error reason => misuse reason known.wrong

/-- Complain that a program needs more words. -/
def lacksOperand : Talk Nat :=
  misuse (bytes "missing operand") 1

/-- Complain about a word that is one too many. -/
def extraOperand (word : Bytes) (code : Nat) : Talk Nat :=
  misuse (bytes "extra operand " ++ cited word) code

/-- The number that a word spells. -/
def natural? (word : Bytes) : Option Nat :=
  (Numeral.readNat 9223372036854775807 (Bytes.toOctets word)).toOption

/-- The number that a word of digits and a unit spells. -/
def amount? (word : Bytes) : Option Nat :=
  let chars := Bytes.toOctets word
  let digits := chars.takeWhile Char.isDigit
  if digits.isEmpty then none
  else
    let value : Nat := digits.foldl (fun n c => n * 10 + (c.toNat - 48)) 0
    let unit : Option Nat := match String.ofList (chars.drop digits.length) with
      | "" | "c" => some 1
      | "w" => some 2
      | "b" => some 512
      | "k" | "K" | "KiB" => some 1024
      | "kB" | "KB" => some 1000
      | "M" | "MiB" => some 1048576
      | "MB" => some 1000000
      | "G" | "GiB" => some 1073741824
      | "GB" => some 1000000000
      | _ => none
    unit.map (value * ·)

/-- The lines of some bytes, their ends included. -/
def linesOf : Bytes → List Bytes
  | [] => []
  | byte :: rest =>
    if byte == lineEnd then [byte] :: linesOf rest
    else
      match linesOf rest with
      | [] => [[byte]]
      | line :: others => (byte :: line) :: others

/-- A line without its end. -/
def bareLine (line : Bytes) : Bytes :=
  if line.getLast? == some lineEnd then line.dropLast else line

/-- Open a file to read, or standard input if the path is a hyphen. -/
def openInput (path : Bytes) : Talk (Except Errno Nat) := do
  if path = bytes "-" then return .ok 0 else call (.openFile path Access.reading false)

/-- Read a whole file, or standard input if the path is a hyphen. -/
def readInput (path : Bytes) : Talk (Except Errno Bytes) := do
  match ← openInput path with
  | .error errno => return .error errno
  | .ok fd =>
    let data ← readAll fd
    if fd != 0 then
      let _ ← call (.close fd)
    return data

/-- Whether a descriptor stands for the very file that standard output goes to, and it is not empty: what is
copied would never end. -/
def feedsItself (fd : Nat) : Talk Bool := do
  let infoOf (number : Nat) : Talk (Except Errno Info) :=
    call (.info (bytes "/proc/self/fd/" ++ numeral number) true)
  match ← infoOf fd with
  | .error _ => return false
  | .ok info =>
    if info.kind != .file || info.size = 0 then return false
    else
      match ← infoOf 1 with
      | .error _ => return false
      | .ok output => return output.kind == .file && output.identity = info.identity

end Umpire.Tool
