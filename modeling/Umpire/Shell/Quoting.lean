import Umpire.Shell.Pattern
import Umpire.Shell.Source

/-! Texts written so that a shell reads them as themselves. -/

namespace Umpire.Shell.Quoting

/-- A text between single quotes; those inside are shielded in the way of each shell. -/
def single (dialect : Dialect) (chars : List Char) : List Char :=
  let shielded : List Char := match dialect with
    | .plain => "'\"'\"'".toList
    | .large => "'\\''".toList
  ['\''] ++ (chars.flatMap fun c => if c == '\'' then shielded else [c]) ++ ['\'']

/-- Whether a character stands for itself on a terminal. -/
def isPrintable (c : Char) : Bool :=
  ' ' ≤ c && c != '\x7f'

/-- Three octal digits. -/
def octal (n : Nat) : List Char :=
  let digits := Nat.toDigits 8 n
  List.replicate (3 - digits.length) '0' ++ digits

/-- A text between the large shell's own quotes, in which every character can be printed. -/
def escaped (chars : List Char) : List Char :=
  let shown (c : Char) : List Char :=
    match c with
    | '\x07' => ['\\', 'a']
    | '\x08' => ['\\', 'b']
    | '\x1b' => ['\\', 'E']
    | '\x0c' => ['\\', 'f']
    | '\n' => ['\\', 'n']
    | '\r' => ['\\', 'r']
    | '\t' => ['\\', 't']
    | '\x0b' => ['\\', 'v']
    | '\\' => ['\\', '\\']
    | '\'' => ['\\', '\'']
    | _ => if isPrintable c && c < '\x80' then [c] else '\\' :: octal c.toNat
  let character (found : List Char) : List Char :=
    match found with
    | [c] => shown c
    | several => several
  "$'".toList ++ (Pattern.characters chars).flatMap character ++ ['\'']

/-- Whether a text has characters that cannot be printed, or octets that are no characters. -/
def isStrange (chars : List Char) : Bool :=
  (Pattern.characters chars).any fun
    | [c] => !isPrintable c || '\x80' ≤ c
    | _ => false

/-- A text as the large shell writes values that can be read again. -/
def value (chars : List Char) : List Char :=
  if isStrange chars then escaped chars else single .large chars

/-- A text between double quotes. -/
def double (chars : List Char) : List Char :=
  if isStrange chars then escaped chars
  else
    ['"'] ++ (chars.flatMap fun c =>
      if c == '"' || c == '$' || c == '\x60' || c == '\\' then ['\\', c] else [c]) ++ ['"']

/-- Characters that mean something to a shell wherever they stand. -/
def meaningful : List Char :=
  " \t\n'\"\\|&;()<>!\x7b\x7d*[?]^$\x60".toList

/-- A text with a backslash before every character that means something. -/
def backslashed (chars : List Char) : List Char :=
  if chars.isEmpty then ['\'', '\'']
  else if isStrange chars then escaped chars
  else
    match chars with
    | first :: rest =>
      let shown (c : Char) : List Char := if meaningful.contains c || c == ',' then ['\\', c] else [c]
      (if first == '#' || first == '~' then ['\\', first] else shown first) ++ rest.flatMap shown
    | [] => []

/-- A word as a trace shows it: between quotes if it would not be read as itself. -/
def traced (dialect : Dialect) (chars : List Char) : List Char :=
  match dialect with
  | .plain => chars
  | .large =>
    if chars.isEmpty then ['\'', '\'']
    else
      let startsSpecially := match chars with
        | '~' :: _ | '#' :: _ => true
        | _ => false
      let needsQuotes := startsSpecially || chars.any fun c => meaningful.contains c
      if needsQuotes then single .large chars else if isStrange chars then escaped chars else chars

/-- A value as the large shell lists it. -/
def listed (chars : List Char) : List Char :=
  if chars.isEmpty then [] else if isStrange chars then escaped chars else traced .large chars

end Umpire.Shell.Quoting
