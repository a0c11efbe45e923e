/-! Byte strings: the form in which tokens, paths and file contents are kept. -/

namespace Umpire

/-- A byte string; tokens and paths need not be valid text. -/
abbrev Bytes := List UInt8

namespace Bytes

/-- The UTF-8 form of a list of characters. -/
def ofChars (chars : List Char) : Bytes :=
  chars.flatMap String.utf8EncodeChar

/-- The UTF-8 form of a text. -/
def ofString (text : String) : Bytes :=
  ofChars text.toList

/-- The byte that stands for an ASCII character. -/
abbrev ascii (c : Char) : UInt8 :=
  c.toUInt8

/-- Paths cannot hold the zero byte, which ends a name for the host. -/
def hasNul (bytes : Bytes) : Bool :=
  bytes.contains 0

/-- Byte strings are ordered by their first difference, a proper start coming first. -/
def before : Bytes → Bytes → Bool
  | [], [] => false
  | [], _ :: _ => true
  | _ :: _, [] => false
  | a :: left, b :: right => a < b || (a == b && before left right)

/-- One character per byte, which lets byte strings be matched against ASCII patterns. -/
def toOctets (bytes : Bytes) : List Char :=
  bytes.map fun byte => Char.ofNat byte.toNat

/-- The byte string whose bytes are the given characters, each below 256. -/
def ofOctets (chars : List Char) : Bytes :=
  chars.map fun c => UInt8.ofNat c.toNat

end Bytes

end Umpire
