import Umpire.Text.Utf8

/-! Text freed of terminal control: escape sequences and control characters print nothing. -/

namespace Umpire.Text

/-- How far a terminal has read into a control sequence. -/
inductive Control where
  /-- In a stretch that is printed. -/
  | printing
  /-- Outside of any sequence, where nothing has been printed since the last. -/
  | ground
  /-- Right after the escape character. -/
  | escape
  /-- In an escape sequence that has more than one character. -/
  | intermediate
  /-- In a sequence that ends with a letter or a like character. -/
  | parameters
  /-- At the head of a string for a device, before its numbers, in them or after them. -/
  | device
  | deviceNumbers
  | deviceMarks
  /-- In a string that a terminator of one byte may end. -/
  | string
  /-- In a string that the bell may end. -/
  | bellString
  deriving DecidableEq, Repr

namespace Control

/-- Line ends, tabs and form feeds, which lay out a text and are printed. -/
def isLayout (byte : UInt8) : Bool :=
  byte == 9 || byte == 10 || byte == 12 || byte == 13

/-- Where a terminal stands after a byte other than one that ends all sequences. -/
def next (state : Control) (byte : UInt8) : Control :=
  let isFinal := 0x40 ≤ byte && byte ≤ 0x7E
  let isMark := 0x20 ≤ byte && byte ≤ 0x2F
  let isParameter := 0x30 ≤ byte && byte ≤ 0x3F
  match state with
  | .printing | .ground => .ground
  | .escape =>
    if isMark then .intermediate
    else if byte == 0x5B then .parameters
    else if byte == 0x5D then .bellString
    else if byte == 0x50 then .device
    else if byte == 0x58 || byte == 0x5E || byte == 0x5F then .string
    else if isParameter || isFinal then .ground
    else .escape
  | .intermediate => if isParameter || isFinal then .ground else .intermediate
  | .parameters => if isFinal then .ground else .parameters
  | .device =>
    if isFinal || byte == 0x3A then .string
    else if isMark then .deviceMarks
    else if isParameter then .deviceNumbers
    else .device
  | .deviceNumbers =>
    if isFinal || byte == 0x3A || (0x3C ≤ byte && byte ≤ 0x3F) then .string
    else if isMark then .deviceMarks
    else .deviceNumbers
  | .deviceMarks => if isFinal || isParameter then .string else .deviceMarks
  | .string => if byte == 0x9C then .ground else .string
  | .bellString => if byte == 7 then .ground else .bellString

/-- Whether a byte is printed in some state. Layout is printed even inside a sequence, which it ends,
but not inside a string. A byte that continues a character follows the fate of the one before it. -/
def prints (state : Control) (byte : UInt8) : Bool :=
  match state with
  | .printing => isLayout byte || (0x20 ≤ byte && byte ≤ 0x7E) || 0x80 ≤ byte
  | .ground => isLayout byte || (0x20 ≤ byte && byte ≤ 0x7E) || 0xC2 ≤ byte
  | .escape | .intermediate | .parameters => isLayout byte
  | _ => false

/-- Where a terminal stands after a byte, and whether it prints the byte. -/
def step (state : Control) (byte : UInt8) : Control × Bool :=
  if state.prints byte then (.printing, true)
  else if byte == 0x1B then (.escape, false)
  else if byte == 0x18 || byte == 0x1A then (.ground, false)
  else (state.next byte, false)

end Control

/-- What a terminal prints of some bytes that it starts to read in a given state. -/
def plainFrom (state : Control) : Bytes → Bytes
  | [] => []
  | byte :: rest =>
    let (next, printed) := state.step byte
    if printed then byte :: plainFrom next rest else plainFrom next rest

/-- What a terminal prints of a text. -/
def plain (chars : List Char) : List Char :=
  Utf8.lossy (plainFrom .ground (Bytes.ofChars chars))

end Umpire.Text
