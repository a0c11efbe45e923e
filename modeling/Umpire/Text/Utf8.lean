import Umpire.Text.Bytes

/-! Reading bytes as UTF-8: well-formed characters and, between them, the bytes that begin none. -/

namespace Umpire.Utf8

/-- A stretch of bytes: one character, or the longest start of one that is broken off. -/
inductive Piece where
  | char (c : Char)
  | broken (bytes : Bytes)
  deriving DecidableEq, Repr

/-- The bytes that may follow the first byte of a character. -/
def isTail (byte : UInt8) : Bool :=
  0x80 ≤ byte && byte ≤ 0xBF

/-- The second byte that the first byte allows, which rules out overlong forms and surrogates. -/
def isSecond (first second : UInt8) : Bool :=
  if first == 0xE0 then 0xA0 ≤ second && second ≤ 0xBF
  else if first == 0xED then 0x80 ≤ second && second ≤ 0x9F
  else if first == 0xF0 then 0x90 ≤ second && second ≤ 0xBF
  else if first == 0xF4 then 0x80 ≤ second && second ≤ 0x8F
  else isTail second

/-- How many bytes a character has, told by its first byte; zero for a byte that begins none. -/
def width (first : UInt8) : Nat :=
  if first < 0x80 then 1
  else if 0xC2 ≤ first && first ≤ 0xDF then 2
  else if 0xE0 ≤ first && first ≤ 0xEF then 3
  else if 0xF0 ≤ first && first ≤ 0xF4 then 4
  else 0

/-- The payload bits of a byte after the first. -/
def tailBits (byte : UInt8) : Nat :=
  byte.toNat % 64

/-- The first piece of a nonempty byte string, and how many bytes it covers beyond the first. -/
def piece (first : UInt8) (rest : Bytes) : Piece × Nat :=
  match width first, rest with
  | 1, _ => (.char (Char.ofNat first.toNat), 0)
  | 2, b :: _ =>
    if isSecond first b then (.char (Char.ofNat (first.toNat % 32 * 64 + tailBits b)), 1)
    else (.broken [first], 0)
  | 3, b :: tail =>
    if isSecond first b then
      match tail with
      | c :: _ =>
        if isTail c then
          (.char (Char.ofNat (first.toNat % 16 * 4096 + tailBits b * 64 + tailBits c)), 2)
        else (.broken [first, b], 1)
      | [] => (.broken [first, b], 1)
    else (.broken [first], 0)
  | 4, b :: tail =>
    if isSecond first b then
      match tail with
      | c :: tail =>
        if isTail c then
          match tail with
          | d :: _ =>
            if isTail d then
              (.char (Char.ofNat
                (first.toNat % 8 * 262144 + tailBits b * 4096 + tailBits c * 64 + tailBits d)), 3)
            else (.broken [first, b, c], 2)
          | [] => (.broken [first, b, c], 2)
        else (.broken [first, b], 1)
      | [] => (.broken [first, b], 1)
    else (.broken [first], 0)
  | _, _ => (.broken [first], 0)

/-- A byte string cut into characters and broken stretches, in order. -/
def pieces : Bytes → List Piece
  | [] => []
  | first :: rest =>
    let found := piece first rest
    found.1 :: pieces (rest.drop found.2)
termination_by bytes => bytes.length
decreasing_by
  simp only [List.length_drop, List.length_cons]
  omega

/-- The characters of a well-formed byte string. -/
def decode? (bytes : Bytes) : Option (List Char) :=
  (pieces bytes).mapM fun
    | .char c => some c
    | .broken _ => none

/-- The characters of a byte string, with one replacement character for each broken stretch. -/
def lossy (bytes : Bytes) : List Char :=
  (pieces bytes).map fun
    | .char c => c
    | .broken _ => '\uFFFD'

/-- The text of a byte string, broken stretches replaced. -/
def lossyString (bytes : Bytes) : String :=
  String.ofList (lossy bytes)

/-- The characters of a byte string; a byte that belongs to none becomes one that stands for no other. -/
def loose (bytes : Bytes) : List Char :=
  (pieces bytes).flatMap fun
    | .char c => [c]
    | .broken found => found.map fun byte => Char.ofNat (0x10FF00 + byte.toNat)

/-- The byte string that was read as some characters. -/
def restored (chars : List Char) : Bytes :=
  chars.flatMap fun c =>
    if 0x10FF80 ≤ c.toNat then [UInt8.ofNat (c.toNat - 0x10FF00)] else Bytes.ofChars [c]

end Umpire.Utf8
