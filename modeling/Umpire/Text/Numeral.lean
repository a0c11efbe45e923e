/-! Decimal numerals: how integers are written, and how a bounded one is read. -/

namespace Umpire.Numeral

/-- The decimal digits of a natural number, without leading zeros. -/
def ofNat (n : Nat) : List Char :=
  Nat.toDigits 10 n

/-- The decimal form of an integer, with a minus sign if it is negative. -/
def ofInt : Int → List Char
  | .ofNat n => ofNat n
  | .negSucc n => '-' :: ofNat (n + 1)

/-- Why a text is no numeral of the wanted range. -/
inductive Fault where
  | empty
  | invalidDigit
  | tooLarge
  | tooSmall
  deriving DecidableEq, Repr

/-- The wording of each fault. -/
def Fault.message : Fault → String
  | .empty => "cannot parse integer from empty string"
  | .invalidDigit => "invalid digit found in string"
  | .tooLarge => "number too large to fit in target type"
  | .tooSmall => "number too small to fit in target type"

/-- The value of an ASCII digit. -/
def digit? (c : Char) : Option Nat :=
  if '0' ≤ c ∧ c ≤ '9' then some (c.toNat - '0'.toNat) else none

/-- The value of a hexadecimal digit. -/
def hexDigit? (c : Char) : Option Nat :=
  if '0' ≤ c ∧ c ≤ '9' then some (c.toNat - '0'.toNat)
  else if 'a' ≤ c ∧ c ≤ 'f' then some (c.toNat - 'a'.toNat + 10)
  else if 'A' ≤ c ∧ c ≤ 'F' then some (c.toNat - 'A'.toNat + 10)
  else none

/-- Read digits after `value`, stopping at the first that is no digit or passes `limit`. -/
def readDigits (limit : Nat) (beyond : Fault) (value : Nat) : List Char → Except Fault Nat
  | [] => .ok value
  | c :: rest =>
    match digit? c with
    | none => .error .invalidDigit
    | some d =>
      if value * 10 + d ≤ limit then readDigits limit beyond (value * 10 + d) rest
      else .error beyond

/-- Read a natural number up to `limit`: an optional plus sign and digits. -/
def readNat (limit : Nat) : List Char → Except Fault Nat
  | [] => .error .empty
  | ['+'] => .error .invalidDigit
  | '+' :: rest => readDigits limit .tooLarge 0 rest
  | chars => readDigits limit .tooLarge 0 chars

/-- Read a signed number of 32 bits: an optional sign and digits. -/
def readInt32 : List Char → Except Fault Int32
  | [] => .error .empty
  | ['+'] => .error .invalidDigit
  | ['-'] => .error .invalidDigit
  | '+' :: rest => (readDigits 2147483647 .tooLarge 0 rest).map Int32.ofNat
  | '-' :: rest => (readDigits 2147483648 .tooSmall 0 rest).map fun n => Int32.ofInt (-n)
  | chars => (readDigits 2147483647 .tooLarge 0 chars).map Int32.ofNat

/-- Read a byte-sized number, up to 255. -/
def readByte (chars : List Char) : Except Fault UInt8 :=
  (readNat 255 chars).map UInt8.ofNat

end Umpire.Numeral
