import Umpire.Text.Numeral

/-! Permission bits as words spell them: octal digits, or what is granted to whom. -/

namespace Umpire.Tool.Mode

/-- Why a word spells no permission bits. -/
inductive Objection where
  | notOctal
  /-- Something else stands where it is said what is done. -/
  | noOperator (found : Char)
  /-- Something is granted that there is not. -/
  | noPermission (found : Char)
  deriving DecidableEq, Repr

/-- The bits of everybody whom a letter means. -/
def whom (letter : Char) : Option Nat :=
  match letter with
  | 'u' => some 0o4700
  | 'g' => some 0o2070
  | 'o' => some 0o1007
  | 'a' => some 0o7777
  | _ => none

/-- The bits that a letter grants to everybody, given what there is. -/
def granted (mode : Nat) (isDirectory : Bool) (letter : Char) : Option Nat :=
  match letter with
  | 'r' => some 0o444
  | 'w' => some 0o222
  | 'x' => some 0o111
  | 'X' => some (if isDirectory || mode &&& 0o111 != 0 then 0o111 else 0)
  | 's' => some 0o6000
  | 't' => some 0o1000
  | 'u' => some ((mode / 64 % 8) * 0o111)
  | 'g' => some ((mode / 8 % 8) * 0o111)
  | 'o' => some ((mode % 8) * 0o111)
  | _ => none

/-- Bits without some others. -/
def without (bits others : Nat) : Nat :=
  bits - (bits &&& others)

/-- Carry out what follows the letters that say who is meant. -/
def operations (isDirectory : Bool) (who : Nat) : Nat → Nat → List Char → Except Objection Nat
  | 0, mode, _ => .ok mode
  | _ + 1, mode, [] => .ok mode
  | fuel + 1, mode, operator :: rest =>
    if operator != '+' && operator != '-' && operator != '=' then .error (.noOperator operator)
    else
      let letters := rest.takeWhile fun c => c != '+' && c != '-' && c != '='
      match letters.find? fun c => (granted mode isDirectory c).isNone with
      | some wrong => .error (.noPermission wrong)
      | none =>
        let bits := (letters.filterMap (granted mode isDirectory)).foldl (· ||| ·) 0 &&& who
        let changed := match operator with
          | '+' => mode ||| bits
          | '-' => without mode bits
          -- The bits of a directory that are nobody's permissions stay.
          | _ => without mode (who &&& (if isDirectory then 0o1777 else 0o7777)) ||| bits
        operations isDirectory who fuel changed (rest.drop letters.length)

/-- Carry out one clause. Where nobody is named, everybody is meant but for what a mask takes away. -/
def clause (isDirectory : Bool) (mask mode : Nat) (chars : List Char) : Except Objection Nat :=
  let named := chars.takeWhile fun c => (whom c).isSome
  let who := if named.isEmpty then without 0o7777 mask
    else (named.filterMap whom).foldl (· ||| ·) 0
  match chars.drop named.length with
  | [] => .error (.noOperator '\x00')
  | rest => operations isDirectory who (rest.length + 1) mode rest

/-- The permission bits that a word makes of others. -/
def changed (isDirectory : Bool) (mask mode : Nat) (word : List Char) : Except Objection Nat :=
  if word.head?.any Char.isDigit then
    if word.all fun c => '0' ≤ c && c ≤ '7' then
      let value := word.foldl (fun n c => n * 8 + (c.toNat - 48)) 0
      if 0o7777 < value then .error .notOctal else .ok value
    else .error .notOctal
  else
    (word.splitOn ',').foldl (fun reached chars =>
      reached.bind fun mode => clause isDirectory mask mode chars) (.ok mode)

/-- Three permissions as letters. -/
def letters (bits : Nat) : List Char :=
  [if bits / 4 % 2 = 1 then 'r' else '-', if bits / 2 % 2 = 1 then 'w' else '-',
    if bits % 2 = 1 then 'x' else '-']

end Umpire.Tool.Mode
