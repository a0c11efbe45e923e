import Umpire.Text.Numeral

/-! How long commands have taken, in words. -/

namespace Umpire.Shell.Timing

/-- The format in which times are told, and the one for programs that read them. -/
def usual (portable : Bool) : List Char :=
  (if portable then "real %2R\nuser %2U\nsys %2S" else "\nreal\t%3lR\nuser\t%3lU\nsys\t%3lS").toList

/-- A number of microseconds in seconds, with so many places, of which there are three at most. -/
def seconds (places : Nat) (long : Bool) (micros : Nat) : List Char :=
  let whole := micros / 1000000
  let digits := Numeral.ofNat (micros % 1000000 / 1000 + 1000)
  let fraction := if places = 0 then [] else '.' :: (digits.drop 1).take places
  if long then
    Numeral.ofNat (whole / 60) ++ 'm' :: Numeral.ofNat (whole % 60) ++ fraction ++ ['s']
  else Numeral.ofNat whole ++ fraction

/-- A report on commands that took so many microseconds, during which they had almost nothing to do, or a
letter of the format that means nothing. -/
def report (micros : Nat) : Nat → List Char → Except Char (List Char)
  | 0, _ => .ok []
  | _ + 1, [] => .ok []
  | fuel + 1, '%' :: '%' :: rest => (report micros fuel rest).map ('%' :: ·)
  | fuel + 1, '%' :: rest =>
    let digit := (rest.takeWhile Char.isDigit).take 1
    let afterDigit := rest.drop digit.length
    let long := afterDigit.head? == some 'l'
    let places := match digit with
      | [c] => min 3 (c.toNat - 48)
      | _ => 3
    match if long then afterDigit.tail else afterDigit with
    | 'R' :: others => (report micros fuel others).map (seconds places long micros ++ ·)
    | 'U' :: others | 'S' :: others => (report micros fuel others).map (seconds places long 0 ++ ·)
    | 'P' :: others => (report micros fuel others).map (seconds 2 false 0 ++ ·)
    | c :: _ => .error c
    | [] => .error '\x00'
  | fuel + 1, c :: rest => (report micros fuel rest).map (c :: ·)

end Umpire.Shell.Timing
