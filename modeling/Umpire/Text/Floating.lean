import Umpire.Text.Numeral

/-! Numbers with a fraction: reading decimals, rounding them to so many binary digits, and writing them with
so many places. -/

namespace Umpire.Floating

/-- A number that is not negative, as a ratio whose second part is not zero. -/
structure Ratio where
  above : Nat
  below : Nat
  deriving DecidableEq, Repr

/-- A power as a natural number. -/
def power (base exponent : Nat) : Nat :=
  Nat.pow base exponent

/-- A ratio times a power of a base, whose exponent may be negative. -/
def Ratio.scaled (ratio : Ratio) (base : Nat) (exponent : Int) : Ratio :=
  if exponent < 0 then ⟨ratio.above, ratio.below * power base exponent.natAbs⟩
  else ⟨ratio.above * power base exponent.natAbs, ratio.below⟩

/-- The nearest whole number; of two that are as near, the even one. -/
def Ratio.round (ratio : Ratio) : Nat :=
  let whole := ratio.above / ratio.below
  let twice := 2 * (ratio.above % ratio.below)
  if twice < ratio.below then whole
  else if ratio.below < twice then whole + 1
  else whole + whole % 2

/-- Whether a ratio is less than another. -/
def Ratio.less (a b : Ratio) : Bool :=
  a.above * b.below < b.above * a.below

/-- The nearest number with so many binary digits. -/
def Ratio.withBits (ratio : Ratio) (bits : Nat) : Ratio :=
  if ratio.above = 0 then ratio
  else
    let guess : Int := (Nat.log2 ratio.above : Int) - Nat.log2 ratio.below - bits
    -- One more step if the guess leaves too many digits before the point.
    let exponent := if (ratio.scaled 2 (-guess)).less ⟨power 2 bits, 1⟩ then guess else guess + 1
    let mantissa := (ratio.scaled 2 (-exponent)).round
    (Ratio.mk mantissa 1).scaled 2 exponent

/-- A number with its sign, or one that is no number of the usual kind. -/
inductive Value where
  | finite (negative : Bool) (ratio : Ratio)
  | infinite (negative : Bool)
  | notANumber (negative : Bool)
  deriving DecidableEq, Repr

/-- Read a decimal at the start of a text; the answer is its value and what follows it. -/
def read? (chars : List Char) : Option (Value × List Char) :=
  let negative := chars.head? == some '-'
  let unsigned := if negative || chars.head? == some '+' then chars.tail else chars
  let lowered := (unsigned.take 8).map Char.toLower
  if "infinity".toList.isPrefixOf lowered then some (.infinite negative, unsigned.drop 8)
  else if "inf".toList.isPrefixOf lowered then some (.infinite negative, unsigned.drop 3)
  else if "nan".toList.isPrefixOf lowered then some (.notANumber negative, unsigned.drop 3)
  else
    let whole := unsigned.takeWhile Char.isDigit
    let afterWhole := unsigned.drop whole.length
    let places := match afterWhole with
      | '.' :: rest => rest.takeWhile Char.isDigit
      | _ => []
    if whole.isEmpty && places.isEmpty then none
    else
      let afterPlaces := match afterWhole with
        | '.' :: rest => rest.drop places.length
        | _ => afterWhole
      let digits (chars : List Char) : Nat := chars.foldl (fun n c => n * 10 + (c.toNat - 48)) 0
      let (exponent, rest) : Int × List Char :=
        match afterPlaces with
        | mark :: others =>
          if mark == 'e' || mark == 'E' then
            let down := others.head? == some '-'
            let left := if down || others.head? == some '+' then others.tail else others
            let taken := left.takeWhile Char.isDigit
            if taken.isEmpty then (0, afterPlaces)
            else (if down then -(digits taken : Int) else digits taken, left.drop taken.length)
          else (0, afterPlaces)
        | [] => (0, [])
      let bounded := max (-5000) (min 5000 exponent)
      let ratio := (Ratio.mk (digits (whole ++ places)) 1).scaled 10 (bounded - places.length)
      some (.finite negative ratio, rest)

/-- Digits with a point before the last of them, as many as there are places. -/
def pointed (places : Nat) (keepPoint : Bool) (value : Nat) : List Char :=
  let digits := Numeral.ofNat value
  let padded := List.replicate (places + 1 - digits.length) '0' ++ digits
  let cut := padded.length - places
  padded.take cut ++ (if places = 0 && !keepPoint then [] else '.' :: padded.drop cut)

/-- A number with so many places after the point. -/
def fixed (places : Nat) (keepPoint : Bool) (ratio : Ratio) : List Char :=
  pointed places keepPoint (ratio.scaled 10 places).round

/-- The exponent of the power of ten that a number has before its point, and its digits, one before the
point and so many after it. -/
def digitsOf (places : Nat) (ratio : Ratio) : Int × Nat :=
  if ratio.above = 0 then (0, 0)
  else
    let guess : Int := (Numeral.ofNat ratio.above).length - (Numeral.ofNat ratio.below).length
    let exponent := if (ratio.scaled 10 (-guess)).less ⟨1, 1⟩ then guess - 1 else guess
    let digits := (ratio.scaled 10 (places - exponent)).round
    -- Rounding can lead to the next power of ten.
    if digits < power 10 (places + 1) then (exponent, digits) else (exponent + 1, digits / 10)

/-- A number with one digit before the point, so many after it, and an exponent. -/
def scientific (places : Nat) (keepPoint : Bool) (ratio : Ratio) : List Char :=
  let (exponent, digits) := digitsOf places ratio
  let shown := Numeral.ofNat exponent.natAbs
  pointed places keepPoint digits ++ ['e', if exponent < 0 then '-' else '+'] ++
    List.replicate (2 - shown.length) '0' ++ shown

/-- A text without the zeros at the end of its places. -/
def trimmed (chars : List Char) : List Char :=
  if chars.contains '.' then
    let kept := chars.reverse.dropWhile (· == '0')
    (if kept.head? == some '.' then kept.tail else kept).reverse
  else chars

/-- A number with so many digits, in the form that its size calls for. -/
def general (precision : Nat) (keepZeros : Bool) (ratio : Ratio) : List Char :=
  let digits := max 1 precision
  let (exponent, _) := digitsOf (digits - 1) ratio
  if exponent < -4 || (digits : Int) ≤ exponent then
    let shown := scientific (digits - 1) keepZeros ratio
    if keepZeros then shown
    else trimmed (shown.takeWhile (· != 'e')) ++ shown.dropWhile (· != 'e')
  else
    let shown := fixed ((digits : Int) - 1 - exponent).toNat keepZeros ratio
    if keepZeros then shown else trimmed shown

end Umpire.Floating
