import Umpire.Text.Bytes
import Umpire.Text.Numeral

/-! The placeholder that stands in a side's words for the number of its private descriptor. -/

namespace Umpire.Placeholder

/-- The six bytes of the placeholder. -/
def needle : Bytes :=
  Bytes.ofString "__FD__"

/-- The bytes of a token with each placeholder replaced, from the left and without overlap. -/
def replace (value : Bytes) : Bytes → Bytes
  | [] => []
  | byte :: rest =>
    if needle.isPrefixOf (byte :: rest) then value ++ replace value (rest.drop (needle.length - 1))
    else byte :: replace value rest
termination_by token => token.length
decreasing_by
  · simp only [List.length_drop, List.length_cons]
    omega
  · simp

/-- How many placeholders a token has, counted from the left and without overlap. -/
def count : Bytes → Nat
  | [] => 0
  | byte :: rest =>
    if needle.isPrefixOf (byte :: rest) then 1 + count (rest.drop (needle.length - 1))
    else count rest
termination_by token => token.length
decreasing_by
  · simp only [List.length_drop, List.length_cons]
    omega
  · simp

/-- The decimal form of a descriptor number. -/
def decimal (fd : Int32) : Bytes :=
  Bytes.ofChars (Numeral.ofInt fd.toInt)

/-- The words of a side with each placeholder replaced by a descriptor number. -/
def substitute (words : List Bytes) (fd : Int32) : List Bytes :=
  words.map (replace (decimal fd))

/-- How many placeholders a side's words have in all. -/
def total (words : List Bytes) : Nat :=
  (words.map count).foldr (· + ·) 0

end Umpire.Placeholder
