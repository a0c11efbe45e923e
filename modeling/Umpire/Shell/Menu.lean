import Umpire.Shell.Pattern
import Umpire.Text.Numeral

/-! Menus: numbered words in columns, from which one can be chosen. -/

namespace Umpire.Shell.Menu

/-- How many columns there are on a line. -/
def columns : Nat := 80

/-- Blanks from one column to another one, as few as there can be with tabs. -/
def indent : Nat → Nat → Nat → List Char
  | 0, _, _ => []
  | fuel + 1, start, finish =>
    if finish ≤ start then []
    else if start / 8 < finish / 8 then '\t' :: indent fuel (start + (8 - start % 8)) finish
    else ' ' :: indent fuel (start + 1) finish

/-- A number with blanks before it. -/
def aligned (width n : Nat) : List Char :=
  let digits := Numeral.ofNat n
  List.replicate (width - digits.length) ' ' ++ digits

/-- One row: the words that are so many apart, from a number on. -/
def row (words : List (List Char)) (rows widest indexWidth : Nat) : Nat → Nat → Nat → Nat → List Char
  | 0, _, _, _ => ['\n']
  | fuel + 1, width, number, start =>
    let word := words[number - 1]?.getD []
    let shown := aligned width number ++ [')', ' '] ++ word
    if words.length < number + rows then shown ++ ['\n']
    else
      let reached := start + width + 2 + (Pattern.characters word).length
      shown ++ indent widest reached (start + widest) ++
        row words rows widest indexWidth fuel indexWidth (number + rows) (start + widest)

/-- The menu of some words: down the columns, of which there are as many as fit, but not in one row. -/
def text (words : List (List Char)) : List Char :=
  let count := words.length
  let indexWidth := (Numeral.ofNat count).length
  let longest := (words.map fun word => (Pattern.characters word).length).foldr max 0
  let widest := longest + indexWidth + 4
  let fitting := max 1 (columns / widest)
  let rows := (count + fitting - 1) / fitting
  let inRows := if rows = 1 then count else rows
  let first := (Numeral.ofNat inRows).length
  (List.range inRows).flatMap fun place => row words inRows widest indexWidth (count + 1) first (place + 1) 0

end Umpire.Shell.Menu
