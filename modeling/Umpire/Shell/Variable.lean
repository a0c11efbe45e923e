import Umpire.Text.Numeral

/-! Variables of a shell: texts, arrays whose elements are numbered, and tables with texts as keys. -/

namespace Umpire.Shell

/-- What a variable holds. -/
inductive Content where
  /-- Nothing yet. -/
  | none
  | text (chars : List Char)
  /-- Elements in the order of their numbers. -/
  | list (items : List (Nat × List Char))
  | table (items : List (List Char × List Char))
  deriving DecidableEq, Repr

/-- A variable of a shell. -/
structure Variable where
  content : Content := .none
  exported : Bool := false
  /-- Whether it cannot be changed. -/
  fixed : Bool := false
  /-- Whether what it is given is an arithmetic term. -/
  integer : Bool := false
  /-- Whether what it is given is turned into upper case, or into lower case. -/
  upper : Option Bool := none
  /-- Whether it stands for the variable that it names. -/
  refers : Bool := false
  deriving DecidableEq, Repr

namespace Content

/-- Put a pair in a list in the place of one with the same number, or where it belongs. -/
def put (number : Nat) (chars : List Char) : List (Nat × List Char) → List (Nat × List Char)
  | [] => [(number, chars)]
  | (known, old) :: rest =>
    if number < known then (number, chars) :: (known, old) :: rest
    else if number = known then (number, chars) :: rest
    else (known, old) :: put number chars rest

/-- Put a pair in a table in the place of one with the same key, or after all others. -/
def putKey (key chars : List Char) : List (List Char × List Char) → List (List Char × List Char)
  | [] => [(key, chars)]
  | (known, old) :: rest =>
    if known = key then (key, chars) :: rest else (known, old) :: putKey key chars rest

/-- The place of a key in a table, by which its pairs are listed. -/
def bucket (key : List Char) : Nat :=
  key.foldl (fun hash c => (hash * 16777619 % 4294967296) ^^^ c.toNat) 2166136261 % 1024

/-- The numbers or keys of all elements, with their values, in the order in which they are listed. -/
def entries : Content → List (List Char × List Char)
  | .none => []
  | .text chars => [(['0'], chars)]
  | .list items => items.map fun item => (Numeral.ofNat item.1, item.2)
  | .table items => items.reverse.mergeSort fun a b => bucket a.1 ≤ bucket b.1

/-- The value of the variable as one text. -/
def scalar? : Content → Option (List Char)
  | .none => Option.none
  | .text chars => some chars
  | .list items => items.lookup 0
  | .table items => items.lookup ['0']

/-- The numbered elements; a text is the first of them. -/
def numbered : Content → List (Nat × List Char)
  | .none | .table _ => []
  | .text chars => [(0, chars)]
  | .list items => items

/-- The number after the greatest of an array. -/
def next (content : Content) : Nat :=
  ((content.numbered.getLast?).map fun item => item.1 + 1).getD 0

end Content

end Umpire.Shell
