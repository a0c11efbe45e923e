import Umpire.Tool.Filters
import Umpire.Tool.Sequence

/-! Programs of the host that put lines in order and tell equal ones. -/

namespace Umpire.Tool

open Host

/-- How texts are compared. -/
structure Order where
  numeric : Bool := false
  /-- Numbers may have exponents. -/
  general : Bool := false
  /-- Numbers may have units. -/
  human : Bool := false
  version : Bool := false
  folds : Bool := false
  /-- Only blanks, letters and digits count. -/
  dictionary : Bool := false
  printable : Bool := false
  blanks : Bool := false
  reversed : Bool := false
  deriving DecidableEq, Repr

/-- A key: where the part of a line starts that counts, and where it ends. -/
structure Key where
  field : Nat
  char : Nat := 1
  lastField : Option Nat := none
  /-- The last character of the last field that counts; zero stands for all of them. -/
  lastChar : Nat := 0
  lastBlanks : Bool := false
  order : Order := {}
  /-- Whether it says itself how its texts are compared. -/
  isOwn : Bool := false
  deriving DecidableEq, Repr

/-- Whether a character is a blank. -/
def isBlank (c : Char) : Bool :=
  c == ' ' || c == '\t'

/-- An order with what a letter says of it. -/
def Order.with? (order : Order) (letter : Char) : Option Order :=
  match letter with
  | 'b' => some { order with blanks := true }
  | 'd' => some { order with dictionary := true }
  | 'f' => some { order with folds := true }
  | 'g' => some { order with general := true }
  | 'h' => some { order with human := true }
  | 'i' => some { order with printable := true }
  | 'n' => some { order with numeric := true }
  | 'r' => some { order with reversed := true }
  | 'V' => some { order with version := true }
  | 'M' | 'R' => some order
  | _ => none

/-- The number at the start of a text, in units of which so many tens are one. -/
def leadingDecimal (chars : List Char) : Int × Nat × List Char :=
  let text := chars.dropWhile isBlank
  let negative := text.head? == some '-'
  let unsigned := if negative then text.tail else text
  let whole := unsigned.takeWhile Char.isDigit
  let (part, rest) : List Char × List Char := match unsigned.drop whole.length with
    | '.' :: after => (after.takeWhile Char.isDigit, after.dropWhile Char.isDigit)
    | other => ([], other)
  let units : Nat := (whole ++ part).foldl (fun n c => n * 10 + (c.toNat - 48)) 0
  (if negative then -(units : Int) else units, part.length, rest)

/-- The comparison of two decimals. -/
def compareDecimals (a b : Int × Nat) : Ordering :=
  compare (a.1 * (ten b.2 : Nat)) (b.1 * (ten a.2 : Nat))

/-- The rank of the unit that a text starts with. -/
def unitRank (chars : List Char) : Nat :=
  match chars.head? with
  | some c => ("KMGTPEZY".toList.idxOf c.toUpper) % 8 + if "KMGTPEZYk".toList.contains c then 1 else 0
  | none => 0

/-- The comparison of two texts in which runs of digits count as numbers. -/
def compareVersions : Nat → List Char → List Char → Ordering
  | 0, _, _ => .eq
  | _ + 1, [], [] => .eq
  | fuel + 1, a, b =>
    let rank (c : Option Char) : Int := match c with
      | some '~' => -1
      | none => 0
      | some c => if c.isDigit then 0 else if c.isAlpha then c.toNat else c.toNat + 256
    let wordA := a.takeWhile fun c => !c.isDigit
    let wordB := b.takeWhile fun c => !c.isDigit
    let size := max wordA.length wordB.length
    let texts := (List.range size).foldl (fun found k =>
      found.then (compare (rank wordA[k]?) (rank wordB[k]?))) Ordering.eq
    if texts != .eq then texts
    else
      let restA := a.drop wordA.length
      let restB := b.drop wordB.length
      let value (chars : List Char) : Nat := (chars.takeWhile Char.isDigit).foldl (fun n c => n * 10 + (c.toNat - 48)) 0
      match compare (value restA) (value restB) with
      | .eq =>
        if a.isEmpty && b.isEmpty then .eq
        else compareVersions fuel (restA.dropWhile Char.isDigit) (restB.dropWhile Char.isDigit)
      | other => other

/-- The comparison of two texts by their octets. -/
def compareOctets (a b : List Char) : Ordering :=
  if a == b then .eq else if Bytes.before (Bytes.ofOctets a) (Bytes.ofOctets b) then .lt else .gt

/-- The comparison of two texts. -/
def Order.compare (order : Order) (a b : List Char) : Ordering :=
  let result :=
    if order.numeric then
      let (x, p, _) := leadingDecimal a
      let (y, q, _) := leadingDecimal b
      compareDecimals (x, p) (y, q)
    else if order.general then
      let value (chars : List Char) : Int × Nat :=
        let text := (chars.dropWhile isBlank).takeWhile fun c => c.isDigit || "+-.eE".toList.contains c
        match decimal? (Bytes.ofOctets text) with
        | some found => (found.units, found.places)
        | none => let (x, p, _) := leadingDecimal chars; (x, p)
      compareDecimals (value a) (value b)
    else if order.human then
      let (x, p, restA) := leadingDecimal a
      let (y, q, restB) := leadingDecimal b
      let rank (value : Int) (rest : List Char) : Int :=
        if value < 0 then -(unitRank rest : Int) else unitRank rest
      (Ord.compare x.sign y.sign).then ((Ord.compare (rank x restA) (rank y restB)).then
        (compareDecimals (x, p) (y, q)))
    else if order.version then compareVersions (a.length + b.length + 2) a b
    else
      let shown (chars : List Char) : List Char :=
        let kept := if order.dictionary then chars.filter fun c => isBlank c || c.isAlphanum
          else if order.printable then chars.filter fun c => ' ' ≤ c && c ≤ '~' else chars
        if order.folds then kept.map Char.toUpper else kept
      compareOctets (shown a) (shown b)
  if order.reversed then result.swap else result

/-- The places where the fields of a line start; blanks before a field belong to it. -/
def fieldStarts (mark : Option Char) (chars : List Char) : List Nat :=
  match mark with
  | some c =>
    0 :: ((List.range chars.length).zip chars).filterMap fun item => if item.2 == c then some (item.1 + 1) else none
  | none =>
    let before := none :: chars.map some
    0 :: ((List.range chars.length).zip (before.zip chars)).filterMap fun item =>
      match item with
      | (0, _) => none
      | (place, (some last, c)) => if !isBlank last && isBlank c then some place else none
      | _ => none

/-- The part of a line that a key is about. -/
def Key.part (key : Key) (mark : Option Char) (chars : List Char) : List Char :=
  let starts := fieldStarts mark chars
  let size := chars.length
  let skipped (place : Nat) : Nat := place + ((chars.drop place).takeWhile isBlank).length
  let start (field : Nat) : Nat := (starts[field - 1]?).getD size
  let isSkipping := key.order.blanks
  let first := min size ((if isSkipping then skipped (start key.field) else start key.field) + (key.char - 1))
  let last := match key.lastField with
    | none => size
    | some field =>
      if key.lastChar = 0 then
        match starts[field]? with
        | some next => if mark.isSome then next - 1 else next
        | none => size
      else min size ((if key.lastBlanks then skipped (start field) else start field) + key.lastChar)
  (chars.take last).drop first

/-- A position as a key spells it: its field, its character and its letters. -/
def positionOf (chars : List Char) : Except Bytes (Nat × Option Nat × List Char) :=
  let value (digits : List Char) : Nat := digits.foldl (fun n c => n * 10 + (c.toNat - 48)) 0
  let digits := chars.takeWhile Char.isDigit
  if digits.isEmpty then
    .error (bytes "invalid number at field start: invalid count at start of " ++ cited (Bytes.ofOctets chars))
  else if value digits = 0 then
    .error (bytes "field number is zero: invalid field specification " ++ cited (Bytes.ofOctets chars))
  else
    match chars.drop digits.length with
    | '.' :: rest =>
      let places := rest.takeWhile Char.isDigit
      .ok (value digits, some (value places), rest.drop places.length)
    | rest => .ok (value digits, none, rest)

/-- The key that a text spells. -/
def keyOf (usual : Order) (text : Bytes) : Except Bytes Key := do
  let chars := Bytes.toOctets text
  let firstText := chars.takeWhile (· != ',')
  let (field, char, letters) ← positionOf firstText
  let stray : Except Bytes Key :=
    .error (bytes "stray character in field spec: invalid field specification " ++ cited text)
  let ordered (order : Order) (letters : List Char) : Option Order :=
    letters.foldl (fun found letter => found.bind fun known => known.with? letter) (some order)
  match chars.drop firstText.length with
  | [] =>
    match ordered {} letters with
    | some order =>
      let isOwn := !letters.isEmpty
      return { field, char := char.getD 1, order := if isOwn then order else usual, isOwn }
    | none => stray
  | _ :: rest =>
    let (lastField, lastChar, more) ← positionOf rest
    match ordered {} letters, ordered {} (letters ++ more) with
    | some start, some order =>
      let isOwn := !(letters ++ more).isEmpty
      let chosen := if isOwn then { order with blanks := start.blanks } else usual
      return { field, char := char.getD 1, lastField := some lastField, lastChar := lastChar.getD 0
               lastBlanks := more.contains 'b' || (!isOwn && usual.blanks), order := chosen, isOwn }
    | _, _ => stray

/-- The comparison of two lines by keys, and at last by all they have. -/
def compareLines (keys : List Key) (usual : Order) (mark : Option Char) (atLast : Bool) (a b : List Char) :
    Ordering :=
  let byKeys := if keys.isEmpty then usual.compare (if usual.blanks then a.dropWhile isBlank else a)
      (if usual.blanks then b.dropWhile isBlank else b)
    else keys.foldl (fun found key =>
      found.then (key.order.compare (key.part mark a) (key.part mark b))) Ordering.eq
  if byKeys != .eq || !atLast then byKeys
  else if usual.reversed then (compareOctets a b).swap else compareOctets a b

/-- The first of every run of lines that are equal. -/
def firstOfEach (same : Bytes → Bytes → Bool) : List Bytes → List Bytes
  | [] => []
  | line :: rest =>
    match firstOfEach same rest with
    | next :: others => if same line next then line :: others else line :: next :: others
    | [] => [line]

/-- The first line that does not belong after the one before it, with its number. -/
def disorder (before : Bytes → Bytes → Bool) : Nat → List Bytes → Option (Nat × Bytes)
  | number, first :: second :: rest =>
    if before first second then disorder before (number + 1) (second :: rest) else some (number + 1, second)
  | _, _ => none

/-- Print lines in order. -/
def sort (words : List Bytes) : Talk Nat :=
  let known : Known := {
    letters := "bcCdfghik:mMno:rRsS:t:T:uVz"
    long := [("ignore-leading-blanks", 'b'), ("dictionary-order", 'd'), ("ignore-case", 'f'),
      ("general-numeric-sort", 'g'), ("human-numeric-sort", 'h'), ("numeric-sort", 'n'), ("reverse", 'r'),
      ("version-sort", 'V'), ("check", 'c'), ("key", 'k'), ("merge", 'm'), ("output", 'o'), ("stable", 's'),
      ("field-separator", 't'), ("unique", 'u'), ("zero-terminated", 'z'), ("random-sort", 'R')]
    wrong := 2 }
  withOptions known words fun chosen => do
    let failed (reason : Bytes) : Talk Nat := do
      complain reason
      return 2
    let usual := (chosen.options.map (·.1)).foldl (fun (order : Order) letter =>
      if "bdfghinrV".toList.contains letter then (order.with? letter).getD order else order) {}
    let separator := (chosen.text? 't').map fun text => if text = bytes "\\0" then [0] else text
    match (chosen.texts 'k').mapM (keyOf usual), separator with
    | .error reason, _ => failed reason
    | .ok _, some [] => failed (bytes "empty tab")
    | .ok keys, mark =>
      if mark.any (1 < ·.length) then failed (bytes "multi-character tab " ++ cited (mark.getD []))
      else
        let markChar := (mark.bind List.head?).map fun byte => Char.ofNat byte.toNat
        let mut lines : List Bytes := []
        for path in chosen.inputs do
          match ← readInput path with
          | .error errno =>
            let reading := if errno = Errno.isDirectory then "read failed: " else "cannot read: "
            return ← failed (bytes reading ++ path ++ bytes ": " ++ bytes errno.usual)
          | .ok data => lines := lines ++ (linesOf data).map bareLine
        let atLast := !chosen.has 's' && !chosen.has 'u'
        let compared (a b : Bytes) : Ordering :=
          compareLines keys usual markChar atLast (Bytes.toOctets a) (Bytes.toOctets b)
        if chosen.has 'c' || chosen.has 'C' then
          let inOrder (a b : Bytes) : Bool :=
            compared a b == .lt || (!chosen.has 'u' && compared a b == .eq)
          match disorder inOrder 1 lines with
          | none => return 0
          | some (number, line) =>
            if !chosen.has 'C' then
              complain (chosen.inputs.headD [] ++ bytes ":" ++ numeral number ++ bytes ": disorder: " ++ line)
            return 1
        else
          let ordered := lines.mergeSort fun a b => compared a b != .gt
          let kept := if chosen.has 'u' then firstOfEach (fun a b => compared a b == .eq) ordered else ordered
          let shown := (kept.map fun line => line ++ [lineEnd]).flatten
          let written (fd : Nat) (name : Bytes) : Talk Nat := do
            match ← writeAll fd shown with
            | .ok () => return 0
            | .error errno =>
              let what := if shown.length ≤ 4096 then "fflush failed: " else "write failed: "
              complain (bytes what ++ wordShown name ++ bytes ": " ++ bytes errno.usual)
              failed (bytes "write error")
          match chosen.text? 'o' with
          | none => written 1 (bytes "standard output")
          | some path =>
            match ← call (.openFile path Access.writing false) with
            | .error errno => failed (bytes "open failed: " ++ path ++ bytes ": " ++ bytes errno.usual)
            | .ok fd => written fd path

/-- The part of a line by which `uniq` compares it. -/
def comparedPart (fields chars : Nat) (width : Option Nat) (folds : Bool) (line : Bytes) : List Char :=
  let rec without : Nat → List Char → List Char
    | 0, text => text
    | count + 1, text => without count ((text.dropWhile isBlank).dropWhile fun c => !isBlank c)
  let rest := (without fields (Bytes.toOctets line)).drop chars
  let part := match width with
    | some most => rest.take most
    | none => rest
  if folds then part.map Char.toUpper else part

/-- Which lines of runs of equal ones are printed, and how. -/
structure Runs where
  part : Bytes → List Char
  /-- Whether lines count that have no equal neighbour, and the first ones and the others of those that have. -/
  single : Bool
  first : Bool
  later : Bool
  counted : Bool

/-- A line as it is printed, of which so many equal ones came before. -/
def Runs.shown (runs : Runs) (line : Bytes) (isInner : Bool) (before : Nat) : Bytes :=
  let wanted := if before = 0 then runs.single else if isInner then runs.later else runs.first
  if !wanted then []
  else (if runs.counted then filledNumber 7 (before + 1) "rn" ++ bytes " " else []) ++ line ++ [lineEnd]

/-- Take one line into account, after the last one and how many equal ones came before it. -/
def Runs.step (runs : Runs) (known : Option (Bytes × Nat)) (whole : Bytes) : Option (Bytes × Nat) × Bytes :=
  let line := bareLine whole
  -- The first of equal lines is printed at once if nothing that follows can change it.
  let isPrompt := runs.single && runs.first && !runs.later && !runs.counted
  match known with
  | none => (some (line, 0), if isPrompt then line ++ [lineEnd] else [])
  | some (last, before) =>
    if runs.part line == runs.part last then
      if isPrompt then (known, [])
      else if runs.later then (some (line, before + 1), runs.shown last true (before + 1))
      else (some (last, before + 1), [])
    else (some (line, 0), if isPrompt then line ++ [lineEnd] else runs.shown last false before)

/-- What is printed in the end. -/
def Runs.rest (runs : Runs) : Option (Bytes × Nat) → Bytes
  | none => []
  | some (last, before) =>
    if runs.single && runs.first && !runs.later && !runs.counted then [] else runs.shown last false before

/-- Print only the first of equal neighbours. -/
def uniq (words : List Bytes) : Talk Nat :=
  let known : Known := {
    letters := "cdDf:is:uw:z"
    long := [("count", 'c'), ("repeated", 'd'), ("all-repeated", 'D'), ("skip-fields", 'f'), ("ignore-case", 'i'),
      ("skip-chars", 's'), ("unique", 'u'), ("check-chars", 'w'), ("zero-terminated", 'z')] }
  withOptions known words fun chosen => do
    let number (letter : Char) : Option Nat := (chosen.text? letter).bind natural?
    let wrong := chosen.options.find? fun option =>
      "fsw".toList.contains option.1 && (natural? option.2).isNone
    match wrong, chosen.words with
    | some (letter, text), _ =>
      complain (text ++ bytes ": invalid number of " ++ bytes (match letter with
        | 'f' => "fields to skip"
        | 's' => "bytes to skip"
        | _ => "bytes to compare"))
      return 1
    | none, _ :: _ :: third :: _ => extraOperand third 1
    | none, _ =>
      if chosen.has 'c' && chosen.has 'D' then
        misuse (bytes "printing all duplicated lines and repeat counts is meaningless") 1
      else
        let runs : Runs := {
          part := comparedPart ((number 'f').getD 0) ((number 's').getD 0) (number 'w') (chosen.has 'i')
          single := !(chosen.has 'd' || chosen.has 'D')
          first := !chosen.has 'u'
          later := chosen.has 'D'
          counted := chosen.has 'c' }
        let path := chosen.inputs.headD []
        match ← openInput path, chosen.words with
        | .error errno, _ =>
          complainOf path errno
          return 1
        | .ok fd, _ :: target :: _ =>
          match ← call (.openFile target Access.writing false) with
          | .error errno =>
            complainOf target errno
            return 1
          | .ok other =>
            let _ ← call (.duplicateTo other 1)
            let _ ← call (.close other)
            Printing.run {} (condense runs path fd)
        | .ok fd, _ => Printing.run {} (condense runs path fd)
where
  /-- Print what is wanted of one file. -/
  condense (runs : Runs) (path : Bytes) (fd : Nat) : Printing Nat := do
    let (reached, fault) ← Printing.overLines runs.step fd mostPieces [] none
    match fault with
    | some errno =>
      Printing.tell (complain (bytes "error reading " ++ quoted path ++ bytes ": " ++ bytes errno.usual))
      return 1
    | none =>
      Printing.put (runs.rest reached)
      return 0

end Umpire.Tool
