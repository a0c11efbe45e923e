import Umpire.Shell.Pattern
import Umpire.Tool.Outlet

/-! Programs of the host that pass on what they read with other characters, or other parts of lines. -/

namespace Umpire.Tool

open Host

/-- A member of a set of characters as it is spelled: so many of one character, as many as are needed if
none is told. -/
structure Member where
  char : Char
  count : Option Nat := some 1
  deriving DecidableEq, Repr

/-- The character that a set's text starts with, escapes resolved, and what follows it. -/
def member? (chars : List Char) : Option (Char × List Char) :=
  match chars with
  | [] => none
  | '\\' :: c :: rest =>
    let digits := ((c :: rest).take 3).takeWhile fun d => '0' ≤ d && d ≤ '7'
    if !digits.isEmpty then
      some (Char.ofNat (digits.foldl (fun n d => n * 8 + (d.toNat - 48)) 0 % 256), (c :: rest).drop digits.length)
    else
      let shown := match c with
        | 'a' => '\x07'
        | 'b' => '\x08'
        | 'f' => '\x0c'
        | 'n' => '\n'
        | 'r' => '\r'
        | 't' => '\t'
        | 'v' => '\x0b'
        | other => other
      some (shown, rest)
  | c :: rest => some (c, rest)

/-- The members of a set as it is spelled, or the complaint about it. -/
def membersOf : Nat → List Char → Except Bytes (List Member)
  | 0, _ => .ok []
  | _ + 1, [] => .ok []
  | fuel + 1, '[' :: ':' :: rest =>
    let name := rest.takeWhile (· != ':')
    match rest.drop name.length with
    | ':' :: ']' :: left =>
      match Shell.Pattern.classOf name with
      | [] => .error (bytes "invalid character class " ++ cited (Bytes.ofOctets name))
      | ranges =>
        let ordered := ranges.mergeSort fun a b => a.1 ≤ b.1
        let found := ordered.flatMap fun range =>
          (List.range (range.2.toNat + 1 - range.1.toNat)).map fun k => Char.ofNat (range.1.toNat + k)
        (membersOf fuel left).map fun more => (found.map fun c => { char := c }) ++ more
    | _ => (membersOf fuel (':' :: rest)).map fun more => { char := '[' } :: more
  | fuel + 1, '[' :: c :: '*' :: rest =>
    let digits := rest.takeWhile Char.isDigit
    match rest.drop digits.length with
    | ']' :: left =>
      let base := if digits.head? == some '0' then 8 else 10
      let value : Nat := digits.foldl (fun n d => n * base + (d.toNat - 48)) 0
      (membersOf fuel left).map fun more => ⟨c, if value = 0 then none else some value⟩ :: more
    | _ => (membersOf fuel (c :: '*' :: rest)).map fun more => { char := '[' } :: more
  | fuel + 1, chars =>
    match member? chars with
    | none => .ok []
    | some (low, '-' :: rest) =>
      match member? rest with
      | none => .ok [{ char := low }, { char := '-' }]
      | some (high, left) =>
        if high < low then
          .error (bytes "range-endpoints of '" ++ Bytes.ofOctets [low, '-', high] ++
            bytes "' are in reverse collating sequence order")
        else
          let found := (List.range (high.toNat + 1 - low.toNat)).map fun k => Char.ofNat (low.toNat + k)
          (membersOf fuel left).map fun more => (found.map fun c => { char := c }) ++ more
    | some (c, rest) => (membersOf fuel rest).map fun more => { char := c } :: more

/-- The characters of a set, of which there are to be so many. -/
def spelledOutTo (size : Nat) (members : List Member) : List Char :=
  let known := (members.filterMap (·.count)).foldr (· + ·) 0
  members.flatMap fun member => List.replicate (member.count.getD (size - known)) member.char

/-- The characters that stand for others, each with the one that it becomes. The last character of a
shorter second set stands for all that are missing. -/
def exchange (before after : List Char) : List (Char × Char) :=
  match after.getLast? with
  | none => []
  | some last => (before.zip (after ++ List.replicate (before.length - after.length) last)).reverse

/-- What becomes of characters: some go, others are exchanged, and of some only the first of a run is
left. -/
structure Change where
  gone : List Char := []
  table : List (Char × Char) := []
  single : List Char := []

/-- A text changed, after a character that has been kept last. -/
def Change.apply (change : Change) : Option Char → List Char → List Char × Option Char
  | last, [] => ([], last)
  | last, c :: rest =>
    if change.gone.contains c then change.apply last rest
    else
      let shown := (change.table.lookup c).getD c
      if last == some shown && change.single.contains shown then change.apply last rest
      else
        let (others, reached) := change.apply (some shown) rest
        (shown :: others, reached)

/-- Pass on what is read, changed. -/
def passOn (change : Change) : Nat → Option Char → Printing Nat
  | 0, _ => return 0
  | fuel + 1, last => do
    match ← Printing.ask (.read 0 chunk) with
    | .error errno =>
      Printing.tell (complain (bytes "read error: " ++ bytes errno.usual))
      return 1
    | .ok [] => return 0
    | .ok data =>
      let (shown, reached) := change.apply last (Bytes.toOctets data)
      Printing.put (Bytes.ofOctets shown)
      passOn change fuel reached

/-- Replace or delete characters. -/
def tr (words : List Bytes) : Talk Nat :=
  let known : Known := {
    letters := "cCdst"
    long := [("complement", 'c'), ("delete", 'd'), ("squeeze-repeats", 's'), ("truncate-set1", 't')]
    stops := true }
  withOptions known words fun chosen => do
    let deletes := chosen.has 'd'
    let squeezes := chosen.has 's'
    let least := if deletes == squeezes then 2 else 1
    let most := if deletes && !squeezes then 1 else 2
    let reasonFor (more : Bool) : Bytes :=
      if deletes && !squeezes && !more then
        bytes "\nOnly one string may be given when deleting without squeezing repeats."
      else if deletes && squeezes && more then
        bytes "\nTwo strings must be given when both deleting and squeezing repeats."
      else if more then bytes "\nTwo strings must be given when translating."
      else []
    let members := chosen.words.map fun word => membersOf (word.length + 1) (Bytes.toOctets word)
    if chosen.words.isEmpty then lacksOperand
    else if chosen.words.length < least then
      misuse (bytes "missing operand after " ++ cited (chosen.words.getLastD []) ++ reasonFor true) 1
    else if most < chosen.words.length then
      misuse (bytes "extra operand " ++ cited ((chosen.words.drop most).headD []) ++ reasonFor false) 1
    else
      match members with
      | .error reason :: _ | _ :: .error reason :: _ =>
        complain reason
        return 1
      | .ok first :: rest =>
        let given := spelledOutTo 0 first
        let before := if chosen.has 'c' || chosen.has 'C' then
            ((List.range 256).map Char.ofNat).filter fun c => !given.contains c
          else given
        let second : Option (List Member) := match rest with
          | .ok found :: _ => some found
          | _ => none
        let after := spelledOutTo before.length (second.getD [])
        let before := if chosen.has 't' then before.take after.length else before
        if second.isSome && after.isEmpty && !deletes then
          complain (bytes "when not truncating set1, string2 must be non-empty")
          return 1
        else
          let change : Change := {
            gone := if deletes then before else []
            table := if deletes || second.isNone then [] else exchange before after
            single := if !squeezes then [] else if second.isNone then before else after }
          Printing.run {} (passOn change mostPieces none)
      | [] => lacksOperand

/-- Print what becomes of each line of several files. -/
def passLines {σ : Type} (step : σ → Bytes → σ × Bytes) (paths : List Bytes) (state : σ) : Talk Nat :=
  Printing.run {} do
    let complaint (path : Bytes) (errno : Errno) (_ : Bool) : Printing Unit := Printing.tell (complainOf path errno)
    let (_, code) ← Printing.overFiles complaint step paths state 0
    return code

/-- A range of positions, from one on; without an end it goes on. -/
structure Range where
  low : Nat
  high : Option Nat
  deriving DecidableEq, Repr

/-- Whether a position is in one of some ranges. -/
def isChosen (ranges : List Range) (complement : Bool) (position : Nat) : Bool :=
  (ranges.any fun range => range.low ≤ position && range.high.all (position ≤ ·)) != complement

/-- The range that a text spells, or the complaint about it. -/
def rangeOf (fields : Bool) (chars : List Char) : Except Bytes Range :=
  let position : Bytes := bytes (if fields then "field" else "byte/character position")
  let number (digits : List Char) : Except Bytes Nat :=
    if digits.isEmpty || !digits.all Char.isDigit then
      .error (bytes "invalid " ++ bytes (if fields then "field value " else "byte/character position ") ++
        cited (Bytes.ofOctets digits))
    else
      match digits.foldl (fun n c => n * 10 + (c.toNat - 48)) 0 with
      | 0 =>
        .error (bytes
          (if fields then "fields are numbered from 1" else "byte/character positions are numbered from 1"))
      | value => .ok value
  let low := chars.takeWhile (· != '-')
  match chars.drop low.length with
  | [] => if chars.isEmpty then
      .error (bytes (if fields then "fields are numbered from 1" else "byte/character positions are numbered from 1"))
    else (number low).map fun value => ⟨value, some value⟩
  | _ :: high =>
    if low.isEmpty && high.isEmpty then .error (bytes "invalid range with no endpoint: -")
    else do
      let first ← if low.isEmpty then .ok 1 else number low
      let last ← if high.isEmpty then .ok none else (number high).map some
      if last.any (· < first) then .error (bytes "invalid decreasing range")
      else if high.contains '-' then .error (bytes "invalid " ++ position ++ bytes " range")
      else .ok ⟨first, last⟩

/-- The ranges that a text spells. -/
def rangesOf (fields : Bool) (text : Bytes) : Except Bytes (List Range) :=
  ((Bytes.toOctets text).splitOnP fun c => c == ',' || c == ' ').mapM (rangeOf fields)

/-- The members of a list whose positions are in some ranges. -/
def chosenOf {α : Type} (ranges : List Range) (complement : Bool) (all : List α) : List (List α) :=
  let marked := (List.range all.length).zip all
  let kept := marked.filter fun item => isChosen ranges complement (item.1 + 1)
  -- Neighbours stay together.
  (kept.foldl (fun (groups : List (Nat × List α)) item =>
    match groups with
    | (last, group) :: rest =>
      if last + 1 = item.1 then (item.1, group ++ [item.2]) :: rest else (item.1, [item.2]) :: groups
    | [] => [(item.1, [item.2])]) []).reverse.map (·.2)

/-- Print parts of lines. -/
def cut (words : List Bytes) : Talk Nat :=
  let known : Known := {
    letters := "b:c:d:f:nsz*O:"
    long := [("bytes", 'b'), ("characters", 'c'), ("delimiter", 'd'), ("fields", 'f'), ("only-delimited", 's'),
      ("zero-terminated", 'z'), ("complement", '*'), ("output-delimiter", 'O')] }
  withOptions known words fun chosen => do
    let delimiter := (chosen.text? 'd').getD [9]
    let lists := chosen.options.filter fun option => "bcf".toList.contains option.1
    match lists with
    | [] => misuse (bytes "you must specify a list of bytes, characters, or fields") 1
    | _ :: _ :: _ => misuse (bytes "only one list may be specified") 1
    | [(kind, _)] =>
      let inFields := kind == 'f'
      match rangesOf inFields ((chosen.text? kind).getD []) with
      | .error reason => misuse reason 1
      | .ok ranges =>
        if 1 < delimiter.length then misuse (bytes "the delimiter must be a single character") 1
        else if chosen.has 'd' && !inFields then
          misuse (bytes "an input delimiter may be specified only when operating on fields") 1
        else
          let mark := delimiter.headD 0
          let between := (chosen.text? 'O').getD (if inFields then [mark] else [])
          let shown (line : Bytes) : Bytes :=
            if inFields then
              if !line.contains mark then (if chosen.has 's' then [] else line ++ [lineEnd])
              else
                let parts := chosenOf ranges (chosen.has '*') (line.splitOn mark)
                between.intercalate parts.flatten ++ [lineEnd]
            else between.intercalate (chosenOf ranges (chosen.has '*') line) ++ [lineEnd]
          passLines (fun _ line => ((), shown (bareLine line))) chosen.inputs ()

/-- Print lines the last first. -/
def tac (words : List Bytes) : Talk Nat :=
  withOptions { letters := "brs:" } words fun chosen =>
    Printing.run { objection := fun _ => bytes "write error" } do
      let mut code := 0
      for path in chosen.inputs do
        match ← Printing.aside (readInput path) with
        | .error errno =>
          let reason := if errno = Errno.isDirectory then path ++ bytes ": read error: Invalid argument"
            else bytes "failed to open " ++ quoted path ++ bytes " for reading: " ++ bytes errno.usual
          Printing.aside (complain reason)
          code := 1
        | .ok data => Printing.put (linesOf data).reverse.flatten
      return code

/-- Print lines with their characters the last first. -/
def rev (words : List Bytes) : Talk Nat :=
  withOptions { letters := "" } words fun chosen =>
    let complaint (path : Bytes) (errno : Errno) (isOpen : Bool) : Printing Unit :=
      Printing.aside (complainAs (bytes "rev") (bytes (if isOpen then "" else "cannot open ") ++ path ++
        bytes ": " ++ bytes errno.usual))
    let backward (line : Bytes) : Bytes :=
      Utf8.restored (Utf8.loose (bareLine line)).reverse ++ line.drop (bareLine line).length
    let outlet : Outlet := { objection := fun _ => bytes "write error" }
    Printing.run outlet do
      let (_, code) ← Printing.overFiles complaint (fun _ line => ((), backward line)) chosen.inputs () 0
      return code

/-- A number filled up to a width. -/
def filledNumber (width : Nat) (value : Int) (format : String) : Bytes :=
  let digits := Bytes.ofChars (Numeral.ofInt value)
  let missing := width - digits.length
  if format == "ln" then digits ++ List.replicate missing (Bytes.ascii ' ')
  else List.replicate missing (Bytes.ascii (if format == "rz" then '0' else ' ')) ++ digits

/-- Print lines with numbers. -/
def nl (words : List Bytes) : Talk Nat :=
  let known : Known := {
    letters := "b:f:h:i:l:n:ps:v:w:d:"
    long := [("body-numbering", 'b'), ("line-increment", 'i'), ("number-format", 'n'),
      ("number-separator", 's'), ("starting-line-number", 'v'), ("number-width", 'w')] }
  withOptions known words fun chosen => do
    let width := ((chosen.text? 'w').bind natural?).getD 6
    let separator := (chosen.text? 's').getD [9]
    let step := ((chosen.text? 'i').bind natural?).getD 1
    let format := String.ofList (Bytes.toOctets ((chosen.text? 'n').getD (bytes "rn")))
    let style := (chosen.text? 'b').getD (bytes "t")
    let counts (line : Bytes) : Bool := style = bytes "a" || (style = bytes "t" && !line.isEmpty)
    let start := ((chosen.text? 'v').bind natural?).getD 1
    let numbered (number : Nat) (whole : Bytes) : Nat × Bytes :=
      let line := bareLine whole
      if counts line then
        (number + step, filledNumber width number format ++ separator ++ line ++ [lineEnd])
      else (number, List.replicate (width + separator.length) (Bytes.ascii ' ') ++ line ++ [lineEnd])
    passLines numbered chosen.inputs start

/-- Texts joined by delimiters that are taken in turn. -/
def joinedBy (delimiters : List Char) : Nat → List Bytes → Bytes
  | _, [] => []
  | _, [only] => only
  | turn, first :: rest =>
    let mark := delimiters[turn % max 1 delimiters.length]?
    let between : Bytes := match mark with
      | some '\x00' | none => []
      | some c => Bytes.ofOctets [c]
    first ++ between ++ joinedBy delimiters (turn + 1) rest

/-- The columns of several lists of lines, of which shorter ones are filled up. -/
def rowsOf (columns : List (List Bytes)) : List (List Bytes) :=
  let height := (columns.map List.length).foldl max 0
  (List.range height).map fun k => columns.map fun column => column[k]?.getD []

/-- Print lines side by side. -/
def paste (words : List Bytes) : Talk Nat :=
  let known : Known := {
    letters := "d:sz"
    long := [("delimiters", 'd'), ("serial", 's')] }
  withOptions known words fun chosen => do
    let text := Bytes.toOctets ((chosen.text? 'd').getD [9])
    let rec marks : List Char → List Char
      | '\\' :: '0' :: rest => '\x00' :: marks rest
      | '\\' :: 'n' :: rest => '\n' :: marks rest
      | '\\' :: 't' :: rest => '\t' :: marks rest
      | '\\' :: '\\' :: rest => '\\' :: marks rest
      | c :: rest => c :: marks rest
      | [] => []
    let delimiters := marks text
    let mut columns : List (List Bytes) := []
    let mut code := 0
    let shared := (chosen.inputs.filter (· = bytes "-")).length
    let input ← if 0 < shared then readInput (bytes "-") else pure (.ok [])
    let inputLines := (linesOf (input.toOption.getD [])).map bareLine
    let mut taken := 0
    for path in chosen.inputs do
      if path = bytes "-" && !chosen.has 's' then
        -- Standard input is shared by all that name it.
        let mine := taken
        let marked := (List.range inputLines.length).zip inputLines
        columns := columns ++ [(marked.filter fun item => item.1 % shared = mine).map (·.2)]
        taken := taken + 1
      else
        match ← if path = bytes "-" then pure input else readInput path with
        | .error errno =>
          complainOf path errno
          if errno != Errno.isDirectory && !chosen.has 's' then return 1
          code := 1
          columns := columns ++ [[]]
        | .ok data => columns := columns ++ [(linesOf data).map bareLine]
    let rows := if chosen.has 's' then columns else rowsOf columns
    let printed ← print (rows.map fun row => joinedBy delimiters 0 row ++ [lineEnd]).flatten
    return max code printed

/-- A line broken into pieces of some width; with `blanks`, after blanks if possible. -/
def folded (width : Nat) (blanks : Bool) : Nat → List Char → List (List Char)
  | 0, chars => [chars]
  | fuel + 1, chars =>
    if chars.length ≤ width then [chars]
    else
      let part := chars.take width
      let kept := if blanks then (part.reverse.dropWhile (· != ' ')).reverse else part
      let size := if kept.isEmpty then width else kept.length
      chars.take size :: folded width blanks fuel (chars.drop size)

/-- Print lines broken to a width. -/
def fold (words : List Bytes) : Talk Nat :=
  let known : Known := {
    letters := "bsw:"
    long := [("bytes", 'b'), ("spaces", 's'), ("width", 'w')] }
  withOptions known words fun chosen => do
    let width := max 1 (((chosen.text? 'w').bind natural?).getD 80)
    let broken (line : Bytes) : Bytes :=
      let pieces := folded width (chosen.has 's') (line.length + 1) (Bytes.toOctets (bareLine line))
      Bytes.ofOctets (['\n'].intercalate pieces) ++ line.drop (bareLine line).length
    passLines (fun _ line => ((), broken line)) chosen.inputs ()

end Umpire.Tool
