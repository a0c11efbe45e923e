import Umpire.Tool.Streams

/-! Programs of the host that compare, show and copy bytes whatever they mean. -/

namespace Umpire.Tool

open Host

/-- The first place where two texts differ, with the lines before it; none if one starts the other. -/
def difference (place line : Nat) : Bytes → Bytes → Option (Nat × Nat)
  | a :: as, b :: bs =>
    if a = b then difference (place + 1) (if a = lineEnd then line + 1 else line) as bs
    else some (place, line)
  | _, _ => none

/-- Three octal digits, filled up with blanks. -/
def octalColumn (byte : UInt8) : Bytes :=
  let digits := Bytes.ofChars (Nat.toDigits 8 byte.toNat)
  List.replicate (3 - digits.length) (Bytes.ascii ' ') ++ digits

/-- Complain about words of `cmp`. -/
def wrongCompare (reason : Bytes) : Talk Nat := do
  complain reason
  let name ← ownName
  complain (bytes "Try '" ++ name ++ bytes " --help' for more information.")
  return 2

/-- Compare two files. -/
def cmp (words : List Bytes) : Talk Nat := do
  let known : Known := {
    letters := "bi:ln:s"
    long := [("print-bytes", 'b'), ("ignore-initial", 'i'), ("verbose", 'l'), ("bytes", 'n'), ("quiet", 's'),
      ("silent", 's')]
    wrong := 2 }
  match readOptions known (words.length + 1) words with
  | .error reason => wrongCompare reason
  | .ok chosen =>
    let silent := chosen.has 's'
    match chosen.words with
    | [] => wrongCompare (bytes "missing operand after '" ++ (← ownName) ++ bytes "'")
    | first :: others =>
      let second := others.headD (bytes "-")
      let isSize (text : Bytes) : Bool := (natural? text).isSome
      let wrongSkip := (others.tail.take 2).find? fun text => !isSize text
      let wrongOption := (chosen.text? 'i').filter fun text => !(text.splitOn (Bytes.ascii ':')).all isSize
      if let some text := wrongOption.orElse fun _ => wrongSkip then
        return ← wrongCompare (bytes "invalid --ignore-initial value '" ++ text ++ bytes "'")
      if let some text := (chosen.text? 'n').filter fun text => (amount? text).isNone then
        return ← wrongCompare (bytes "invalid --bytes value '" ++ text ++ bytes "'")
      if let extra :: _ := others.drop 3 then
        return ← wrongCompare (bytes "extra operand '" ++ extra ++ bytes "'")
      let skips := (chosen.text? 'i').map fun text =>
        (text.splitOn (Bytes.ascii ':')).map fun part => (natural? part).getD 0
      let skip (words : List Bytes) (fromOption : Option Nat) : Nat :=
        (fromOption.orElse fun _ => words.head?.bind natural?).getD 0
      let firstSkip := skip (others.drop 1) (skips.bind List.head?)
      let secondSkip := skip (others.drop 2) (skips.bind List.getLast?)
      let cut (data : Bytes) (skipped : Nat) : Bytes :=
        match (chosen.text? 'n').bind amount? with
        | some most => (data.drop skipped).take most
        | none => data.drop skipped
      match ← readInput first, ← readInput second with
      | .error errno, _ =>
        if !silent then complainBarely first errno
        return 2
      | .ok _, .error errno =>
        if !silent then complainBarely second errno
        return 2
      | .ok one, .ok two =>
        let a := cut one firstSkip
        let b := cut two secondSkip
        if a = b then return 0
        else if silent then return 1
        else
          let ended (inLine : Bool) : Talk Unit := do
            let (shorter, size) := if a.length < b.length then (first, a) else (second, b)
            let lines := (size.filter (· == lineEnd)).length
            let whole := size.getLast? == some lineEnd
            complain (bytes "EOF on " ++ shorter ++
              if size.isEmpty then bytes " which is empty"
              else bytes " after byte " ++ numeral size.length ++
                if !inLine then []
                else if whole then bytes ", line " ++ numeral lines else bytes ", in line " ++ numeral (lines + 1))
          if chosen.has 'l' then
            let pairs := (List.range (min a.length b.length)).zip (a.zip b)
            let width := (numeral (min a.length b.length)).length
            let shown := pairs.filterMap fun item =>
              let (x, y) := item.2
              if x = y then none
              else
                let place := numeral (item.1 + 1)
                some (List.replicate (width - place.length) (Bytes.ascii ' ') ++ place ++ bytes " " ++
                  octalColumn x ++ bytes " " ++ octalColumn y ++ [lineEnd])
            let _ ← print shown.flatten
            if a.length != b.length then ended false
            return 1
          else
            match difference 1 1 a b with
            | some (place, line) =>
              let shown (data : Bytes) : Bytes :=
                let byte := data.getD (place - 1) 0
                octalColumn byte ++ bytes " " ++ visible { marks := true, tabs := true } byte
              let told : Bytes := if chosen.has 'b' then bytes " is " ++ shown a ++ bytes " " ++ shown b else []
              let _ ← print (first ++ bytes " " ++ second ++
                bytes (if chosen.has 'b' then " differ: byte " else " differ: char ") ++ numeral place ++
                bytes ", line " ++ numeral line ++ told ++ [lineEnd])
              return 1
            | none =>
              ended true
              return 1

/-- How bytes are shown in a column. -/
inductive Column where
  | named
  | number (base size : Nat) (signed : Bool)
  deriving DecidableEq, Repr

/-- How many bytes a column shows. -/
def Column.size : Column → Nat
  | .named => 1
  | .number _ size _ => size

/-- How many digits the greatest number of so many bytes has. -/
def widest (base size : Nat) (signed : Bool) : Nat :=
  let greatest := Nat.pow 256 size - 1
  if base = 10 && signed then (Nat.toDigits 10 (greatest / 2 + 1)).length + 1
  else (Nat.toDigits base greatest).length

/-- How wide a column is, the blank before it included. -/
def Column.width : Column → Nat
  | .named => 4
  | .number base size signed => widest base size signed + 1

/-- What stands for a byte that is shown by its name. -/
def nameOf (byte : UInt8) : Bytes :=
  match byte.toNat with
  | 0 => bytes "\\0"
  | 7 => bytes "\\a"
  | 8 => bytes "\\b"
  | 9 => bytes "\\t"
  | 10 => bytes "\\n"
  | 11 => bytes "\\v"
  | 12 => bytes "\\f"
  | 13 => bytes "\\r"
  | n =>
    if 32 ≤ n && n < 127 then [byte]
    else
      let digits := Bytes.ofChars (Nat.toDigits 8 n)
      List.replicate (3 - digits.length) (Bytes.ascii '0') ++ digits

/-- Some bytes in a column. -/
def Column.shown (column : Column) (data : Bytes) : Bytes :=
  let text : Bytes := match column with
    | .named => nameOf (data.headD 0)
    | .number base size signed =>
      let value : Nat := data.reverse.foldl (fun n byte => n * 256 + byte.toNat) 0
      let digits (n : Nat) : Bytes := Bytes.ofChars (Nat.toDigits base n)
      let filledUp (text : Bytes) : Bytes :=
        if base = 10 then text
        else List.replicate (widest base size signed - text.length) (Bytes.ascii '0') ++ text
      if signed && Nat.pow 256 size ≤ 2 * value then bytes "-" ++ digits (Nat.pow 256 size - value)
      else filledUp (digits value)
  List.replicate (column.width - text.length) (Bytes.ascii ' ') ++ text

/-- The columns that a type spells. -/
def columnsOf : Nat → List Char → List Column
  | 0, _ => []
  | _ + 1, [] => []
  | fuel + 1, c :: rest =>
    let digits := rest.takeWhile Char.isDigit
    let named : Option Nat := match rest.head? with
      | some 'C' => some 1
      | some 'S' => some 2
      | some 'I' => some 4
      | some 'L' => some 8
      | _ => none
    let size := named.getD (if digits.isEmpty then 4 else digits.foldl (fun n d => n * 10 + (d.toNat - 48)) 0)
    let left := if named.isSome then rest.tail else rest.drop digits.length
    match c with
    | 'c' | 'a' => .named :: columnsOf fuel rest
    | 'x' => .number 16 size false :: columnsOf fuel left
    | 'o' => .number 8 size false :: columnsOf fuel left
    | 'u' => .number 10 size false :: columnsOf fuel left
    | 'd' => .number 10 size true :: columnsOf fuel left
    | _ => columnsOf fuel rest

/-- Lists of so many bytes. -/
def blocksOf (size : Nat) : Nat → Bytes → List Bytes
  | 0, _ => []
  | _ + 1, [] => []
  | fuel + 1, data => data.take (max 1 size) :: blocksOf size fuel (data.drop (max 1 size))

/-- A number of digits to some base, with zeros before it. -/
def address (base : Option Nat) (place : Nat) : Bytes :=
  match base with
  | none => []
  | some base =>
    let digits := Bytes.ofChars (Nat.toDigits base place)
    let width := if base = 16 then 6 else 7
    List.replicate (width - digits.length) (Bytes.ascii '0') ++ digits

/-- The lines that show blocks; repeated blocks are left out if wanted. -/
def dumpLines (columns : List Column) (base : Option Nat) (all : Bool) (place : Nat) (before : Option Bytes)
    (starred : Bool) : List Bytes → List Bytes
  | [] => [address base place]
  | block :: rest =>
    if !all && before == some block then
      (if starred then [] else [bytes "*"]) ++
        dumpLines columns base all (place + block.length) before true rest
    else
      let groups (column : Column) : List Bytes := blocksOf column.size (block.length + 1) block
      let unit := (columns.map fun column => (column.width + column.size - 1) / column.size).foldl max 1
      let one (column : Column) : Bytes :=
        let padding := if columns.length ≤ 1 then 0 else unit * column.size - column.width
        ((groups column).map fun group => List.replicate padding (Bytes.ascii ' ') ++ column.shown group).flatten
      let shown := columns.map one
      let indent := List.replicate (address base place).length (Bytes.ascii ' ')
      let lines := match shown with
        | first :: others => (address base place ++ first) :: others.map fun other => indent ++ other
        | [] => []
      lines ++ dumpLines columns base all (place + block.length) (some block) false rest

/-- Show bytes as numbers or names. -/
def od (words : List Bytes) : Talk Nat :=
  let known : Known := {
    letters := "A:abcdDfFhHiIj:lLN:oOsS:t:vw:xX"
    long := [("address-radix", 'A'), ("skip-bytes", 'j'), ("read-bytes", 'N'), ("format", 't'),
      ("output-duplicates", 'v'), ("width", 'w')] }
  withOptions known words fun chosen => do
    let mut data : Bytes := []
    let mut code := 0
    let mut opened := false
    for path in chosen.inputs do
      match ← readInput path with
      | .ok found =>
        data := data ++ found
        opened := true
      | .error errno =>
        complainOf path errno
        code := 1
    let spelled := chosen.options.flatMap fun option =>
      match option.1 with
      | 't' => columnsOf (option.2.length + 1) (Bytes.toOctets option.2)
      | 'a' | 'c' => [Column.named]
      | 'b' => [.number 8 1 false]
      | 'd' => [.number 10 2 false]
      | 'o' => [.number 8 2 false]
      | 's' => [.number 10 2 true]
      | 'x' => [.number 16 2 false]
      | 'i' => [.number 10 4 true]
      | 'l' => [.number 10 8 true]
      | _ => []
    let columns := if spelled.isEmpty then [Column.number 8 2 false] else spelled
    let skipped := ((chosen.text? 'j').bind amount?).getD 0
    let rest := data.drop skipped
    let wanted := match (chosen.text? 'N').bind amount? with
      | some most => rest.take most
      | none => rest
    let base : Option Nat := match (chosen.text? 'A').bind List.head? with
      | some letter =>
        if letter == Bytes.ascii 'n' then none
        else if letter == Bytes.ascii 'd' then some 10
        else if letter == Bytes.ascii 'x' then some 16
        else some 8
      | none => some 8
    let width := ((chosen.text? 'w').bind natural?).getD 16
    let lines := dumpLines columns base (chosen.has 'v') skipped none false
      (blocksOf width (wanted.length + 1) wanted)
    let kept := if base.isNone then lines.dropLast else lines
    if !opened then return code
    let printed ← print (kept.map fun line => line ++ [lineEnd]).flatten
    return max code printed

/-- The value of a setting such as `bs=4096`. -/
def settingOf? (name : String) (words : List Bytes) : Option Bytes :=
  let start := bytes name ++ bytes "="
  (words.reverse.find? fun word => start.isPrefixOf word).map fun word => word.drop start.length

/-- The settings that copying knows. -/
def copySettings : List String :=
  ["if", "of", "bs", "ibs", "obs", "cbs", "count", "skip", "seek", "iseek", "oseek", "conv", "status",
    "iflag", "oflag"]

/-- How blocks are copied. -/
structure BlockCopy where
  source : Nat
  target : Nat
  size : Nat
  /-- The size of the blocks that are written; without one, every block is written as it was read. -/
  gathered : Option Nat
  /-- Whether blocks are filled up from what comes later before they count, and otherwise with zeros. -/
  waits : Bool
  pads : Bool
  conversions : List Bytes

/-- What copying has come to: whole and partial blocks that were read and written, how many bytes, and
what is still to be written. -/
structure Copied where
  whole : Nat := 0
  part : Nat := 0
  wholeOut : Nat := 0
  partOut : Nat := 0
  size : Nat := 0
  held : Bytes := []

/-- Why copying has ended early. -/
inductive BlockFault where
  | reading (errno : Errno)
  | writing (errno : Errno)

/-- What is done to what is copied. -/
def converted (conversions : List Bytes) (data : Bytes) : Bytes :=
  let swapped (all : Bytes) : Bytes := (blocksOf 2 (all.length + 1) all).flatMap List.reverse
  let changed (data : Bytes) (name : Bytes) : Bytes :=
    if name = bytes "ucase" then data.map fun byte => if 97 ≤ byte && byte ≤ 122 then byte - 32 else byte
    else if name = bytes "lcase" then data.map fun byte => if 65 ≤ byte && byte ≤ 90 then byte + 32 else byte
    else if name = bytes "swab" then swapped data
    else data
  conversions.foldl changed data

/-- Write a block, which is a whole one or not. -/
def BlockCopy.writeBlock (copying : BlockCopy) (isWhole : Bool) (block : Bytes) (copied : Copied) :
    Talk (Except BlockFault Copied) := do
  match ← writeAll copying.target block with
  | .error errno => return .error (.writing errno)
  | .ok () =>
    let next := { copied with size := copied.size + block.length }
    return .ok (if isWhole then { next with wholeOut := next.wholeOut + 1 }
      else { next with partOut := next.partOut + 1 })

/-- Write the whole blocks of what is held. -/
def BlockCopy.writeWhole (copying : BlockCopy) (size : Nat) : Nat → Copied → Talk (Copied × Option BlockFault)
  | 0, copied => return (copied, none)
  | fuel + 1, copied => do
    if copied.held.length < size then return (copied, none)
    else
      let block := copied.held.take size
      match ← copying.writeBlock true block { copied with held := copied.held.drop size } with
      | .ok next => copying.writeWhole size fuel next
      | .error fault => return (copied, some fault)

/-- Write what a block has become. -/
def BlockCopy.pass (copying : BlockCopy) (block : Bytes) (copied : Copied) : Talk (Copied × Option BlockFault) := do
  let data := converted copying.conversions block
  match copying.gathered with
  | some size =>
    copying.writeWhole size (copied.held.length + data.length) { copied with held := copied.held ++ data }
  | none =>
    match ← copying.writeBlock (block.length = copying.size) data copied with
    | .ok next => return (next, none)
    | .error fault => return (copied, some fault)

/-- Read the rest of a block of which some bytes are there, as much of it as comes at once or all. -/
def BlockCopy.fill (copying : BlockCopy) : Nat → Bytes → Talk (Except Errno Bytes)
  | 0, start => return .ok start
  | fuel + 1, start => do
    match ← call (.read copying.source (copying.size - start.length)) with
    | .error errno => return .error errno
    | .ok data =>
      let block := start ++ data
      if copying.waits && !data.isEmpty && block.length < copying.size then copying.fill fuel block
      else return .ok block

/-- Copy blocks, and tell how many there were. -/
def BlockCopy.run (copying : BlockCopy) : Nat → Copied → Talk (Copied × Option BlockFault)
  | 0, copied => return (copied, none)
  | count + 1, copied => do
    match ← copying.fill (copying.size + 1) [] with
    | .error errno => return (copied, some (.reading errno))
    | .ok [] => return (copied, none)
    | .ok data =>
      let isWhole := data.length = copying.size
      let counted := if isWhole then { copied with whole := copied.whole + 1 }
        else { copied with part := copied.part + 1 }
      let block := if copying.pads then data ++ List.replicate (copying.size - data.length) 0 else data
      match ← copying.pass block counted with
      | (next, none) => copying.run count next
      | (next, some fault) => return (next, some fault)

/-- Copy blocks, and write at last what does not fill one. -/
def BlockCopy.finish (copying : BlockCopy) (count : Nat) : Talk (Copied × Option BlockFault) := do
  match ← copying.run count {} with
  | (copied, some (.writing errno)) => return (copied, some (.writing errno))
  | (copied, fault) =>
    if copied.held.isEmpty then return (copied, fault)
    else
      match ← copying.writeBlock false copied.held { copied with held := [] } with
      | .ok next => return (next, fault)
      | .error other => return (copied, some other)

/-- Read over so many bytes. -/
def passOver (source : Nat) : Nat → Nat → Talk Unit
  | 0, _ => return ()
  | _ + 1, 0 => return ()
  | fuel + 1, count => do
    match ← call (.read source (min count chunk)) with
    | .ok [] | .error _ => return ()
    | .ok data => passOver source fuel (count - data.length)

/-- Copy bytes in blocks. -/
def dd (words : List Bytes) : Talk Nat := do
  let setting (name : String) : Option Bytes := settingOf? name words
  let listOf (name : String) : List Bytes := ((setting name).getD []).splitOn (Bytes.ascii ',')
  let wrong := words.find? fun word =>
    !(copySettings.any fun name => (bytes name ++ bytes "=").isPrefixOf word)
  let numbers := ["bs", "ibs", "obs", "count", "skip", "seek"]
  let wrongNumber := numbers.find? fun name =>
    (setting name).any fun text =>
      match amount? text with
      | none => true
      | some value => value = 0 && ["bs", "ibs", "obs"].contains name
  match wrong, wrongNumber with
  | some word, _ => misuse (bytes "unrecognized operand " ++ quoted word) 1
  | none, some name =>
    complain (bytes "invalid number: " ++ quoted ((setting name).getD []))
    return 1
  | none, none =>
    let number (name : String) (usual : Nat) : Nat := ((setting name).bind amount?).getD usual
    let size := number "bs" (number "ibs" 512)
    let outSize := number "bs" (number "obs" 512)
    let keeps := (listOf "conv").contains (bytes "notrunc") || setting "seek" != none
    let refused (path : Bytes) (errno : Errno) : Talk Nat := do
      complain (bytes "failed to open " ++ quoted path ++ bytes ": " ++ bytes errno.usual)
      return 1
    let source ← match setting "if" with
      | none => pure (.ok 0)
      | some path => call (.openFile path Access.reading false)
    match source with
    | .error errno => refused ((setting "if").getD []) errno
    | .ok input =>
      let access : Access := if (listOf "oflag").contains (bytes "append") then Access.appending
        else if keeps then { writes := true, create := true } else Access.writing
      -- What is to stay before the place where writing starts is written anew.
      let place := number "seek" 0 * outSize
      let old ← match setting "of" with
        | some path =>
          if 0 < place then
            match ← readInput path with
            | .ok data => pure data
            | .error _ => pure []
          else pure []
        | none => pure []
      let target ← match setting "of" with
        | none => pure (.ok 1)
        | some path => call (.openFile path access false)
      match target with
      | .error errno => refused ((setting "of").getD []) errno
      | .ok output =>
        if 0 < place then
          let start := old.take place
          let _ ← writeAll output (start ++ List.replicate (place - start.length) 0)
        passOver input mostPieces (number "skip" 0 * size)
        let conversions := listOf "conv"
        let changes := conversions.any fun name => ["ucase", "lcase", "swab"].any fun known => name = bytes known
        let copying : BlockCopy := {
          source := input
          target := output
          size
          gathered := if setting "bs" != none && !changes then none else some outSize
          waits := (listOf "iflag").contains (bytes "fullblock")
          pads := conversions.contains (bytes "sync")
          conversions }
        let (copied, fault) ← copying.finish (number "count" mostPieces)
        let told : String × Nat × Nat → Bytes := fun item =>
          numeral item.2.1 ++ bytes "+" ++ numeral item.2.2 ++ bytes " records " ++ bytes item.1 ++ [lineEnd]
        let status := (setting "status").getD []
        match fault with
        | none => pure ()
        | some (.reading errno) =>
          complain (bytes "error reading " ++ quoted ((setting "if").getD (bytes "standard input")) ++
            bytes ": " ++ bytes errno.usual)
        | some (.writing errno) =>
          complain (bytes "error writing " ++ quoted ((setting "of").getD (bytes "standard output")) ++
            bytes ": " ++ bytes errno.usual)
        if status != bytes "none" then
          let _ ← writeAll 2 (told ("in", copied.whole, copied.part) ++
            told ("out", copied.wholeOut, copied.partOut))
          if status != bytes "noxfer" then
            let _ ← writeAll 2 (numeral copied.size ++ bytes (if copied.size = 1 then " byte" else " bytes") ++
              bytes " copied, 0.0001 s, " ++ numeral (copied.size / 100) ++ bytes " MB/s\n")
        return if fault.isSome then 1 else 0

end Umpire.Tool
