import Umpire.Tool.Outlet

/-! Programs of the host that copy bytes, count them or make them up. -/

namespace Umpire.Tool

open Host

/-- How `cat` shows what it copies. -/
structure Show where
  numbers : Bool := false
  /-- Only lines that are not empty get a number. -/
  numbersFilled : Bool := false
  squeezes : Bool := false
  ends : Bool := false
  tabs : Bool := false
  marks : Bool := false
  deriving DecidableEq, Repr

/-- What `cat` has to know of what it has copied already. -/
structure Shown where
  line : Nat := 1
  atStart : Bool := true
  /-- Whether the line before was empty. -/
  wasEmpty : Bool := false

/-- A byte made visible. -/
def visible (how : Show) (byte : UInt8) : Bytes :=
  let low := byte % 128
  let start : Bytes := if how.marks && 128 ≤ byte then bytes "M-" else []
  if byte == 9 then (if how.tabs then bytes "^I" else [9])
  else if !how.marks then [byte]
  else if low == 127 then start ++ bytes "^?"
  else if low < 32 then start ++ [Bytes.ascii '^', low + 64]
  else start ++ [low]

/-- The bytes that `cat` shows, and what it knows then. -/
def showBytes (how : Show) : Shown → Bytes → Shown × Bytes
  | shown, [] => (shown, [])
  | shown, byte :: rest =>
    let isEmpty := shown.atStart && byte == lineEnd
    if isEmpty && how.squeezes && shown.wasEmpty then showBytes how shown rest
    else
      let counts := shown.atStart && (if how.numbersFilled then !isEmpty else how.numbers)
      let digits := numeral shown.line
      let number : Bytes := if counts then
          List.replicate (6 - digits.length) (Bytes.ascii ' ') ++ digits ++ [9]
        else []
      let part : Bytes := if byte == lineEnd then (if how.ends then [Bytes.ascii '$', byte] else [byte])
        else visible how byte
      let next : Shown := ⟨if counts then shown.line + 1 else shown.line, byte == lineEnd, isEmpty⟩
      let (after, others) := showBytes how next rest
      (after, number ++ part ++ others)

/-- Copy a file piece by piece; the answer is a code once nothing more can be written. -/
def copyShown (how : Show) (fd : Nat) : Nat → Shown →
    Talk (Except Errno (Shown × Option Nat))
  | 0, shown => return .ok (shown, none)
  | fuel + 1, shown => do
    match ← call (.read fd chunk) with
    | .error errno =>
      if errno = Errno.interrupted then copyShown how fd fuel shown else return .error errno
    | .ok [] => return .ok (shown, none)
    | .ok data =>
      let (next, part) := if how = {} then (shown, data) else showBytes how shown data
      match ← writeAll 1 part with
      | .ok () => copyShown how fd fuel next
      | .error errno =>
        complain (bytes "write error: " ++ bytes errno.usual)
        return .ok (next, some 1)

/-- Copy several files, one after the other. -/
def copyAll (how : Show) : List Bytes → Shown → Nat → Talk Nat
  | [], _, code => return code
  | path :: rest, shown, code => do
    match ← openInput path with
    | .error errno =>
      complainOf path errno
      copyAll how rest shown 1
    | .ok fd =>
      let isEndless ← feedsItself fd
      let result ← if isEndless then pure (.ok (shown, none)) else copyShown how fd mostPieces shown
      if isEndless then complain (path ++ bytes ": input file is output file")
      if fd != 0 then
        let _ ← call (.close fd)
      if isEndless then return ← copyAll how rest shown 1
      match result with
      | .error errno =>
        complainOf path errno
        copyAll how rest shown 1
      | .ok (_, some failed) => return failed
      | .ok (next, none) => copyAll how rest next code

/-- Copy files to standard output. -/
def cat (words : List Bytes) : Talk Nat :=
  let known : Known := {
    letters := "AbeEnstTuv"
    long := [("show-all", 'A'), ("number-nonblank", 'b'), ("show-ends", 'E'), ("number", 'n'),
      ("squeeze-blank", 's'), ("show-tabs", 'T'), ("show-nonprinting", 'v')] }
  withOptions known words fun chosen =>
    let any (letters : String) : Bool := letters.toList.any chosen.has
    let how : Show := {
      numbers := any "nb"
      numbersFilled := any "b"
      squeezes := any "s"
      ends := any "AEe"
      tabs := any "ATt"
      marks := any "Avet" }
    copyAll how chosen.inputs {} 0

/-- Write bytes to several descriptors; those that cannot take them are told and given up. -/
def writeEach (data : Bytes) : List (Nat × Bytes) → Talk (List (Nat × Bytes) × Nat)
  | [] => return ([], 0)
  | (fd, path) :: rest => do
    let written ← writeAll fd data
    let (others, code) ← writeEach data rest
    match written with
    | .ok () => return ((fd, path) :: others, code)
    | .error errno =>
      complainOf path errno
      return (others, 1)

/-- Copy standard input to several descriptors while there are any. -/
def spread : Nat → List (Nat × Bytes) → Nat → Talk Nat
  | 0, _, code => return code
  | fuel + 1, targets, code => do
    if targets.isEmpty then return code
    else
      match ← call (.read 0 chunk) with
      | .error errno =>
        if errno = Errno.interrupted then spread fuel targets code
        else
          complain (bytes "read error: " ++ bytes errno.usual)
          return 1
      | .ok [] => return code
      | .ok data =>
        let (left, failed) ← writeEach data targets
        spread fuel left (max code failed)

/-- Copy standard input to standard output and to files. -/
def tee (words : List Bytes) : Talk Nat :=
  let known : Known := {
    letters := "aip"
    long := [("append", 'a'), ("ignore-interrupts", 'i')] }
  withOptions known words fun chosen => do
    if chosen.has 'i' then
      let _ ← call (.setAction 2 .ignore)
    let access := if chosen.has 'a' then Access.appending else Access.writing
    let mut ends : List (Nat × Bytes) := [(1, bytes "standard output")]
    let mut code := 0
    for path in chosen.words do
      match ← call (.openFile path access false) with
      | .ok fd => ends := ends ++ [(fd, path)]
      | .error errno =>
        complainOf path errno
        code := 1
    spread mostPieces ends code

/-- Write the same block again and again. -/
def flood (block : Bytes) : Nat → Talk Nat
  | 0 => return 0
  | fuel + 1 => do
    match ← writeAll 1 block with
    | .ok () => flood block fuel
    | .error errno =>
      complain (bytes "standard output: " ++ bytes errno.usual)
      return 1

/-- Print a line again and again. -/
def yes (words : List Bytes) : Talk Nat :=
  withOptions { letters := "" } words fun chosen =>
    let line := (if chosen.words.isEmpty then bytes "y"
      else [Bytes.ascii ' '].intercalate chosen.words) ++ [lineEnd]
    flood (List.replicate (max 1 (8192 / line.length)) line).flatten mostPieces

/-- The bytes up to the end of so many lines. -/
def firstLines : Nat → Bytes → Bytes
  | 0, _ => []
  | _ + 1, [] => []
  | count + 1, byte :: rest =>
    if byte == lineEnd then byte :: firstLines count rest
    else byte :: firstLines (count + 1) rest

/-- Copy bytes until enough lines have been copied. -/
def copyLines (fd : Nat) : Nat → Nat → Printing (Except Errno Nat)
  | 0, _ => return .ok 0
  | _ + 1, 0 => return .ok 0
  | fuel + 1, count => do
    match ← Printing.ask (.read fd 8192) with
    | .error errno => return .error errno
    | .ok [] => return .ok 0
    | .ok data =>
      let part := firstLines count data
      Printing.put part
      -- What has been read but is not wanted is left to others, where that can be.
      if part.length < data.length then
        let _ ← Printing.ask (.goBack fd (data.length - part.length))
      copyLines fd fuel (count - (part.filter (· == lineEnd)).length)

/-- Copy so many bytes. -/
def copyBytes (fd : Nat) : Nat → Nat → Printing (Except Errno Nat)
  | 0, _ => return .ok 0
  | _ + 1, 0 => return .ok 0
  | fuel + 1, count => do
    match ← Printing.ask (.read fd (min count 8192)) with
    | .error errno => return .error errno
    | .ok [] => return .ok 0
    | .ok data =>
      Printing.put data
      copyBytes fd fuel (count - data.length)

/-- Which part of a file is wanted: so many bytes or lines, with the sign that stands before them. -/
structure Share where
  sign : Option Char := none
  count : Nat := 10
  inBytes : Bool := false
  deriving DecidableEq, Repr

/-- The part that the text of an option asks for. -/
def shareOf? (inBytes : Bool) (text : Bytes) : Option Share :=
  let chars := Bytes.toOctets text
  let sign := chars.head?.filter fun c => c == '-' || c == '+'
  (amount? (if sign.isSome then text.tail else text)).map fun count => ⟨sign, count, inBytes⟩

/-- The part that options ask for, or the complaint about one. -/
def wantedShare (chosen : Chosen) : Except Bytes Share :=
  match chosen.last? "nc" with
  | none => .ok {}
  | some letter =>
    let text := (chosen.text? letter).getD []
    match shareOf? (letter == 'c') text with
    | some found => .ok found
    | none => .error (bytes "invalid number of " ++ bytes (if letter == 'c' then "bytes" else "lines") ++
        bytes ": " ++ cited text)

/-- Words in which a bare number of lines at the start is spelled as an option. -/
def spelledOut (signs : String) : List Bytes → List Bytes
  | word :: rest =>
    match Bytes.toOctets word with
    | sign :: c :: digits =>
      if signs.toList.contains sign && (c :: digits).all Char.isDigit then
        bytes "-n" :: (if sign == '+' then word else word.tail) :: rest
      else word :: rest
    | _ => word :: rest
  | [] => []

/-- What programs complain that cannot write the part of a file. -/
def partOutlet : Outlet where
  objection := fun errno => bytes "error writing 'standard output': " ++ bytes errno.usual

/-- Do something with each of several files; their names go before them if there are several. -/
def eachFile (chosen : Chosen) (work : Nat → Printing (Except Errno Nat)) : Talk Nat :=
  Printing.run partOutlet do
    let titled := chosen.last? "qv" == some 'v' ||
      (1 < chosen.words.length && chosen.last? "qv" != some 'q')
    let mut code := 0
    let mut isFirst := true
    for path in chosen.inputs do
      match ← Printing.aside (openInput path) with
      | .error errno =>
        Printing.tell (complain
          (bytes "cannot open " ++ quoted path ++ bytes " for reading: " ++ bytes errno.usual))
        code := 1
      | .ok fd =>
        if titled then
          let title := if path = bytes "-" then bytes "standard input" else path
          Printing.put (bytes (if isFirst then "==> " else "\n==> ") ++ title ++ bytes " <==\n")
        isFirst := false
        match ← work fd with
        | .ok one => code := max code one
        | .error errno =>
          Printing.tell (complain (bytes "error reading " ++ quoted path ++ bytes ": " ++ bytes errno.usual))
          code := 1
        if fd != 0 then
          let _ ← Printing.ask (.close fd)
    return code

/-- Copy the start of files. -/
def head (words : List Bytes) : Talk Nat :=
  let known : Known := {
    letters := "c:n:qvz"
    long := [("bytes", 'c'), ("lines", 'n'), ("quiet", 'q'), ("silent", 'q'), ("verbose", 'v')] }
  withOptions known (spelledOut "-" words) fun chosen => do
    match wantedShare chosen with
    | .error reason =>
      complain reason
      return 1
    | .ok share =>
      eachFile chosen fun fd => do
        match share.sign == some '-', share.inBytes with
        | false, true => copyBytes fd mostPieces share.count
        | false, false => copyLines fd mostPieces share.count
        | true, inBytes =>
          match ← Printing.aside (readAll fd) with
          | .error errno => return .error errno
          | .ok data =>
            let lines := linesOf data
            Printing.put (if inBytes then data.take (data.length - share.count)
              else (lines.take (lines.length - share.count)).flatten)
            return .ok 0

/-- Copy what is added to a file, again and again. -/
def follow (fd : Nat) : Nat → Printing Nat
  | 0 => return 0
  | fuel + 1 => do
    Printing.flush partOutlet.objection
    match ← Printing.ask (.read fd chunk) with
    | .ok [] =>
      let _ ← Printing.ask (.sleep 1000000)
      follow fd fuel
    | .ok data =>
      Printing.put data
      follow fd fuel
    | .error _ => return 1

/-- Copy what is left once so much has been passed over. -/
def copyAfter (fd : Nat) (inBytes : Bool) : Nat → Nat → Printing (Except Errno Nat)
  | 0, _ => return .ok 0
  | fuel + 1, count => do
    match ← Printing.ask (.read fd chunk) with
    | .error errno => return .error errno
    | .ok [] => return .ok 0
    | .ok data =>
      let passed := if inBytes then data.take count else firstLines count data
      Printing.put (data.drop passed.length)
      copyAfter fd inBytes fuel
        (count - if inBytes then passed.length else (passed.filter (· == lineEnd)).length)

/-- Copy the end of files. -/
def tail (words : List Bytes) : Talk Nat :=
  let known : Known := {
    letters := "c:fFn:qs:vz"
    long := [("bytes", 'c'), ("follow", 'f'), ("lines", 'n'), ("quiet", 'q'), ("silent", 'q'), ("verbose", 'v'),
      ("sleep-interval", 's')] }
  withOptions known (spelledOut "-+" words) fun chosen => do
    match wantedShare chosen with
    | .error reason =>
      complain reason
      return 1
    | .ok share =>
      eachFile chosen fun fd => do
        let copied ← if share.sign == some '+' then copyAfter fd share.inBytes mostPieces (share.count - 1)
          else
            match ← Printing.aside (readAll fd) with
            | .error errno => pure (.error errno)
            | .ok data =>
              let lines := linesOf data
              Printing.put (if share.inBytes then data.drop (data.length - share.count)
                else (lines.drop (lines.length - share.count)).flatten)
              pure (.ok 0)
        let follows := (chosen.has 'f' || chosen.has 'F') && fd != 0
        match copied with
        | .ok _ => if follows then return .ok (← follow fd mostPieces) else return copied
        | .error _ => return copied

/-- How many words some characters have. -/
def countWords (inWord : Bool) : List Char → Nat
  | [] => 0
  | c :: rest =>
    let isBlank := c == ' ' || ('\t' ≤ c && c ≤ '\r')
    -- What cannot be printed neither starts a word nor ends it.
    let isOther := !isBlank && !isPrintable c
    (if !isBlank && !isOther && !inWord then 1 else 0) +
      countWords (if isOther then inWord else !isBlank) rest

/-- How wide a line is, tabs filled up. -/
def widthOf (line : Bytes) : Nat :=
  (Utf8.loose line).foldl (fun width c =>
    if c == '\t' then (width / 8 + 1) * 8 else if isPrintable c then width + 1 else width) 0

/-- The counts of some bytes that options ask for: lines, words, characters, bytes, the widest line. -/
def countsOf (chosen : Chosen) (data : Bytes) : List Nat :=
  let usual := chosen.options.isEmpty
  (if usual || chosen.has 'l' then [(data.filter (· == lineEnd)).length] else []) ++
    (if usual || chosen.has 'w' then [countWords false (Utf8.loose data)] else []) ++
    (if chosen.has 'm' then [(Utf8.loose data).length] else []) ++
    (if usual || chosen.has 'c' then [data.length] else []) ++
    (if chosen.has 'L' then [((linesOf data).map fun line => widthOf (bareLine line)).foldl max 0] else [])

/-- How wide counts are printed: as the sizes of all files together need it, or widely if a size is not
known beforehand. -/
def countWidth (counts : Nat) (paths : List Bytes) : Talk Nat := do
  let mut whole := 0
  let mut least := 1
  for path in paths do
    let known ← call (.info (if path = bytes "-" then bytes "/dev/stdin" else path) true)
    match known with
    | .ok info => if info.kind == .file then whole := whole + info.size else least := 7
    | .error _ => if path = bytes "-" then least := 7
  return if counts ≤ 1 && paths.length ≤ 1 then 1 else max least (numeral whole).length

/-- What counts are printed through: every line is written at once. -/
def countOutlet : Outlet where
  gathering := .lines
  objection := fun _ => bytes "write error"

/-- Count lines, words and bytes. -/
def wc (words : List Bytes) : Talk Nat :=
  let known : Known := {
    letters := "clLmw"
    long := [("bytes", 'c'), ("lines", 'l'), ("max-line-length", 'L'), ("chars", 'm'), ("words", 'w')] }
  withOptions known words fun chosen => do
    let width ← countWidth (countsOf chosen []).length chosen.inputs
    let shown (counts : List Nat) (name : Bytes) : Bytes :=
      let padded := counts.map fun n =>
        let digits := numeral n
        List.replicate (width - digits.length) (Bytes.ascii ' ') ++ digits
      let whole := [Bytes.ascii ' '].intercalate padded
      (if name.isEmpty then whole else whole ++ Bytes.ascii ' ' :: name) ++ [lineEnd]
    Printing.done countOutlet do
      let mut code := 0
      let mut total : List Nat := (countsOf chosen []).map fun _ => 0
      for path in chosen.inputs do
        match ← Printing.aside (readInput path) with
        | .error errno =>
          Printing.tell (complainOf path errno)
          code := 1
          if errno = Errno.isDirectory then
            Printing.put (shown (total.map fun _ => 0) path)
        | .ok data =>
          let counts := countsOf chosen data
          total := total.zipWith (· + ·) counts
          Printing.put (shown counts (if chosen.words.isEmpty then [] else path))
      if 1 < chosen.words.length then
        Printing.put (shown total (bytes "total"))
      return code

end Umpire.Tool
