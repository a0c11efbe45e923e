import Umpire.Shell.Builtin.Basic
import Umpire.Shell.Mark

/-! Builtin commands that read lines into variables. -/

namespace Umpire.Shell.Builtin

/-- What has been read of a line: its characters, and whether each was shielded. -/
structure Line where
  taken : List Marked := []
  status : Nat := 0
  /-- Why nothing more could be read. -/
  refusal : Option Errno := none

/-- How a line is to be read. -/
structure LineRules where
  fd : Nat := 0
  /-- Whether backslashes are characters like others. -/
  raw : Bool := false
  /-- The character that ends the line, if one does. -/
  delimiter : Option Char := some '\n'
  /-- How many characters are read at most. -/
  most : Option Nat := none

/-- Read a line octet by octet. What is remembered breaks the plain shell's reading off. -/
def readLine (rules : LineRules) (traps : Doing Unit) : Nat → Bool → List Marked → Doing Line
  | 0, _, taken => return { taken, status := 1 }
  | fuel + 1, shielded, taken => do
    if rules.most.any (· ≤ taken.length) then return { taken }
    else
      match ← ask (.read rules.fd 1) with
      | .error errno =>
        let shell ← get
        if errno = Errno.interrupted && shell.dialect = .large then
          traps
          readLine rules traps fuel shielded taken
        else return { taken, status := 1, refusal := if errno = Errno.interrupted then none else some errno }
      | .ok [] => return { taken, status := 1 }
      | .ok (byte :: _) =>
        let c := Char.ofNat byte.toNat
        if shielded then
          if c == '\n' then readLine rules traps fuel false taken
          else readLine rules traps fuel false ((c, true) :: taken)
        else if c == '\\' && !rules.raw then readLine rules traps fuel true taken
        else if rules.delimiter == some c then return { taken }
        else if byte == 0 then readLine rules traps fuel false taken
        else readLine rules traps fuel false ((c, false) :: taken)

/-- Whether a character separates fields. -/
def separates (separators : List Char) (found : Marked) : Bool :=
  !found.2 && separators.contains found.1

/-- Whether a character is a blank between fields. -/
def isBlank (separators : List Char) (found : Marked) : Bool :=
  separates separators found && (found.1 == ' ' || found.1 == '\t' || found.1 == '\n')

/-- The first field of a text that starts with no blank, and what follows the separator after it. -/
def firstField (separators : List Char) (marked : List Marked) : List Marked × List Marked :=
  let field := marked.takeWhile fun found => !separates separators found
  let after := (marked.drop field.length).dropWhile (isBlank separators)
  let rest := match after with
    | found :: others =>
      if separates separators found then others.dropWhile (isBlank separators) else after
    | [] => []
  (field, rest)

/-- The texts that the fields of a line give to so many names; the last gets all that is left. -/
def share (separators : List Char) : Nat → List Marked → List (List Char)
  | 0, _ => []
  | 1, marked =>
    let blank := isBlank separators
    let start := marked.dropWhile blank
    -- A separator after the only field that is left belongs to nothing.
    match firstField separators start with
    | (field, []) => [bare field]
    | _ => [bare (start.reverse.dropWhile blank).reverse]
  | count + 2, marked =>
    let (field, rest) := firstField separators (marked.dropWhile (isBlank separators))
    bare field :: share separators (count + 1) rest

/-- All fields of a line. -/
def allFields (separators : List Char) : Nat → List Marked → List (List Char)
  | 0, _ => []
  | fuel + 1, marked =>
    match marked.dropWhile (isBlank separators) with
    | [] => []
    | start =>
      let (field, rest) := firstField separators start
      bare field :: allFields separators fuel rest

/-- Give names their values, up to one that cannot have one. -/
def storeAll : List (List Char × List Char) → Doing Bool
  | [] => return true
  | (name, value) :: rest => do
    let shell ← get
    if shell.dialect = .plain && !isName name then
      let _ ← fault "read" (name ++ ascii ": bad variable name") 2
      return false
    else if ← storeOrTell name value then storeAll rest
    else return false

/-- Read a line into variables. -/
def readInto (rules : LineRules) (traps : Doing Unit) (array : Option (List Char))
    (names : List (List Char)) : Doing Nat := do
  let line ← readLine rules traps Host.mostPieces false []
  let shell ← get
  if let some errno := line.refusal then
    if shell.isLarge then
      let _ ← told "read" (ascii "read error: " ++ numeral rules.fd ++ ascii ": " ++
        ascii errno.usual) 1
      return 1
  let marked := line.taken.reverse
  let stored ← match array, names with
    | some name, _ =>
      let found := allFields (separators shell) (marked.length + 1) marked
      change fun kept => kept.putContent name (.list ((List.range found.length).zip found))
      pure true
    -- A line that nobody has a name for is kept as it is.
    | none, [] => storeAll [(ascii "REPLY", bare marked)]
    | none, _ => storeAll (names.zip (share (separators shell) names.length marked))
  return if stored then line.status else 1

/-- Read a line into variables. -/
def read (traps : Doing Unit) : Builtin := fun words => do
  let shell ← get
  let help := "read [-ers] [-a array] [-d delim] [-i text] [-n nchars] [-N nchars] [-p prompt] " ++
    "[-t timeout] [-u fd] [name ...]"
  let (flags, valued) := if shell.isLarge then ("ers", "adinNptu") else ("r", "p")
  withOptions "read" help flags valued words fun chosen => do
    let invalid := chosen.words.find? fun name =>
      !isName (name.takeWhile (· != '['))
    match shell.dialect, chosen.words, invalid with
    | .plain, [], _ => fault "read" (ascii "arg count") 2
    | .large, _, some name => told "read" (ascii "\x60" ++ name ++ ascii "': not a valid identifier") 1
    | _, names, _ =>
      let whole := (chosen.text? 'N').bind natural?
      let rules : LineRules := {
        fd := ((chosen.text? 'u').bind natural?).getD 0
        raw := chosen.has 'r'
        delimiter := if whole.isSome then none
          else match chosen.text? 'd' with
            | some (c :: _) => some c
            | some [] => some '\x00'
            | none => some '\n'
        most := whole.orElse fun _ => (chosen.text? 'n').bind natural? }
      readInto rules traps (chosen.text? 'a') names

/-- The lines of a text, each with its end, up to a number of them. -/
def linesOf (delimiter : Char) : Nat → List Char → List Char → List (List Char)
  | 0, _, _ => []
  | _ + 1, current, [] => if current.isEmpty then [] else [current.reverse]
  | fuel + 1, current, c :: rest =>
    if c == delimiter then (c :: current).reverse :: linesOf delimiter fuel [] rest
    else linesOf delimiter fuel (c :: current) rest

/-- Read lines into an array. -/
def mapfile : Builtin := fun words => do
  let help := "mapfile [-d delim] [-n count] [-O origin] [-s count] [-t] [-u fd] [-C callback] " ++
    "[-c quantum] [array]"
  withOptions "mapfile" help "t" "dnOsuCc" words fun chosen => do
    let fd := ((chosen.text? 'u').bind natural?).getD 0
    let data ← outside (Host.readAll fd)
    let chars := Bytes.toOctets (data.toOption.getD [])
    let delimiter : Char := match chosen.text? 'd' with
      | some (c :: _) => c
      | some [] => '\x00'
      | none => '\n'
    let all := linesOf delimiter (chars.length + 1) [] chars
    let skipped := all.drop (((chosen.text? 's').bind natural?).getD 0)
    let most := ((chosen.text? 'n').bind natural?).getD 0
    let kept := if most = 0 then skipped else skipped.take most
    let shown := if chosen.has 't' then
        kept.map fun line => if line.getLast? == some delimiter then line.dropLast else line
      else kept
    let origin := ((chosen.text? 'O').bind natural?).getD 0
    let name := chosen.words.headD (ascii "MAPFILE")
    change fun shell =>
      shell.putContent name (.list (((List.range shown.length).map (· + origin)).zip shown))
    return 0

end Umpire.Shell.Builtin
