import Umpire.Shell.Alteration
import Umpire.Shell.Braces
import Umpire.Shell.Parameter
import Umpire.Shell.Word

/-! From words as they are written, with tildes that stand for directories, to the words that commands get. -/

namespace Umpire.Shell

/-- The directories of the users that a host has from the start. -/
def homes : List (String × String) :=
  [("root", "/root"), ("daemon", "/usr/sbin"), ("bin", "/bin"), ("sys", "/dev"), ("sync", "/bin"),
    ("games", "/usr/games"), ("man", "/var/cache/man"), ("mail", "/var/mail"), ("www-data", "/var/www"),
    ("backup", "/var/backups"), ("nobody", "/nonexistent")]

/-- The directory that a tilde and a name after it stand for. -/
def homeOf? (shell : Session) (name : List Char) : Option (List Char) :=
  let large := shell.isLarge
  match String.ofList name with
  | "" =>
    match shell.valueOf? (ascii "HOME") with
    | some home => some home
    | none => if large then some (ascii "/root") else none
  | "+" => if large then shell.valueOf? (ascii "PWD") else none
  | "-" => if large then shell.valueOf? (ascii "OLDPWD") else none
  | user => (homes.lookup user).map ascii

/-- The parts of a plain text in which tildes have been replaced: at its start, and after colons if
those count. Whatever follows the text belongs to a name that reaches its end. -/
def tildesIn (shell : Session) (colons followed : Bool) : Nat → Bool → List Char → List Part
  | 0, _, chars => [.text chars false]
  | _ + 1, _, [] => []
  | fuel + 1, startable, c :: rest =>
    let plain : List Part :=
      let size := ((c :: rest).takeWhile fun d => !(colons && d == ':')).length + 1
      .text ((c :: rest).take size) false :: tildesIn shell colons followed fuel colons ((c :: rest).drop size)
    if startable && c == '~' then
      let name := rest.takeWhile fun d => d != '/' && !(colons && d == ':')
      let left := rest.drop name.length
      if left.isEmpty && followed then plain
      else
        match homeOf? shell name with
        | some home =>
          let size := (left.takeWhile fun d => !(colons && d == ':')).length + 1
          [.text home true, .text (left.take size) false] ++
            tildesIn shell colons followed fuel colons (left.drop size)
        | none => plain
    else plain

/-- A word in which tildes have been replaced. -/
def tildes (shell : Session) (colons : Bool) : Bool → Word → Word
  | _, [] => []
  | startable, .text chars false :: rest =>
    tildesIn shell colons (!rest.isEmpty) (chars.length + 1) startable chars ++
      tildes shell colons (colons && chars.getLast? == some ':') rest
  | _, part :: rest => part :: tildes shell colons false rest

/-- A word in which tildes have been replaced. In what looks like an assignment, they are looked for
after the equals sign. -/
def withHomes (shell : Session) (word : Word) : Word :=
  match word with
  | .text chars false :: rest =>
    let name := chars.takeWhile inName
    match shell.isLarge && isName name, chars.drop name.length with
    | true, '=' :: value =>
      .text (name ++ ['=']) false :: tildes shell true true (.text value false :: rest)
    | _, _ => tildes shell false true word
  | _ => word

/-- How scripts are run whose output or input a word is about. -/
structure Runner where
  /-- Run the text of a script for what it prints. -/
  output : List Char → Doing (List Char)
  /-- Run the text of a script at the other end of a pipe; the answer is a name of this end. -/
  process : Bool → List Char → Doing (List Char)

/-- The name of an expansion in complaints of the large shell. -/
def shownName (shell : Session) (name : List Char) : List Char :=
  if shell.isLarge && !(name.head?.any startsName) then '$' :: name else name

/-- Complain about a parameter without a value, where that is not taken for an empty one. -/
def refuseUnset {α : Type} (name : List Char) : Doing α := do
  let shell ← get
  refuse (shownName shell name ++ ascii (match shell.dialect with
    | .plain => ": parameter not set"
    | .large => ": unbound variable")) true

/-- Complain about an expansion that makes no sense. -/
def refuseExpansion {α : Type} (expansion : Expansion) : Doing α := do
  let shell ← get
  refuse (match shell.dialect with
    | .plain => ascii "Bad substitution"
    | .large => ascii "$\x7b" ++ expansion.whole ++ ascii "\x7d: bad substitution") false

/-- The variable of an expansion, or a fresh one. -/
def keptOf (shell : Session) (name : List Char) : Variable :=
  (shell.held? name).getD {}

mutual

/-- The marks of one stretch of a word. -/
def expandPart (run : Runner) : Nat → Purpose → Part → Doing (List Mark)
  | 0, _, _ => return []
  | _ + 1, _, .text chars quoted =>
    return (if quoted then [.hold] else []) ++ chars.map fun c => .char c quoted
  | _ + 1, _, .output script quoted => do
    return markText (withoutLineEnds (← run.output script)) quoted
  | fuel + 1, _, .arithmetic term quoted => do
    let chars ← expandText run fuel term
    return markText (Numeral.ofInt (← Arithmetic.evaluateHere chars)) quoted
  | _ + 1, _, .process writes script => do
    return (← run.process writes script).map fun c => .char c true
  | _ + 1, _, .elements _ => return []
  | fuel + 1, purpose, .parameter expansion quoted => do
    let shell ← get
    if expansion.use = .senseless then refuseExpansion expansion
    else if expansion.use = .names then
      return (Holding.texts (namesFrom shell expansion.name) false).marks shell purpose quoted
    else if expansion.use = .keys then
      let entries := entriesOf shell expansion.name
      return (Holding.texts (entries.map (·.1)) false).marks shell purpose quoted
    else
      let (name, subscript) ← meant run fuel expansion
      let found ← held run fuel name subscript
      useOfValue run fuel purpose quoted { expansion with name := name, subscript := subscript } found

/-- The text of an operand or a term whose quotes have no meaning. -/
def expandText (run : Runner) : Nat → List Char → Doing (List Char)
  | 0, _ => return []
  | fuel + 1, chars => do
    let shell ← get
    return textOf (← expandParts run fuel .one (Parser.operand shell.dialect chars true))

/-- The marks of a pattern or of a text that replaces others. -/
def expandOperand (run : Runner) : Nat → List Char → Doing (List Mark)
  | 0, _ => return []
  | fuel + 1, chars => do
    let shell ← get
    expandParts run fuel .one (tildes shell false true (Parser.operand shell.dialect chars false))

/-- The name and subscript that an expansion is about, which a value may tell. -/
def meant (run : Runner) : Nat → Expansion → Doing (List Char × Option (List Char))
  | 0, expansion => return (expansion.name, expansion.subscript)
  | fuel + 1, expansion => do
    let shell ← get
    if !expansion.indirect then return (expansion.name, expansion.subscript)
    else
      match ← held run fuel expansion.name expansion.subscript with
      | .nothing => refuse (expansion.name ++ ascii ": invalid indirect expansion") false
      | found =>
        let text := [' '].intercalate found.toList
        match Parser.parameterName? text with
        | none => refuse (text ++ ascii ": invalid variable name") false
        | some (name, rest) =>
          match if isName name then Parser.subscript? rest else (none, rest) with
          | (subscript, []) =>
            -- The names of other variables are texts here.
            return ((if (keptOf shell expansion.name).refers then expansion.name else name), subscript)
          | _ => refuse (text ++ ascii ": invalid variable name") false

/-- What a parameter or an element of an array stands for. -/
def held (run : Runner) : Nat → List Char → Option (List Char) → Doing Holding
  | 0, _, _ => return .nothing
  | fuel + 1, name, subscript => do
    let shell ← get
    let made ← dynamic? name
    match subscript with
    | none =>
      match made with
      | some (.texts all _) => return .ofOption all.head?
      | some other => return other
      | none => return parameter shell name
    | some ['@'] | some ['*'] =>
      let joined := subscript == some ['*']
      match made with
      | some other => return .texts other.toList joined
      | none => return .texts ((entriesOf shell name).map (·.2)) joined
    | some text =>
      let inner ← expandText run fuel text
      match made with
      | some other =>
        let place ← Arithmetic.evaluateHere inner
        return .ofOption other.toList[place.toNat]?
      | none =>
        match ← keyOf name inner with
        | some key => return .ofOption (elementOf? (← get) name key)
        | none =>
          complain (name ++ ascii ": bad array subscript")
          return .nothing

/-- The part of what a parameter stands for that two terms tell. -/
def sliced (run : Runner) : Nat → Expansion → Holding → Doing Holding
  | 0, _, found => return found
  | fuel + 1, expansion, found => do
    let shell ← get
    let (first, second) := splitPlain ':' expansion.operand
    let offset ← Arithmetic.evaluateHere (← expandText run fuel first)
    let length ← match second with
      | none => pure none
      | some term => do pure (some (← Arithmetic.evaluateHere (← expandText run fuel term)))
    let tooShort : Doing Holding := refuse ((second.getD []) ++ ascii ": substring expression < 0") false
    match found with
    | .nothing => return .nothing
    | .text chars =>
      match sliceOf offset length (Pattern.characters chars) with
      | some part => return .text part.flatten
      | none => tooShort
    | .texts all joined =>
      if length.any (· < 0) then tooShort
      else
        let chosen : List (List Char) :=
          if expansion.subscript.isNone then
            (sliceOf offset length (shell.name :: all)).getD []
          else
            match ((shell.held? expansion.name).map (·.content)).getD .none with
            | .list items =>
              let content := Content.list items
              let start := if offset < 0 then (content.next : Int) + offset else offset
              let after := items.filter fun item => start ≤ (item.1 : Int)
              let kept := if start < 0 then [] else after.map (·.2)
              match length with
              | some size => kept.take size.toNat
              | none => kept
            | _ => (sliceOf offset length all).getD []
        return .texts chosen joined

/-- The marks of an expansion whose parameter has been looked up. -/
def useOfValue (run : Runner) : Nat → Purpose → Bool → Expansion → Holding → Doing (List Mark)
  | 0, _, _, _, _ => return []
  | fuel + 1, purpose, quoted, expansion, found => do
    let shell ← get
    let wide := shell.isLarge
    let isKnown : Bool := match found with
      | .nothing => false
      | .text chars => !(expansion.emptyIsNone && chars.isEmpty)
      | .texts all _ => !all.isEmpty && !(expansion.emptyIsNone && all.all (·.isEmpty))
    let shown (changed : Holding) : Doing (List Mark) := return changed.marks shell purpose quoted
    let known : Doing Unit := do
      if found = .nothing && shell.has "nounset" then
        refuseUnset (expansion.name ++ match expansion.subscript with
          | some text => ['['] ++ text ++ [']']
          | none => [])
    let other : Doing (List Mark) := do
      let word := Parser.operand shell.dialect expansion.operand quoted
      if quoted then
        let marks ← expandParts run fuel purpose word
        -- Fields that are put in the place of a value stay fields.
        return if marks.contains .cut then marks else .hold :: marks
      else return softened (← expandParts run fuel purpose (tildes shell false true word))
    match expansion.use with
    | .value =>
      known
      shown found
    | .length =>
      known
      let length : Nat := match found with
        | .nothing => 0
        | .text chars => lengthOf shell.dialect chars
        | .texts all _ =>
          if shell.isLarge then all.length else (joinedBySeparator shell all).length
      return markText (numeral length) quoted
    | .default => if isKnown then shown found else other
    | .alternative => if isKnown then other else return if quoted && !isList found then [.hold] else []
    | .assign =>
      if isKnown then shown found
      else do
        let value := textOf (← other)
        if !isName expansion.name then
          refuse (match shell.dialect with
            | .plain => expansion.name ++ ascii ": bad variable name"
            | .large => shownName shell expansion.name ++ ascii ": cannot assign in this way") false
        if shell.isFixed expansion.name then refuse (fixedMessage shell.dialect expansion.name) false
        let key ← match expansion.subscript with
          | none => pure none
          | some text => do keyOf expansion.name (← expandText run fuel text)
        store expansion.name key false value
        return markText (currentValue (← get) expansion.name key) quoted
    | .require =>
      if isKnown then shown found
      else do
        let reason := textOf (← other)
        refuse (shownName shell expansion.name ++ ascii ": " ++
          (if !reason.isEmpty then reason
          else if !expansion.emptyIsNone then ascii "parameter not set"
          else match shell.dialect with
            | .plain => ascii "parameter not set or null"
            | .large => ascii "parameter null or not set")) true
    | .dropStart longest => do
      known
      let pattern := Pattern.ofMarked (shell.has "extglob") (markedOf (← expandOperand run fuel expansion.operand))
      shown (found.map (Pattern.withoutStart wide longest pattern))
    | .dropEnd longest => do
      known
      let pattern := Pattern.ofMarked (shell.has "extglob") (markedOf (← expandOperand run fuel expansion.operand))
      shown (found.map (Pattern.withoutEnd wide longest pattern))
    | .slice =>
      known
      shown (← sliced run fuel expansion found)
    | .replace reach => do
      known
      -- A slash at the start of a pattern is part of it.
      let startsWithSlash := reach = .all && expansion.operand.head? == some '/'
      let written := if startsWithSlash then expansion.operand.tail else expansion.operand
      let (first, second) := splitPlain '/' written
      let sought := if startsWithSlash then '/' :: first else first
      let (reach, marked) := told reach (markedOf (← expandOperand run fuel sought))
      let pattern := Pattern.ofMarked (shell.has "extglob") marked
      let marks ← expandOperand run fuel (second.getD [])
      let isEmpty := pattern.isEmpty && (reach = .first || reach = .all)
      shown (if isEmpty then found else found.map (replaced wide reach pattern marks))
    | .recase upper all => do
      known
      let marked := markedOf (← expandOperand run fuel expansion.operand)
      let pattern := if marked.isEmpty then [Piece.one] else Pattern.ofMarked (shell.has "extglob") marked
      shown (found.map (recasedWhere upper all pattern))
    | .transform letter =>
      known
      let kept := keptOf shell expansion.name
      match letter, found with
      | 'A', .texts _ _ => return markText (declaration expansion.name kept) quoted
      | 'a', _ => return markText (attributeLetters kept) quoted
      | _, _ =>
        if "QULuEPAaKk".toList.contains letter then shown (found.map (transformed letter expansion.name kept))
        else refuseExpansion expansion
    | .keys | .names | .senseless => return []
where
  /-- What is replaced, if the start of a pattern tells that. -/
  told (reach : Reach) (marked : List Marked) : Reach × List Marked :=
    match reach, marked with
    | .first, ('/', false) :: rest => (.all, rest)
    | .first, ('#', false) :: rest => (.start, rest)
    | .first, ('%', false) :: rest => (.finish, rest)
    | _, _ => (reach, marked)
  /-- Whether several texts are meant. -/
  isList : Holding → Bool
    | .texts _ _ => true
    | _ => false

/-- The marks of a word. -/
def expandParts (run : Runner) : Nat → Purpose → Word → Doing (List Mark)
  | 0, _, _ => return []
  | _ + 1, _, [] => return []
  | fuel + 1, purpose, first :: rest => do
    let marks ← expandPart run fuel purpose first
    return marks ++ (← expandParts run fuel purpose rest)

end

/-- More stretches than expansions are ever followed to. -/
def mostStretches : Nat := 1000000

/-- The marks of a word. -/
def expand (run : Runner) (purpose : Purpose) (word : Word) : Doing (List Mark) :=
  expandParts run mostStretches purpose word

/-- The one text that a word stands for where it is not cut into fields. -/
def single (run : Runner) (word : Word) : Doing (List Char) := do
  let shell ← get
  return textOf (← expand run .one (tildes shell false true word))

/-- The text that is given to a variable. -/
def assigned (run : Runner) (word : Word) : Doing (List Char) := do
  let shell ← get
  return textOf (← expand run .one (tildes shell true true word))

/-- The pattern that a word stands for. -/
def patternOf (run : Runner) (extended : Bool) (word : Word) : Doing (List Piece) := do
  let shell ← get
  return Pattern.ofMarked extended (markedOf (← expand run .one (tildes shell false true word)))

end Umpire.Shell
