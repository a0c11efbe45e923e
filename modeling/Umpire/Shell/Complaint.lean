import Umpire.Shell.Builtin.Finding

/-! Telling why a script cannot be read. -/

namespace Umpire.Shell.Complaint

/-- A line end as it is named. -/
def newline : List Char :=
  ascii "newline"

/-- What would have had to stand where something else stands. -/
def expected (wanted : Option String) : List Char :=
  match wanted with
  | some name => ascii " (expecting \"" ++ ascii name ++ ascii "\")"
  | none => []

/-- The plain shell's wording. -/
def plainText (obstacle : Obstacle) : List Char :=
  match obstacle with
  | .ended wanted => ascii "end of file unexpected" ++ expected wanted
  | .misplaced found isWord wanted =>
    let isReserved := (Builtin.keywords .plain).contains (String.ofList found)
    let shown := if found == ['\n'] then newline
      else if isWord && !isReserved then ascii "word"
      else if found.head? == some '<' || found.head? == some '>' then ascii "redirection"
      else '"' :: found ++ ['"']
    shown ++ ascii " unexpected" ++ expected wanted
  | .unclosed mark =>
    match mark with
    | "\x60" => ascii "EOF in backquote substitution"
    | "\x7d" => ascii "Missing '\x7d'"
    | "))" => ascii "Missing '))'"
    | "$(" => ascii "end of file unexpected" ++ expected (some ")")
    | ")" => ascii "\"(\" unexpected"
    | _ => ascii "Unterminated quoted string"
  | .namelessLoop => ascii "Bad for loop variable"
  | .namelessFunction => ascii "Bad function name"
  | .noDescriptor => ascii "Bad fd number"
  | .wrongCondition reason _ => reason

/-- The sign that the large shell looks for where something is not closed. -/
def closing (mark : String) : List Char :=
  match mark with
  | "))" | "$(" => [')']
  | _ => ascii mark

/-- The start of the large shell's complaints. -/
def largeStart (shell : Session) (line : Nat) : List Char :=
  let name := shell.sources.headD shell.name
  let kind := match shell.scriptKind with
    | some kind => kind ++ ascii ": "
    | none => []
  name ++ ascii ": " ++ kind ++ ascii "line " ++ numeral line ++ ascii ": "

/-- Tell why a script cannot be read, and give the status that comes of it. -/
def tell (stumble : Stumble) : Doing Nat := do
  let shell ← get
  let isCut := shell.script.getLast? != some '\n'
  match shell.dialect with
  | .plain =>
    let ended := shell.firstLine + (shell.script.filter (· == '\n')).length
    let line := match stumble.obstacle with
      | .unclosed _ => ended
      | _ => stumble.line
    change fun kept => { kept with line }
    complain (ascii "Syntax error: " ++ plainText stumble.obstacle)
    return 2
  | .large =>
    let told (line : Nat) (chars : List Char) : Doing Unit := do
      let _ ← say 2 (largeStart shell line ++ chars ++ ['\n'])
    let sought (line : Nat) (mark : String) : Doing Unit :=
      told line (ascii "unexpected EOF while looking for matching \x60" ++ closing mark ++ ['\''])
    match stumble.obstacle with
    | .unclosed mark =>
      sought (if mark == "$(" then stumble.line + (if isCut then 1 else 0) else stumble.line) mark
      return if mark == ")" then 1 else 2
    | .misplaced found _ _ =>
      let shown := if found == ['\n'] then newline else found
      let written := (shell.script.splitOn '\n')[stumble.line - shell.firstLine]?.getD []
      told stumble.line (ascii "syntax error near unexpected token \x60" ++ shown ++ ['\''])
      told stumble.line ('\x60' :: written ++ ['\''])
      return if stumble.isInner then 127 else 2
    | .wrongCondition reason near =>
      let isOver := near.isEmpty
      let line := if isOver && isCut then stumble.line + 1 else stumble.line
      if !reason.isEmpty then told line reason
      if isOver then told line (ascii "syntax error: unexpected end of file")
      else
        told line (ascii "syntax error near \x60" ++ near ++ ['\''])
        told line ('\x60' :: (shell.script.splitOn '\n')[line - shell.firstLine]?.getD [] ++ ['\''])
      return if stumble.isInner then 127 else 2
    | _ =>
      told (if isCut then stumble.line + 1 else stumble.line) (ascii "syntax error: unexpected end of file")
      return 2

end Umpire.Shell.Complaint
