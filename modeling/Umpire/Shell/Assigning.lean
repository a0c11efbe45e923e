import Umpire.Shell.Parser
import Umpire.Shell.Paths

/-! Carrying out assignments: to variables, to elements of arrays and to whole arrays. -/

namespace Umpire.Shell

/-- Give elements of an array their values from a number on. -/
def storeFrom (name : List Char) : Nat → List (List Char) → Doing Unit
  | _, [] => return ()
  | number, value :: rest => do
    store name (some (.inr number)) false value
    storeFrom name (number + 1) rest

/-- Give elements of an array their values, one after the other: an element stands after the one before
it, unless a subscript tells where. -/
def storeElements (run : Runner) (name : List Char) : Nat → List (Option (List Char) × Word) → Doing Unit
  | _, [] => return ()
  | next, (subscript, word) :: rest => do
    match subscript with
    | some text =>
      let inner := textOf (← expandOperand run mostStretches text)
      match ← keyOf name inner with
      | some key =>
        store name (some key) false (← assigned run word)
        let after := match key with
          | .inr number => number + 1
          | .inl _ => next
        storeElements run name after rest
      | none =>
        complain (ascii "[" ++ inner ++ ascii "]: bad array subscript")
        storeElements run name next rest
    | none =>
      let values ← fieldsOfWord run word
      storeFrom name next values
      storeElements run name (next + values.length) rest

/-- The keys and values of a table that are given one after the other. -/
def pairsOf : List (List Char) → List (List Char × List Char)
  | key :: value :: rest => (key, value) :: pairsOf rest
  | [key] => [(key, [])]
  | [] => []

/-- Carry out an assignment; the answer is how it reads with its value. A variable that cannot be
changed is told unless the assignment is `forced`. -/
def assign (run : Runner) (forced : Bool) (assignment : Assignment) : Doing (List Char) := do
  let shell ← get
  let name := assignment.name
  if !forced && shell.isFixed name then refuse (fixedMessage shell.dialect name) false
  let sign := if assignment.adds then ascii "+=" else ['=']
  let shown (value : List Char) : List Char :=
    if value.isEmpty then [] else Quoting.traced shell.dialect value
  if name == ascii "OPTIND" then change fun kept => { kept with optionPlace := 0 }
  match assignment.value, assignment.subscript with
  | [.elements chars], none => do
    let known := (shell.held? name).getD {}
    let isTable := match known.content with
      | .table _ => true
      | _ => false
    let start : Content := match known.content, assignment.adds with
      | .table items, true => .table items
      | .table _, false => .table []
      | content, true => .list content.numbered
      | _, false => .list []
    let items := Parser.elements chars
    -- The values are told before the old ones are gone.
    let isKeyed := items.any fun item => item.1.isSome
    if isTable && !isKeyed then
      let all ← fields run (items.map (·.2))
      change fun kept => kept.putContent name start
      for (key, value) in pairsOf all do
        store name (some (.inl key)) false value
    else if isKeyed then
      change fun kept => kept.putContent name start
      storeElements run name start.next items
    else
      let values ← fields run (items.map (·.2))
      change fun kept => kept.putContent name start
      storeFrom name start.next values
    return name ++ sign ++ ['('] ++ chars ++ [')']
  | word, none => do
    let value ← assigned run word
    store name none assignment.adds value
    return name ++ sign ++ shown value
  | word, some text => do
    let inner := textOf (← expandOperand run mostStretches text)
    let value ← assigned run word
    match ← keyOf name inner with
    | some key => store name (some key) assignment.adds value
    | none => refuse (name ++ ['['] ++ text ++ ascii "]: bad array subscript") false
    return name ++ ['['] ++ text ++ [']'] ++ sign ++ shown value

/-- Carry out assignments; the answer is how they read. -/
def assignAll (run : Runner) : List Assignment → Doing (List (List Char))
  | [] => return []
  | first :: rest => do
    let shown ← assign run false first
    return shown :: (← assignAll run rest)

/-- Carry out assignments that hold for one command; the answer is the names and values, and how they
read. The large shell only tells of a variable that cannot be changed. -/
def assignForCommand (run : Runner) : List Assignment →
    Doing (List (List Char × List Char) × List (List Char))
  | [] => return ([], [])
  | first :: rest => do
    let shell ← get
    if shell.isLarge && shell.isFixed first.name then
      complain (fixedMessage shell.dialect first.name)
      assignForCommand run rest
    else
      let shown ← assign run false first
      change fun kept => kept.putVariable first.name { keptOf kept first.name with exported := true }
      let value := ((← get).valueOf? first.name).getD []
      let (pairs, others) ← assignForCommand run rest
      return ((first.name, value) :: pairs, shown :: others)

/-- What the variables of some assignments stand for now. -/
def standing (shell : Session) (assignments : List Assignment) :
    List (List Char × Option Variable) :=
  assignments.map fun assignment => (assignment.name, shell.values.lookup assignment.name)

/-- The words of a command, and the arrays among them that are declared. -/
structure Called where
  words : List (List Char) := []
  arrays : List Assignment := []

/-- The commands of a shell whose words are read as assignments if they look like some. -/
def declaring (dialect : Dialect) : List String :=
  match dialect with
  | .plain => ["export", "readonly", "local"]
  | .large => ["declare", "typeset", "local", "export", "readonly"]

/-- The words that words stand for that follow the name of a command which declares variables. -/
def declaredWords (run : Runner) : List Word → Doing Called
  | [] => return {}
  | word :: rest => do
    let shell ← get
    let head := match word with
      | .text chars false :: others =>
        (Parser.assignmentHead? shell.dialect chars).map fun found => (chars, found, others)
      | _ => none
    let (found, arrays) : List (List Char) × List Assignment ← match head with
      | some (chars, (name, subscript, adds, value), others) =>
        match others with
        | [.elements inner] => pure ([name], [⟨name, subscript, adds, [.elements inner]⟩])
        | _ => do
          let given ← assigned run (.text value false :: others)
          pure ([chars.take (chars.length - value.length) ++ given], [])
      | none => do pure (← fieldsOfWord run word, [])
    let more ← declaredWords run rest
    return ⟨found ++ more.words, arrays ++ more.arrays⟩

/-- The words of a simple command. -/
def calledWords (run : Runner) (words : List Word) : Doing Called := do
  let shell ← get
  let isName (word : Word) (names : List String) : Bool :=
    match word with
    | [.text chars false] => names.any fun known => known.toList == chars
    | _ => false
  let prefixes := words.takeWhile fun word => isName word ["command", "builtin"]
  match words.drop prefixes.length with
  | first :: rest =>
    if isName first (declaring shell.dialect) then
      let start ← fields run (prefixes ++ [first])
      let others ← declaredWords run rest
      return { others with words := start ++ others.words }
    else return { words := ← fields run words }
  | [] => return { words := ← fields run words }

end Umpire.Shell
