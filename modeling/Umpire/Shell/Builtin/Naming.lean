import Umpire.Shell.Alteration
import Umpire.Shell.Builtin.Basic
import Umpire.Shell.Parser

/-! Builtin commands that make, show and forget variables and functions. -/

namespace Umpire.Shell.Builtin

/-- What is said about variables by the letters of options: what is to hold, and what no longer. -/
structure Saying where
  command : String
  /-- Whether the running function is to have the variables to itself. -/
  hides : Bool := false
  on : List Char := []
  off : List Char := []

/-- The names of variables in order, of those that satisfy a condition. -/
def namesWhere (shell : Session) (wanted : Variable → Bool) : List (List Char × Variable) :=
  (shell.values.filter fun known => wanted known.2).mergeSort fun a b =>
    !Bytes.before (octets b.1) (octets a.1)

/-- Give a variable to the running function alone. The plain shell's keep what they stood for. -/
def hideName (name : List Char) : Doing Unit := do
  let shell ← get
  match shell.hidden with
  | [] => return ()
  | known :: others =>
    if known.any fun pair => pair.1 == name then return ()
    else
      let old := shell.values.lookup name
      change fun kept => { kept with hidden := ((name, old) :: known) :: others }
      if shell.isLarge then
        let fresh : Variable := { exported := old.any (·.exported) }
        change fun kept => { kept with
          values := (name, fresh) :: kept.values.filter fun pair => pair.1 != name }

/-- A variable about which something has been said. -/
def saidOf (saying : Saying) (kept : Variable) : Variable :=
  let chosen (letter : Char) (old : Bool) : Bool :=
    if saying.on.contains letter then true
    else if saying.off.contains letter then false else old
  let upper : Option Bool :=
    if saying.on.contains 'u' then some true
    else if saying.on.contains 'l' then some false
    else if saying.off.contains 'u' || saying.off.contains 'l' then none
    else kept.upper
  let content : Content :=
    if saying.on.contains 'A' then
      match kept.content with
      | .table items => .table items
      | _ => .table []
    else if saying.on.contains 'a' then
      match kept.content with
      | .table items => .table items
      | other => .list other.numbered
    else kept.content
  { kept with
    content
    upper
    exported := chosen 'x' kept.exported
    integer := chosen 'i' kept.integer
    refers := chosen 'n' kept.refers }

/-- Put a variable under its own name, even if that stands for another one. -/
def putRaw (name : List Char) (kept : Variable) : Doing Unit :=
  change fun shell => { shell with
    values := (name, kept) :: shell.values.filter fun pair => pair.1 != name }

/-- Say something about one variable, and perhaps give it a value. -/
def sayOf (saying : Saying) (word : List Char) : Doing Nat := do
  let shell ← get
  let (name, subscript, adds, value) : List Char × Option (List Char) × Bool × Option (List Char) :=
    match Parser.assignmentHead? shell.dialect word with
    | some (name, subscript, adds, value) => (name, subscript, adds, some value)
    | none => (word.takeWhile (· != '['), none, false, none)
  if !isName name then
    match shell.dialect with
    | .plain => fault saying.command (word.takeWhile (· != '=') ++ ascii ": bad variable name") 2
    | .large => told saying.command (ascii "\x60" ++ word ++ ascii "': not a valid identifier") 1
  else
    let isBound := shell.isFixed name
    if isBound && (value.isSome || saying.hides) then
      match shell.dialect with
      | .plain => fault saying.command (fixedMessage .plain name) 2
      | .large =>
        if saying.command == "export" || saying.command == "readonly" then
          complain (fixedMessage .large name)
          return 1
        else told saying.command (fixedMessage .large name) 1
    else
      if saying.hides then hideName name
      let current ← get
      let kept := (current.values.lookup name).getD {}
      let refersNow := saying.on.contains 'n'
      let real := if refersNow then name else current.meant 8 name
      let known := if refersNow then kept else (current.values.lookup real).getD {}
      putRaw real (saidOf saying known)
      match value with
      | some text =>
        if refersNow then putRaw name { saidOf saying kept with content := .text text }
        else
          let key ← match subscript with
            | none => pure none
            | some inner => keyOf name inner
          store name key adds text
      | none => pure ()
      if saying.on.contains 'r' then
        change fun held => held.putVariable name { (held.held? name).getD {} with fixed := true }
      return 0

/-- Say something about several variables. -/
def sayAll (saying : Saying) (words : List (List Char)) : Doing Nat := do
  let mut status := 0
  for word in words do
    let one ← sayOf saying word
    if one != 0 then status := one
  return status

/-- Show variables in a form that can be read again. -/
def showVariables (command : String) (wanted : Variable → Bool) : Doing Nat := do
  let shell ← get
  let shown := (namesWhere shell wanted).map fun known =>
    match shell.dialect with
    | .plain =>
      let value := match known.2.content.scalar? with
        | some chars => '=' :: Quoting.single .plain chars
        | none => []
      ascii command ++ [' '] ++ known.1 ++ value ++ ['\n']
    | .large => declaration known.1 known.2 ++ ['\n']
  print command shown.flatten

/-- Let programs see variables. -/
def «export» : Builtin := fun words => do
  let shell ← get
  let (flags, help) := if shell.isLarge then ("fnp", "export [-fn] [name[=value] ...] or export -p")
    else ("p", "")
  withOptions "export" help flags "" words fun chosen => do
    if chosen.words.isEmpty then showVariables "export" (·.exported)
    else if chosen.has 'f' then return 0
    else
      let saying : Saying := { command := "export" }
      sayAll (if chosen.has 'n' then { saying with off := ['x'] } else { saying with on := ['x'] })
        chosen.words

/-- Fix the values of variables. -/
def readonly : Builtin := fun words => do
  let shell ← get
  let (flags, help) := if shell.isLarge then
      ("aAfp", "readonly [-aAf] [name[=value] ...] or readonly -p")
    else ("p", "")
  withOptions "readonly" help flags "" words fun chosen => do
    if chosen.words.isEmpty then showVariables "readonly" (·.fixed)
    else
      let letters := (chosen.options.map (·.1)).filter fun c => c == 'a' || c == 'A'
      sayAll { command := "readonly", on := 'r' :: letters } chosen.words

/-- The letters of the options that say something, those that take it back, and the words after. -/
def signs : List (List Char) → List Char × List Char × List (List Char)
  | ['-', '-'] :: rest => ([], [], rest)
  | ('-' :: c :: letters) :: rest =>
    let (on, off, words) := signs rest
    ((c :: letters) ++ on, off, words)
  | ('+' :: c :: letters) :: rest =>
    let (on, off, words) := signs rest
    (on, (c :: letters) ++ off, words)
  | words => ([], [], words)

/-- Say something about variables, or show them. -/
def declare (command : String) (alwaysHides : Bool) : Builtin := fun words => do
  let shell ← get
  let (on, off, names) := signs words
  match (on ++ off).find? fun c => !("aAfFgilnrtuxpI".toList.contains c) with
  | some letter =>
    let _ ← told command ('-' :: letter :: ascii ": invalid option") 2
    usage command (command ++ " [-aAfFgiIlnrtux] [name[=value] ...] or " ++ command ++ " -p [-aAfFilnrtux] [name ...]")
  | none =>
    if on.contains 'f' || on.contains 'F' then
      let known := names.filter fun name => (shell.functions.lookup name).isSome
      if on.contains 'F' && names.isEmpty then
        let all := shell.functions.map (·.1)
        print command ((all.mergeSort fun a b => !Bytes.before (octets b) (octets a)).map fun name =>
          ascii "declare -f " ++ name ++ ['\n']).flatten
      else
        let _ ← if on.contains 'F' then print command (known.map fun name => name ++ ['\n']).flatten else pure 0
        return if known.length = names.length then 0 else 1
    else if on.contains 'p' || names.isEmpty then
      if names.isEmpty then
        let wanted (kept : Variable) : Bool :=
          let found := attributeLetters kept
          (on.filter (· != 'p')).all found.contains
        showVariables command wanted
      else
        let mut status := 0
        for name in names do
          match shell.values.lookup name with
          | some kept =>
            let _ ← print command (declaration name kept ++ ['\n'])
          | none =>
            status ← told command (name ++ ascii ": not found") 1
        return status
    else
      let hides := alwaysHides || (!shell.hidden.isEmpty && !on.contains 'g')
      sayAll { command, hides, on, off } names

/-- Give variables to the running function alone. -/
def «local» : Builtin := fun words => do
  let shell ← get
  match shell.hidden, shell.dialect with
  | [], .plain => fault "local" (ascii "not in a function") 2
  | [], .large => told "local" (ascii "can only be used in a function") 1
  | _, .plain => sayAll { command := "local", hides := true } (words.filter (· != ['-']))
  | _, .large => declare "local" true words

/-- Forget one variable, element or function. -/
def forget (chosen : Chosen) (word : List Char) : Doing Nat := do
  let shell ← get
  let name := word.takeWhile (· != '[')
  let forgetFunction : Doing Unit := change fun kept => { kept with
    functions := kept.functions.filter fun known => known.1 != word }
  if chosen.has 'f' then
    forgetFunction
    return 0
  else if !shell.isLarge && !isName word then fault "unset" (word ++ ascii ": bad variable name") 2
  else if shell.isFixed name then
    match shell.dialect with
    | .plain => fault "unset" (fixedMessage .plain name) 2
    | .large => told "unset" (name ++ ascii ": cannot unset: readonly variable") 1
  else
    match Parser.subscript? (word.drop name.length) with
    | (some ['@'], []) | (some ['*'], []) =>
      change fun kept => kept.forget name
      return 0
    | (some inner, []) =>
      match (keptContent shell name), ← keyOf name inner with
      | .table items, some (.inl key) =>
        change fun kept => kept.putContent name (.table (items.filter fun item => item.1 != key))
        return 0
      | content, some (.inr number) =>
        change fun kept => kept.putContent name (.list (content.numbered.filter fun item => item.1 != number))
        return 0
      | _, _ => told "unset" (ascii "[" ++ inner ++ ascii "]: bad array subscript") 1
    | _ =>
      let isHeld := (shell.values.lookup (if chosen.has 'n' then word else shell.meant 8 word)).isSome
      if chosen.has 'n' then
        change fun kept => { kept with values := kept.values.filter fun known => known.1 != word }
      else if isHeld then change fun kept => kept.forget word
      else if shell.isLarge && !chosen.has 'v' then forgetFunction
      return 0
where
  /-- What the variable of a name holds. -/
  keptContent (shell : Session) (name : List Char) : Content :=
    ((shell.held? name).map (·.content)).getD .none

/-- Forget variables and functions. -/
def unset : Builtin := fun words => do
  let shell ← get
  withOptions "unset" "unset [-f] [-v] [-n] [name ...]" (if shell.isLarge then "fvn" else "fv") "" words
    fun chosen => do
      let mut status := 0
      for word in chosen.words do
        let one ← forget chosen word
        if one != 0 then status := one
      return status

/-- Evaluate arithmetic terms; the last one gives the status. -/
def letTerms : Builtin := fun words => do
  match words with
  | [] => told "let" (ascii "expression expected") 1
  | _ =>
    let mut value : Int := 0
    for word in words do
      let some found ← Arithmetic.valueOrTell "let" word | return 1
      value := found
    return if value = 0 then 1 else 0

end Umpire.Shell.Builtin
