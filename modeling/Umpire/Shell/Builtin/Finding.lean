import Umpire.Shell.Builtin.Standing
import Umpire.Shell.Child

/-! Builtin commands that tell what names stand for. -/

namespace Umpire.Shell.Builtin

/-- What the name of a command stands for. -/
inductive Meaning where
  | keyword
  /-- It is replaced by another text. -/
  | standing (text : List Char)
  | function
  | special
  | own
  | program (path : List Char)
  deriving DecidableEq, Repr

/-- The words that a shell reserves. -/
def keywords (dialect : Dialect) : List String :=
  match dialect with
  | .plain => Parser.reservedWords
  | .large => Parser.reservedWords ++ ["[[", "]]", "function", "select", "time", "coproc"]

/-- What a name stands for. -/
def meaningOf? (isOwn : List Char → Bool) (name : List Char) : Doing (Option Meaning) := do
  let shell ← get
  let isKeyword := (keywords shell.dialect).contains (String.ofList name)
  let standing := (shell.replacements.lookup name).map Meaning.standing
  if isKeyword && (standing.isNone || !shell.isLarge) then return some .keyword
  else if let some found := standing then return some found
  else if (shell.functions.lookup name).isSome then return some .function
  else if isSpecial name then return some .special
  else if isOwn name then return some .own
  else return (← whereabouts? name (searched shell)).map .program

/-- Tell the meaning of a name in a sentence. -/
def sentence (dialect : Dialect) (name : List Char) : Meaning → List Char
  | .keyword => name ++ ascii " is a shell keyword\n"
  | .standing text => match dialect with
    | .plain => name ++ ascii " is an alias for " ++ text ++ ['\n']
    | .large => name ++ ascii " is aliased to \x60" ++ text ++ ascii "'\n"
  | .function => name ++ ascii (match dialect with
    | .plain => " is a shell function\n"
    | .large => " is a function\n")
  | .special => name ++ ascii (match dialect with
    | .plain => " is a special shell builtin\n"
    | .large => " is a shell builtin\n")
  | .own => name ++ ascii " is a shell builtin\n"
  | .program path => name ++ ascii " is " ++ path ++ ['\n']

/-- Tell that nothing is known of a name. -/
def notFound (command : String) (name : List Char) : Doing Unit := do
  let shell ← get
  match shell.dialect with
  | .plain =>
    let _ ← print command (name ++ ascii ": not found\n")
  | .large =>
    let _ ← told command (name ++ ascii ": not found") 1

/-- Tell what names stand for. -/
def type (isOwn : List Char → Bool) : Builtin := fun words => do
  let shell ← get
  let work : Chosen → Doing Nat := fun chosen => do
    let mut status := 0
    for name in chosen.words do
      match ← meaningOf? isOwn name with
      | none =>
        status := if shell.isLarge then 1 else 127
        if !(chosen.has 't' || chosen.has 'p' || chosen.has 'P') then notFound "type" name
      | some meaning =>
        let shown : List Char :=
          if chosen.has 't' then
            ascii (match meaning with
              | .keyword => "keyword\n"
              | .standing _ => "alias\n"
              | .function => "function\n"
              | .special | .own => "builtin\n"
              | .program _ => "file\n")
          else if chosen.has 'p' || chosen.has 'P' then
            match meaning with
            | .program path => path ++ ['\n']
            | _ => []
          else sentence shell.dialect name meaning
        let _ ← print "type" shown
    return status
  match shell.dialect with
  | .plain => work { words }
  | .large => withOptions "type" "type [-afptP] name [name ...]" "afptP" "" words work

/-- Tell the names or paths by which commands are run; the plain shell looks at one only. -/
def findCommands (isOwn : List Char → Bool) (verbose : Bool) (names : List (List Char)) : Doing Nat := do
  let shell ← get
  let asked := if shell.isLarge then names else names.take 1
  let mut found := 0
  for name in asked do
    match ← meaningOf? isOwn name with
    | none =>
      if verbose then notFound "command" name
    | some meaning =>
      found := found + 1
      let shown := match meaning, verbose, shell.dialect with
        | .program path, true, .plain => name ++ ascii " is a tracked alias for " ++ path ++ ['\n']
        | .standing text, false, dialect =>
          -- Both shells show the command by which the word was given its text.
          (if dialect = .plain then ascii "alias " else []) ++ standingLine dialect (name, text) ++ ['\n']
        | _, true, _ => sentence shell.dialect name meaning
        | .program path, false, _ => path ++ ['\n']
        | _, false, _ => name ++ ['\n']
      let _ ← print "command" shown
  if 0 < found then return 0
  else return if shell.isLarge then 1 else 127

/-- Remember where programs are. -/
def hash : Builtin := fun words => do
  let shell ← get
  let flags := if shell.isLarge then "rldt" else "rv"
  withOptions "hash" "hash [-lr] [-p pathname] [-dt] [name ...]" flags (if shell.isLarge then "p" else "")
    words fun chosen => do
      let mut status := 0
      for name in chosen.words do
        if (← whereabouts? name (searched shell)).isNone then
          status ← told "hash" (name ++ ascii ": not found") 1
      return status

end Umpire.Shell.Builtin
