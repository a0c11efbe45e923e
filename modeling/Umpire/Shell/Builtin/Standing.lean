import Umpire.Shell.Builtin.Basic
import Umpire.Shell.Quoting

/-! Builtin commands about words that stand for other texts. -/

namespace Umpire.Shell.Builtin

/-- How a word is told that stands for another text. -/
def standingLine (dialect : Dialect) (known : List Char × List Char) : List Char :=
  (match dialect with
    | .plain => []
    | .large => ascii "alias ") ++ known.1 ++ '=' :: Quoting.single dialect known.2

/-- All words that stand for other texts, in the order in which each shell tells them. -/
def allStanding (shell : Session) : List (List Char × List Char) :=
  match shell.dialect with
  | .plain => shell.aliases.mergeSort fun a b => Session.plainPlace a.1 ≤ Session.plainPlace b.1
  | .large => shell.aliases.mergeSort fun a b => !Bytes.before (octets b.1) (octets a.1)

/-- Say that there is no such word; the plain shell does so in its own words. -/
def noStanding (name : String) (word : List Char) : Doing Nat := do
  let shell ← get
  match shell.dialect with
  | .plain =>
    let _ ← say 2 (ascii name ++ ascii ": " ++ word ++ ascii " not found\n")
    return 1
  | .large => told name (word ++ ascii ": not found") 1

/-- The word and the text that are given, if a text is given. -/
def standingOf? (chars : List Char) : Option (List Char × List Char) :=
  match chars with
  | [] => none
  | first :: rest =>
    let name := first :: rest.takeWhile (· != '=')
    if name.length < chars.length then some (name, chars.drop (name.length + 1)) else none

/-- Whether the large shell lets a word stand for another text. -/
def mayStand (chars : List Char) : Bool :=
  !chars.isEmpty && chars.all fun c => !(" \t\n;&|<>()/$\x60\\'\"=".toList.contains c)

/-- Let words stand for other texts, or show what they stand for. -/
def «alias» : Builtin := fun words => do
  let work (shows : Bool) (asked : List (List Char)) : Doing Nat := do
    let mut status := 0
    if shows || asked.isEmpty then
      let shell ← get
      let lines := (allStanding shell).map fun known => standingLine shell.dialect known ++ ['\n']
      status ← print "alias" lines.flatten
    for word in asked do
      let shell ← get
      match standingOf? word with
      | none =>
        match (shell.aliases.find? fun known => known.1 == word) with
        | some known =>
          let _ ← print "alias" (standingLine shell.dialect known ++ ['\n'])
        | none => status ← noStanding "alias" word
      | some (name, text) =>
        if shell.isLarge && !mayStand name then
          status ← told "alias" (ascii "\x60" ++ name ++ ascii "': invalid alias name") 1
        else if (shell.aliases.lookup name).isSome then
          change fun kept => { kept with
            aliases := kept.aliases.map fun known => if known.1 == name then (name, text) else known }
        else change fun kept => { kept with aliases := kept.aliases ++ [(name, text)] }
    return status
  let shell ← get
  match shell.dialect with
  | .plain => work false words
  | .large =>
    withOptions "alias" "alias [-p] [name[=value] ... ]" "p" "" words fun chosen =>
      work (chosen.has 'p') chosen.words

/-- Let words stand for themselves again. -/
def unalias : Builtin := fun words => do
  let help := "unalias [-a] name [name ...]"
  withOptions "unalias" help "a" "" words fun chosen => do
    let shell ← get
    if chosen.has 'a' then
      change fun kept => { kept with aliases := [] }
      return 0
    else if chosen.words.isEmpty && shell.isLarge then usage "unalias" help
    else
      let mut status := 0
      for word in chosen.words do
        let known ← get
        if (known.aliases.lookup word).isSome then
          change fun kept => { kept with aliases := kept.aliases.filter fun found => found.1 != word }
        else status ← noStanding "unalias" word
      return status

end Umpire.Shell.Builtin
