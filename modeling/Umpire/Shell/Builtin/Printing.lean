import Umpire.Shell.Alteration
import Umpire.Shell.Builtin.Basic
import Umpire.Tool.Format

/-! Builtin commands that print their words. -/

namespace Umpire.Shell.Builtin

open Tool

/-- Print words with blanks between them. -/
def echo : Builtin := fun words => do
  let shell ← get
  let joined (others : List (List Char)) : List Char := [' '].intercalate others
  match shell.dialect with
  | .plain =>
    let (lineEnd, others) := match words with
      | ['-', 'n'] :: rest => ([], rest)
      | _ => (['\n'], words)
    let found := Format.unescaped .plain .word (joined others)
    print "echo" (found.text ++ if found.stop then [] else lineEnd)
  | .large =>
    let isFlag (word : List Char) : Bool :=
      match word with
      | '-' :: c :: letters => (c :: letters).all fun letter => ['n', 'e', 'E'].contains letter
      | _ => false
    let flags := (words.takeWhile isFlag).flatten
    let others := words.dropWhile isFlag
    let lineEnd := if flags.contains 'n' then [] else ['\n']
    let escapes := flags.filter fun c => c == 'e' || c == 'E'
    if escapes.getLast? == some 'e' || (escapes.isEmpty && shell.has "xpg_echo") then
      let found := Format.unescaped .large .word (joined others)
      print "echo" (found.text ++ if found.stop then [] else lineEnd)
    else print "echo" (joined others ++ lineEnd)

/-- Tell what is wrong with a word or a directive of a format; the answer is the status. -/
def tellObjection (objection : Format.Objection) : Doing Nat := do
  let shell ← get
  match shell.dialect, objection with
  | .plain, .noNumber word => told "printf" (word ++ ascii ": expected numeric value") 1
  | .plain, .partly word => told "printf" (word ++ ascii ": not completely converted") 1
  | .plain, .outOfRange word => told "printf" (word ++ ascii ": Numerical result out of range") 1
  | .plain, .noDirective none _ => told "printf" (ascii "missing format character") 2
  | .plain, .noDirective _ whole => told "printf" (whole ++ ascii ": invalid directive") 2
  | .large, .noNumber word | .large, .partly word => told "printf" (word ++ ascii ": invalid number") 1
  | .large, .outOfRange word =>
    told "printf" (ascii "warning: " ++ word ++ ascii ": Numerical result out of range") 0
  | .large, .noDirective none whole =>
    told "printf" (ascii "\x60" ++ whole ++ ascii "': missing format character") 1
  | .large, .noDirective (some c) _ =>
    told "printf" (ascii "\x60" ++ [c] ++ ascii "': invalid format character") 1
  | .large, .noDigits letter =>
    let kind := if letter == 'x' then ascii "hex" else ascii "unicode"
    told "printf" (ascii "missing " ++ kind ++ ascii " digit for \\" ++ [letter]) 0
  | _, .followed _ | _, .noCharacter _ | .plain, .noDigits _ => return 0

/-- Print words by a format, perhaps into a variable. -/
def formatted (target : Option (List Char)) (format : List Char) (arguments : List (List Char)) :
    Doing Nat := do
  let shell ← get
  let printer : Format.Printer := if shell.isLarge then .large else .plain
  let printed := Format.print printer Quoting.backslashed format arguments
  -- What is printed is held back until the end.
  let mut worst := 0
  for objection in printed.objections do
    worst := max worst (← tellObjection objection)
  for (name, count) in printed.counts do
    if isName name then store name none false (numeral count)
    else if !name.isEmpty then
      worst := max worst (← told "printf" (ascii "\x60" ++ name ++ ascii "': not a valid identifier") 1)
  let status ← match target with
    | none => print "printf" printed.text
    | some name => do
      let (real, key) ← targetOf name
      if !isName real then told "printf" (ascii "\x60" ++ name ++ ascii "': not a valid identifier") 2
      else
        store real key false printed.text
        pure 0
  return max worst status

/-- Print words by a format. -/
def printf : Builtin := fun words => do
  let shell ← get
  let help := "printf [-v var] format [arguments]"
  withOptions "printf" help "" (if shell.isLarge then "v" else "") words fun chosen => do
    match chosen.words, shell.dialect with
    | [], .plain => fault "printf" (ascii "usage: printf format [arg ...]") 2
    | [], .large => usage "printf" help
    | format :: arguments, _ => formatted (chosen.text? 'v') format arguments

end Umpire.Shell.Builtin
