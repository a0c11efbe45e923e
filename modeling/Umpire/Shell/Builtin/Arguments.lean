import Umpire.Shell.Builtin.Basic
import Umpire.Shell.Quoting
import Umpire.Shell.Alteration

/-! Builtin commands about a shell's arguments and switches. -/

namespace Umpire.Shell.Builtin

/-- The names of all switches of a shell, in the order in which they are listed. -/
def switchNames (dialect : Dialect) : List String :=
  match dialect with
  | .plain => (letters .plain).map (·.2) ++ ["privileged", "nolog", "debug"]
  | .large =>
    ["allexport", "braceexpand", "emacs", "errexit", "errtrace", "functrace", "hashall", "histexpand",
      "history", "ignoreeof", "interactive-comments", "keyword", "monitor", "noclobber", "noexec",
      "noglob", "nolog", "notify", "nounset", "onecmd", "physical", "pipefail", "posix", "privileged",
      "verbose", "vi", "xtrace"]

/-- A text filled up with blanks. -/
def filled (width : Nat) (chars : List Char) : List Char :=
  chars ++ List.replicate (width - chars.length) ' '

/-- Show which switches are on, perhaps as commands. -/
def showSwitches (commands : Bool) : Doing Nat := do
  let shell ← get
  let shown := (switchNames shell.dialect).map fun name =>
    let on := shell.has name
    if commands then ascii (if on then "set -o " else "set +o ") ++ ascii name ++ ['\n']
    else
      let state := ascii (if on then "on" else "off")
      match shell.dialect with
      | .plain => filled 16 (ascii name) ++ state ++ ['\n']
      | .large => filled 15 (ascii name) ++ '\t' :: state ++ ['\n']
  let title := if shell.isLarge || commands then [] else ascii "Current option settings\n"
  print "set" (title ++ shown.flatten)

/-- Tell that there is no such switch. -/
def noSwitch (chars : List Char) (isLetter : Bool) : Doing Nat := do
  let shell ← get
  match shell.dialect, isLetter with
  | .plain, _ => fault "set" (ascii "Illegal option " ++ chars) 2
  | .large, true =>
    let _ ← told "set" (chars ++ ascii ": invalid option") 2
    usage "set" "set [-abefhkmnptuvxBCEHPT] [-o option-name] [--] [-] [arg ...]"
  | .large, false => told "set" (chars ++ ascii ": invalid option name") 2

/-- Set a switch. The plain shell controls jobs only at a terminal, which there is not. -/
def setSwitch (name : String) (on : Bool) : Doing Unit := do
  let shell ← get
  if on && name == "monitor" && !shell.isLarge then
    let _ ← told "set" (ascii "can't access tty; job control turned off") 0
  else change fun kept => kept.switch name on

/-- Carry out the letters of one word, of which some take the next word; the answer is a status, and
the words that are left. -/
def setLetters (on : Bool) : List Char → List (List Char) → Doing (Nat × List (List Char))
  | [], rest => return (0, rest)
  | 'o' :: letters, name :: rest => do
    let shell ← get
    let text := String.ofList name
    if (switchNames shell.dialect).contains text then
      setSwitch text on
      setLetters on letters rest
    else
      let shown := if shell.isLarge then name else (if on then ascii "-o " else ascii "+o ") ++ name
      return (← noSwitch shown false, [])
  | 'o' :: _, [] => do return (← showSwitches (!on), [])
  | c :: letters, rest => do
    let shell ← get
    match (Umpire.Shell.letters shell.dialect).lookup c with
    | some name =>
      setSwitch name on
      setLetters on letters rest
    | none => return (← noSwitch [if on then '-' else '+', c] true, [])

/-- Show all variables. -/
def showAll : Doing Nat := do
  let shell ← get
  let ordered := shell.values.mergeSort fun a b => !Bytes.before (octets b.1) (octets a.1)
  let shown := ordered.filterMap fun known =>
    match shell.dialect, known.2.content with
    | _, .none => none
    | .plain, content =>
      some (known.1 ++ '=' :: Quoting.single .plain (content.scalar?.getD []) ++ ['\n'])
    | .large, .text chars => some (known.1 ++ '=' :: Quoting.listed chars ++ ['\n'])
    | .large, content => some (known.1 ++ '=' :: shownElements content ++ ['\n'])
  print "set" shown.flatten

/-- Set switches and arguments, one word after the other. -/
def setWords : Nat → List (List Char) → Doing Nat
  | 0, _ => return 0
  | _ + 1, [] => return 0
  | fuel + 1, word :: rest => do
    match word with
    | ['-', '-'] =>
      change fun kept => { kept with arguments := rest }
      return 0
    | ['-'] =>
      change fun kept => (kept.switch "xtrace" false).switch "verbose" false
      if !rest.isEmpty then change fun kept => { kept with arguments := rest }
      return 0
    | sign :: c :: others =>
      if sign == '-' || sign == '+' then
        let (status, left) ← setLetters (sign == '-') (c :: others) rest
        if status != 0 then return status else setWords fuel left
      else
        change fun kept => { kept with arguments := word :: rest }
        return 0
    | _ =>
      change fun kept => { kept with arguments := word :: rest }
      return 0

/-- Set what the shell does, and its arguments. -/
def set : Builtin := fun words =>
  if words.isEmpty then showAll else setWords (words.length + 1) words

/-- Drop the first arguments. -/
def shift : Builtin := fun words => do
  let shell ← get
  let drop (count : Int) : Doing Nat := do
    if count < 0 || (shell.arguments.length : Int) < count then
      match shell.dialect with
      | .plain => fault "shift" (ascii "can't shift that many") 2
      | .large =>
        if count < 0 then told "shift" (words.headD [] ++ ascii ": shift count out of range") 1
        else return 1
    else
      change fun kept => { kept with arguments := kept.arguments.drop count.toNat }
      return 0
  match words, shell.dialect with
  | [], _ => drop 1
  | word :: _, .plain =>
    match natural? word with
    | some count => drop count
    | none => fault "shift" (ascii "Illegal number: " ++ word) 2
  | [word], .large =>
    match integer? word with
    | some count => drop count
    | none => told "shift" (word ++ ascii ": numeric argument required") 1
  | _, .large => tooMany "shift"

/-- What has become of reading one more option. -/
structure Reading where
  /-- The number of the next word, and the place of the next letter in it. -/
  word : Nat
  place : Nat
  letter : Char
  text : Option (List Char)
  /-- A complaint, if one is due. -/
  complaint : Option Refusal := none
  ended : Bool := false

/-- Read one more option from some words. -/
def readOption (silent : Bool) (known : List Char) (word place : Nat) (words : List (List Char)) :
    Reading :=
  let current := (words.drop (word - 1)).headD []
  let noMore : Reading := { word, place := 0, letter := '?', text := none, ended := true }
  let isOption := 2 ≤ current.length && current.head? == some '-'
  if place = 0 && !isOption then noMore
  else if place = 0 && current == ['-', '-'] then { noMore with word := word + 1 }
  else
    let start := max 1 place
    match current.drop start with
    | [] => noMore
    | c :: rest =>
      let (nextWord, nextPlace) := if rest.isEmpty then (word + 1, 0) else (word, start + 1)
      match known.dropWhile (· != c) with
      | [] => unknown c nextWord nextPlace
      | _ :: after =>
        if c == ':' then unknown c nextWord nextPlace
        else if after.head? != some ':' then
          { word := nextWord, place := nextPlace, letter := c, text := none }
        else if !rest.isEmpty then { word := word + 1, place := 0, letter := c, text := some rest }
        else
          match (words.drop word).head? with
          | some text => { word := word + 2, place := 0, letter := c, text := some text }
          | none =>
            { word := word + 1, place := 0, letter := if silent then ':' else '?'
              text := if silent then some [c] else none
              complaint := if silent then none else some (.incomplete c) }
where
  /-- A letter that is no option. -/
  unknown (c : Char) (word place : Nat) : Reading :=
    { word, place, letter := '?', text := if silent then some [c] else none
      complaint := if silent then none else some (.unknown c) }

/-- Read the next option from the arguments. -/
def getopts : Builtin := fun words => do
  let shell ← get
  match words with
  | optionText :: name :: given =>
    let silent := optionText.head? == some ':'
    let known := if silent then optionText.tail else optionText
    let word := max 1 (((shell.valueOf? (ascii "OPTIND")).bind natural?).getD 1)
    let arguments := if given.isEmpty then shell.arguments else given
    let found := readOption silent known word shell.optionPlace arguments
    let quiet := shell.isLarge && shell.valueOf? (ascii "OPTERR") == some ['0']
    match found.complaint, shell.dialect with
    | some (.unknown c), .plain =>
      let _ ← Umpire.Shell.say 2 (ascii "Illegal option -" ++ [c, '\n'])
    | some (.incomplete c), .plain =>
      let _ ← Umpire.Shell.say 2 (ascii "No arg for -" ++ c :: ascii " option\n")
    | some (.unknown c), .large =>
      if !quiet then
        let _ ← Umpire.Shell.say 2 (shell.name ++ ascii ": illegal option -- " ++ [c, '\n'])
    | some (.incomplete c), .large =>
      if !quiet then
        let _ ← Umpire.Shell.say 2 (shell.name ++ ascii ": option requires an argument -- " ++ [c, '\n'])
    | none, _ => pure ()
    change fun kept => { kept with optionPlace := found.place }
    match found.text, shell.dialect with
    | some text, _ => change fun kept => kept.setVariable (ascii "OPTARG") text
    | none, .plain =>
      if !found.ended then change fun kept => kept.setVariable (ascii "OPTARG") []
    | none, .large => change fun kept => kept.forget (ascii "OPTARG")
    change fun kept => kept.setVariable (ascii "OPTIND") (numeral found.word)
    if !isName name then
      match shell.dialect with
      | .plain => fault "getopts" (name ++ ascii ": bad variable name") 2
      | .large => told "getopts" (ascii "\x60" ++ name ++ ascii "': not a valid identifier") 1
    else if shell.isFixed name then
      match shell.dialect with
      | .plain => fault "getopts" (fixedMessage .plain name) 2
      | .large =>
        complain (fixedMessage .large name)
        return 1
    else
      change fun kept => kept.setVariable name [found.letter]
      return if found.ended then 1 else 0
  | _ =>
    match shell.dialect with
    | .plain => fault "getopts" (ascii "Usage: getopts optstring var [arg...]") 2
    | .large => usage "getopts" "getopts optstring name [arg ...]"

/-- The names of the large shell's further settings, and whether each is on from the start. -/
def settings : List (String × Bool) :=
  [("autocd", false), ("assoc_expand_once", false), ("cdable_vars", false), ("cdspell", false),
    ("checkhash", false), ("checkjobs", false), ("checkwinsize", true), ("cmdhist", true),
    ("compat31", false), ("compat32", false), ("compat40", false), ("compat41", false),
    ("compat42", false), ("compat43", false), ("compat44", false), ("complete_fullquote", true),
    ("direxpand", false), ("dirspell", false), ("dotglob", false), ("execfail", false),
    ("expand_aliases", false), ("extdebug", false), ("extglob", false), ("extquote", true),
    ("failglob", false), ("force_fignore", true), ("globasciiranges", true), ("globskipdots", true),
    ("globstar", false), ("gnu_errfmt", false), ("histappend", false), ("histreedit", false),
    ("histverify", false), ("hostcomplete", true), ("huponexit", false), ("inherit_errexit", false),
    ("interactive_comments", true), ("lastpipe", false), ("lithist", false),
    ("localvar_inherit", false), ("localvar_unset", false), ("login_shell", false),
    ("mailwarn", false), ("no_empty_cmd_completion", false), ("nocaseglob", false),
    ("nocasematch", false), ("noexpand_translation", false), ("nullglob", false),
    ("patsub_replacement", true), ("progcomp", true), ("progcomp_alias", false),
    ("promptvars", true), ("restricted_shell", false), ("shift_verbose", false),
    ("sourcepath", true), ("varredir_close", false), ("xpg_echo", false)]

/-- Show or change settings. -/
def shopt : Builtin := fun words =>
  withOptions "shopt" "shopt [-pqsu] [-o] [optname ...]" "pqsuo" "" words fun chosen => do
    let changes := chosen.has 's' || chosen.has 'u'
    let known := if chosen.has 'o' then switchNames .large else settings.map (·.1)
    let mut status := 0
    let mut shown : List Char := []
    let names := if chosen.words.isEmpty then known.map ascii else chosen.words
    for name in names do
      let text := String.ofList name
      if !known.contains text then
        status ← told "shopt" (name ++ ascii ": invalid shell option name") 1
      else if changes && !chosen.words.isEmpty then
        change fun kept => kept.switch text (chosen.has 's')
      else
        let on := (← get).has text
        let isWanted := !changes || on == chosen.has 's'
        if !on && !changes && !chosen.words.isEmpty then status := 1
        if isWanted then
          shown := shown ++ (if chosen.has 'p' then
              ascii (if on then "shopt -s " else "shopt -u ") ++ name
            else filled 15 name ++ '\t' :: ascii (if on then "on" else "off")) ++ ['\n']
    if chosen.has 'q' then return status
    let printed ← print "shopt" shown
    return max status printed

end Umpire.Shell.Builtin
