import Umpire.Shell.Expansion
import Umpire.Shell.Quoting

/-! Telling commands before they are carried out. -/

namespace Umpire.Shell

/-- The start of a line that tells a command; the large shell shows how deep it stands. -/
def traceStart (run : Runner) : Doing (List Char) := do
  let shell ← get
  let written := (shell.valueOf? (ascii "PS4")).getD []
  -- What stands there is no command to be told.
  change fun kept => kept.switch "xtrace" false
  let shown ← expandText run mostStretches written
  change fun kept => { kept with
    switches := shell.switches, lastOutput := shell.lastOutput, status := shell.status }
  match shell.dialect, shown with
  | .large, first :: rest => return List.replicate (shell.nested + 1) first ++ rest
  | _, _ => return shown

/-- Tell something if commands are told. -/
def trace (run : Runner) (chars : List Char) : Doing Unit := do
  let shell ← get
  if shell.has "xtrace" then
    let start ← traceStart run
    let _ ← say (← get).traceTo (start ++ chars ++ ['\n'])

/-- Tell the assignments and the words of a command. -/
def traceCommand (run : Runner) (assignments words : List (List Char)) : Doing Unit := do
  let shell ← get
  match shell.dialect with
  | .plain => trace run ([' '].intercalate (assignments ++ words))
  | .large =>
    for shown in assignments do
      trace run shown
    if !words.isEmpty then trace run ([' '].intercalate (words.map (Quoting.traced .large)))

/-- Tell what is carried out between two marks. -/
def traceBetween (run : Runner) (opening chars closing : List Char) : Doing Unit := do
  if (← get).isLarge then trace run (opening ++ chars ++ closing)

end Umpire.Shell
