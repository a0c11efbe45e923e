import Umpire.Shell.Builtin.Surroundings
import Umpire.Shell.Quoting

/-! Traps: what a shell has been told to run for signals, for failures and at its end. -/

namespace Umpire.Shell

/-- What a trap can be set for. -/
inductive Occasion where
  /-- A signal, or the end of the shell, which counts as zero. -/
  | signal (number : Nat)
  | failure
  /-- Before every command. -/
  | step
  /-- After a function, or a file that is read. -/
  | «return»
  deriving DecidableEq, Repr

/-- The occasion that a word names. -/
def occasion? (dialect : Dialect) (chars : List Char) : Option Occasion :=
  let upper := chars.map Char.toUpper
  if upper == ascii "EXIT" || chars == ['0'] then some (.signal 0)
  else if dialect = .large && upper == ascii "ERR" then some .failure
  else if dialect = .large && upper == ascii "DEBUG" then some .step
  else if dialect = .large && upper == ascii "RETURN" then some .return
  else (Builtin.signalOf? dialect chars).map .signal

/-- Set what is run for a signal, or what becomes of it by itself. A signal that was ignored when the
shell was started stays ignored. -/
def setTrap (number : Nat) (action : Option (List Char)) : Doing Unit := do
  let shell ← get
  let effect : Host.Action := match action with
    | none => .standard
    | some text => if text.isEmpty then .ignore else .remember
  let isBound ← if number = 0 || (shell.traps.lookup number).isSome then pure false
    else do pure ((← ask (.action number)) == .ignore)
  if number != 0 && !isBound then
    let _ ← ask (.setAction number effect)
  change fun kept =>
    let others := kept.traps.filter fun known => known.1 != number
    { kept with traps := match action with
      | some text => if isBound then others else (number, text) :: others
      | none => others }

/-- Set what is run on some occasions. -/
def setTraps (action : Option (List Char)) : List (List Char) → Doing Nat
  | [] => return 0
  | first :: rest => do
    let shell ← get
    match occasion? shell.dialect first, shell.dialect with
    | none, .plain =>
      let _ ← say 2 (ascii "trap: " ++ first ++ ascii ": bad trap\n")
      return 1
    | none, .large =>
      let _ ← Builtin.told "trap" (first ++ ascii ": invalid signal specification") 1
      let _ ← setTraps action rest
      return 1
    | some (.signal number), _ =>
      setTrap number action
      setTraps action rest
    | some .failure, _ =>
      change fun kept => { kept with failureTrap := action.filter (!·.isEmpty) }
      setTraps action rest
    | some .step, _ =>
      change fun kept => { kept with stepTrap := action.filter (!·.isEmpty) }
      setTraps action rest
    | some .return, _ =>
      change fun kept => { kept with returnTrap := action.filter (!·.isEmpty) }
      setTraps action rest

/-- Show traps, of some occasions or of all. -/
def showTraps (wanted : List Occasion) : Doing Nat := do
  let shell ← get
  let ordered := shell.traps.mergeSort fun a b => a.1 ≤ b.1
  let line (text name : List Char) : List Char :=
    ascii "trap -- " ++ Quoting.single shell.dialect text ++ ' ' :: name ++ ['\n']
  let isWanted (occasion : Occasion) : Bool := wanted.isEmpty || wanted.contains occasion
  let signals := (ordered.filter fun known => isWanted (.signal known.1)).map fun known =>
    let name := if known.1 = 0 then ascii "EXIT"
      else (if shell.isLarge then ascii "SIG" else []) ++ Builtin.signalName shell.dialect known.1
    line known.2 name
  let other (occasion : Occasion) (name : String) (action : Option (List Char)) : List Char :=
    match action with
    | some text => if isWanted occasion then line text (ascii name) else []
    | none => []
  Builtin.print "trap" (signals.flatten ++ other .step "DEBUG" shell.stepTrap ++
    other .failure "ERR" shell.failureTrap ++ other .return "RETURN" shell.returnTrap)

/-- Show or set traps. -/
def trap : Builtin := fun words => do
  let shell ← get
  let help := "trap [-lp] [[arg] signal_spec ...]"
  Builtin.withOptions "trap" help (if shell.isLarge then "lp" else "") "" words fun chosen => do
    if chosen.has 'l' then Builtin.listSignals []
    else if chosen.has 'p' then showTraps (chosen.words.filterMap (occasion? shell.dialect))
    else
      match chosen.words with
      | [] => showTraps []
      | [only] =>
        if shell.isLarge && (occasion? .large only).isNone then Builtin.usage "trap" help
        else setTraps none [only]
      | action :: occasions =>
        if (Builtin.natural? action).isSome then setTraps none (action :: occasions)
        else setTraps (if action == ['-'] then none else some action) occasions

end Umpire.Shell
