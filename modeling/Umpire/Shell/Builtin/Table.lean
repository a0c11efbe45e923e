import Umpire.Shell.Builtin.Arguments
import Umpire.Shell.Builtin.Finding
import Umpire.Shell.Builtin.Judging
import Umpire.Shell.Builtin.Naming
import Umpire.Shell.Builtin.Printing
import Umpire.Shell.Builtin.Reading
import Umpire.Shell.Builtin.Standing
import Umpire.Shell.Jobs
import Umpire.Shell.Trap

/-! The names of the commands that each shell carries out by itself. -/

namespace Umpire.Shell.Builtin

/-- Commands that run other commands, or tell where to go on. -/
def controls (dialect : Dialect) : List String :=
  let common := [".", "break", "command", "continue", "eval", "exec", "exit", "return", "type", "wait"]
  match dialect with
  | .plain => common
  | .large => common ++ ["builtin", "source"]

/-- Commands of the large shell that do nothing here, since no one sits before it. -/
def idle : List String :=
  ["bind", "compgen", "complete", "compopt", "enable", "fc", "help", "history"]

/-- A command that both shells carry out by themselves. -/
def common? (traps : Doing Unit) (name : String) : Option Builtin :=
  match name with
  | ":" | "true" => some fun _ => return 0
  | "false" => some fun _ => return 1
  | "echo" => some echo
  | "printf" => some printf
  | "test" => some (test false)
  | "[" => some (test true)
  | "kill" => some kill
  | "read" => some (read traps)
  | "cd" | "chdir" => some cd
  | "pwd" => some pwd
  | "export" => some «export»
  | "readonly" => some readonly
  | "local" => some «local»
  | "unset" => some unset
  | "set" => some set
  | "shift" => some shift
  | "getopts" => some getopts
  | "umask" => some umask
  | "ulimit" => some ulimit
  | "hash" => some hash
  | "times" => some times
  | "trap" => some trap
  | "alias" => some «alias»
  | "unalias" => some unalias
  | "jobs" => some jobs
  | "fg" => some (resume "fg")
  | "bg" => some (resume "bg")
  | _ => none

/-- A command that only the large shell carries out by itself. -/
def large? (name : String) : Option Builtin :=
  match name with
  | "declare" => some (declare "declare" false)
  | "typeset" => some (declare "typeset" false)
  | "let" => some letTerms
  | "shopt" => some shopt
  | "mapfile" | "readarray" => some mapfile
  | "dirs" => some dirs
  | "pushd" => some pushd
  | "popd" => some popd
  | "disown" => some disown
  | "suspend" => some fun _ => told "suspend" (ascii "cannot suspend: no job control") 1
  | "logout" => some fun _ => told "logout" (ascii "not login shell: use \x60exit'") 1
  | "caller" => some fun _ => return 1
  | _ => if idle.contains name then some fun _ => return 0 else none

/-- The command of a name that a shell carries out by itself and that runs no other commands. -/
def find? (dialect : Dialect) (traps : Doing Unit) (name : List Char) : Option Builtin :=
  let text := String.ofList name
  if text == "chdir" && dialect = .large then none
  else
    match common? traps text, dialect with
    | some found, _ => some found
    | none, .large => large? text
    | none, .plain => none

/-- Whether a shell carries out the command of a name by itself. -/
def isOwn (dialect : Dialect) (name : List Char) : Bool :=
  (controls dialect).contains (String.ofList name) || (find? dialect (return ()) name).isSome

end Umpire.Shell.Builtin
