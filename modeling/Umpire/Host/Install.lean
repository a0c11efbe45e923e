import Umpire.Host.Call

/-! What a new process does before it runs its program: it puts its standard streams in place. -/

namespace Umpire.Host

/-- A sequence of steps of which each is taken only if all before it succeeded. -/
def eachOf {α : Type} (step : α → Talk (Except Errno Unit)) : List α → Talk (Except Errno Unit)
  | [] => return .ok ()
  | first :: rest => do
    match ← step first with
    | .error errno => return .error errno
    | .ok () => eachOf step rest

/-- Open the file of a redirect and put it in the place of its stream. The descriptor it was opened
under is closed again, unless it already was the stream's. -/
def Redirect.install (redirect : Redirect) : Talk (Except Errno Unit) := do
  match ← call (.openFile redirect.path redirect.access false) with
  | .error errno => return .error errno
  | .ok fd =>
    -- The lowest free number may have been that of the stream.
    if fd = redirect.stream.fd then return .ok ()
    else
      match ← call (.duplicateTo fd redirect.stream.fd) with
      | .error errno => return .error errno
      | .ok () =>
        let _ ← call (.close fd)
        return .ok ()

/-- Install redirects in order, up to the first that fails. -/
def install (redirects : List Redirect) : Talk (Except Errno Unit) :=
  eachOf Redirect.install redirects

namespace Order

/-- The descriptors that the order puts in the place of standard streams. -/
def given (order : Order) : List (Nat × Stream) :=
  [(order.stdin, Stream.stdin), (order.stdout, Stream.stdout), (order.stderr, Stream.stderr)].filterMap
    fun choice => choice.1.map fun fd => (fd, choice.2)

/-- Put the descriptors of an order in the place of standard streams. -/
def place (order : Order) : Talk (Except Errno Unit) :=
  eachOf (fun choice => call (.duplicateTo choice.1 choice.2.fd)) order.given

end Order

/-- The shell that runs scripts which name no interpreter. -/
def shellPath : Bytes :=
  Bytes.ofString "/bin/sh"

/-- Run a file in this process; if the host does not know its form, run it as a script of a shell if
there is one. -/
def runFile (path : Bytes) (words : List Bytes) (environment : List (Bytes × Bytes))
    (shell : Option Bytes) : Talk Errno := do
  let refusal ← call (.exec path words environment)
  match shell with
  | some program =>
    -- A file without a known form is taken for a script.
    if refusal = Errno.notExecutable then
      call (.exec program (program :: path :: words.tail) environment)
    else return refusal
  | none => return refusal

/-- Run the first file of a name that is found in one of some directories. What is missing is passed
over; what may not be run is remembered as the reason if nothing else is found. -/
def runFrom (name : Bytes) (words : List Bytes) (environment : List (Bytes × Bytes))
    (shell : Option Bytes) (reason : Errno) : List Bytes → Talk Errno
  | [] => return reason
  | directory :: rest => do
    -- An empty directory stands for the one that the process is in.
    let path := if directory.isEmpty then name else directory ++ Bytes.ascii '/' :: name
    let refusal ← runFile path words environment shell
    if refusal = Errno.noEntry ∨ refusal = Errno.notDirectory then
      runFrom name words environment shell reason rest
    else if refusal = Errno.accessDenied then
      runFrom name words environment shell Errno.accessDenied rest
    else return refusal

/-- The directories that an environment has programs looked for in. -/
def searchPath (environment : List (Bytes × Bytes)) : List Bytes :=
  ((environment.lookup (Bytes.ofString "PATH")).getD (Bytes.ofString "/bin:/usr/bin")).splitOn
    (Bytes.ascii ':')

/-- Run a program in this process: the file at its path, or one that is looked for by its name. -/
def runProgram (words : List Bytes) (environment : List (Bytes × Bytes)) (shell : Option Bytes) :
    Talk Errno :=
  let name := words.headD []
  if name.isEmpty then return Errno.noEntry
  else if name.contains (Bytes.ascii '/') then runFile name words environment shell
  else if 255 < name.length then return Errno.nameTooLong
  else runFrom name words environment shell Errno.noEntry (searchPath environment)

/-- What a process that was started on an order does: streams first, then files, then the program.
A failure is told to the process that gave the order. -/
def Order.obey (order : Order) : Talk Nat := do
  match ← order.place with
  | .error errno => call (.giveUp errno)
  | .ok () =>
    -- The program is to feel a broken pipe, although whoever started it does not.
    let _ ← call (.setAction Signal.pipe .standard)
    match ← install order.redirects with
    | .error errno => call (.giveUp errno)
    | .ok () =>
      let environment ← call .environment
      let refusal ← runProgram order.words environment (if order.redirects.isEmpty then none else some shellPath)
      call (.giveUp refusal)
  return 1

end Umpire.Host
