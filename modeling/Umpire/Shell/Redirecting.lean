import Umpire.Shell.Builtin.Basic
import Umpire.Shell.Paths

/-! Putting redirections in place, for good or while a command runs. -/

namespace Umpire.Shell

/-- The wording of a failure to open a file. -/
def openFailure (dialect : Dialect) (direction : Direction) (path : List Char) (errno : Errno) :
    List Char :=
  match dialect with
  | .large =>
    if errno = Errno.alreadyThere then path ++ ascii ": cannot overwrite existing file"
    else path ++ ascii ": " ++ ascii errno.usual
  | .plain =>
    let reason (missing : String) : String := if errno = Errno.noEntry then missing else errno.usual
    match direction with
    | .read => ascii "cannot open " ++ path ++ ascii ": " ++ ascii (reason "No such file")
    | _ => ascii "cannot create " ++ path ++ ascii ": " ++ ascii (reason "Directory nonexistent")

/-- Give a descriptor a text to read. What a pipe cannot take at once is written by a new process. -/
def provide (fd : Nat) (chars : List Char) : Doing (Option Unit) := do
  match ← ask .pipe with
  | .error errno =>
    complain (ascii "Pipe call failed: " ++ ascii errno.usual)
    return none
  | .ok (readEnd, writeEnd) =>
    if chars.length ≤ 4096 then
      let _ ← say writeEnd chars
    else
      match ← ask .fork with
      | .ok none =>
        let _ ← ask (.close readEnd)
        let _ ← say writeEnd chars
        throw (.exit 0)
      | _ => pure ()
    let _ ← ask (.close writeEnd)
    let _ ← ask (.duplicateTo readEnd fd)
    if readEnd != fd then
      let _ ← ask (.close readEnd)
    return some ()

/-- The text of a redirection's word; the large shell wants it to be one field. -/
def targetText (run : Runner) (redirection : Redirection) : Doing (Option (List Char)) := do
  let shell ← get
  match shell.dialect, redirection.direction with
  | .plain, _ | .large, .document | .large, .line => return some (← single run redirection.word)
  | .large, _ =>
    match ← fieldsOfWord run redirection.word with
    | [only] => return some only
    | _ =>
      complain (redirection.shown ++ ascii ": ambiguous redirect")
      return none

/-- Whether a path leads to a file that is not to be written over. -/
def isProtected (path : List Char) : Doing Bool := do
  let shell ← get
  if !shell.has "noclobber" then return false
  else
    match ← ask (.info (octets path) true) with
    | .ok info => return info.kind == .file
    | .error _ => return false

/-- Let a descriptor stand for the file of another one that has just been opened. -/
def settle (target : Target) (fd : Nat) : Doing Unit := do
  match target with
  | .number wanted =>
    if fd != wanted then
      let _ ← ask (.duplicateTo fd wanted)
      let _ ← ask (.close fd)
  | .variable name =>
    match ← ask (.duplicateFrom fd 10 false) with
    | .ok new =>
      let _ ← ask (.close fd)
      let (real, key) ← targetOf name
      store real key false (numeral new)
    | .error _ => return ()

/-- Let a descriptor stand for the file of another one. -/
def duplicate (target : Target) (fd : Nat) : Doing (Except Errno Unit) := do
  match target with
  | .number wanted => ask (.duplicateTo fd wanted)
  | .variable name =>
    match ← ask (.duplicateFrom fd 10 false) with
    | .ok new =>
      let (real, key) ← targetOf name
      store real key false (numeral new)
      return .ok ()
    | .error errno => return .error errno

/-- The descriptor that a redirection closes. -/
def closedBy (target : Target) : Doing (Option Nat) := do
  match target with
  | .number fd => return some fd
  | .variable name =>
    let (real, key) ← targetOf name
    return Builtin.natural? (currentValue (← get) real key)

/-- Open a file for a redirection. -/
def openInto (redirection : Redirection) (path : List Char) (access : Host.Access) :
    Doing (Option Unit) := do
  let shell ← get
  let blocked ← if redirection.direction = .write || redirection.direction = .writeAll then
      isProtected path
    else pure false
  let opened ← if blocked then pure (.error Errno.alreadyThere)
    else ask (.openFile (octets path) access false)
  match opened with
  | .error errno =>
    complain (openFailure shell.dialect redirection.direction path errno)
    return none
  | .ok fd =>
    settle redirection.target fd
    return some ()

/-- Write standard output and standard error to one file. -/
def openBoth (redirection : Redirection) (path : List Char) (access : Host.Access) :
    Doing (Option Unit) := do
  match ← openInto { redirection with target := .number 1 } path access with
  | none => return none
  | some () =>
    let _ ← ask (.duplicateTo 1 2)
    return some ()

/-- Let a descriptor stand for the one that a text names, or close it. -/
def redirectTo (redirection : Redirection) (text : List Char) : Doing (Option Unit) := do
  let shell ← get
  let moves := shell.isLarge && 1 < text.length && text.getLast? == some '-'
  let name := if moves then text.dropLast else text
  if text == ['-'] then
    if let some fd := ← closedBy redirection.target then
      let _ ← ask (.close fd)
    return some ()
  else
    match Builtin.natural? name, shell.dialect with
    | some fd, _ =>
      if !shell.isLarge && 1 < name.length then
        refuse (ascii "Syntax error: Bad fd number") true
      else
        match ← duplicate redirection.target fd with
        | .ok () =>
          if moves then
            let _ ← ask (.close fd)
          return some ()
        | .error errno =>
          complain (name ++ ascii ": " ++ ascii errno.usual)
          return none
    | none, .plain => refuse (ascii "Syntax error: Bad fd number") true
    | none, .large =>
      if redirection.direction = .duplicateOutput && redirection.target = .number 1 then
        openBoth { redirection with direction := .writeAll } text Host.Access.writing
      else
        complain (redirection.shown ++ ascii ": ambiguous redirect")
        return none

/-- Carry out one redirection for good; none is the answer if it failed, which has been told. -/
def redirect (run : Runner) (redirection : Redirection) : Doing (Option Unit) := do
  match ← targetText run redirection with
  | none => return none
  | some text =>
    let provided (chars : List Char) : Doing (Option Unit) := do
      match redirection.target with
      | .number fd => provide fd chars
      | .variable _ => return some ()
    match redirection.direction with
    | .read => openInto redirection text Host.Access.reading
    | .write | .overwrite => openInto redirection text Host.Access.writing
    | .append => openInto redirection text Host.Access.appending
    | .both => openInto redirection text { Host.Access.both with create := true }
    | .writeAll => openBoth redirection text Host.Access.writing
    | .appendAll => openBoth redirection text Host.Access.appending
    | .document => provided text
    | .line => provided (text ++ ['\n'])
    | .duplicateInput | .duplicateOutput => redirectTo redirection text

/-- Carry out redirections for good, up to the first that fails. -/
def redirectAll (run : Runner) : List Redirection → Doing (Option Unit)
  | [] => return some ()
  | first :: rest => do
    match ← redirect run first with
    | none => return none
    | some () => redirectAll run rest

/-- The descriptors that a redirection changes. -/
def changedBy (redirection : Redirection) : List Nat :=
  match redirection.target, redirection.direction with
  | .variable _, _ => []
  | .number _, .writeAll | .number _, .appendAll => [1, 2]
  | .number fd, .duplicateOutput => if fd = 1 then [1, 2] else [fd]
  | .number fd, _ => [fd]

/-- Keep what descriptors stand for under high numbers; none is kept for one that is closed. -/
def keepEach : List Nat → Doing (List (Nat × Option Nat))
  | [] => return []
  | fd :: rest => do
    let kept ← ask (.duplicateFrom fd 10 true)
    return (fd, kept.toOption) :: (← keepEach rest)

/-- Keep what the descriptors stand for that some redirections change. -/
def keep (redirections : List Redirection) : Doing (List (Nat × Option Nat)) :=
  keepEach (redirections.flatMap changedBy).eraseDups

/-- Put back what descriptors stood for, the latest first. -/
def putBack : List (Nat × Option Nat) → Doing Unit
  | [] => return ()
  | (fd, kept) :: rest => do
    putBack rest
    match kept with
    | some number =>
      let _ ← ask (.duplicateTo number fd)
      let _ ← ask (.close number)
    | none =>
      let _ ← ask (.close fd)

/-- The status of a failed redirection. -/
def redirectionFailed : Doing Unit := do
  let shell ← get
  setStatus (match shell.dialect with
    | .plain => 2
    | .large => 1)

/-- Give a result, or leave in the way that was taken. -/
def settled {α : Type} (left : Except Leap α) : Doing α :=
  ExceptT.mk (return left)

/-- Do something with redirections in place, and take them back afterwards; the answer is whether they
could be put in place. -/
def withRedirections (run : Runner) (redirections : List Redirection) (doing : Doing Unit) :
    Doing Bool := do
  if redirections.isEmpty then
    doing
    return true
  else
    let kept ← keep redirections
    match ← attempt (redirectAll run redirections) with
    | .error leap =>
      putBack kept
      throw leap
    | .ok none =>
      putBack kept
      redirectionFailed
      return false
    | .ok (some ()) =>
      let left ← attempt doing
      putBack kept
      settled left
      return true

end Umpire.Shell
