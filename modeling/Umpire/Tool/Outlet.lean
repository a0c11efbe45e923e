import Umpire.Tool.Flags

/-! What programs of the host print: it is gathered before it is written. -/

namespace Umpire.Tool

open Host

/-- When a program writes what it has printed: once it has more than so many bytes, at line ends, or at
once. -/
inductive Gathering where
  | blocks (size : Nat)
  | lines
  | nothing
  deriving DecidableEq, Repr

/-- What a program has printed and not written yet. -/
structure Outlet where
  gathering : Gathering := .blocks 4096
  /-- The parts that are held, the latest first, and how many bytes they have. -/
  parts : List Bytes := []
  size : Nat := 0
  /-- What is complained if a write fails while the program works. -/
  objection : Errno → Bytes := fun errno => bytes "write error: " ++ bytes errno.usual
  /-- The code of a program that cannot write. -/
  code : Nat := 1

namespace Outlet

/-- What is held. -/
def held (outlet : Outlet) : Bytes :=
  outlet.parts.reverse.flatten

/-- The outlet once all that was held has been written. -/
def emptied (outlet : Outlet) : Outlet :=
  { outlet with parts := [], size := 0 }

/-- How many of some bytes are written now. -/
def ripe (outlet : Outlet) (all : Bytes) : Nat :=
  match outlet.gathering with
  | .nothing => all.length
  | .lines => all.length - (all.reverse.takeWhile (· != lineEnd)).length
  | .blocks size => if all.length ≤ size then 0 else all.length - (all.length - size) % max 1 size

/-- Whether so many bytes are just gathered. -/
def gathers (outlet : Outlet) (size : Nat) : Bool :=
  match outlet.gathering with
  | .blocks most => size ≤ most
  | _ => false

/-- Print some more; the answer is what has to be written now, and what is held then. -/
def take (outlet : Outlet) (data : Bytes) : Bytes × Outlet :=
  let size := outlet.size + data.length
  if outlet.gathers size then ([], { outlet with parts := data :: outlet.parts, size })
  else
    let all := outlet.held ++ data
    let left := all.drop (outlet.ripe all)
    (all.take (outlet.ripe all), { outlet with parts := [left], size := left.length })

end Outlet

/-- The gathering that an environment asks for. -/
def gatheringOf? (environment : List (Bytes × Bytes)) : Option Gathering :=
  (environment.lookup (bytes "_STDBUF_O")).bind fun text =>
    if text = bytes "L" then some .lines
    else (natural? text).map fun size => if size = 0 then .nothing else .blocks size

/-- The work of a program that prints; an early end has a code. -/
abbrev Printing (α : Type) := StateT Outlet (ExceptT Nat Talk) α

namespace Printing

/-- Do something that prints nothing. -/
def aside {α : Type} (work : Talk α) : Printing α :=
  StateT.lift (ExceptT.lift work)

/-- Make a call. -/
def ask (wanted : Call) : Printing wanted.Answer :=
  aside (call wanted)

/-- End early. -/
def stop {α : Type} (code : Nat) : Printing α :=
  StateT.lift (throw code)

/-- Write bytes; if that fails, complain and end. -/
def write (objection : Errno → Bytes) (data : Bytes) : Printing Unit := do
  let outlet ← get
  if !data.isEmpty then
    match ← aside (writeAll 1 data) with
    | .ok () => pure ()
    | .error errno =>
      aside (complain (objection errno))
      stop outlet.code

/-- Print some bytes. -/
def put (data : Bytes) : Printing Unit := do
  let outlet ← get
  let (ready, next) := outlet.take data
  set next
  write outlet.objection ready

/-- Write what is held. -/
def flush (objection : Errno → Bytes) : Printing Unit := do
  let outlet ← get
  set outlet.emptied
  write objection outlet.held

/-- Complain about something, after what has been printed so far. -/
def tell (complaint : Talk Unit) : Printing Unit := do
  flush (← get).objection
  aside complaint

/-- Do work that prints, and write what is held in the end. -/
def done (outlet : Outlet) (work : Printing Nat) : Talk Nat := do
  let usual : Outlet := {}
  let whole : Printing Nat := do
    let code ← work
    flush usual.objection
    return code
  match ← (whole.run outlet).run with
  | .ok (code, _) => return code
  | .error code => return code

/-- Do work that prints as the environment asks for. -/
def run (outlet : Outlet) (work : Printing Nat) : Talk Nat := do
  let wanted := gatheringOf? (← call .environment)
  done { outlet with gathering := wanted.getD outlet.gathering } work

/-- Work on the lines of a file as soon as they are there, the last of which may lack its end, and print
what becomes of each. The answer is what the work has come to, and why the file cannot be read. -/
def overLines {σ : Type} (step : σ → Bytes → σ × Bytes) (fd : Nat) : Nat → Bytes → σ →
    Printing (σ × Option Errno)
  | 0, _, state => return (state, none)
  | fuel + 1, pending, state => do
    match ← ask (.read fd chunk) with
    | .error errno => return (state, some errno)
    | .ok data =>
      let lines := linesOf (pending ++ data)
      let isCut := !data.isEmpty && (lines.getLast?.any fun line => line.getLast? != some lineEnd)
      let ready := if isCut then lines.dropLast else lines
      let (next, shown) := ready.foldl (fun (reached : σ × List Bytes) line =>
        let (after, part) := step reached.1 line
        (after, part :: reached.2)) (state, [])
      put shown.reverse.flatten
      if data.isEmpty then return (next, none)
      else overLines step fd fuel (if isCut then lines.getLastD [] else []) next

/-- Work on the lines of several files, one file after the other; the answer is a code as well. -/
def overFiles {σ : Type} (complaint : Bytes → Errno → Bool → Printing Unit) (step : σ → Bytes → σ × Bytes) :
    List Bytes → σ → Nat → Printing (σ × Nat)
  | [], state, code => return (state, code)
  | path :: rest, state, code => do
    match ← aside (openInput path) with
    | .error errno =>
      complaint path errno false
      overFiles complaint step rest state 1
    | .ok fd =>
      let (next, fault) ← overLines step fd mostPieces [] state
      if fd != 0 then
        let _ ← ask (.close fd)
      match fault with
      | none => overFiles complaint step rest next code
      | some errno =>
        complaint path errno true
        overFiles complaint step rest next 1

end Printing

end Umpire.Tool
