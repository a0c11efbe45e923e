import Umpire.Host.Walk

/-! Images: which of the host's programs a path stands for, directly or through a script. -/

namespace Umpire.Host

/-- A program that the host provides, and the words that it is run with. -/
structure Image where
  tool : String
  words : List Bytes
  deriving DecidableEq, Repr

namespace Image

/-- How many scripts may name each other as their interpreters. -/
def mostScripts : Nat := 5

/-- How much of a file is looked at to find its interpreter. -/
def window : Nat := 256

/-- One word this long is refused. -/
def longestWord : Nat := 131072

/-- Blanks that may stand in the first line of a script. -/
def isGap (byte : UInt8) : Bool :=
  byte == Bytes.ascii ' ' || byte == Bytes.ascii '\t'

/-- A byte string without the blanks at its two ends. -/
def trimGaps (bytes : Bytes) : Bytes :=
  ((bytes.dropWhile isGap).reverse.dropWhile isGap).reverse

/-- What follows the mark of a script up to the end of its first line. A file that ends before has
zeros after it. A line that does not end in sight is taken if the interpreter's name does. -/
def firstLine? (rest : Bytes) : Option Bytes :=
  let sight := (rest ++ List.replicate window 0).take (window - 2)
  let line := sight.takeWhile fun byte => byte != Bytes.ascii '\n' && byte != 0
  if (sight.drop line.length).head? == some (Bytes.ascii '\n') then some line
  else if (sight.dropWhile isGap).any fun byte => isGap byte || byte == 0 then some sight.dropLast
  else none

/-- The interpreter that the first line of a script names, with its one argument if there is one; none
for a file that is no script. The name can be empty. -/
def interpreter? (data : Bytes) : Option (List Bytes) :=
  match data with
  | first :: second :: rest =>
    if first == Bytes.ascii '#' && second == Bytes.ascii '!' then
      match (firstLine? rest).map trimGaps with
      | none | some [] => none
      | some line =>
        let name := line.takeWhile fun byte => !isGap byte && byte != 0
        match line.drop name.length with
        -- What follows a zero is not seen.
        | [] | 0 :: _ => some [name]
        | after => some [name, (after.dropWhile isGap).takeWhile (· != 0)]
    else none
  | _ => none

end Image

namespace Kernel

/-- What the file at a path holds, if it may be run. -/
def executable (kernel : Kernel) (self : Nat) (path : Bytes) : Except Errno Body :=
  match kernel.reach self path .target with
  | .error errno => .error errno
  | .ok (.node number) =>
    match kernel.nodes.get? number with
    | some ⟨.tool name, _⟩ => .ok (.tool name)
    | some ⟨.file data, mode⟩ =>
      -- One bit for running is enough, whoever it is for.
      if mode &&& 0o111 = 0 then .error Errno.accessDenied else .ok (.file data)
    | _ => .error Errno.accessDenied
  | .ok _ => .error Errno.accessDenied

/-- The program that what a path holds stands for: one of the host's own, or what a script names. -/
def image (kernel : Kernel) (self : Nat) (budget : Nat) (body : Body) (path : Bytes)
    (words : List Bytes) : Except Errno Image :=
  match body with
  | .tool name => .ok ⟨name, words⟩
  | .file data =>
    match Image.interpreter? data with
    | none => .error Errno.notExecutable
    | some found =>
      let name := found.headD []
      -- An empty name stands for the directory, which cannot be run.
      match if name.isEmpty then .error Errno.accessDenied else kernel.executable self name, budget with
      | .error errno, _ => .error errno
      | .ok _, 0 => .error Errno.linkLoop
      -- The script's path takes the place of its own name among the words.
      | .ok inner, left + 1 => kernel.image self left inner name (found ++ path :: words.tail)
  | _ => .error Errno.accessDenied

/-- The program that a process is to run, if the host takes its words. -/
def loadImage (kernel : Kernel) (self : Nat) (path : Bytes) (words : List Bytes) :
    Except Errno Image :=
  if words.any fun word => Image.longestWord ≤ word.length + 1 then .error Errno.tooBig
  else
    match kernel.executable self path with
    | .error errno => .error errno
    | .ok body => kernel.image self Image.mostScripts body path words

end Kernel

end Umpire.Host
