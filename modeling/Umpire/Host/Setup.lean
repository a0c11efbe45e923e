import Umpire.Host.Files

/-! The host as it is set up: its standard files, its programs, and a first process in an empty directory of its own,
of which all that is below can be told path by path. -/

namespace Umpire.Host

/-- Something that stands in the first process's directory from the start. -/
structure Fixture where
  path : Bytes
  novelty : Novelty
  mode : Nat
  deriving DecidableEq, Repr

namespace Setup

/-- The number of the first process. -/
def firstProcess : Nat := 100

/-- Put something under a name of a directory; the answer is its number. -/
def plant (directory : Nat) (name : String) (body : Body) (mode : Nat) : StateM Kernel Nat :=
  fun kernel => kernel.plant directory (Bytes.ofString name) body mode

/-- Put an empty directory under a name of another. -/
def plantDirectory (parent : Nat) (name : String) : StateM Kernel Nat :=
  plant parent name (.directory parent []) 0o755

/-- The host before anything is put under its root. -/
def bare : Kernel :=
  { nodes := (Registry.add {} ⟨.directory Kernel.root [], 0o755⟩).2,
    processes := { next := firstProcess } }

/-- The directories that programs are looked for in. -/
def searched : Bytes :=
  Bytes.ofString "/usr/local/bin:/usr/bin:/bin"

/-- The path of the program that is not looked for. -/
def privateProgram : Bytes :=
  Bytes.ofString "/opt/bin/umpire"

/-- The standard files; the answer is the numbers of the null device and of the empty directory. -/
def standardFiles (tools : List String) (privateTool : String) : StateM Kernel (Nat × Nat) := do
  let usr ← plantDirectory Kernel.root "usr"
  let bin ← plantDirectory usr "bin"
  for tool in tools do
    let _ ← plant bin tool (.tool tool) 0o755
  let _ ← plant Kernel.root "bin" (.link (Bytes.ofString "usr/bin")) 0o777
  let opt ← plantDirectory Kernel.root "opt"
  let optBin ← plantDirectory opt "bin"
  let _ ← plant optBin "umpire" (.tool privateTool) 0o755
  let dev ← plantDirectory Kernel.root "dev"
  let null ← plant dev "null" (.device .null) 0o666
  let _ ← plant dev "zero" (.device .zero) 0o666
  let _ ← plant dev "full" (.device .full) 0o666
  let _ ← plant dev "fd" (.link (Bytes.ofString "/proc/self/fd")) 0o777
  let _ ← plant dev "stdin" (.link (Bytes.ofString "/proc/self/fd/0")) 0o777
  let _ ← plant dev "stdout" (.link (Bytes.ofString "/proc/self/fd/1")) 0o777
  let _ ← plant dev "stderr" (.link (Bytes.ofString "/proc/self/fd/2")) 0o777
  let tmp ← plantDirectory Kernel.root "tmp"
  let empty ← plantDirectory tmp "work"
  return (null, empty)

/-- The first process: its streams lead nowhere, and a write that nobody can read is only an error
for it. -/
def process (streams directory : Nat) : Process :=
  let slot : Slot := ⟨streams, false⟩
  { parent := 0
    table := { slots := [some slot, some slot, some slot] }
    directory := .node directory
    mask := 0
    environment := [(Bytes.ofString "PATH", searched)]
    actions := [(Signal.pipe, .ignore)] }

/-- Put a fixture in its place, if there is one for it. -/
def place (kernel : Kernel) (fixture : Fixture) : Kernel :=
  match kernel.create firstProcess fixture.path fixture.novelty fixture.mode with
  | .ok grown => grown
  | .error _ => kernel

/-- The host with some programs and fixtures, and the number of the first process's directory. -/
def host (tools : List String) (privateTool : String) (fixtures : List Fixture) : Kernel × Nat :=
  let ((null, directory), planted) := (standardFiles tools privateTool).run bare
  let (streams, opens) := planted.opens.add ⟨.node null, Access.both, 0⟩
  let (first, processes) := planted.processes.add (process streams directory)
  let manned : Kernel := { planted with opens := opens, processes := processes }
  let furnished := fixtures.foldl place manned
  (furnished.update first fun known => { known with mask := 0o022 }, directory)

end Setup

/-- Something below a directory. -/
structure Leaf where
  path : Bytes
  kind : Kind
  mode : Nat
  /-- What a file holds. -/
  data : Bytes
  deriving DecidableEq, Repr

/-- What is told of a node under a path. -/
def Leaf.ofNode (path : Bytes) (node : Node) : Leaf :=
  match node.body with
  | .file data => ⟨path, .file, node.mode, data⟩
  | .directory _ _ => ⟨path, .directory, node.mode, []⟩
  | .fifo _ => ⟨path, .fifo, node.mode, []⟩
  | .link _ => ⟨path, .link, node.mode, []⟩
  | .device _ => ⟨path, .device, node.mode, []⟩
  | .tool _ => ⟨path, .file, node.mode, []⟩

namespace Kernel

/-- Everything below a directory down to a depth, under paths that start in some way. -/
def leaves (kernel : Kernel) : Nat → Bytes → Nat → List Leaf
  | 0, _, _ => []
  | depth + 1, start, directory =>
    match kernel.nodes.get? directory with
    | some ⟨.directory _ entries, _⟩ =>
      entries.flatMap fun entry =>
        match kernel.nodes.get? entry.2 with
        | none => []
        | some node =>
          let path := start ++ entry.1
          Leaf.ofNode path node :: kernel.leaves depth (path ++ [Bytes.ascii '/']) entry.2
    | _ => []

/-- Everything below a directory in the order of the paths; no path is longer than the number of
nodes allows. -/
def tree (kernel : Kernel) (directory : Nat) : List Leaf :=
  (kernel.leaves kernel.nodes.next [] directory).mergeSort fun a b => !Bytes.before b.path a.path

end Kernel

end Umpire.Host
