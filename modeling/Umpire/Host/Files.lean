import Umpire.Host.Walk

/-! Calls on names: what is there, making, removing and renaming it. -/

namespace Umpire.Host.Kernel

/-- The name of the program that a process runs, which is cut off after a few letters. -/
def programName (process : Process) : Bytes :=
  (((process.words.headD []).splitOn (Bytes.ascii '/')).getLastD []).take 15

/-- How the host tells the state of a process to a process that asks. -/
def stateText (self number : Nat) (process : Process) : String :=
  if !process.isLive then "Z (zombie)"
  else if process.stopped then "T (stopped)"
  else if number = self then "R (running)"
  else "S (sleeping)"

/-- What a file that tells of a process says. -/
def accountText (kernel : Kernel) (self number : Nat) (told : Account) : Bytes :=
  match kernel.process? number with
  | none => []
  | some process =>
    match told with
    | .status =>
      let octal := String.ofList (Nat.toDigits 8 (process.mask + 4096)).tail
      let lines := ["\nUmask:\t" ++ octal, "State:\t" ++ stateText self number process, s!"Tgid:\t{number}",
        "Ngid:\t0", s!"Pid:\t{number}", s!"PPid:\t{process.parent}", "TracerPid:\t0", "Uid:\t0\t0\t0\t0",
        "Gid:\t0\t0\t0\t0", "FDSize:\t64", "Groups:\t0 \n"]
      Bytes.ofString "Name:\t" ++ programName process ++ Bytes.ofString ("\n".intercalate lines)
    | .name => programName process ++ [Bytes.ascii '\n']
    | .words => process.words.flatMap fun word => word ++ [0]
    | .environment => process.environment.flatMap fun known => known.1 ++ Bytes.ascii '=' :: known.2 ++ [0]

/-- How many names stand for a node. -/
def namesOf (kernel : Kernel) (number : Nat) : Nat :=
  (kernel.nodes.entries.map fun entry =>
    match entry.2.body with
    | .directory _ entries => (entries.filter fun known => known.2 = number).length
    | _ => 0).foldr (· + ·) 0

/-- How many of the things under some names are directories. -/
def below (kernel : Kernel) (entries : List (Bytes × Nat)) : Nat :=
  (entries.filter fun known =>
    match kernel.nodes.get? known.2 with
    | some ⟨.directory _ _, _⟩ => true
    | _ => false).length

/-- What the host tells of a place. -/
def infoOf (kernel : Kernel) : Place → Except Errno Info
  | .node number =>
    match kernel.nodes.get? number with
    | none => .error Errno.noEntry
    | some ⟨body, mode⟩ =>
      let told (kind : Kind) (size : Nat) : Info := ⟨kind, mode, size, number, kernel.namesOf number⟩
      match body with
      | .file data => .ok (told .file data.length)
      -- A directory is named by its holder, by itself and by each directory in it.
      | .directory _ entries => .ok { told .directory 4096 with names := kernel.below entries + 2 }
      | .fifo _ => .ok (told .fifo 0)
      | .link target => .ok (told .link target.length)
      | .device _ => .ok (told .device 0)
      | .tool _ => .ok (told .file 65536)
  -- Pipes are no nodes, so their identities are taken from beyond those.
  | .channel number => .ok { kind := .fifo, mode := 0o600, size := 0, identity := 1000000 + number }
  | .processes | .process _ => .ok { kind := .directory, mode := 0o555, size := 0 }
  | .descriptors _ => .ok { kind := .directory, mode := 0o500, size := 0 }
  | .descriptor _ _ | .workplace _ => .ok { kind := .link, mode := 0o700, size := 64 }
  | .account .. => .ok { kind := .file, mode := 0o444, size := 0 }

/-- The numbers of a process's descriptors as a process sees them that lists them; of its own it sees the
one by which it does so, too. -/
def numbersSeen (self owner : Nat) (table : Table) : List Nat :=
  let numbers := table.numbers
  if self = owner then (numbers ++ [table.lowestFree 0]).mergeSort (· ≤ ·) else numbers

/-- The names in a place. -/
def namesIn (kernel : Kernel) (self : Nat) : Place → Except Errno (List Bytes)
  | .node number =>
    match kernel.nodes.get? number with
    | some ⟨.directory _ entries, _⟩ => .ok (entries.map (·.1))
    | _ => .error Errno.notDirectory
  | .processes =>
    .ok (kernel.processes.entries.map fun entry => Bytes.ofChars (Numeral.ofNat entry.1))
  | .process _ =>
    .ok ((["cwd", "fd"] ++ Account.all.map Account.file).map Bytes.ofString)
  | .descriptors process =>
    match kernel.process? process with
    | some known =>
      .ok ((numbersSeen self process known.table).map fun fd => Bytes.ofChars (Numeral.ofNat fd))
    | none => .error Errno.noEntry
  | _ => .error Errno.notDirectory

/-- Where the link at a place leads, as text. -/
def linkText (kernel : Kernel) (place : Place) : Except Errno Bytes :=
  match kernel.lead? place with
  | some (.path target) => .ok target
  | some (.place target) => .ok (kernel.nameOf target)
  | none => .error Errno.invalid

/-- Change the names in a directory. -/
def changeEntries (kernel : Kernel) (directory : Nat)
    (change : List (Bytes × Nat) → List (Bytes × Nat)) : Kernel :=
  { kernel with
    nodes := kernel.nodes.modify directory fun node =>
      match node.body with
      | .directory parent entries => { node with body := .directory parent (change entries) }
      | _ => node }

/-- Put a new node under a free name of a directory. -/
def plant (kernel : Kernel) (directory : Nat) (name : Bytes) (body : Body) (mode : Nat) :
    Nat × Kernel :=
  let (number, nodes) := kernel.nodes.add ⟨body, mode⟩
  let grown : Kernel := { kernel with nodes := nodes }
  (number, grown.changeEntries directory fun entries => entries ++ [(name, number)])

/-- Put something new under a free name of a directory. -/
def plantNovelty (kernel : Kernel) (directory : Nat) (name : Bytes) (novelty : Novelty) (mode : Nat) :
    Kernel :=
  match novelty with
  | .file data => (kernel.plant directory name (.file data) mode).2
  | .directory => (kernel.plant directory name (.directory directory []) mode).2
  | .link target => (kernel.plant directory name (.link target) 0o777).2
  -- A named pipe comes with a pipe of its own, which nobody has open yet.
  | .fifo =>
    let (channel, channels) := kernel.channels.add {}
    let piped : Kernel := { kernel with channels := channels }
    (piped.plant directory name (.fifo channel) mode).2

/-- The permission bits that a new file of a process gets. -/
def masked (kernel : Kernel) (self mode : Nat) : Nat :=
  match kernel.process? self with
  | some process => mode - (mode &&& process.mask)
  | none => mode

/-- Make something at a path. -/
def create (kernel : Kernel) (self : Nat) (path : Bytes) (novelty : Novelty) (mode : Nat) :
    Except Errno Kernel :=
  match kernel.lastName self path with
  | .error errno => .error errno
  | .ok (directory, name) =>
    if name = Path.dot ∨ name = Path.dots ∨ (kernel.entry? self (.node directory) name).isSome then
      .error Errno.alreadyThere
    -- A slash at the end asks for a directory, and a link has to lead somewhere.
    else if Path.asksDirectory path && novelty != .directory || novelty == .link [] then .error Errno.noEntry
    else .ok (kernel.plantNovelty directory name novelty (kernel.masked self mode))

/-- Set the permission bits of what a path leads to. -/
def setMode (kernel : Kernel) (self : Nat) (path : Bytes) (mode : Nat) : Except Errno Kernel :=
  match kernel.reach self path .target with
  | .error errno => .error errno
  | .ok (.node number) =>
    .ok { kernel with nodes := kernel.nodes.modify number fun node => { node with mode } }
  | .ok _ => .error Errno.notPermitted

/-- Whether a node is a directory, and whether it has no names. -/
def emptiness (kernel : Kernel) (number : Nat) : Option Bool :=
  match kernel.nodes.get? number with
  | some ⟨.directory _ entries, _⟩ => some entries.isEmpty
  | _ => none

/-- Take a name out of a directory; files that are open stay as they are. -/
def remove (kernel : Kernel) (self : Nat) (path : Bytes) (directories : Bool) : Except Errno Kernel :=
  match kernel.lastName self path with
  | .error errno => .error errno
  | .ok (directory, name) =>
    if name = Path.dot then .error (if directories then Errno.invalid else Errno.isDirectory)
    else if name = Path.dots then .error (if directories then Errno.notEmpty else Errno.isDirectory)
    else
      match kernel.entry? self (.node directory) name with
      | none => .error Errno.noEntry
      | some (.node number) =>
        let taken := kernel.changeEntries directory fun entries =>
          entries.filter fun known => known.1 != name
        -- Files and directories are removed by calls of their own, and a directory only if it is empty.
        match kernel.emptiness number, directories with
        | some true, true => .ok taken
        | some false, true => .error Errno.notEmpty
        | some _, false => .error Errno.isDirectory
        | none, true => .error Errno.notDirectory
        | none, false => if Path.asksDirectory path then .error Errno.notDirectory else .ok taken
      | some _ => .error Errno.notPermitted

/-- Let a second name stand for a node that is no directory. -/
def link (kernel : Kernel) (self : Nat) (path target : Bytes) : Except Errno Kernel :=
  match kernel.reach self path .entry, kernel.lastName self target with
  | .error errno, _ => .error errno
  | _, .error errno => .error errno
  | .ok (.node number), .ok (directory, name) =>
    if (kernel.entry? self (.node directory) name).isSome then .error Errno.alreadyThere
    -- Directories have one name each.
    else if (kernel.emptiness number).isSome then .error Errno.notPermitted
    else .ok (kernel.changeEntries directory fun entries => entries ++ [(name, number)])
  | .ok _, .ok _ => .error Errno.notPermitted

/-- Whether a directory is another one or below it, so many directories up at most. -/
def isWithin (kernel : Kernel) (outer : Nat) : Nat → Nat → Bool
  | 0, directory => directory = outer
  | depth + 1, directory =>
    directory = outer ||
      match kernel.nodes.get? directory with
      | some ⟨.directory parent _, _⟩ => parent != directory && kernel.isWithin outer depth parent
      | _ => false

/-- Move a node to another name, in place of what is there. A directory cannot go below itself. -/
def rename (kernel : Kernel) (self : Nat) (path target : Bytes) : Except Errno Kernel :=
  match kernel.lastName self path, kernel.lastName self target with
  | .error errno, _ => .error errno
  | _, .error errno => .error errno
  | .ok (source, old), .ok (directory, new) =>
    match kernel.entry? self (.node source) old with
    | some (.node number) =>
      let moved (into : Kernel) : Kernel :=
        let without := into.changeEntries source fun entries =>
          entries.filter fun known => known.1 != old
        let placed := without.changeEntries directory fun entries => entries ++ [(new, number)]
        { placed with
          nodes := placed.nodes.modify number fun node =>
            match node.body with
            | .directory _ entries => { node with body := .directory directory entries }
            | _ => node }
      match kernel.entry? self (.node directory) new with
      | none =>
        if kernel.isWithin number kernel.nodes.entries.length directory then .error Errno.invalid
        else .ok (moved kernel)
      | some (.node replaced) =>
        -- Two names of one node: nothing is moved.
        if replaced = number then .ok kernel
        else
          let cleared := kernel.changeEntries directory fun entries =>
            entries.filter fun known => known.1 != new
          match kernel.emptiness number, kernel.emptiness replaced with
          | none, none => .ok (moved cleared)
          | some _, some true => .ok (moved cleared)
          | some _, some false => .error Errno.notEmpty
          | some _, none => .error Errno.notDirectory
          | none, some _ => .error Errno.isDirectory
      | some _ => .error Errno.notPermitted
    | some _ => .error Errno.notPermitted
    | none => .error Errno.noEntry

end Umpire.Host.Kernel
