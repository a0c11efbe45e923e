import Umpire.Host.Kernel

/-! Walking along paths: from a directory, name by name, through links, to a place. -/

namespace Umpire.Host

/-- Where a walk has ended. -/
inductive Found where
  | here (place : Place)
  /-- The last name is not taken yet in the directory that it belongs to. -/
  | free (directory : Nat) (name : Bytes)
  deriving DecidableEq, Repr

/-- What a walk is for. -/
inductive Aim where
  /-- The place of the last name itself, even if it is a link. -/
  | entry
  /-- What the last name leads to. -/
  | target
  /-- What the last name leads to, or a new file under that name. -/
  | creation
  deriving DecidableEq, Repr

/-- Where a link leads. -/
inductive Lead where
  | path (target : Bytes)
  | place (target : Place)
  deriving DecidableEq, Repr

namespace Path

/-- The longest name, and the shortest path that is too long. -/
def longestName : Nat := 255

/-- A path of this length or more is refused. -/
def tooLong : Nat := 4096

/-- How many links a walk follows. -/
def mostLinks : Nat := 40

/-- The name that stands for the directory itself. -/
def dot : Bytes :=
  Bytes.ofString "."

/-- The name that stands for the directory above. -/
def dots : Bytes :=
  Bytes.ofString ".."

/-- The step that a slash at the end of a path stands for. It asks for a directory. -/
def slash : Bytes :=
  []

/-- The names to walk along. -/
def steps (path : Bytes) : List Bytes :=
  names path ++ if asksDirectory path && !(names path).isEmpty then [slash] else []

/-- The number that a name spells without sign and leading zeros. -/
def number? (name : Bytes) : Option Nat :=
  match Numeral.readNat 4294967295 (Bytes.toOctets name) with
  | .ok number => if Bytes.ofChars (Numeral.ofNat number) = name then some number else none
  | .error _ => none

end Path

namespace Kernel

/-- Whether names can be looked up in a place. -/
def isDirectory (kernel : Kernel) : Place → Bool
  | .node number =>
    match kernel.nodes.get? number with
    | some ⟨.directory _ _, _⟩ => true
    | _ => false
  | .processes | .process _ | .descriptors _ => true
  | .channel _ | .descriptor _ _ | .workplace _ | .account .. => false

/-- The directory above a directory. -/
def above (kernel : Kernel) : Place → Place
  | .node number =>
    match kernel.nodes.get? number with
    | some ⟨.directory parent _, _⟩ => .node parent
    | _ => .node number
  | .process _ => .processes
  | .descriptors process => .process process
  | _ => .node root

/-- What a name in a directory stands for. -/
def entry? (kernel : Kernel) (self : Nat) : Place → Bytes → Option Place
  | .node number, name =>
    match kernel.nodes.get? number with
    | some ⟨.directory _ entries, _⟩ =>
      -- What the host tells of its processes is found in the root.
      if number = root ∧ name = Bytes.ofString "proc" then some .processes
      else (entries.lookup name).map .node
    | _ => none
  | .processes, name =>
    -- Only numbers of processes that are there are names.
    if name = Bytes.ofString "self" then some (.process self)
    else (Path.number? name).bind fun process => (kernel.process? process).map fun _ => .process process
  | .process process, name =>
    if name = Bytes.ofString "fd" then some (.descriptors process)
    else if name = Bytes.ofString "cwd" then some (.workplace process)
    else (Account.all.find? fun told => Bytes.ofString told.file = name).map (.account process)
  | .descriptors process, name =>
    (Path.number? name).bind fun fd => (kernel.slot? process fd).map fun _ => .descriptor process fd
  | _, _ => none

/-- Where a place leads if it is a link. -/
def lead? (kernel : Kernel) : Place → Option Lead
  | .node number =>
    match kernel.nodes.get? number with
    | some ⟨.link target, _⟩ => some (.path target)
    | _ => none
  | .descriptor process fd => (kernel.openFile? process fd).map fun found => .place found.2.place
  | .workplace process => (kernel.process? process).map fun known => .place known.directory
  | _ => none

/-- Walk along names, following at most so many links; the last name's link only if wanted. -/
def walk (kernel : Kernel) (self : Nat) (aim : Aim) (budget : Nat) (place : Place)
    (names : List Bytes) : Except Errno Found :=
  match names with
  | [] => .ok (.here place)
  | name :: rest =>
    if !kernel.isDirectory place then .error Errno.notDirectory
    else if name = Path.dot ∨ name = Path.slash then kernel.walk self aim budget place rest
    else if name = Path.dots then kernel.walk self aim budget (kernel.above place) rest
    -- A file cannot be made under a name that asks for a directory, whether it is there or not.
    else if aim = .creation ∧ rest = [Path.slash] then .error Errno.isDirectory
    else if Path.longestName < name.length then .error Errno.nameTooLong
    else
      match kernel.entry? self place name with
      | none =>
        match rest, place with
        | [], .node directory => .ok (.free directory name)
        | _, _ => .error Errno.noEntry
      | some next =>
        if rest.isEmpty && aim = .entry then .ok (.here next)
        else
          -- A link in the middle of a path is followed even if the last one would not be.
          match kernel.lead? next with
          | none => kernel.walk self aim budget next rest
          | some lead =>
            match budget with
            | 0 => .error Errno.linkLoop
            | left + 1 =>
              match lead with
              | .place target => kernel.walk self aim left target rest
              | .path target =>
                if target.isEmpty then .error Errno.noEntry
                else
                  -- The link's own text is walked first, from where the link stands.
                  let start := if Path.isAbsolute target then .node root else place
                  kernel.walk self aim left start (Path.steps target ++ rest)
termination_by (budget, names.length)

/-- The place that a process's walk along a path starts from. -/
def startOf (kernel : Kernel) (self : Nat) (path : Bytes) : Place :=
  if Path.isAbsolute path then .node root
  else
    match kernel.process? self with
    | some process => process.directory
    | none => .node root

/-- Where a process's path leads. -/
def locate (kernel : Kernel) (self : Nat) (path : Bytes) (aim : Aim) : Except Errno Found :=
  if path.isEmpty then .error Errno.noEntry
  else if Path.tooLong ≤ path.length then .error Errno.nameTooLong
  else kernel.walk self aim Path.mostLinks (kernel.startOf self path) (Path.steps path)

/-- The place that a process's path leads to. -/
def reach (kernel : Kernel) (self : Nat) (path : Bytes) (aim : Aim) : Except Errno Place :=
  match kernel.locate self path aim with
  | .error errno => .error errno
  | .ok (.here place) => .ok place
  | .ok (.free _ _) => .error Errno.noEntry

/-- The directory that a path's last name belongs to, and that name. -/
def lastName (kernel : Kernel) (self : Nat) (path : Bytes) : Except Errno (Nat × Bytes) :=
  if path.isEmpty then .error Errno.noEntry
  else if Path.tooLong ≤ path.length then .error Errno.nameTooLong
  else
    let names := Path.names path
    match names.getLast? with
    | none => .error Errno.alreadyThere
    | some name =>
      match kernel.walk self .target Path.mostLinks (kernel.startOf self path) names.dropLast with
      | .error errno => .error errno
      | .ok (.free _ _) => .error Errno.noEntry
      | .ok (.here place) =>
        if !kernel.isDirectory place then .error Errno.notDirectory
        else if Path.longestName < name.length then .error Errno.nameTooLong
        else
          match place with
          | .node directory => .ok (directory, name)
          -- Nothing can be made where the host tells of processes, and nothing removed.
          | _ => .error (if (kernel.entry? self place name).isSome then Errno.notPermitted else Errno.noEntry)

/-- The path of a node, told by the names that lead to it from the root. -/
def pathOf (kernel : Kernel) : Nat → Nat → Bytes
  | 0, _ => []
  | depth + 1, number =>
    if number = root then []
    else
      -- The directory that holds the node is looked for among all.
      let holder := kernel.nodes.entries.findSome? fun entry =>
        match entry.2.body with
        | .directory _ names =>
          (names.find? fun known => known.2 == number).map fun known => (entry.1, known.1)
        | _ => none
      match holder with
      | some (directory, name) => kernel.pathOf depth directory ++ Bytes.ascii '/' :: name
      | none => Bytes.ofString "(deleted)"

/-- How the link of a descriptor to a place reads. -/
def nameOf (kernel : Kernel) : Place → Bytes
  | .node number => if number = root then Bytes.ofString "/" else kernel.pathOf 64 number
  | .channel number => Bytes.ofString s!"pipe:[{30000 + number}]"
  | .processes => Bytes.ofString "/proc"
  | .process process => Bytes.ofString s!"/proc/{process}"
  | .descriptors process => Bytes.ofString s!"/proc/{process}/fd"
  | .descriptor process fd => Bytes.ofString s!"/proc/{process}/fd/{fd}"
  | .workplace process => Bytes.ofString s!"/proc/{process}/cwd"
  | .account process told => Bytes.ofString (s!"/proc/{process}/" ++ told.file)

end Kernel

end Umpire.Host
