import Umpire.Host.Files

/-! Calls on open files: opening them, making pipes, reading and writing. -/

namespace Umpire.Host

/-- What comes of a call for now. -/
inductive Reply (α : Type) where
  /-- It is answered. -/
  | answer (value : α) (kernel : Kernel)
  /-- It has to be made again later. -/
  | later (kernel : Kernel)

namespace Kernel

/-- Change what a process has open. -/
def setTable (kernel : Kernel) (self : Nat) (table : Table) : Kernel :=
  kernel.update self fun process => { process with table }

/-- Change one pipe. -/
def updateChannel (kernel : Kernel) (channel : Nat) (change : Channel → Channel) : Kernel :=
  { kernel with channels := kernel.channels.modify channel change }

/-- Let a process have a new open file under the lowest free number. -/
def grant (kernel : Kernel) (self : Nat) (file : OpenFile) (closeOnExec : Bool) :
    Except Errno (Nat × Kernel) :=
  match kernel.process? self with
  | none => .error Errno.noProcess
  | some process =>
    -- The open file is only kept if there is a number for it.
    let (number, opens) := kernel.opens.add file
    match process.table.insert 0 ⟨number, closeOnExec⟩ with
    | .error errno => .error errno
    | .ok (fd, table) => .ok (fd, { kernel with opens := opens }.setTable self table)

/-- Make a pipe whose two ends go away when the process runs another program. -/
def makePipe (kernel : Kernel) (self : Nat) : Except Errno ((Nat × Nat) × Kernel) :=
  let (channel, channels) := kernel.channels.add { readerOpens := 1, writerOpens := 1 }
  let piped : Kernel := { kernel with channels := channels }
  match piped.grant self ⟨.channel channel, Access.reading, 0⟩ true with
  | .error errno => .error errno
  -- The read end comes first, and so has the lower number.
  | .ok (readEnd, reading) =>
    match reading.grant self ⟨.channel channel, { writes := true }, 0⟩ true with
    | .error errno => .error errno
    | .ok (writeEnd, both) => .ok ((readEnd, writeEnd), both)

/-- Whether a process has a free number for one more descriptor. -/
def hasRoom (kernel : Kernel) (self : Nat) : Bool :=
  match kernel.process? self with
  | some process => process.table.lowestFree 0 < process.table.limit
  | none => false

/-- Answer an opening with the new descriptor. -/
def opened (kernel : Kernel) (self : Nat) (place : Place) (access : Access) (closeOnExec : Bool) :
    Reply (Except Errno Nat) :=
  match kernel.grant self ⟨place, access, 0⟩ closeOnExec with
  | .error errno => .answer (.error errno) kernel
  | .ok (fd, grown) => .answer (.ok fd) grown

/-- How often the other end of a pipe has been opened. -/
def partnerOpens (kernel : Kernel) (channel : Nat) (access : Access) : Nat :=
  match kernel.channels.get? channel with
  | some known => if access.reads then known.writerOpens else known.readerOpens
  | none => 0

/-- Whether opening an end of a pipe has to wait: both ends at once never do, one end does unless
the other is held. -/
def mustWait (kernel : Kernel) (channel : Nat) (access : Access) : Bool :=
  match access.reads, access.writes with
  | true, false => !kernel.hasWriter channel
  | false, true => !kernel.hasReader channel
  | _, _ => false

/-- Open an end of a pipe. A process that has to wait counts as one that has opened its end, and
goes on once the other end has been opened, even if it has been closed again since. -/
def openChannel (kernel : Kernel) (self channel : Nat) (place : Place) (access : Access)
    (closeOnExec : Bool) : Reply (Except Errno Nat) :=
  match (kernel.process? self).bind (·.opening) with
  | some opening =>
    -- Openings are counted, so that one that was closed again in between still counts.
    if kernel.partnerOpens channel access = opening.seen then .later kernel
    else
      let ready := kernel.update self fun process => { process with opening := none }
      ready.opened self place access closeOnExec
  | none =>
    let counted := kernel.updateChannel channel fun known =>
      { known with
        readerOpens := known.readerOpens + (if access.reads then 1 else 0)
        writerOpens := known.writerOpens + (if access.writes then 1 else 0) }
    if kernel.mustWait channel access then
      .later (counted.update self fun process =>
        { process with opening := some ⟨channel, access, kernel.partnerOpens channel access⟩ })
    else counted.opened self place access closeOnExec

/-- Open what a place holds. -/
def openPlace (kernel : Kernel) (self : Nat) (place : Place) (access : Access) (closeOnExec : Bool) :
    Reply (Except Errno Nat) :=
  match place, kernel.channelOf place with
  -- An end of a pipe without a name is there already: nobody has to be waited for.
  | .channel _, _ => kernel.opened self place access closeOnExec
  | _, some channel => kernel.openChannel self channel place access closeOnExec
  | _, none =>
    if kernel.isDirectory place && (access.writes || access.create) then
      .answer (.error Errno.isDirectory) kernel
    else
      match place with
      | .node number =>
        let emptied (node : Node) : Node :=
          match node.body with
          | .file _ => { node with body := .file [] }
          | _ => node
        -- Only files are emptied; devices and programs stay as they are.
        let ready : Kernel := if access.truncate then
            { kernel with nodes := kernel.nodes.modify number emptied }
          else kernel
        ready.opened self place access closeOnExec
      | _ => kernel.opened self place access closeOnExec

/-- Open the file at a path. A process without a free number is refused before its path is looked
at. -/
def openPath (kernel : Kernel) (self : Nat) (path : Bytes) (access : Access) (closeOnExec : Bool) :
    Reply (Except Errno Nat) :=
  let refuse (errno : Errno) : Reply (Except Errno Nat) := .answer (.error errno) kernel
  if path.isEmpty then refuse Errno.noEntry
  else if Path.tooLong ≤ path.length then refuse Errno.nameTooLong
  -- The bound is checked before anything that the path leads to.
  else if !kernel.hasRoom self then refuse Errno.tooManyOpen
  else
    match kernel.locate self path (if access.create then .creation else .target) with
    | .error errno => refuse errno
    | .ok (.here place) => kernel.openPlace self place access closeOnExec
    | .ok (.free directory name) =>
      if access.create then
        -- A file that is made has the bits that the process's mask leaves.
        let (number, grown) := kernel.plant directory name (.file []) (kernel.masked self 0o666)
        grown.opened self (.node number) access closeOnExec
      else refuse Errno.noEntry

/-- Bytes with others written over them from an offset on; a gap before it is filled with zeros. -/
def overwritten (data : Bytes) (offset : Nat) (added : Bytes) : Bytes :=
  data.take offset ++ List.replicate (offset - data.length) 0 ++ added ++
    data.drop (offset + added.length)

/-- Move on in an open file. -/
def advance (kernel : Kernel) (number offset : Nat) : Kernel :=
  { kernel with opens := kernel.opens.modify number fun file => { file with offset } }

/-- Read from a pipe: what is there, nothing if no writer is left, and else later. -/
def readChannel (kernel : Kernel) (channel count : Nat) : Reply (Except Errno Bytes) :=
  match kernel.channels.get? channel with
  | none => .answer (.ok []) kernel
  | some known =>
    if known.contents.isEmpty then
      if kernel.hasWriter channel then .later kernel else .answer (.ok []) kernel
    else
      .answer (.ok (known.contents.take count)) (kernel.updateChannel channel fun held =>
        { held with contents := held.contents.drop count })

/-- Read from an open file. -/
def readFile (kernel : Kernel) (self number : Nat) (file : OpenFile) (count : Nat) :
    Reply (Except Errno Bytes) :=
  let part (data : Bytes) : Reply (Except Errno Bytes) :=
    let taken := (data.drop file.offset).take count
    .answer (.ok taken) (kernel.advance number (file.offset + taken.length))
  match kernel.channelOf file.place with
  | some channel => kernel.readChannel channel count
  | none =>
    match file.place with
    | .node node =>
      match kernel.nodes.get? node with
      | some ⟨.file data, _⟩ => part data
      | some ⟨.directory _ _, _⟩ => .answer (.error Errno.isDirectory) kernel
      -- One device has nothing to read, and the other no end of zeros.
      | some ⟨.device .null, _⟩ => .answer (.ok []) kernel
      | some ⟨.device _, _⟩ => .answer (.ok (List.replicate count 0)) kernel
      | _ => part []
    | .account process told => part (kernel.accountText self process told)
    | _ => .answer (.error Errno.isDirectory) kernel

/-- Read at most so many bytes from a descriptor. -/
def read (kernel : Kernel) (self fd count : Nat) : Reply (Except Errno Bytes) :=
  match kernel.openFile? self fd with
  | none => .answer (.error Errno.badDescriptor) kernel
  | some (number, file) =>
    if !file.access.reads then .answer (.error Errno.badDescriptor) kernel
    else if count = 0 && !kernel.isDirectory file.place then .answer (.ok []) kernel
    else kernel.readFile self number file count

/-- Go back in an open file by so many bytes. -/
def goBack (kernel : Kernel) (self fd count : Nat) : Except Errno Kernel :=
  match kernel.openFile? self fd with
  | none => .error Errno.badDescriptor
  | some (number, file) =>
    match kernel.channelOf file.place with
    | some _ => .error Errno.noSeek
    | none => .ok (kernel.advance number (file.offset - count))

/-- Write to a pipe: short writes whole or later, long ones as far as there is room. A write that
nobody can read is answered with a signal as well. -/
def writeChannel (kernel : Kernel) (self channel : Nat) (data : Bytes) : Reply (Except Errno Nat) :=
  if !kernel.hasReader channel then
    .answer (.error Errno.brokenPipe) (kernel.update self fun process =>
      { process with pending := process.pending ++ [Signal.pipe] })
  else
    match kernel.channels.get? channel with
    | none => .answer (.error Errno.brokenPipe) kernel
    | some known =>
      let room := Channel.capacity - known.contents.length
      -- Short writes stay in one piece: they wait until there is room for all of it.
      if room = 0 || (data.length ≤ Channel.whole && room < data.length) then .later kernel
      else
        let taken := data.take room
        .answer (.ok taken.length) (kernel.updateChannel channel fun held =>
          { held with contents := held.contents ++ taken })

/-- Write to an open file. -/
def writeFile (kernel : Kernel) (self number : Nat) (file : OpenFile) (data : Bytes) :
    Reply (Except Errno Nat) :=
  match kernel.channelOf file.place with
  | some channel => kernel.writeChannel self channel data
  | none =>
    match file.place with
    | .node node =>
      match kernel.nodes.get? node with
      | some ⟨.file old, mode⟩ =>
        -- An appending file is written at its end, wherever others have moved it.
        let offset := if file.access.append then old.length else file.offset
        let written : Kernel := { kernel with
          nodes := kernel.nodes.modify node fun _ => ⟨.file (overwritten old offset data), mode⟩ }
        .answer (.ok data.length) (written.advance number (offset + data.length))
      | some ⟨.device .full, _⟩ => .answer (.error Errno.noSpace) kernel
      | _ => .answer (.ok data.length) kernel
    | _ => .answer (.error Errno.invalid) kernel

/-- Write bytes to a descriptor. -/
def write (kernel : Kernel) (self fd : Nat) (data : Bytes) : Reply (Except Errno Nat) :=
  match kernel.openFile? self fd with
  | none => .answer (.error Errno.badDescriptor) kernel
  | some (number, file) =>
    if !file.access.writes then .answer (.error Errno.badDescriptor) kernel
    else if data.isEmpty then .answer (.ok 0) kernel
    else kernel.writeFile self number file data

end Kernel

end Umpire.Host
