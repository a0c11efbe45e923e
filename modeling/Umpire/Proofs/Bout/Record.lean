import Umpire.Bout.Run
import Umpire.Proofs.Bout.Wiring
import Umpire.Proofs.Host.Obedience

/-! The record of a bout: what the umpire has made and started so far, kept from its acts and the answers
to them, and the rules by which its next act is judged. -/

namespace Umpire.Bout

open Host (Charge Effect Info Slot Table)

/-- A signalling pipe with the open files of its two ends. -/
structure Beacon where
  pipe : SignalPipe
  reading : Nat
  writing : Nat
  deriving DecidableEq, Repr

/-- An order that the umpire has given, and the side that it was given for. -/
structure Commission where
  side : Option Side
  charge : Charge

namespace Wiring

/-- Which of the ends of the wiring's pipes, counted as they are made, becomes a side's stream. -/
def place (contest : Contest) (side : Side) : Stream → Option Nat
  | .stdin => (line contest side.other).map fun made => 2 * made
  | .stdout => (line contest side).map fun made => 2 * made + 1
  | .stderr => none

/-- Lines that are one and the same pipe are one side's. -/
theorem line_inj {contest : Contest} {one other : Side} {made : Nat} (first : line contest one = some made)
    (second : line contest other = some made) : one = other := by
  -- A line in both directions would be both sides' at once.
  cases one <;> cases other
  · rfl
  · exact absurd second (line_ne first)
  · exact absurd first (line_ne second)
  · rfl

/-- An end becomes a stream of one side only. -/
theorem place_inj {contest : Contest} {one other : Side} {stream stream' : Stream} {number : Nat}
    (first : place contest one stream = some number) (second : place contest other stream' = some number) :
    one = other := by
  -- What is read from has an even number, and what is written to an odd one.
  cases stream <;> cases stream' <;>
    simp only [place, Option.map_eq_some_iff, reduceCtorEq] at first second
  all_goals obtain ⟨made, known, even⟩ := first
  all_goals obtain ⟨made', known', odd⟩ := second
  · obtain rfl : made = made' := by omega
    have same := congrArg Side.other (line_inj known known')
    simpa using same
  · omega
  · omega
  · obtain rfl : made = made' := by omega
    exact line_inj known known'

end Wiring

/-- What is on record of a bout. -/
structure Record where
  /-- The sides' signalling pipes, once they have been told of. -/
  beacons : PerSide (Option Beacon) := ⟨none, none⟩
  /-- The open files that the umpire has made. -/
  made : List Nat := []
  /-- What the umpire was told that paths lead to. -/
  probed : List (Bytes × Except Errno Info) := []
  /-- The open files that were opened at a path, each with its path. -/
  anchors : List (Bytes × Nat) := []
  /-- The side that was last told to be started. -/
  starting : Option Side := none
  /-- The orders that were answered, each with the process that was started if one was. -/
  spent : List (Commission × Option Nat) := []
  /-- The processes of the sides that were told to be started. -/
  started : PerSide (Option Nat) := ⟨none, none⟩
  /-- Whether both sides were told to run. -/
  running : Bool := false

/-- Whether what is told of a path is that it leads to a named pipe. -/
def TellsFifo : Except Errno Info → Prop
  | .ok info => info.kind = .fifo
  | .error _ => False

namespace Record

/-- The open files that were opened at a path. -/
def anchored (record : Record) : List Nat :=
  record.anchors.map Prod.snd

/-- The open files under some numbers. -/
def filesUnder (table : Table) (fds : List Nat) : List Nat :=
  fds.filterMap fun fd => (table.get? fd).map Slot.file

/-- The signalling pipe of two descriptors. -/
def beacon? (table : Table) (readEnd writeEnd : Nat) : Option Beacon :=
  match table.get? readEnd, table.get? writeEnd with
  | some reading, some writing => some ⟨⟨readEnd, writeEnd⟩, reading.file, writing.file⟩
  | _, _ => none

/-- The record after an act was answered, with what the umpire has open then. -/
def after (record : Record) (table : Table) : (act : Act) → act.Answer → Record
  | .call .pipe, .ok (readEnd, writeEnd) =>
    { record with made := record.made ++ filesUnder table [readEnd, writeEnd] }
  -- Only what a path leads to counts, not what a link in its place is.
  | .call (.info path follow), told =>
    { record with probed := record.probed ++ if follow then [(path, told)] else [] }
  | .call (.openFile path ..), .ok fd =>
    { record with
      made := record.made ++ filesUnder table [fd]
      anchors := record.anchors ++ (filesUnder table [fd]).map (path, ·) }
  -- An order stands for the side that was told of last.
  | .call (.spawn order), started =>
    { record with spent := record.spent ++ [(⟨record.starting, ⟨order, table⟩⟩, started.toOption)] }
  | .note (.pipeCreated side readEnd writeEnd), _ =>
    { record with beacons := record.beacons.set side (beacon? table readEnd writeEnd) }
  | .note (.starting side ..), _ => { record with starting := some side }
  | .note (.started side pid), _ => { record with started := record.started.set side pid }
  | .note .bothRunning, _ => { record with running := true }
  | _, _ => record

/-- The open file that is to become a side's stream: an end of one of the wiring's pipes, which are made
after both signalling pipes. -/
def wire (contest : Contest) (record : Record) (side : Side) (stream : Stream) : Option Nat :=
  (Wiring.place contest side stream).bind fun number => (record.made.drop 4)[number]?

/-- An open file becomes a stream of one side only. -/
theorem wire_inj {contest : Contest} {record : Record} (distinct : record.made.Nodup) {one other : Side}
    {stream stream' : Stream} {file : Nat} (first : record.wire contest one stream = some file)
    (second : record.wire contest other stream' = some file) : one = other := by
  obtain ⟨number, placed, found⟩ := Option.bind_eq_some_iff.mp first
  obtain ⟨number', placed', found'⟩ := Option.bind_eq_some_iff.mp second
  obtain ⟨bound, -⟩ := List.getElem?_eq_some_iff.mp found
  -- The same file among those made is made at the same place.
  obtain rfl : number = number' :=
    (List.getElem?_inj bound (distinct.sublist (List.drop_sublist 4 record.made))).mp (found.trans found'.symm)
  exact Wiring.place_inj placed placed'

/-- Whether both sides have been started. -/
def BothStarted (record : Record) : Prop :=
  ∀ side, (record.started.get side).isSome

end Record

/-- What the umpire has open, a bound on the numbers of open files so far, and what is on record. -/
structure Ledger where
  table : Table
  next : Nat
  record : Record

namespace Ledger

/-- A descriptor is of the umpire's making. -/
def Made (ledger : Ledger) (fd : Nat) (slot : Slot) : Prop :=
  ledger.table.get? fd = some slot ∧ slot.file ∈ ledger.record.made

/-- No descriptor of the umpire's making is kept by new programs. -/
def Private (ledger : Ledger) : Prop :=
  ∀ fd slot, ledger.Made fd slot → slot.closeOnExec = true

/-- The write end of the signalling pipe of the side that is being started is kept by new programs, if
any descriptor of the umpire's making is. -/
def Exposes (ledger : Ledger) (side : Side) (beacon : Beacon) : Prop :=
  ledger.record.starting = some side ∧ ledger.record.beacons.get side = some beacon ∧
    ∀ fd slot, ledger.Made fd slot → slot.closeOnExec = false →
      fd = beacon.pipe.writeEnd ∧ slot.file = beacon.writing

/-- Once both sides have been started, the umpire has the read ends of the signalling pipes only, and
until both are told to run what it has opened at paths; nothing is left of what was handed on. -/
def Settled (ledger : Ledger) : Prop :=
  ledger.record.BothStarted → ∀ fd slot, ledger.Made fd slot →
    ((∃ side beacon, ledger.record.beacons.get side = some beacon ∧ fd = beacon.pipe.readEnd ∧
      slot.file = beacon.reading) ∨
      ledger.record.running = false ∧ slot.file ∈ ledger.record.anchored) ∧
    ∀ spent ∈ ledger.record.spent, ¬ spent.1.charge.Hands slot.file

/-- How the umpire orders a side to be started: with the number of the write end of the side's own
signalling pipe in place of the placeholders, that end and no other kept by new programs, the side's own
ends of the wiring as its streams, the side's own files, and nothing in hand that was handed on before. Each
path that both sides open was found to lead to no named pipe, or is held, and what is held becomes no side's. -/
structure Orders (contest : Contest) (ledger : Ledger) (order : Host.Order) (side : Side) (beacon : Beacon) :
    Prop where
  exposes : ledger.Exposes side beacon
  kept : ledger.table.get? beacon.pipe.writeEnd = some ⟨beacon.writing, false⟩
  made : beacon.writing ∈ ledger.record.made
  own : ∀ other, ledger.record.beacons.get side.other = some other → other.writing ≠ beacon.writing
  beyond_streams : 2 < beacon.pipe.writeEnd
  in_range : beacon.pipe.writeEnd < 2147483648
  words : order.words = ((contest.contestant side).bind (Int32.ofNat beacon.pipe.writeEnd)).words
  wired : ∀ choice ∈ order.given, ∃ slot, ledger.table.get? choice.1 = some slot ∧
    ledger.record.wire contest side choice.2 = some slot.file
  gives : ∀ stream file, ledger.record.wire contest side stream = some file →
    ∃ fd slot, (fd, stream) ∈ order.given ∧ ledger.table.get? fd = some slot ∧ slot.file = file
  distinct : ledger.record.made.Nodup
  signals : ∀ which told, ledger.record.beacons.get which = some told →
    told.reading ∈ ledger.record.made.take 4 ∧ told.writing ∈ ledger.record.made.take 4
  once : ∀ spent ∈ ledger.record.spent, spent.1.side ≠ some side
  apart : ∀ spent ∈ ledger.record.spent, ∀ fd slot, ledger.Made fd slot → ¬ spent.1.charge.Hands slot.file
  redirects : (contest.contestant side).redirects = .ok order.redirects
  moored : ∀ path ∈ Anchors.paths contest, (∃ told, (path, told) ∈ ledger.record.probed ∧ ¬ TellsFifo told) ∨
    ∃ fd slot, ledger.table.get? fd = some slot ∧ (path, slot.file) ∈ ledger.record.anchors
  unmeant : ∀ file ∈ ledger.record.anchored, file ∉ ledger.record.made.take 4 ∧
    ∀ which stream, ledger.record.wire contest which stream ≠ some file

/-- Whether an act is one that the umpire may do next. -/
def Allows (contest : Contest) (ledger : Ledger) : Act → Prop
  | .call (.spawn order) => ∃ side beacon, ledger.Orders contest order side beacon
  -- Around a start one write end may be inherited, and the umpire may look at it and end that.
  | .call (.closeOnExec _) | .call (.setCloseOnExec _ true) =>
    ∃ side beacon, ledger.Exposes side beacon
  -- Everything is made before the first order.
  | .call .pipe => ledger.Private ∧ ledger.record.spent = []
  | .call (.openFile _ access _) => ledger.Private ∧ ledger.record.spent = [] ∧ access = Host.Access.both
  | .call (.setCloseOnExec _ false) | .call (.close _) | .call (.info ..) | .call (.watch _)
  | .call (.hangUp ..) | .call (.reap ..) | .call (.signal ..) => ledger.Private
  | .note (.pipeCreated ..) => ledger.Private ∧ ledger.record.spent = []
  | .note (.started side pid) =>
    ledger.Private ∧ ∃ spent ∈ ledger.record.spent, spent.1.side = some side ∧ spent.2 = pid ∧ pid.isSome
  | .note .bothRunning => ledger.Private ∧ ledger.record.BothStarted
  | .note _ => ledger.Private
  | .call _ => False

end Ledger

/-- The rules of a bout: what the umpire may do, and where the answers lead. -/
def rules (contest : Contest) : Rules Act.vocabulary Ledger where
  may ledger act := ledger.Settled ∧ ledger.Allows contest act
  leads
    | before, .call wanted, answer, after =>
      -- Others may have opened files in the meantime.
      (∃ now, before.next ≤ now ∧ Effect now before.table wanted answer after.next after.table) ∧
        after.record = before.record.after after.table (.call wanted) answer
    | before, .note entry, answer, after =>
      after = { before with record := before.record.after before.table (.note entry) answer }

/-- The umpire is calm: nothing of its making is kept by new programs, and it has no more than it is to
have once both sides have been started. -/
structure Ledger.Calm (ledger : Ledger) : Prop where
  privately : ledger.Private
  settled : ledger.Settled

end Umpire.Bout
