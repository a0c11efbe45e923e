import Umpire.Journal.Entry
import Umpire.Race.Detector

/-! Histories of a race: what happens to the write ends of two signalling pipes, step by step, and
what polls of the race see of it. -/

namespace Umpire.Race

/-- One side's signalling pipe in a history. -/
structure Track where
  /-- How many descriptors stand for its write end. -/
  writeEnds : Nat := 1
  /-- Whether bytes have been written to it, which nobody ever reads. -/
  loaded : Bool := false
  /-- Whether its read end has been replaced by a file, which cannot be watched. -/
  isFile : Bool := false
  /-- What has happened since it was last looked at. -/
  news : Readiness := {}
  /-- What is known of it. -/
  known : Readiness := {}
  deriving DecidableEq, Repr

namespace Track

/-- What can be seen of the pipe at once when watching it starts. -/
def sight (track : Track) : Readiness :=
  ⟨track.loaded, track.writeEnds == 0⟩

/-- The pipe after bytes have been written to it. -/
def written (track : Track) : Track :=
  { track with loaded := true, news := track.news.deliver ⟨true, false⟩ }

/-- The pipe after a descriptor of its write end has been closed; the last one is a hang-up. -/
def closed (track : Track) : Track :=
  let left := { track with writeEnds := track.writeEnds - 1 }
  { left with news := left.news.deliver ⟨false, left.writeEnds == 0⟩ }

/-- The pipe with one more descriptor for its write end. -/
def duplicated (track : Track) : Track :=
  { track with writeEnds := track.writeEnds + 1 }

/-- The pipe after its news has been delivered. -/
def delivered (track : Track) : Track :=
  { track with known := track.known.deliver track.news, news := {} }

end Track

/-- One step of a history. -/
inductive Step where
  /-- Start to watch both read ends. -/
  | detect
  /-- Put a file in the place of a read end. -/
  | useFile (side : Side)
  /-- Write so many bytes. -/
  | write (side : Side) (count : Nat)
  /-- Duplicate a descriptor of a write end. -/
  | duplicate (side : Side)
  /-- Close a descriptor of a write end. -/
  | close (side : Side)
  /-- Look at everything that has happened, and poll the race. -/
  | poll
  deriving DecidableEq, Repr

/-- What comes of a step. -/
inductive Result where
  | done
  /-- So many bytes were written, or so many descriptors are left. -/
  | number (count : Nat)
  /-- The side has no descriptor for its write end any more. -/
  | closed
  /-- The bytes cannot be written. -/
  | refused (cause : IoFault)
  /-- A read end cannot be watched. -/
  | fault (fault : Fault)
  /-- Neither side has hung up. -/
  | pending
  /-- A side has finished first. -/
  | finished (winner : Side)
  deriving DecidableEq, Repr

/-- Two signalling pipes, and whether their read ends are watched. -/
structure History where
  tracks : PerSide Track := ⟨{}, {}⟩
  watched : Bool := false
  deriving DecidableEq, Repr

namespace History

/-- The history with one side's pipe changed. -/
def change (history : History) (side : Side) (change : Track → Track) : History :=
  { history with tracks := history.tracks.set side (change (history.tracks.get side)) }

/-- What is told when both pipes are made. -/
def opening : List Entry :=
  [.pipeCreated .solution 3 4, .pipeCreated .interactor 5 6]

/-- Start to watch both read ends, the solution's first. -/
def detect (history : History) : Result × List Entry × History :=
  let refusal (side : Side) : Result := .fault (.watch side (.host Errno.notPermitted))
  if history.tracks.solution.isFile then (refusal .solution, [], history)
  else if history.tracks.interactor.isFile then
    (refusal .interactor, [.watching .solution 3], history)
  else
    -- What happened before the watch started is seen at once.
    let seen (track : Track) : Track := { track with known := track.sight, news := {} }
    (.done, [.watching .solution 3, .watching .interactor 5],
      { tracks := history.tracks.map seen, watched := true })

/-- What is known of both read ends when a poll starts, all news having been delivered. -/
def ready (history : History) : PerSide Readiness :=
  (history.tracks.map Track.delivered).map (·.known)

/-- Look at everything that has happened, and poll the race. -/
def poll (history : History) : Result × List Entry × History :=
  let (verdict, left) := Race.poll history.ready
  let after (side : Side) : Track := { (history.tracks.get side).delivered with known := left.get side }
  let next := { history with tracks := PerSide.ofFn after }
  match verdict with
  | none => (.pending, [], next)
  | some ⟨winner, both⟩ => (.finished winner, if both then [.bothHungUp winner] else [], next)

/-- Do something with a side's newest write end, if it has one left. -/
def withEnd (history : History) (side : Side) (act : Track → Result × Track) :
    Result × List Entry × History :=
  let track := history.tracks.get side
  if track.writeEnds = 0 then (.closed, [], history)
  else
    let (result, next) := act track
    (result, [], history.change side fun _ => next)

/-- The result of a step, what is told in it, and the history after it. -/
def step (history : History) : Step → Result × List Entry × History
  | .detect => history.detect
  | .useFile side => (.done, [], history.change side fun track => { track with isFile := true })
  -- A descriptor that stands for a file refuses all but an empty write.
  | .write side count => history.withEnd side fun track =>
      if track.isFile && count != 0 then (.refused (.host Errno.brokenPipe), track)
      else (.number count, if count = 0 then track else track.written)
  | .duplicate side => history.withEnd side fun track =>
      (.number (track.writeEnds + 1), track.duplicated)
  | .close side => history.withEnd side fun track =>
      (.number (track.writeEnds - 1), track.closed)
  | .poll => history.poll

/-- The results of steps and what is told in each, up to the first that finds a read end which
cannot be watched. -/
def run (history : History) : List Step → List (Result × List Entry)
  | [] => []
  | first :: rest =>
    match history.step first with
    -- Without a watch there is no race to go on with.
    | (.fault fault, told, _) => [(.fault fault, told)]
    | (result, told, next) => (result, told) :: run next rest

end History

end Umpire.Race
