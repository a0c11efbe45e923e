import Umpire.Fault
import Umpire.Host.Order
import Umpire.Journal.Verbosity
import Umpire.Text.Quoted

/-! Journal entries: what is told of a contest while it runs, and how a line of the journal looks. -/

namespace Umpire

/-- Something worth telling about a contest. -/
inductive Entry where
  /-- A side's signalling pipe exists. -/
  | pipeCreated (side : Side) (readEnd writeEnd : Nat)
  /-- The read end of a side's signalling pipe is watched. -/
  | watching (side : Side) (fd : Nat)
  /-- A named pipe is held open until both sides run. -/
  | fifoHeld (path : Bytes)
  /-- A side is about to be started. -/
  | starting (side : Side) (program : Bytes) (args : List Bytes) (fd : Nat)
  /-- A side's streams are about to be redirected to files. -/
  | redirecting (side : Side) (streams : List Stream)
  /-- A side runs; its process number is absent if it has been reaped already. -/
  | started (side : Side) (pid : Option Nat)
  /-- Both sides run. -/
  | bothRunning
  /-- The other side had hung up as well when the winner was found. -/
  | bothHungUp (winner : Side)
  /-- A side has finished first. -/
  | finishedFirst (winner : Side)
  /-- A side's status is known. -/
  | ended (side : Side) (status : Nat)
  /-- A side is not signalled since it has ended. -/
  | notSignalling (side : Side)
  /-- A side has been asked to end. -/
  | signalled (side : Side)
  /-- A side could not be asked to end. -/
  | signalFailed (side : Side) (cause : IoFault)
  /-- A process is about to be asked to end. -/
  | signalling (side : Side) (pid : Nat)
  /-- A descriptor could not be made private again. -/
  | restoreFailed (fd : Nat) (fault : Fault)
  deriving DecidableEq, Repr

namespace Entry

/-- The importance of an entry. -/
def level : Entry → Level
  | .pipeCreated .. | .watching .. | .signalling .. => .trace
  | .fifoHeld _ | .redirecting .. | .started .. | .bothRunning | .bothHungUp _ | .notSignalling _
  | .signalled _ => .debug
  | .starting .. | .finishedFirst _ | .ended .. => .info
  | .signalFailed .. | .restoreFailed .. => .warn

/-- The sentence of an entry. -/
def message : Entry → String
  | .pipeCreated .. => "created signalling pipe"
  | .watching .. => "watching signalling pipe for hang-up"
  | .fifoHeld _ => "holding FIFO open during launch"
  | .starting side .. => "starting " ++ side.name ++ " process"
  | .redirecting .. => "redirecting standard streams to files"
  | .started side _ => side.name ++ " process started"
  | .bothRunning => "both sides running; waiting for the first hang-up"
  | .bothHungUp _ => "both sides had hung up when the race was decided; lowest tag wins"
  | .finishedFirst winner => "first tag: " ++ toString winner.tag.toNat
  | .ended side status => side.name ++ " status: " ++ toString status
  | .notSignalling side => side.name ++ " already terminated; not signalling"
  | .signalled side => "sent SIGTERM to " ++ side.name
  | .signalFailed side cause => "term " ++ side.name ++ " failed: " ++ cause.message
  | .signalling .. => "sending SIGTERM"
  | .restoreFailed .. => "failed to restore close-on-exec"

/-- The part of the program that an entry comes from. -/
def topic : Entry → String
  | .pipeCreated .. | .restoreFailed .. => "pipe::exec::signal_pipe"
  | .watching .. | .bothHungUp _ => "pipe::engine::race"
  | .fifoHeld _ => "pipe::exec::stdio"
  | .starting .. | .redirecting .. | .started .. => "pipe::exec::launcher"
  | .bothRunning | .finishedFirst _ => "pipe"
  | .ended .. | .notSignalling _ | .signalled _ | .signalFailed .. => "pipe::engine::status"
  | .signalling .. => "pipe::exec::backend"

/-- Items between square brackets, separated by commas. -/
def bracketed (items : List (List Char)) : List Char :=
  '[' :: [',', ' '].intercalate items ++ [']']

/-- The named values of an entry. -/
def fields : Entry → List (String × List Char)
  | .pipeCreated side readEnd writeEnd =>
    [("side", side.name.toList), ("read_fd", Numeral.ofNat readEnd),
      ("write_fd", Numeral.ofNat writeEnd)]
  | .watching side fd => [("side", side.name.toList), ("fd", Numeral.ofNat fd)]
  | .fifoHeld path => [("path", Utf8.lossy path)]
  | .starting side program args fd =>
    [("side", side.name.toList), ("program", Text.quotedBytes program),
      ("args", bracketed (args.map Text.quotedBytes)), ("fd", Numeral.ofNat fd)]
  | .redirecting side streams =>
    [("side", side.name.toList),
      ("streams", bracketed (streams.map fun stream => stream.label.toList))]
  | .started side pid =>
    [("side", side.name.toList),
      ("pid", match pid with
        | some number => "Some(".toList ++ Numeral.ofNat number ++ [')']
        | none => "None".toList)]
  | .bothRunning => []
  | .bothHungUp winner =>
    [("winner", winner.name.toList), ("loser", winner.other.name.toList)]
  | .finishedFirst winner => [("tag", Numeral.ofNat winner.tag.toNat)]
  | .ended side status => [("side", side.name.toList), ("status", Numeral.ofNat status)]
  | .notSignalling side | .signalled side => [("side", side.name.toList)]
  | .signalFailed side cause => [("side", side.name.toList), ("error", cause.message.toList)]
  | .signalling side pid => [("side", side.name.toList), ("pid", Numeral.ofNat pid)]
  | .restoreFailed fd fault => [("fd", Numeral.ofNat fd), ("error", fault.message.toList)]

/-- A number with zeros before it up to a given width. -/
def padded (width n : Nat) : List Char :=
  let digits := Numeral.ofNat n
  List.replicate (width - digits.length) '0' ++ digits

/-- A time of the host's first day, which counts in millionths of a second. -/
def timestamp (micros : Nat) : List Char :=
  let seconds := micros / 1000000
  "1970-01-01T".toList ++ padded 2 (seconds / 3600 % 24) ++ [':'] ++ padded 2 (seconds / 60 % 60) ++
    [':'] ++ padded 2 (seconds % 60) ++ ['.'] ++ padded 6 (micros % 1000000) ++ ['Z']

/-- The level and the sentence, the short form of an entry. -/
def short (entry : Entry) : String :=
  entry.level.label ++ " " ++ entry.message

/-- An entry as a line of the journal: time, level, topic, sentence and named values. -/
def line (entry : Entry) (micros : Nat) : List Char :=
  let label := entry.level.label.toList
  let values := entry.fields.flatMap fun field => ' ' :: field.1.toList ++ '=' :: field.2
  timestamp micros ++ [' '] ++ List.replicate (5 - label.length) ' ' ++ label ++ [' '] ++
    entry.topic.toList ++ [':', ' '] ++ entry.message.toList ++ values ++ ['\n']

end Entry

end Umpire
