import Umpire.Host.Errno
import Umpire.Options.Complaint
import Umpire.Side
import Umpire.Text.Utf8

/-! What can go wrong in a contest, from the command line to the last wait, and its wording. -/

namespace Umpire

/-- Why an input or output operation failed. -/
inductive IoFault where
  /-- The host refused. -/
  | host (errno : Errno)
  /-- A name or argument holds the zero byte. -/
  | nulByte
  /-- The process is gone and its status has been taken. -/
  | reaped
  /-- The process number cannot be given to a signal. -/
  | pidOutOfRange
  /-- A cause that is given by its wording alone. -/
  | worded (text : String)
  deriving DecidableEq, Repr

namespace IoFault

/-- The wording of the cause. -/
def message : IoFault → String
  | .host errno => errno.message
  | .nulByte => "nul byte found in provided data"
  | .reaped => "process has already been reaped"
  | .pidOutOfRange => "pid out of range"
  | .worded text => text

/-- The category that a cause is filed under. -/
def category : IoFault → String
  | .host errno => errno.category
  | .nulByte | .pidOutOfRange => "InvalidInput"
  | .reaped => "NotFound"
  | .worded _ => "Other"

end IoFault

/-- A fault that ends a contest before it has a report. -/
inductive Fault where
  /-- The option list was not taken. -/
  | usage (complaint : Options.Complaint)
  | missingSolutionDelimiter
  | missingInteractorDelimiter
  | noSolutionArgs
  | noInteractorArgs
  /-- The host refused a request on a descriptor. -/
  | os (context : String) (errno : Errno)
  /-- A side could not be started. -/
  | launch (side : Side) (cause : IoFault)
  /-- A side's status could not be taken. -/
  | wait (side : Side) (cause : IoFault)
  /-- A side's signalling pipe could not be watched. -/
  | watch (side : Side) (cause : IoFault)
  /-- Another input or output operation failed. -/
  | io (cause : IoFault)
  /-- A redirect path holds the zero byte. -/
  | nulInPath (path : Bytes)
  /-- A cause that is given by its wording, with the wordings it was wrapped in, the innermost first. -/
  | worded (root : String) (contexts : List String)
  deriving DecidableEq, Repr

namespace Fault

/-- The class of the fault. -/
def kind : Fault → String
  | .usage _ => "Usage"
  | .missingSolutionDelimiter => "MissingSolutionDelimiter"
  | .missingInteractorDelimiter => "MissingInteractorDelimiter"
  | .noSolutionArgs => "NoSolutionArgs"
  | .noInteractorArgs => "NoInteractorArgs"
  | .os _ _ => "Os"
  | .launch _ _ => "Launch"
  | .wait _ _ => "Wait"
  | .watch _ _ => "Watch"
  | .io _ => "IoError"
  | .nulInPath _ | .worded _ _ => "Other"

/-- The wording of the fault. -/
def message : Fault → String
  | .usage complaint => String.ofList complaint.summary
  | .missingSolutionDelimiter => "Missing '--' delimiter for solution arguments"
  | .missingInteractorDelimiter => "Missing '=' delimiter for interactor arguments"
  | .noSolutionArgs => "No solution arguments provided"
  | .noInteractorArgs => "No interactor arguments provided"
  | .os context errno => context ++ ": " ++ errno.label
  | .launch side cause => "failed to launch " ++ side.name ++ ": " ++ cause.message
  | .wait side cause => "failed to wait for " ++ side.name ++ ": " ++ cause.message
  | .watch side cause => "failed to watch " ++ side.name ++ " signalling pipe: " ++ cause.message
  | .io cause => "IO error: " ++ cause.message
  | .nulInPath path => "redirect path contains a NUL byte: " ++ Utf8.lossyString path
  | .worded root contexts => contexts.getLast?.getD root

/-- The wording of the cause beneath the fault, if it has one. -/
def cause? : Fault → Option String
  | .os _ errno => some errno.label
  | .launch _ cause | .wait _ cause | .watch _ cause | .io cause => some cause.message
  | .worded root contexts =>
    match contexts.reverse with
    | [] => none
    | [_] => some root
    | _ :: inner :: _ => some inner
  | _ => none

/-- Whether the fault is a request to be shown a text, which ends the program well. -/
def isRequest : Fault → Bool
  | .usage complaint => complaint.isRequest
  | _ => false

end Fault

end Umpire
