import Umpire.Host.Call

/-! Moving many bytes: writing all of some, reading to the end, copying from one end to another. -/

namespace Umpire.Host

/-- How many calls signals may break off before writing is given up. -/
def patience : Nat := 64

/-- Write bytes in as many calls as it takes, up to a bound; a signal does not break it off. -/
def writeSome : Nat → Nat → Bytes → Talk (Except Errno Unit)
  | 0, _, _ => return .ok ()
  | fuel + 1, fd, data => do
    if data.isEmpty then return .ok ()
    else
      match ← call (.write fd data) with
      -- What was not taken is tried again.
      | .ok count => writeSome fuel fd (data.drop count)
      | .error errno =>
        if errno = Errno.interrupted then writeSome fuel fd data else return .error errno

/-- Write all of some bytes. -/
def writeAll (fd : Nat) (data : Bytes) : Talk (Except Errno Unit) :=
  writeSome (2 * data.length + patience) fd data

/-- How much is read at once. -/
def chunk : Nat := 65536

/-- More pieces than are ever read. -/
def mostPieces : Nat := 1000000

/-- Read pieces up to the end and hand each of them on; a failure of either is the end. -/
def readPieces (fd : Nat) (take : Bytes → Talk (Except Errno Unit)) : Nat → Talk (Except Errno Unit)
  | 0 => return .ok ()
  | fuel + 1 => do
    match ← call (.read fd chunk) with
    | .error errno =>
      if errno = Errno.interrupted then readPieces fd take fuel else return .error errno
    -- A piece without bytes is the end.
    | .ok data =>
      if data.isEmpty then return .ok ()
      else
        match ← take data with
        | .error errno => return .error errno
        | .ok () => readPieces fd take fuel

/-- Read everything up to the end, after what has been read already, the latest piece first. -/
def readFrom (fd : Nat) : Nat → List Bytes → Talk (Except Errno Bytes)
  | 0, pieces => return .ok pieces.reverse.flatten
  | fuel + 1, pieces => do
    match ← call (.read fd chunk) with
    | .error errno =>
      if errno = Errno.interrupted then readFrom fd fuel pieces else return .error errno
    | .ok data =>
      if data.isEmpty then return .ok pieces.reverse.flatten else readFrom fd fuel (data :: pieces)

/-- Read everything up to the end. -/
def readAll (fd : Nat) : Talk (Except Errno Bytes) :=
  readFrom fd mostPieces []

/-- Read one line, its end included, byte by byte so that nothing after it is taken. -/
def readLineFrom (fd : Nat) : Nat → List UInt8 → Talk (Except Errno Bytes)
  | 0, taken => return .ok taken.reverse
  | fuel + 1, taken => do
    match ← call (.read fd 1) with
    | .error errno =>
      if errno = Errno.interrupted then readLineFrom fd fuel taken else return .error errno
    | .ok [] => return .ok taken.reverse
    | .ok (byte :: _) =>
      if byte == Bytes.ascii '\n' then return .ok (byte :: taken).reverse
      else readLineFrom fd fuel (byte :: taken)

/-- Read one line. -/
def readLine (fd : Nat) : Talk (Except Errno Bytes) :=
  readLineFrom fd mostPieces []

end Umpire.Host
