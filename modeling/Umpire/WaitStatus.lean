/-! Statuses of ended processes: the host's packed form and the one that shells show. -/

namespace Umpire

/-- The packed status that the host gives for a process. -/
structure WaitStatus where
  raw : Int32
  deriving DecidableEq, Repr, Inhabited

namespace WaitStatus

/-- The status of a process that was ended by a signal. -/
def ofSignal (signal : Nat) : WaitStatus :=
  ⟨Int32.ofNat signal⟩

/-- The status of a process that ended by itself; the host keeps eight bits of its code. -/
def ofExit (code : Nat) : WaitStatus :=
  ⟨Int32.ofNat (code % 256 * 256)⟩

/-- The packed form as a natural number of 32 bits. -/
def bits (status : WaitStatus) : Nat :=
  status.raw.toUInt32.toNat

/-- The low seven bits: zero after a normal end, 127 for a process that has not ended. -/
def low (status : WaitStatus) : Nat :=
  status.bits % 128

/-- Bits 8 to 15: the exit code, or the signal that stopped the process. -/
def high (status : WaitStatus) : Nat :=
  status.bits / 256 % 256

/-- The exit code of a process that ended by itself. -/
def code? (status : WaitStatus) : Option Nat :=
  if status.low = 0 then some status.high else none

/-- The signal that ended the process. -/
def signal? (status : WaitStatus) : Option Nat :=
  if status.low ≠ 0 ∧ status.low ≠ 127 then some status.low else none

/-- The signal that stopped the process. -/
def stopSignal? (status : WaitStatus) : Option Nat :=
  if status.bits % 256 = 127 then some status.high else none

/-- The number that a shell shows: the exit code, or 128 more than the signal that ended or stopped
the process, or else zero. -/
def shell (status : WaitStatus) : Nat :=
  match status.code? with
  | some code => code
  | none =>
    -- The low bits tell at most one of the three.
    match status.signal? with
    | some signal => 128 + signal
    | none =>
      match status.stopSignal? with
      | some signal => 128 + signal
      | none => 0

end WaitStatus

end Umpire
