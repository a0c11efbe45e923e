import Umpire.Text.Numeral

/-! Signals: their numbers and names, and what a process does about one. -/

namespace Umpire.Host

/-- What a process does about a signal. -/
inductive Action where
  /-- What the signal means by itself, which is mostly the end of the process. -/
  | standard
  /-- Nothing. -/
  | ignore
  /-- Remember it, for the program to ask about. -/
  | remember
  deriving DecidableEq, Repr

/-- What a signal means by itself. -/
inductive Meaning where
  | ends
  | stops
  | resumes
  | nothing
  deriving DecidableEq, Repr

namespace Signal

/-- The signal that cannot be ignored. -/
def kill : Nat := 9

/-- The signal that asks a process to end. -/
def term : Nat := 15

/-- The signal that lets a stopped process go on. -/
def resume : Nat := 18

/-- The signal for a write that nobody can read. -/
def pipe : Nat := 13

/-- The names of the signals, in the order of their numbers, from one on. -/
def names : List String :=
  ["HUP", "INT", "QUIT", "ILL", "TRAP", "ABRT", "BUS", "FPE", "KILL", "USR1", "SEGV", "USR2", "PIPE",
    "ALRM", "TERM", "STKFLT", "CHLD", "CONT", "STOP", "TSTP", "TTIN", "TTOU", "URG", "XCPU", "XFSZ",
    "VTALRM", "PROF", "WINCH", "IO", "PWR", "SYS"]

/-- The names of all signals, those included that mean nothing by themselves. -/
def allNames : List String :=
  names ++ ["32", "33", "RTMIN"] ++ (List.range 15).map (fun k => s!"RTMIN+{k + 1}") ++
    (List.range 14).map (fun k => s!"RTMAX-{14 - k}") ++ ["RTMAX"]

/-- The highest number that a signal can have. -/
def highest : Nat := 64

/-- The number of the signal that a text names, by number or by name. -/
def ofText? (chars : List Char) : Option Nat :=
  match Numeral.readNat highest chars with
  | .ok number => some number
  | .error _ =>
    let upper := chars.map Char.toUpper
    let bare := if "SIG".toList.isPrefixOf upper then upper.drop 3 else upper
    let position := allNames.idxOf (String.ofList bare)
    if position < allNames.length then some (position + 1) else none

/-- What a signal means by itself. -/
def meaning (number : Nat) : Meaning :=
  if number = 17 ∨ number = 23 ∨ number = 28 then .nothing
  else if number = 18 then .resumes
  else if number = 19 ∨ number = 20 ∨ number = 21 ∨ number = 22 then .stops
  else .ends

/-- Whether a process may choose what it does about a signal. -/
def isFree (number : Nat) : Bool :=
  number != 9 && number != 19

end Signal

end Umpire.Host
