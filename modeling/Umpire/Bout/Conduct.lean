import Umpire.Host.Call
import Umpire.Journal.Entry

/-! Conduct: what the umpire does, which is to call on its host and to tell what happens. -/

namespace Umpire.Bout

/-- One act of the umpire. -/
inductive Act where
  /-- Call on the host. -/
  | call (wanted : Host.Call)
  /-- Tell something. -/
  | note (entry : Entry)
  deriving DecidableEq, Repr

namespace Act

/-- The answer to each act. -/
abbrev Answer : Act → Type
  | .call wanted => wanted.Answer
  | .note _ => Unit

/-- The vocabulary of the umpire. -/
abbrev vocabulary : Signature :=
  ⟨Act, Answer⟩

/-- Carry out an act on the host, and gather what is told. -/
def carryOut : (act : Act) → StateT (List Entry) Host.Talk act.Answer
  | .call wanted => StateT.lift (Host.call wanted)
  | .note entry => modify (· ++ [entry])

end Act

/-- A part of what the umpire does. -/
abbrev Conduct (α : Type) := Dialogue Act.vocabulary α

/-- Call on the host. -/
abbrev ask (wanted : Host.Call) : Conduct wanted.Answer :=
  Dialogue.request (S := Act.vocabulary) (.call wanted)

/-- Tell something. -/
abbrev tell (entry : Entry) : Conduct Unit :=
  Dialogue.request (S := Act.vocabulary) (.note entry)

/-- The conduct as a talk with the host, which ends with what was told as well. -/
def Conduct.told {α : Type} (conduct : Conduct α) : Host.Talk (α × List Entry) :=
  (conduct.answerWith Act.carryOut).run []

/-- Close descriptors. -/
def closeAll : List Nat → Conduct Unit
  | [] => return ()
  | fd :: rest => do
    let _ ← ask (.close fd)
    closeAll rest

end Umpire.Bout
