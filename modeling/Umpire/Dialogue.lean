/-! Programs as dialogues: trees of requests, each of which names the type of its answer. -/

namespace Umpire

/-- A vocabulary of requests and of the answers that each of them gets. -/
structure Signature where
  Request : Type
  Answer : Request → Type

/-- A program that ends with a value after finitely many requests, whatever it is answered. -/
inductive Dialogue (S : Signature) (α : Type) where
  | done (value : α)
  | ask (request : S.Request) (next : S.Answer request → Dialogue S α)

namespace Dialogue

variable {S T : Signature} {α β : Type}

/-- Go on with a second dialogue when the first has ended. -/
def bind : Dialogue S α → (α → Dialogue S β) → Dialogue S β
  | .done value, rest => rest value
  | .ask request next, rest => .ask request fun answer => (next answer).bind rest

instance : Monad (Dialogue S) where
  pure := .done
  bind := bind

/-- The dialogue of a single request. -/
def request (wanted : S.Request) : Dialogue S (S.Answer wanted) :=
  .ask wanted .done

/-- Have every request answered in a monad. -/
def answerWith {m : Type → Type} [Monad m] (answer : (wanted : S.Request) → m (S.Answer wanted)) :
    Dialogue S α → m α
  | .done value => pure value
  | .ask wanted next => do (next (← answer wanted)).answerWith answer

/-- Going on by ending with the same result changes nothing. -/
theorem bind_done (dialogue : Dialogue S α) : dialogue.bind .done = dialogue := by
  induction dialogue with
  | done value => rfl
  | ask wanted next ih => simp only [bind, ih]

/-- It does not matter how three dialogues in sequence are grouped. -/
theorem bind_assoc {γ : Type} (first : Dialogue S α) (second : α → Dialogue S β)
    (third : β → Dialogue S γ) :
    (first.bind second).bind third = first.bind fun value => (second value).bind third := by
  induction first with
  | done value => rfl
  | ask wanted next ih => simp only [bind, ih]

instance : LawfulMonad (Dialogue S) :=
  LawfulMonad.mk' _ (fun dialogue => bind_done dialogue) (fun _ _ => rfl) bind_assoc

end Dialogue

end Umpire
