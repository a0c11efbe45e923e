import Umpire.Bout.Launch
import Umpire.Proofs.Dialogue

/-! The phases of a launch: the region is entered, the order is given, the region is left, and what was handed on is
closed. What a launch comes to under some rules is told by what each phase comes to, so that the way through it is gone
once and for all rules. -/

namespace Umpire.Bout

variable {σ : Type}

/-- What holds at the turns of a launch under some rules, and that each phase leads from one to the next. -/
structure Phases (rules : Rules Act.vocabulary σ) (side : Side) (contestant : Contestant) (privateEnd : Nat)
    (ends : Ends) (before : σ) (good : Except Fault Handle → σ → Prop) where
  /-- It has been told that the side is being started. -/
  told : σ → Prop
  /-- The private end is inherited. -/
  entered : List Host.Redirect → σ → Prop
  /-- The host has answered the order. -/
  ordered : Except IoFault Nat → σ → Prop
  /-- The region could not be left, and nobody will get a handle on the process that was started. -/
  orphaned : Fault → Nat → σ → Prop
  /-- The start is over. -/
  begun : Except Fault (Except IoFault Nat) → σ → Prop
  /-- What was handed on is closed. -/
  closed : Except Fault (Except IoFault Nat) → σ → Prop
  files : ∀ fault, contestant.redirects = .error fault → begun (.error fault) before
  tells : ∀ redirects, contestant.redirects = .ok redirects →
    (tell (.starting side contestant.program contestant.args privateEnd)).Abides rules (fun _ => told) before
  tellsFiles : ∀ streams state, told state → (tell (.redirecting side streams)).Abides rules (fun _ => told) state
  enters : ∀ redirects state, contestant.redirects = .ok redirects → told state →
    (Inheritance.enter privateEnd).Abides rules (fun
      | .ok () => entered redirects
      | .error fault => begun (.error fault)) state
  orders : ∀ redirects state, contestant.redirects = .ok redirects → entered redirects state →
    (ask (.spawn (order contestant ends redirects))).Abides rules ordered state
  leaves : ∀ started state, ordered started state →
    (Inheritance.release privateEnd).Abides rules (fun
      | .ok () => begun (.ok started)
      | .error fault =>
        match started with
        | .ok pid => orphaned fault pid
        | .error _ => begun (.error fault)) state
  kills : ∀ fault pid state, orphaned fault pid state →
    (ask (.signal pid Host.Signal.kill)).Abides rules (fun _ => begun (.error fault)) state
  closes : ∀ result state, begun result state →
    (closeAll (privateEnd :: ends.toList)).Abides rules (fun _ => closed result) state
  fails : ∀ fault state, closed (.error fault) state → good (.error fault) state
  declines : ∀ cause state, closed (.ok (.error cause)) state → good (.error (.launch side cause)) state
  succeeds : ∀ pid state, closed (.ok (.ok pid)) state →
    (tell (.started side (some pid))).Abides rules (fun _ => good (.ok { side, pid })) state

namespace Phases

variable {rules : Rules Act.vocabulary σ} {side : Side} {contestant : Contestant} {privateEnd : Nat} {ends : Ends}
  {before : σ} {good : Except Fault Handle → σ → Prop}
  (phases : Phases rules side contestant privateEnd ends before good)

include phases

/-- The phases inside the region. -/
theorem startInside {redirects : List Host.Redirect} (files : contestant.redirects = .ok redirects) {state : σ}
    (told : phases.told state) :
    (startInside contestant privateEnd ends redirects).Abides rules phases.begun state := by
  refine .seq (phases.enters redirects state files told) fun result inside entered => ?_
  cases result with
  -- A region that could not be entered ends the start.
  | error fault => exact entered
  | ok done =>
    refine .seq (phases.orders redirects inside files entered) fun started after ordered => ?_
    refine .seq (phases.leaves started after ordered) fun result last left => ?_
    -- Only where the region was not left does it matter whether there is a process.
    cases result with
    | ok done => exact left
    | error fault =>
      cases started with
      | error cause => exact left
      | ok pid => exact .seq (phases.kills fault pid last left) fun _ _ killed => killed

/-- The phases up to the end of the start. -/
theorem start : (start side contestant privateEnd ends).Abides rules phases.begun before := by
  rw [Bout.start]
  -- What cannot be redirected is a fault before anything is told or done.
  split
  · rename_i fault dirty
    exact phases.files fault dirty
  · rename_i redirects files
    refine .seq (phases.tells redirects files) fun _ middle told => ?_
    dsimp only
    split
    · exact phases.startInside files told
    · exact .seq (phases.tellsFiles _ middle told) fun _ last told => phases.startInside files told

/-- All phases of a launch, whatever has become of the start. -/
theorem launch : (launch side contestant privateEnd ends).Abides rules good before := by
  -- Whatever the start has come to, what was handed on is closed next.
  refine .seq phases.start fun result middle begun => ?_
  refine .seq (phases.closes result middle begun) fun _ last closed => ?_
  match result with
  | .error fault => exact phases.fails fault last closed
  | .ok (.error cause) => exact phases.declines cause last closed
  | .ok (.ok pid) => exact .seq (phases.succeeds pid last closed) fun _ _ held => held

end Phases

end Umpire.Bout
