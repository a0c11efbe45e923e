import Umpire.Side

/-! Deciding which side hung up first: each side's read end is watched for its hang-up, and both waits are polled, the
solution's always before the other. -/

namespace Umpire.Race

/-- What has been told of a read end and not been cleared since. -/
structure Readiness where
  /-- Bytes wait to be read. -/
  payload : Bool := false
  /-- No process holds the write end any more. -/
  hungUp : Bool := false
  deriving DecidableEq, Repr

namespace Readiness

/-- Whether nothing has been told. -/
def isEmpty (ready : Readiness) : Bool :=
  !ready.payload && !ready.hungUp

/-- What is known after one more piece of news. -/
def deliver (ready news : Readiness) : Readiness :=
  ⟨ready.payload || news.payload, ready.hungUp || news.hungUp⟩

/-- What stays known after the readiness that was seen has been cleared; a hang-up is never cleared. -/
def clear (ready seen : Readiness) : Readiness :=
  ⟨ready.payload && !seen.payload, ready.hungUp⟩

end Readiness

/-- Where a wait for a hang-up stands. -/
inductive Wait where
  /-- About to ask whether anything is known. -/
  | asking
  /-- Something was known, and is about to be looked at. -/
  | holding (seen : Readiness)
  /-- What was known holds no hang-up, and is about to be cleared. -/
  | passing (seen : Readiness)
  /-- The hang-up was seen. -/
  | over
  deriving DecidableEq, Repr

namespace Wait

/-- One step of a wait; none if it has to rest until there is news, or is over. Payload is cleared
and never read, since a signalling pipe carries no data. -/
def step (ready : Readiness) : Wait → Option (Wait × Readiness)
  | .asking => if ready.isEmpty then none else some (.holding ready, ready)
  | .holding seen => some (if seen.hungUp then .over else .passing seen, ready)
  | .passing seen => some (.asking, ready.clear seen)
  | .over => none

/-- Take at most so many steps. -/
def steps : Nat → Wait → Readiness → Wait × Readiness
  | 0, wait, ready => (wait, ready)
  | n + 1, wait, ready =>
    match step ready wait with
    | none => (wait, ready)
    | some (next, left) => steps n next left

/-- Where a poll brings a wait, and what is left known: without news it sees payload at most once, so three
steps bring it to rest or to its end. -/
def polled (ready : Readiness) : Wait × Readiness :=
  steps 3 .asking ready

/-- Whether a poll finds a wait over, and what is left known. -/
def poll (ready : Readiness) : Bool × Readiness :=
  let (wait, left) := polled ready
  (wait == .over, left)

end Wait

/-- The outcome of a race, and whether the loser had hung up too when it was decided. -/
structure Verdict where
  winner : Side
  both : Bool
  deriving DecidableEq, Repr

/-- The outcome of a race that is over, given which sides have hung up: the solution comes first. -/
def Verdict.ofHangUps (hungUp : PerSide Bool) : Verdict :=
  if hungUp.solution then ⟨.solution, hungUp.interactor⟩ else ⟨.interactor, false⟩

/-- Poll the two waits. The interactor's is left alone if the solution's is over. -/
def poll (ready : PerSide Readiness) : Option Verdict × PerSide Readiness :=
  let (solutionOver, solution) := Wait.poll ready.solution
  if solutionOver then
    -- The other wait is not polled any more, but what is known of it still tells a tie.
    (some (.ofHangUps ⟨true, ready.interactor.hungUp⟩), { ready with solution := solution })
  else
    let (interactorOver, interactor) := Wait.poll ready.interactor
    if interactorOver then (some (.ofHangUps ⟨solution.hungUp, true⟩), ⟨solution, interactor⟩)
    else (none, ⟨solution, interactor⟩)

end Umpire.Race
