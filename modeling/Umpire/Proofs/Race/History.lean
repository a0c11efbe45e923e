import Umpire.Race.Detector
import Umpire.Race.History

/-! Polls of a race over whole histories: each answers from the write ends that are open when it is made, whatever was
written and however often the race was polled before. Who is known to have hung up decides a poll, and payload never
does. -/

namespace Umpire.Race

namespace Readiness

/-- A hang-up that was known or is news is known afterwards. -/
@[simp] theorem deliver_hungUp (ready news : Readiness) :
    (ready.deliver news).hungUp = (ready.hungUp || news.hungUp) := rfl

/-- Clearing what was seen keeps a hang-up known. -/
@[simp] theorem clear_hungUp (ready seen : Readiness) :
    (ready.clear seen).hungUp = ready.hungUp := rfl

end Readiness

namespace Wait

/-- No step of a wait makes a hang-up known or forgets one. -/
theorem step_hungUp {ready left : Readiness} {wait next : Wait}
    (taken : step ready wait = some (next, left)) : left.hungUp = ready.hungUp := by
  -- Only clearing changes what is known, and it leaves a hang-up alone.
  cases wait with
  | asking =>
    simp only [step] at taken
    split at taken
    · simp at taken
    · simp only [Option.some.injEq, Prod.mk.injEq] at taken
      rw [← taken.2]
  | holding seen =>
    simp only [step, Option.some.injEq, Prod.mk.injEq] at taken
    rw [← taken.2]
  | passing seen =>
    simp only [step, Option.some.injEq, Prod.mk.injEq] at taken
    rw [← taken.2, Readiness.clear_hungUp]
  | _ => simp [step] at taken

/-- However many steps a wait takes, a hang-up is known afterwards exactly if it was before. -/
theorem steps_hungUp (count : Nat) (wait : Wait) (ready : Readiness) :
    (steps count wait ready).2.hungUp = ready.hungUp := by
  -- Each step keeps the hang-up, so a run of them does.
  induction count generalizing wait ready with
  | zero => rfl
  | succ count ih =>
    simp only [steps]
    cases taken : step ready wait with
    | none => rfl
    | some reached =>
      obtain ⟨next, left⟩ := reached
      exact (ih next left).trans (step_hungUp taken)

/-- A poll is never cut short: the wait could not go on from where it is brought. -/
theorem polled_rests (ready : Readiness) : step (polled ready).2 (polled ready).1 = none := by
  -- A hang-up ends the wait; payload is cleared at once, after which nothing is known.
  obtain ⟨payload, hungUp⟩ := ready
  cases hungUp <;> cases payload <;> rfl

/-- A poll ends a wait exactly if the hang-up is known. -/
theorem polled_over_iff (ready : Readiness) : (polled ready).1 = .over ↔ ready.hungUp = true := by
  -- Payload alone is cleared, and the wait then rests without having ended.
  obtain ⟨payload, hungUp⟩ := ready
  cases hungUp <;> cases payload <;> decide

/-- A polled wait is over exactly if the hang-up is known. -/
@[simp] theorem poll_over (ready : Readiness) : (poll ready).1 = ready.hungUp := by
  rw [Bool.eq_iff_iff, ← polled_over_iff]
  exact beq_iff_eq

/-- Polling a wait keeps the hang-up known. -/
@[simp] theorem poll_hungUp (ready : Readiness) : (poll ready).2.hungUp = ready.hungUp :=
  steps_hungUp 3 .asking ready

end Wait

/-- A poll is pending exactly if no hang-up is known, and is decided by the known hang-ups alone. -/
theorem poll_verdict (ready : PerSide Readiness) :
    (poll ready).1 =
      if ready.solution.hungUp || ready.interactor.hungUp then
        some (.ofHangUps (ready.map (·.hungUp)))
      else none := by
  -- The interactor's wait is only polled once the solution is known not to have hung up.
  simp only [poll, Wait.poll_over, Wait.poll_hungUp, PerSide.map]
  cases solution : ready.solution.hungUp with
  | true => rfl
  | false => cases interactor : ready.interactor.hungUp <;> rfl

/-- A poll leaves every known hang-up known and makes none up. -/
theorem poll_left_hungUp (ready : PerSide Readiness) (side : Side) :
    ((poll ready).2.get side).hungUp = (ready.get side).hungUp := by
  -- A side is either polled, which keeps its hang-up, or left alone.
  simp only [poll, Wait.poll_over]
  cases side <;> cases ready.solution.hungUp <;> cases ready.interactor.hungUp <;>
    simp [PerSide.get]

namespace Step

/-- The open write ends of the two signalling pipes after one more step. -/
def endsAfter (ends : PerSide Nat) : Step → PerSide Nat
  -- What has no descriptor left cannot be duplicated.
  | .duplicate side => if ends.get side = 0 then ends else ends.set side (ends.get side + 1)
  | .close side => ends.set side (ends.get side - 1)
  | _ => ends

/-- Whether the step writes bytes. -/
def isWrite : Step → Bool
  | .write .. => true
  | _ => false

end Step

/-- The open write ends after some steps; each pipe is made with one. -/
def openEnds (steps : List Step) : PerSide Nat :=
  steps.foldl Step.endsAfter ⟨1, 1⟩

/-- What a poll answers and tells, by the open write ends. -/
def pollAnswer (ends : PerSide Nat) : Result × List Entry :=
  if ends.solution = 0 then
    -- Both may have hung up, which is decided for the solution and told.
    (.finished .solution, if ends.interactor = 0 then [.bothHungUp .solution] else [])
  else if ends.interactor = 0 then (.finished .interactor, [])
  else (.pending, [])

/-- The answers of the polls among some steps, in order, by the open write ends at each. -/
def answersFrom (ends : PerSide Nat) : List Step → List (Result × List Entry)
  | [] => []
  | .poll :: rest => pollAnswer ends :: answersFrom ends rest
  | step :: rest => answersFrom (step.endsAfter ends) rest

/-- What the polls of a whole history answered and told, in order. -/
def History.polls (steps : List Step) : List (Result × List Entry) :=
  ((steps.zip (History.run {} steps)).filter (·.1 = .poll)).map (·.2)

namespace Track

/-- What is known of a pipe together with its news agrees with the write ends left to it. -/
structure Tells (track : Track) (ends : Nat) : Prop where
  isPipe : track.isFile = false
  count : track.writeEnds = ends
  hungUp : (track.known.hungUp || track.news.hungUp) = (ends == 0)

namespace Tells

variable {track : Track} {ends : Nat}

/-- A new pipe has one write end and has not hung up. -/
theorem initial : Tells {} 1 := ⟨rfl, rfl, rfl⟩

/-- Written bytes are news, but no hang-up. -/
theorem written (tells : track.Tells ends) : track.written.Tells ends := by
  -- The news that arrives carries payload alone.
  refine ⟨tells.isPipe, tells.count, ?_⟩
  simpa [Track.written] using tells.hungUp

/-- A descriptor more for an open write end changes nothing that is known. -/
theorem duplicated (tells : track.Tells ends) (isOpen : ends ≠ 0) :
    track.duplicated.Tells (ends + 1) := by
  -- The pipe had not hung up, and having more write ends it has not now.
  refine ⟨tells.isPipe, congrArg (· + 1) tells.count, ?_⟩
  have quiet := tells.hungUp
  simp only [beq_eq_false_iff_ne.mpr isOpen] at quiet
  simpa [Track.duplicated] using quiet

/-- Closing a descriptor is a hang-up exactly if it was the last. -/
theorem closed (tells : track.Tells ends) : track.closed.Tells (ends - 1) := by
  have known := tells.hungUp
  have count := tells.count
  refine ⟨tells.isPipe, congrArg (· - 1) count, ?_⟩
  simp only [Track.closed, Readiness.deliver_hungUp, count]
  rw [← Bool.or_assoc, known]
  -- A pipe without write ends stays so; otherwise the news says whether one is left.
  cases ends <;> simp

/-- What is seen when the watch starts says whether the pipe has hung up before it. -/
theorem seen (tells : track.Tells ends) :
    Tells { track with known := track.sight, news := {} } ends := by
  -- The sight is taken from the write ends themselves.
  refine ⟨tells.isPipe, tells.count, ?_⟩
  simp [Track.sight, tells.count]

/-- Once all news has been delivered, the hang-up is known exactly if no write end is left. -/
theorem delivered_hungUp (tells : track.Tells ends) :
    track.delivered.known.hungUp = (ends == 0) := tells.hungUp

/-- A poll that keeps the hang-up known leaves a pipe whose news has been delivered in agreement. -/
theorem polled (tells : track.Tells ends) {left : Readiness}
    (kept : left.hungUp = track.delivered.known.hungUp) :
    Tells { track.delivered with known := left } ends := by
  have known := kept.trans tells.delivered_hungUp
  refine ⟨tells.isPipe, tells.count, ?_⟩
  -- There is no news any more, so all hangs on what is known.
  simpa [Track.delivered] using known

end Tells

end Track

namespace History

/-- Both sides' pipes agree with the open write ends. -/
def Tells (history : History) (ends : PerSide Nat) : Prop :=
  ∀ side, (history.tracks.get side).Tells (ends.get side)

/-- A new history has one write end open on each side. -/
theorem Tells.initial : Tells {} ⟨1, 1⟩ := by
  intro side
  cases side <;> exact Track.Tells.initial

/-- Changing one side's pipe and its open write ends alike keeps both sides in agreement. -/
theorem Tells.change {history : History} {ends : PerSide Nat} (tells : history.Tells ends)
    {side : Side} {change : Track → Track} {left : Nat}
    (changed : (change (history.tracks.get side)).Tells left) :
    (history.change side change).Tells (ends.set side left) := by
  -- The other side's pipe and count are the ones from before.
  intro any
  cases side <;> cases any
  · exact changed
  · exact tells .interactor
  · exact tells .solution
  · exact changed

/-- Something done with an open write end gives a result and changes that side's pipe alone. -/
theorem Tells.withEnd {history : History} {ends : PerSide Nat} (tells : history.Tells ends)
    {side : Side} {act : Track → Result × Track} (isOpen : ends.get side ≠ 0) :
    history.withEnd side act =
      ((act (history.tracks.get side)).1, [], history.change side fun track => (act track).2) := by
  -- The pipe counts the open write ends, so it has one to do something with.
  have count := (tells side).count
  simp only [History.withEnd, count, if_neg isOpen]
  rfl

/-- Nothing is done on a side without open write ends. -/
theorem Tells.withEnd_closed {history : History} {ends : PerSide Nat} (tells : history.Tells ends)
    {side : Side} {act : Track → Result × Track} (isClosed : ends.get side = 0) :
    history.withEnd side act = (.closed, [], history) := by
  have count := (tells side).count
  simp only [History.withEnd, count, if_pos isClosed]

/-- Both read ends of new pipes can be watched, and what is known then agrees with the write ends. -/
theorem Tells.detect {history : History} {ends : PerSide Nat} (tells : history.Tells ends) :
    history.detect.1 = .done ∧ history.detect.2.2.Tells ends := by
  -- Neither read end has been replaced by a file.
  have solution := (tells .solution).isPipe
  have interactor := (tells .interactor).isPipe
  simp only [PerSide.get] at solution interactor
  simp only [History.detect, solution, interactor, Bool.false_eq_true, if_false, true_and]
  intro side
  cases side
  · exact (tells .solution).seen
  · exact (tells .interactor).seen

/-- What a poll answers and tells is read off the verdict. -/
theorem poll_told (history : History) :
    (history.poll.1, history.poll.2.1) =
      match (Race.poll history.ready).1 with
      | none => (.pending, [])
      | some verdict =>
        (.finished verdict.winner, if verdict.both then [.bothHungUp verdict.winner] else []) := by
  -- The poll continues from the pair that it gets in one of two ways.
  cases polled : Race.poll history.ready with
  | mk verdict left =>
    simp only [History.poll, polled]
    cases verdict <;> rfl

/-- A poll leaves each pipe as delivered, with what its wait has left known. -/
theorem poll_track (history : History) (side : Side) :
    history.poll.2.2.tracks.get side =
      { (history.tracks.get side).delivered with known := (Race.poll history.ready).2.get side } := by
  cases polled : Race.poll history.ready with
  | mk verdict left =>
    simp only [History.poll, polled]
    cases verdict <;> cases side <;> rfl

/-- When a poll starts, a hang-up is known exactly on the sides without write ends. -/
theorem Tells.ready_hungUp {history : History} {ends : PerSide Nat} (tells : history.Tells ends)
    (side : Side) : (history.ready.get side).hungUp = (ends.get side == 0) := by
  cases side
  · exact (tells .solution).delivered_hungUp
  · exact (tells .interactor).delivered_hungUp

/-- A poll answers from the open write ends and leaves what is known in agreement with them. -/
theorem Tells.poll {history : History} {ends : PerSide Nat} (tells : history.Tells ends) :
    (history.poll.1, history.poll.2.1) = pollAnswer ends ∧ history.poll.2.2.Tells ends := by
  constructor
  · -- The known hang-ups are those of the sides without write ends, and decide the verdict.
    have solution : history.ready.solution.hungUp = (ends.solution == 0) :=
      tells.ready_hungUp .solution
    have interactor : history.ready.interactor.hungUp = (ends.interactor == 0) :=
      tells.ready_hungUp .interactor
    rw [poll_told, poll_verdict]
    simp only [PerSide.map, solution, interactor, pollAnswer, Verdict.ofHangUps]
    by_cases gone : ends.solution = 0
    · by_cases both : ends.interactor = 0 <;> simp [gone, both]
    · by_cases other : ends.interactor = 0 <;> simp [gone, other]
  · intro side
    have kept := poll_left_hungUp history.ready side
    rw [poll_track]
    apply (tells side).polled
    cases side <;> exact kept

/-- Whatever is done with the write ends, and whenever the race is polled, nothing goes wrong and
what is known keeps agreeing with the open write ends. -/
theorem Tells.step {history : History} {ends : PerSide Nat} (tells : history.Tells ends)
    {step : Step} (piped : ∀ side, step ≠ .useFile side) :
    (∀ fault, (history.step step).1 ≠ .fault fault) ∧
      (history.step step).2.2.Tells (step.endsAfter ends) := by
  cases step with
  | detect =>
    have started := tells.detect
    refine ⟨?_, started.2⟩
    simp [History.step, started.1]
  | useFile side => exact absurd rfl (piped side)
  | write side count =>
    simp only [History.step, Step.endsAfter]
    by_cases isClosed : ends.get side = 0
    · rw [tells.withEnd_closed isClosed]
      exact ⟨by simp, tells⟩
    · -- A pipe takes the bytes, which only adds payload.
      rw [tells.withEnd isClosed]
      refine ⟨by simp [(tells side).isPipe], ?_⟩
      rw [← ends.set_get side]
      apply tells.change
      by_cases nothing : count = 0
      · simpa [(tells side).isPipe, nothing] using tells side
      · simpa [(tells side).isPipe, nothing] using (tells side).written
  | duplicate side =>
    simp only [History.step, Step.endsAfter]
    by_cases isClosed : ends.get side = 0
    · rw [tells.withEnd_closed isClosed, if_pos isClosed]
      exact ⟨by simp, tells⟩
    · rw [tells.withEnd isClosed, if_neg isClosed]
      exact ⟨by simp, tells.change ((tells side).duplicated isClosed)⟩
  | close side =>
    simp only [History.step, Step.endsAfter]
    by_cases isClosed : ends.get side = 0
    · rw [tells.withEnd_closed isClosed]
      have same : ends.set side (ends.get side - 1) = ends := by
        rw [isClosed, Nat.zero_sub, ← isClosed, ends.set_get]
      rw [same]
      exact ⟨by simp, tells⟩
    · rw [tells.withEnd isClosed]
      exact ⟨by simp, tells.change (tells side).closed⟩
  | poll =>
    have answered := tells.poll
    refine ⟨?_, answered.2⟩
    -- A poll is pending or finds a winner.
    intro fault
    have result : history.poll.1 = (pollAnswer ends).1 := congrArg Prod.fst answered.1
    simp only [History.step, result, pollAnswer]
    split
    · simp
    · split <;> simp

/-- A history goes on after any step, with the answer of that step first. -/
theorem Tells.run_cons {history : History} {ends : PerSide Nat} (tells : history.Tells ends)
    {step : Step} (piped : ∀ side, step ≠ .useFile side) (rest : List Step) :
    history.run (step :: rest) =
      ((history.step step).1, (history.step step).2.1) :: (history.step step).2.2.run rest := by
  -- Only a fault would end it.
  have sound := (tells.step piped).1
  rw [History.run]
  split
  · rename_i fault told next taken
    exact absurd (by rw [taken]) (sound fault)
  · rename_i result told next others taken
    rw [taken]

/-- A history after some steps. -/
def after (history : History) (steps : List Step) : History :=
  steps.foldl (fun history step => (history.step step).2.2) history

/-- However often the write ends are used and the race is polled, what is known keeps agreeing with the open write
ends. -/
theorem Tells.after {history : History} {ends : PerSide Nat} (tells : history.Tells ends) {steps : List Step}
    (piped : ∀ side, .useFile side ∉ steps) : (history.after steps).Tells (steps.foldl Step.endsAfter ends) := by
  -- Each step keeps the agreement, so a run of them does.
  induction steps generalizing history ends with
  | nil => exact tells
  | cons step rest ih =>
    have first (side : Side) : step ≠ .useFile side := fun same => piped side (by simp [same])
    exact ih (tells.step first).2 fun side member => piped side (List.mem_cons_of_mem _ member)

/-- A poll anywhere in a history is one of the history that the earlier steps lead to. -/
theorem Tells.run_poll {history : History} {ends : PerSide Nat} (tells : history.Tells ends)
    {earlier : List Step} (piped : ∀ side, .useFile side ∉ earlier) (later : List Step) :
    (history.run (earlier ++ .poll :: later))[earlier.length]? =
      some ((history.after earlier).poll.1, (history.after earlier).poll.2.1) := by
  -- The earlier steps are taken one by one, none of which is a fault that would end the history.
  induction earlier generalizing history ends with
  | nil =>
    rw [List.nil_append, tells.run_cons (by simp)]
    rfl
  | cons step rest ih =>
    have first (side : Side) : step ≠ .useFile side := fun same => piped side (by simp [same])
    have others (side : Side) : Step.useFile side ∉ rest := fun member =>
      piped side (List.mem_cons_of_mem _ member)
    rw [List.cons_append, tells.run_cons first, List.length_cons, List.getElem?_cons_succ]
    exact ih (tells.step first).2 others

/-- In a poll each wait that is looked at comes to its end or to rest, and to its end exactly if its side has no
write end left. -/
theorem Tells.waits_rest {history : History} {ends : PerSide Nat} (tells : history.Tells ends) (side : Side) :
    let reached := Wait.polled (history.ready.get side)
    Wait.step reached.2 reached.1 = none ∧ (reached.1 = .over ↔ ends.get side = 0) := by
  intro reached
  refine ⟨Wait.polled_rests _, ?_⟩
  -- All news has been delivered, so the hang-up is known once there is one.
  rw [Wait.polled_over_iff, tells.ready_hungUp, beq_iff_eq]

/-- The answers of all polls of a history are those that the open write ends give. -/
theorem Tells.run_answers {history : History} {ends : PerSide Nat} (tells : history.Tells ends)
    {steps : List Step} (piped : ∀ side, .useFile side ∉ steps) :
    ((steps.zip (history.run steps)).filter (·.1 = .poll)).map (·.2) = answersFrom ends steps := by
  -- The agreement with the open write ends is carried along the steps.
  induction steps generalizing history ends with
  | nil => rfl
  | cons step rest ih =>
    have first (side : Side) : step ≠ .useFile side := fun same => piped side (by simp [same])
    have others (side : Side) : Step.useFile side ∉ rest := fun member =>
      piped side (List.mem_cons_of_mem _ member)
    have following := ih (tells.step first).2 others
    rw [tells.run_cons first, List.zip_cons_cons]
    -- Only a poll has an answer that is listed.
    cases step with
    | poll =>
      rw [List.filter_cons_of_pos (by simp), List.map_cons, answersFrom, ← tells.poll.1]
      exact congrArg (List.cons _) following
    | _ => simpa [answersFrom] using following

/-- In a history of two pipes the polls answer by the open write ends. -/
theorem polls_eq {steps : List Step} (piped : ∀ side, .useFile side ∉ steps) :
    polls steps = answersFrom ⟨1, 1⟩ steps :=
  Tells.initial.run_answers piped

end History

/-- A side without open write ends never has one again. -/
theorem Step.endsAfter_gone {ends : PerSide Nat} {side : Side} (gone : ends.get side = 0)
    (step : Step) : (step.endsAfter ends).get side = 0 := by
  cases step with
  | duplicate any =>
    simp only [endsAfter]
    split
    · exact gone
    · -- Only the other side has something left to duplicate.
      rename_i isOpen
      have different : any ≠ side := fun same => isOpen (same ▸ gone)
      rw [Side.eq_other_of_ne different, PerSide.get_set_of_other, gone]
  | close any =>
    simp only [endsAfter]
    by_cases same : any = side
    · rw [same, PerSide.get_set_same, gone]
    · rw [Side.eq_other_of_ne same, PerSide.get_set_of_other, gone]
  | _ => exact gone

/-- Once the solution has hung up, every poll finds that it has won. -/
theorem answersFrom_solution_gone {ends : PerSide Nat} (gone : ends.solution = 0)
    {steps : List Step} : ∀ answer ∈ answersFrom ends steps, answer.1 = .finished .solution := by
  -- No later step gives the solution a write end again.
  induction steps generalizing ends with
  | nil => simp [answersFrom]
  | cons step rest ih =>
    have still := Step.endsAfter_gone (show ends.get .solution = 0 from gone) step
    cases step with
    | poll =>
      intro answer member
      rcases List.mem_cons.mp member with same | member
      · simp [same, pollAnswer, gone]
      · exact ih gone answer member
    | _ => exact ih still

/-- Once the interactor has hung up, no poll is pending. -/
theorem answersFrom_interactor_gone {ends : PerSide Nat} (gone : ends.interactor = 0)
    {steps : List Step} : ∀ answer ∈ answersFrom ends steps, answer.1 ≠ .pending := by
  -- No later step gives the interactor a write end again, so each poll has a winner.
  induction steps generalizing ends with
  | nil => simp [answersFrom]
  | cons step rest ih =>
    have still := Step.endsAfter_gone (show ends.get .interactor = 0 from gone) step
    cases step with
    | poll =>
      intro answer member
      rcases List.mem_cons.mp member with same | member
      · by_cases solution : ends.solution = 0 <;> simp [same, pollAnswer, gone, solution]
      · exact ih gone answer member
    | _ => exact ih still

/-- A race once decided stays decided, and a solution that has won stays the winner. -/
theorem answersFrom_pairwise (ends : PerSide Nat) (steps : List Step) :
    (answersFrom ends steps).Pairwise fun earlier later =>
      (earlier.1 ≠ .pending → later.1 ≠ .pending) ∧
        (earlier.1 = .finished .solution → later.1 = .finished .solution) := by
  induction steps generalizing ends with
  | nil => exact List.Pairwise.nil
  | cons step rest ih =>
    cases step with
    | poll =>
      refine List.Pairwise.cons (fun later member => ?_) (ih ends)
      by_cases solution : ends.solution = 0
      · -- The solution's hang-up decides this poll and all that follow.
        have won := answersFrom_solution_gone solution later member
        simp [won]
      · by_cases interactor : ends.interactor = 0
        · have decided := answersFrom_interactor_gone interactor later member
          simp [pollAnswer, solution, interactor, decided]
        · simp [pollAnswer, solution, interactor]
    | _ => exact ih _

/-- Taking the writes out of a history leaves all answers of its polls. -/
theorem answersFrom_quiet (ends : PerSide Nat) (steps : List Step) :
    answersFrom ends (steps.filter (!·.isWrite)) = answersFrom ends steps := by
  -- A write changes no count of open write ends.
  induction steps generalizing ends with
  | nil => rfl
  | cons step rest ih =>
    cases step with
    | write side count =>
      rw [List.filter_cons_of_neg (by simp [Step.isWrite])]
      exact ih ends
    | poll =>
      rw [List.filter_cons_of_pos rfl]
      exact congrArg (List.cons _) (ih ends)
    | _ =>
      rw [List.filter_cons_of_pos rfl]
      exact ih _

/-- Over any history of two signalling pipes, a poll is pending exactly while both sides have an open
write end, and otherwise goes to the solution if that has none and else to the interactor; it tells
of a tie exactly if neither side has one. It is pending because both waits rest until there is news,
and never because a wait was broken off: each is brought to where it takes no further step, which is
its end exactly if its side has no write end left. Written bytes change no answer; a race once decided
stays decided, and its winner changes at most from the interactor to the solution. -/
theorem polls_follow_open_ends (steps : List Step) (piped : ∀ side, .useFile side ∉ steps) :
    (∀ earlier later, steps = earlier ++ .poll :: later →
      let history := History.after {} earlier
      let ends := openEnds earlier
      (∀ side,
        let reached := Wait.polled (history.ready.get side)
        Wait.step reached.2 reached.1 = none ∧ (reached.1 = .over ↔ ends.get side = 0)) ∧
      ∃ result told, (History.run {} steps)[earlier.length]? = some (result, told) ∧
        (result, told) = (history.poll.1, history.poll.2.1) ∧
        (result = .pending ↔ 0 < ends.solution ∧ 0 < ends.interactor) ∧
        (result = .finished .solution ↔ ends.solution = 0) ∧
        (result = .finished .interactor ↔ 0 < ends.solution ∧ ends.interactor = 0) ∧
        told = if ends.solution = 0 ∧ ends.interactor = 0 then [.bothHungUp .solution] else []) ∧
    History.polls (steps.filter (!·.isWrite)) = History.polls steps ∧
    (History.polls steps).Pairwise fun earlier later =>
      (earlier.1 ≠ .pending → later.1 ≠ .pending) ∧
        (earlier.1 = .finished .solution → later.1 = .finished .solution) := by
  refine ⟨?_, ?_, ?_⟩
  · intro earlier later split history ends
    have unfiled (side : Side) : Step.useFile side ∉ earlier := fun member =>
      piped side (by simp [split, member])
    have tells : history.Tells ends := History.Tells.initial.after unfiled
    refine ⟨tells.waits_rest, (pollAnswer ends).1, (pollAnswer ends).2, ?_, tells.poll.1.symm, ?_⟩
    · rw [split, History.Tells.initial.run_poll unfiled later]
      exact congrArg some tells.poll.1
    · -- The answer is decided by which of the two counts are zero.
      by_cases solution : ends.solution = 0 <;> by_cases interactor : ends.interactor = 0 <;>
        simp [pollAnswer, solution, interactor, Nat.pos_iff_ne_zero]
  · have quiet (side : Side) : Step.useFile side ∉ steps.filter (!·.isWrite) := fun member =>
      piped side (List.mem_filter.mp member).1
    rw [History.polls_eq quiet, History.polls_eq piped, answersFrom_quiet]
  · rw [History.polls_eq piped]
    exact answersFrom_pairwise ⟨1, 1⟩ steps

/-- A history in which the interactor hangs up first, noise and a poll in between, and the solution
only once its duplicated write end is closed as well. -/
def lateSolution : List Step :=
  [.duplicate .solution, .write .interactor 5, .detect, .poll, .close .interactor, .write .solution 3,
    .poll, .close .solution, .poll, .close .solution, .poll]

/-- The late solution takes the race over from the interactor, with or without the noise, and each poll brings both
waits to their end or to rest. -/
theorem polls_of_late_solution :
    (∀ side, .useFile side ∉ lateSolution) ∧
      (∀ earlier later, lateSolution = earlier ++ .poll :: later → ∀ side,
        let reached := Wait.polled ((History.after {} earlier).ready.get side)
        Wait.step reached.2 reached.1 = none ∧ (reached.1 = .over ↔ (openEnds earlier).get side = 0)) ∧
      History.polls (lateSolution.filter (!·.isWrite)) = History.polls lateSolution ∧
      ((History.polls lateSolution).Pairwise fun earlier later =>
        (earlier.1 ≠ .pending → later.1 ≠ .pending) ∧
          (earlier.1 = .finished .solution → later.1 = .finished .solution)) ∧
      History.polls lateSolution =
        [(.pending, []), (.finished .interactor, []), (.finished .interactor, []),
          (.finished .solution, [.bothHungUp .solution])] := by
  have piped : ∀ side, .useFile side ∉ lateSolution := by intro side; cases side <;> decide
  obtain ⟨each, quiet, decided⟩ := polls_follow_open_ends lateSolution piped
  exact ⟨piped, fun earlier later split => (each earlier later split).1, quiet, decided, rfl⟩

end Umpire.Race
