import Umpire.Cascade
import Umpire.Proofs.WaitStatus

/-! The calls by which both statuses are taken, for processes that may answer anything at any time. -/

namespace Umpire.Cascade

/-- A call on one of the two processes, with its answer. -/
inductive Call where
  | waited (side : Side) (answer : Except IoFault WaitStatus)
  | terminated (side : Side) (answer : Except IoFault Unit)

/-- The call without its answer. -/
def Call.request : Call → Request
  | .waited side _ => .wait side
  | .terminated side _ => .terminate side

/-- No side is asked to end once a wait for it has been answered. -/
def Orderly (calls : List Call) : Prop :=
  calls.Pairwise fun earlier later =>
    ∀ side answer ending, earlier = .waited side answer → later ≠ .terminated side ending

/-- Both processes as their callers meet them: what a call answers, and the state it leaves behind. The
two may share their state, so nothing is assumed of what one call does to later answers. -/
structure Handles (σ : Type) where
  wait : Side → σ → Except IoFault WaitStatus × σ
  terminate : Side → σ → Except IoFault Unit × σ

/-- How a talk with the processes ended: with a value, a state of the processes, and calls made. -/
structure Played (σ α : Type) where
  value : α
  left : σ
  calls : List Call

/-- The same end after one more call at the start. -/
def Played.after {σ α : Type} (call : Call) (played : Played σ α) : Played σ α :=
  { played with calls := call :: played.calls }

/-- A side that is not reaped after another round was not before. -/
theorem Tally.reaped_of_reap (tally : Tally) {side any : Side} {status : Nat}
    (fresh : (tally.reap side status).reaped.get any = false) : tally.reaped.get any = false := by
  -- Reaping a side only ever adds to what is known.
  cases side <;> cases any <;> simp_all [Tally.reap, PerSide.get, PerSide.set]

namespace Handles

variable {σ α β : Type}

/-- Talk with the processes; what is only told is no call. -/
def play (handles : Handles σ) : Talk α → σ → Played σ α
  | .done value, state => ⟨value, state, []⟩
  | .ask (.wait side) next, state =>
    let (answer, left) := handles.wait side state
    (handles.play (next answer) left).after (.waited side answer)
  | .ask (.terminate side) next, state =>
    let (answer, left) := handles.terminate side state
    (handles.play (next answer) left).after (.terminated side answer)
  | .ask (.note _) next, state => handles.play (next ()) state

variable (handles : Handles σ)

/-- Talks in sequence go on from the state that the first leaves, and their calls follow each other. -/
theorem play_bind (first : Talk α) (rest : α → Talk β) (state : σ) :
    handles.play (first >>= rest) state =
      let earlier := handles.play first state
      let later := handles.play (rest earlier.value) earlier.left
      ⟨later.value, later.left, earlier.calls ++ later.calls⟩ := by
  change handles.play (first.bind rest) state = _
  -- Along the first talk; where it has ended the rest begins.
  induction first generalizing state with
  | done value => rfl
  | ask wanted next ih =>
    cases wanted with
    | wait side => simp only [Dialogue.bind, play, ih, Played.after, List.cons_append]
    | terminate side => simp only [Dialogue.bind, play, ih, Played.after, List.cons_append]
    | note entry => simp only [Dialogue.bind, play, ih]

/-- A talk that has ended makes no call. -/
theorem play_pure (value : α) (state : σ) :
    handles.play (pure value) state = ⟨value, state, []⟩ := rfl

/-- A wait is one call, and the talk goes on from its answer. -/
theorem play_wait (side : Side) (next : Except IoFault WaitStatus → Talk α) (state : σ) :
    handles.play (ask (.wait side) >>= next) state =
      let (answer, left) := handles.wait side state
      (handles.play (next answer) left).after (.waited side answer) := rfl

/-- Asking a side to end is one call, and the talk goes on from its answer. -/
theorem play_terminate (side : Side) (next : Except IoFault Unit → Talk α) (state : σ) :
    handles.play (ask (.terminate side) >>= next) state =
      let (answer, left) := handles.terminate side state
      (handles.play (next answer) left).after (.terminated side answer) := rfl

/-- Taking a status is one wait. -/
theorem play_take (side : Side) (state : σ) :
    handles.play (take side) state =
      let (answer, left) := handles.wait side state
      ⟨match answer with
        | .error cause => .error (.wait side cause)
        | .ok status => .ok status.shell, left, [.waited side answer]⟩ := by
  rw [take, play_wait]
  -- What is done with the answer asks no handle anything.
  rcases handles.wait side state with ⟨answer, left⟩
  cases answer <;> rfl

/-- Having a side asked to end is one call, whatever it is answered. -/
theorem play_endSide (side : Side) (state : σ) :
    handles.play (endSide side) state =
      let (ending, left) := handles.terminate side state
      ⟨(), left, [.terminated side ending]⟩ := by
  rw [endSide, play_terminate]
  -- What is answered only decides what is told.
  rcases handles.terminate side state with ⟨ending, left⟩
  cases ending <;> rfl

/-- A reaction is one call at most: the other side is asked to end if this one failed and the other's
status is still to be taken. -/
theorem play_react (tally : Tally) (side : Side) (status : Nat) (state : σ) :
    handles.play (react tally side status) state =
      if status = 0 ∨ tally.reaped.get side.other then ⟨(), state, []⟩
      else
        let (ending, left) := handles.terminate side.other state
        ⟨(), left, [.terminated side.other ending]⟩ := by
  unfold react
  -- Only a failure while the other side's status is still to be taken leads to a call.
  by_cases clean : status = 0
  · simp only [clean, ne_eq, not_true_eq_false, if_false, true_or, if_true]
    rfl
  · by_cases gone : tally.reaped.get side.other = true
    · -- What is only told makes no call.
      simp only [clean, gone, ne_eq, not_false_eq_true, if_true, or_true]
      rfl
    · simp only [clean, gone, ne_eq, not_false_eq_true, if_true]
      exact handles.play_endSide side.other state

/-- A round is a wait and, if the side failed before the other's status has been taken, one call more. -/
theorem play_round (tally : Tally) (side : Side) (state : σ) :
    handles.play (round tally side) state =
      match handles.wait side state with
      | (.error cause, left) => ⟨.error (.wait side cause), left, [.waited side (.error cause)]⟩
      | (.ok status, left) =>
        let known := tally.reap side status.shell
        if status.shell = 0 ∨ tally.reaped.get side.other then
          ⟨.ok known, left, [.waited side (.ok status)]⟩
        else
          let (ending, last) := handles.terminate side.other left
          ⟨.ok known, last, [.waited side (.ok status), .terminated side.other ending]⟩ := by
  -- The wait comes first, and a failure of it is the end of the round.
  rw [round, play_bind, play_take]
  rcases handles.wait side state with ⟨answer, left⟩
  cases answer with
  | error cause => rfl
  | ok status =>
    -- Taking a side's status does not change what is known of the other side.
    have same : (tally.reap side status.shell).reaped.get side.other = tally.reaped.get side.other :=
      PerSide.get_set_other ..
    simp only [play_bind, play_pure, play_react, same, List.append_nil, List.singleton_append]
    by_cases quiet : status.shell = 0 ∨ tally.reaped.get side.other = true
    · simp only [if_pos quiet]
    · simp only [if_neg quiet]

/-- A round that fails is the last. -/
theorem play_rounds_error {tally : Tally} {side : Side} {state : σ} {fault : Fault}
    (failed : (handles.play (round tally side) state).value = .error fault) (rest : List Side) :
    handles.play (rounds tally (side :: rest)) state =
      ⟨.error fault, (handles.play (round tally side) state).left,
        (handles.play (round tally side) state).calls⟩ := by
  simp only [rounds, play_bind, failed, play_pure, List.append_nil]

/-- A round that succeeds is followed by the others, which go on from its tally. -/
theorem play_rounds_ok {tally known : Tally} {side : Side} {state : σ}
    (taken : (handles.play (round tally side) state).value = .ok known) (rest : List Side) :
    handles.play (rounds tally (side :: rest)) state =
      let later := handles.play (rounds known rest) (handles.play (round tally side) state).left
      ⟨later.value, later.left, (handles.play (round tally side) state).calls ++ later.calls⟩ := by
  simp only [rounds, play_bind, taken]

/-- In a round no call ends a side whose status had been taken, and none follows a wait for its side. -/
theorem play_round_orderly (tally : Tally) (side : Side) (state : σ) :
    let played := handles.play (round tally side) state
    (∀ any answer, .waited any answer ∈ played.calls → any = side) ∧
      (∀ any ending, .terminated any ending ∈ played.calls → tally.reaped.get any = false) ∧
      Orderly played.calls := by
  -- A round has one or two calls, which can be looked at one by one.
  rw [play_round]
  rcases handles.wait side state with ⟨answer, left⟩
  cases answer with
  | error cause => simp [Orderly]
  | ok status =>
    dsimp only
    split
    · simp [Orderly]
    · -- The side that is asked to end is the other one, whose status is still to be taken.
      rename_i loud
      simp only [not_or, Bool.not_eq_true] at loud
      refine ⟨by simp, by simp [loud.2], ?_⟩
      simp only [Orderly, List.pairwise_pair]
      intro any answer ending waited ended
      cases waited
      exact side.other_ne (Call.terminated.inj ended).1

/-- A round that succeeds takes the status that its side's wait was answered. -/
theorem play_round_value {tally known : Tally} {side : Side} {state : σ}
    (taken : (handles.play (round tally side) state).value = .ok known) :
    ∃ status, (handles.wait side state).1 = .ok status ∧ known = tally.reap side status.shell := by
  rw [play_round] at taken
  rcases waited : handles.wait side state with ⟨answer, left⟩
  rw [waited] at taken
  cases answer with
  | error cause => simp at taken
  | ok status =>
    -- Whether the other side is asked to end makes no difference to the tally.
    refine ⟨status, rfl, ?_⟩
    dsimp only at taken
    split at taken <;> exact (Except.ok.inj taken).symm

/-- However many rounds there are, no call ends a side whose status had been taken at their start, and
none follows a wait for its side. -/
theorem play_rounds_orderly (tally : Tally) (sides : List Side) (state : σ) :
    let played := handles.play (rounds tally sides) state
    (∀ any ending, .terminated any ending ∈ played.calls → tally.reaped.get any = false) ∧
      Orderly played.calls := by
  induction sides generalizing tally state with
  | nil => simp [rounds, play_pure, Orderly]
  | cons side rest ih =>
    -- Each round is orderly by itself; what is left is that later ones fit those before.
    obtain ⟨waits, endings, orderly⟩ := handles.play_round_orderly tally side state
    cases taken : (handles.play (round tally side) state).value with
    | error fault =>
      rw [handles.play_rounds_error taken]
      exact ⟨endings, orderly⟩
    | ok known =>
      obtain ⟨status, -, same⟩ := handles.play_round_value taken
      obtain ⟨laterEndings, laterOrderly⟩ := ih known (handles.play (round tally side) state).left
      rw [handles.play_rounds_ok taken]
      subst same
      refine ⟨?_, List.pairwise_append.mpr ⟨orderly, laterOrderly, ?_⟩⟩
      · -- What had been taken before this round is still known to be taken after it.
        intro any ending member
        rcases List.mem_append.mp member with now | later
        · exact endings any ending now
        · exact tally.reaped_of_reap (laterEndings any ending later)
      · -- This round's wait is for a side that no later call ends.
        intro earlier first later second any answer ending waited ended
        subst waited ended
        have here := waits any answer first
        have gone := laterEndings any ending second
        subst here
        simp [Tally.reap] at gone

/-- The calls by which both statuses are taken are orderly. -/
theorem play_resolve_orderly (winner : Side) (state : σ) :
    Orderly (handles.play (resolve winner) state).calls := by
  rw [resolve, play_bind]
  simp only [play_pure, List.append_nil]
  -- The two rounds make all the calls, and what follows on them makes none.
  exact (handles.play_rounds_orderly {} [winner, winner.other] state).2

/-- In a round whose other side is reaped nobody is asked to end. -/
theorem play_round_last {tally : Tally} {side : Side} (gone : tally.reaped.get side.other = true)
    (state : σ) :
    handles.play (round tally side) state =
      let (answer, left) := handles.wait side state
      ⟨match answer with
        | .error cause => .error (.wait side cause)
        | .ok status => .ok (tally.reap side status.shell), left, [.waited side answer]⟩ := by
  rw [play_round]
  rcases handles.wait side state with ⟨answer, left⟩
  -- With a status the side is reaped, and there is nobody left to ask.
  cases answer with
  | error cause => rfl
  | ok status => simp only [gone, or_true, if_true]

/-- A winner whose status cannot be taken ends the talk at once. -/
theorem play_resolve_failed {winner : Side} {state : σ} {cause : IoFault}
    (failed : (handles.wait winner state).1 = .error cause) :
    handles.play (resolve winner) state =
      ⟨.error (.wait winner cause), (handles.wait winner state).2, [.waited winner (.error cause)]⟩ := by
  -- The first round fails with its wait, and no other follows.
  have first : handles.play (round {} winner) state =
      ⟨.error (.wait winner cause), (handles.wait winner state).2,
        [.waited winner (.error cause)]⟩ := by
    rw [play_round]
    rcases waited : handles.wait winner state with ⟨answer, left⟩
    rw [waited] at failed
    cases failed
    rfl
  have ended := handles.play_rounds_error (congrArg Played.value first) [winner.other]
  rw [first] at ended
  simp only [resolve, play_bind, ended, play_pure, List.append_nil]
  rfl

/-- When the winner's status is taken first, the other side is asked to end exactly if it is not zero. -/
theorem play_round_first {winner : Side} {state : σ} {status : WaitStatus}
    (taken : (handles.wait winner state).1 = .ok status) :
    let left := (handles.wait winner state).2
    let ended := handles.terminate winner.other left
    handles.play (round {} winner) state =
      ⟨.ok (Tally.reap {} winner status.shell), if status.shell = 0 then left else ended.2,
        .waited winner (.ok status) ::
          if status.shell = 0 then [] else [.terminated winner.other ended.1]⟩ := by
  intro left ended
  have waited : handles.wait winner state = (.ok status, left) := Prod.ext taken rfl
  -- Nobody is reaped before the first round.
  have fresh : ({} : Tally).reaped.get winner.other = false := by cases winner <;> rfl
  rw [play_round, waited]
  by_cases clean : status.shell = 0
  · simp only [clean, true_or, if_true]
  · simp only [clean, fresh, Bool.false_eq_true, or_self, if_false]
    rfl

/-- A winner whose status is taken is followed by the other side, which is asked to end before exactly
if the winner failed. -/
theorem play_resolve_taken {winner : Side} {state : σ} {status : WaitStatus}
    (taken : (handles.wait winner state).1 = .ok status) :
    let left := (handles.wait winner state).2
    let ended := handles.terminate winner.other left
    let last := handles.wait winner.other (if status.shell = 0 then left else ended.2)
    handles.play (resolve winner) state =
      ⟨match last.1 with
        | .error cause => .error (.wait winner.other cause)
        | .ok other => .ok ((Tally.reap {} winner status.shell).reap winner.other other.shell).statuses,
        last.2,
        .waited winner (.ok status) ::
          (if status.shell = 0 then [] else [.terminated winner.other ended.1]) ++
          [.waited winner.other last.1]⟩ := by
  intro left ended last
  have first := handles.play_round_first taken
  have rest := handles.play_rounds_ok (congrArg Played.value first) [winner.other]
  rw [first] at rest
  -- By the last round the winner is reaped, so nobody is asked to end in it.
  have gone : (Tally.reap {} winner status.shell).reaped.get winner.other.other = true := by
    rw [Side.other_other]
    exact PerSide.get_set_same ..
  -- In the second round the wait is all there is.
  have second : handles.play (round (Tally.reap {} winner status.shell) winner.other)
      (if status.shell = 0 then left else ended.2) =
      ⟨match last.1 with
        | .error cause => .error (.wait winner.other cause)
        | .ok other => .ok ((Tally.reap {} winner status.shell).reap winner.other other.shell),
        last.2, [.waited winner.other last.1]⟩ := handles.play_round_last gone _
  simp only [resolve, play_bind, rest, play_pure, List.append_nil]
  rcases last with ⟨answer, after⟩
  cases answer with
  | error cause =>
    rw [handles.play_rounds_error (congrArg Played.value second), second]
    rfl
  | ok other =>
    rw [handles.play_rounds_ok (congrArg Played.value second), second]
    rfl

/-- What asking to end is answered changes neither what is asked for nor what comes of it. -/
theorem play_resolve_deaf {deaf : Handles σ} (waits : deaf.wait = handles.wait)
    (endings : ∀ side state, (deaf.terminate side state).2 = (handles.terminate side state).2)
    (winner : Side) (state : σ) :
    (deaf.play (resolve winner) state).value = (handles.play (resolve winner) state).value ∧
      (deaf.play (resolve winner) state).calls.map Call.request =
        (handles.play (resolve winner) state).calls.map Call.request := by
  cases taken : (handles.wait winner state).1 with
  | error cause =>
    rw [handles.play_resolve_failed taken, deaf.play_resolve_failed (waits ▸ taken)]
    exact ⟨rfl, rfl⟩
  | ok status =>
    -- The last wait is made in the same state, since only the answers of the endings differ.
    rw [handles.play_resolve_taken taken, deaf.play_resolve_taken (waits ▸ taken)]
    simp only [waits, endings, true_and]
    by_cases clean : status.shell = 0 <;> simp [clean, Call.request]

/-- The winner is never asked to end. -/
theorem play_resolve_spares (winner : Side) (state : σ) (ending : Except IoFault Unit) :
    .terminated winner ending ∉ (handles.play (resolve winner) state).calls := by
  have different : winner ≠ winner.other := winner.other_ne.symm
  cases taken : (handles.wait winner state).1 with
  | error cause =>
    rw [handles.play_resolve_failed taken]
    simp
  | ok status =>
    rw [handles.play_resolve_taken taken]
    -- If anybody is asked to end, it is the other side.
    by_cases clean : status.shell = 0 <;> simp [clean, different]

end Handles

/-- A status that has just been taken is the one kept for its side, as it is. -/
theorem Tally.reap_status (tally : Tally) (side : Side) (status : WaitStatus) :
    ((tally.reap side status.shell).statuses.get side).toInt = status.shell := by
  -- What shells show is far below the numbers that wrap.
  have small : status.shell < 2 ^ 31 := Nat.lt_of_le_of_lt status.shell_le (by decide)
  simp only [reap, PerSide.get_set_same]
  exact Int32.toInt_ofNat_of_lt small

/-- Taking the other side's status keeps the one of a side. -/
theorem Tally.reap_other_status (tally : Tally) (side : Side) (status : Nat) :
    (tally.reap side.other status).statuses.get side = tally.statuses.get side :=
  PerSide.get_set_of_other ..

namespace Handles

variable {σ : Type} (handles : Handles σ)

/-- Statuses that result are those of the two waits, one for each side. -/
theorem play_resolve_statuses {winner : Side} {state : σ} {statuses : PerSide Int32}
    (result : (handles.play (resolve winner) state).value = .ok statuses) (side : Side) :
    ∃ status : WaitStatus, (statuses.get side).toInt = status.shell ∧
      ∀ answer, .waited side answer ∈ (handles.play (resolve winner) state).calls ↔
        answer = .ok status := by
  have different : winner ≠ winner.other := winner.other_ne.symm
  -- Without the winner's status there is no result.
  cases taken : (handles.wait winner state).1 with
  | error cause =>
    rw [handles.play_resolve_failed taken] at result
    cases result
  | ok status =>
    rw [handles.play_resolve_taken taken] at result ⊢
    revert result
    generalize handles.wait winner.other _ = last
    rcases last with ⟨answer, left⟩
    cases answer with
    | error cause => intro result; cases result
    | ok other =>
      intro result
      cases result
      -- The winner's wait was the first, and the other's the last.
      by_cases same : side = winner
      · subst same
        refine ⟨status, ?_, ?_⟩
        · rw [Tally.reap_other_status, Tally.reap_status]
        · intro answer
          by_cases clean : status.shell = 0 <;> simp [clean, different]
      · rw [Side.eq_other_of_ne same]
        refine ⟨other, Tally.reap_status .., ?_⟩
        intro answer
        by_cases clean : status.shell = 0 <;> simp [clean, different.symm]

end Handles

/-- Whoever wins, and whatever the two processes answer: the winner is waited for first, and if that
fails nothing more is done; otherwise the other side is asked to end exactly if the winner's status is
not zero, and is waited for. A refusal to end changes neither the calls nor the result. The winner is
never asked to end, nor is a side whose wait has been answered, and both statuses that result are those
that the sides' own waits gave. -/
theorem resolve_protocol {σ : Type} (handles : Handles σ) (winner : Side) (start : σ) :
    let played := handles.play (resolve winner) start
    let first := handles.wait winner start
    let ended := handles.terminate winner.other first.2
    (∀ cause, first.1 = .error cause →
      played.calls = [.waited winner (.error cause)] ∧ played.value = .error (.wait winner cause)) ∧
    (∀ status, first.1 = .ok status →
      let last := handles.wait winner.other (if status.shell = 0 then first.2 else ended.2)
      played.calls =
        .waited winner (.ok status) ::
          (if status.shell = 0 then [] else [.terminated winner.other ended.1]) ++
          [.waited winner.other last.1] ∧
      (∀ cause, last.1 = .error cause → played.value = .error (.wait winner.other cause)) ∧
      ∀ other, last.1 = .ok other → ∃ statuses, played.value = .ok statuses) ∧
    (∀ deaf : Handles σ, deaf.wait = handles.wait →
      (∀ side state, (deaf.terminate side state).2 = (handles.terminate side state).2) →
      (deaf.play (resolve winner) start).value = played.value ∧
        (deaf.play (resolve winner) start).calls.map Call.request = played.calls.map Call.request) ∧
    (∀ ending, .terminated winner ending ∉ played.calls) ∧
    Orderly played.calls ∧
    ∀ statuses, played.value = .ok statuses → ∀ side, ∃ status : WaitStatus,
      (statuses.get side).toInt = status.shell ∧
        ∀ answer, .waited side answer ∈ played.calls ↔ answer = .ok status := by
  intro played first ended
  refine ⟨?_, ?_, ?_, handles.play_resolve_spares winner start,
    handles.play_resolve_orderly winner start, fun statuses => handles.play_resolve_statuses⟩
  · -- A winner whose wait fails leaves one call and one fault.
    intro cause failed
    simp only [played, handles.play_resolve_failed failed, and_self]
  · intro status taken last
    -- All that is said of a winner whose status is taken is read off the calls and what they come to.
    have going : played = _ := handles.play_resolve_taken taken
    have valued : played.value =
        match last.1 with
        | .error cause => .error (.wait winner.other cause)
        | .ok other => .ok ((Tally.reap {} winner status.shell).reap winner.other other.shell).statuses :=
      congrArg Played.value going
    refine ⟨congrArg Played.calls going, ?_, ?_⟩
    · intro cause failed
      rw [valued, failed]
    · intro other answered
      rw [valued, answered]
      exact ⟨_, rfl⟩
  · exact fun deaf waits endings => handles.play_resolve_deaf waits endings winner start

end Umpire.Cascade
