import Umpire.Proofs.Bout.Reckoning
import Umpire.Proofs.Cascade

/-! Clearing: when a bout ends, nobody is running and nothing is in hand, wherever it was broken off. -/

namespace Umpire.Bout

open Chronicle (Fits MayStart)

variable {contest : Contest} {before : Chronicle}

/-- The processes of some sides that have not been reaped. -/
def pids (handles : List Handle) : List Nat :=
  handles.filterMap Handle.pid?

/-- Sides that are let go of are killed, all of those that run. -/
theorem keeps_dropAll {handles : List Handle} (running : before.running.Perm (pids handles)) :
    (Holdings.dropAll handles).Abides (chronicleRules contest)
      (fun _ after => after = { before with running := [] }) before := by
  -- By induction on the handles, with the account as the invariant: who runs are those of the handles that are left.
  induction handles generalizing before with
  | nil =>
    show before = _
    rw [← running.eq_nil]
  | cons handle rest ih =>
    cases known : handle.pid? with
    | none =>
      -- Who has been reaped is not on the account, and is let go of without a call.
      rw [pids, List.filterMap_cons_none known] at running
      rw [Holdings.dropAll, Handle.drop, known]
      exact ih running
    | some pid =>
      rw [pids, List.filterMap_cons_some known] at running
      rw [Holdings.dropAll, Handle.drop, known]
      -- A process may be killed since it runs, and then it does not any more.
      refine .ask (running.mem_iff.mpr List.mem_cons_self) fun _ after leads => ?_
      obtain rfl : after = { before with running := before.running.erase pid } := leads
      have others := running.erase pid
      rw [List.erase_cons_head] at others
      exact @ih { before with running := before.running.erase pid } others

/-- What is in hand is on the umpire's account. -/
structure Accounted (holdings : Holdings) (chronicle : Chronicle) : Prop where
  running : chronicle.running.Perm (pids holdings.handles)
  inHand : chronicle.inHand ⊆ holdings.descriptors
  made : holdings.descriptors ⊆ chronicle.made

/-- Letting go of everything leaves nobody running and nothing in hand. -/
theorem keeps_dissolve {holdings : Holdings} (accounted : Accounted holdings before) :
    holdings.dissolve.Abides (chronicleRules contest)
      (fun _ after => after = { before with running := [], inHand := [] }) before := by
  -- The sides are killed first, which closes nothing.
  refine .seq (keeps_dropAll accounted.running) fun _ middle dropped => ?_
  obtain rfl := dropped
  have made : holdings.descriptors ⊆ ({ before with running := [] } : Chronicle).made := accounted.made
  refine (keeps_closeAll _ made).mono fun _ after closed => ?_
  rw [closed, Chronicle.close]
  congr 1
  -- Whatever is in hand is among what is closed, so that nothing stays.
  refine List.filter_eq_nil_iff.mpr fun fd listed => ?_
  rw [List.contains_iff_mem.mpr (accounted.inHand listed)]
  decide

/-- Both sides have been started, each by one order of its own, the solution first. -/
structure BothStarted (contest : Contest) (chronicle : Chronicle) (pids : PerSide Nat) : Prop where
  orders : ∃ orders : PerSide Host.Order, (∀ side, Fits contest chronicle.made side (orders.get side)) ∧
    chronicle.orders = [(orders.solution, .ok pids.solution), (orders.interactor, .ok pids.interactor)]

/-- A bout has come to its report: nothing went wrong, both read ends were watched, both sides were started and both
were reaped, the one that hung up first before the other, and the report shows what their statuses come to. -/
structure Complete (contest : Contest) (chronicle : Chronicle) (report : Report) : Prop where
  clean : chronicle.faults = []
  planned : planFault? contest = none
  watched : chronicle.watched = 2
  decided : chronicle.winner = report.winner
  reaped : ∃ (pids : PerSide Nat) (statuses : PerSide WaitStatus), BothStarted contest chronicle pids ∧
    chronicle.reaped = [report.winner, report.winner.other].map (fun side => (pids.get side, statuses.get side)) ∧
    ∀ side, (report.statuses.get side).toInt = (statuses.get side).shell

/-- How a bout ends: in a report that is complete, or in the fault of what went wrong. -/
def Concludes (contest : Contest) (chronicle : Chronicle) : Except Fault Report → Prop
  | .ok report => Complete contest chronicle report
  | .error fault => Blames contest chronicle.faults fault

section Settling

variable {handles : PerSide Handle}

/-- What taking statuses comes to on the host. -/
def Attends {α : Type} (contest : Contest) (good : α → PerSide Handle → Chronicle → Prop) (talk : Cascade.Talk α)
    (handles : PerSide Handle) (before : Chronicle) : Prop :=
  Dialogue.Abides (chronicleRules contest) (fun (out : α × PerSide Handle) after => good out.1 out.2 after)
    ((talk.answerWith attend).run handles) before

/-- One thing after another. -/
theorem Attends.seq {α β : Type} {between : α → PerSide Handle → Chronicle → Prop}
    {good : β → PerSide Handle → Chronicle → Prop} {first : Cascade.Talk α} {rest : α → Cascade.Talk β}
    (attends : Attends contest between first handles before)
    (goes : ∀ value left after, between value left after → Attends contest good (rest value) left after) :
    Attends contest good (first >>= rest) handles before := by
  rw [Attends, Dialogue.answerWith_bind, StateT.run_bind]
  exact .seq attends fun out after held => goes out.1 out.2 after held

/-- A request, and what follows on each answer to it. -/
theorem Attends.ask {β : Type} {wanted : Cascade.Request} {good : β → PerSide Handle → Chronicle → Prop}
    {rest : Cascade.Answer wanted → Cascade.Talk β}
    (attends : Dialogue.Abides (chronicleRules contest) (fun (out : Cascade.Answer wanted × PerSide Handle) after =>
      Attends contest good (rest out.1) out.2 after) (attend wanted handles) before) :
    Attends contest good (Cascade.ask wanted >>= rest) handles before :=
  .bind attends

/-- Both sides' processes are accounted for. -/
def Minded (handles : PerSide Handle) (chronicle : Chronicle) : Prop :=
  chronicle.running.Perm (pids handles.toList)

/-- A side that has not been reaped runs. -/
theorem Minded.mem_running (minded : Minded handles before) {side : Side} {pid : Nat}
    (alive : (handles.get side).pid? = some pid) : pid ∈ before.running := by
  -- Both handles are listed, so that whoever has not been reaped is on the list of those who run.
  have member : handles.get side ∈ handles.toList := by
    cases side <;> simp [PerSide.toList, PerSide.get]
  exact minded.mem_iff.mpr (List.mem_filterMap.mpr ⟨_, member, alive⟩)

/-- The processes of both sides that have not been reaped. -/
theorem pids_toList (handles : PerSide Handle) :
    pids handles.toList = handles.solution.pid?.toList ++ handles.interactor.pid?.toList := by
  rw [pids, PerSide.toList]
  -- Either side may have been reaped already.
  cases first : handles.solution.pid? <;> cases second : handles.interactor.pid? <;> simp [first, second]

/-- Who has been reaped does not run any more. -/
theorem Minded.reap (minded : Minded handles before) {side : Side} (alive : (handles.get side).status = none)
    (status : WaitStatus) :
    (before.running.erase (handles.get side).pid).Perm
      (pids (handles.set side { handles.get side with status := some status }).toList) := by
  -- Both lists are orders of the same processes, so that it is enough to take the process off the second one.
  refine (minded.erase _).trans ?_
  have known : (handles.get side).pid? = some (handles.get side).pid := by
    rw [Handle.pid?, alive]
    rfl
  rw [pids_toList, pids_toList]
  cases side with
  | solution =>
    rw [show handles.solution.pid? = some (handles.get .solution).pid from known, Option.toList_some,
      List.singleton_append, List.erase_cons_head]
    exact .refl _
  | interactor =>
    rw [show handles.interactor.pid? = some (handles.get .interactor).pid from known, Option.toList_some]
    -- The interactor is the last on the list, from which the first is taken most easily.
    refine ((List.perm_append_singleton _ _).erase _).trans ?_
    rw [List.erase_cons_head]
    exact .of_eq (List.append_nil _).symm

/-- A process that runs is waited for. -/
theorem keeps_wait {handle : Handle} (clean : before.faults = []) (alive : handle.status = none)
    (runs : handle.pid ∈ before.running) :
    handle.wait.Abides (chronicleRules contest) (fun out after =>
      match out.1 with
      | .ok status => out.2 = { handle with status := some status } ∧ after = before.reap handle.pid status
      | .error cause => out.2 = handle ∧
          after = { before with asked := before.asked + 1, faults := before.faults ++ [.wait before.due cause] })
      before := by
  rw [Handle.wait, alive]
  -- It may be waited for: nothing has gone wrong, and it runs.
  refine .ask ⟨clean, rfl, handle.pid, runs, rfl⟩ fun answer after leads => ?_
  obtain rfl := leads
  rcases answer with errno | ⟨_⟩ | ⟨pid, status⟩ <;> exact ⟨rfl, rfl⟩

/-- Statuses were taken with some outcome, or the fault is known; who runs is accounted for in either case, and
as much is in hand as before. -/
structure Taken {α : Type} (contest : Contest) (before : Chronicle) (good : α → PerSide Handle → Chronicle → Prop)
    (result : Except Fault α) (left : PerSide Handle) (after : Chronicle) : Prop where
  minded : Minded left after
  inHand : after.inHand = before.inHand
  made : after.made = before.made
  outcome :
    match result with
    | .error fault => Blames contest after.faults fault
    | .ok value => good value left after

/-- It is a side's turn to be waited for. -/
structure Waits (handles : PerSide Handle) (side : Side) (chronicle : Chronicle) : Prop where
  clean : chronicle.faults = []
  minded : Minded handles chronicle
  due : chronicle.due = side
  alive : (handles.get side).status = none

/-- A side's status was taken, and the handle keeps it. -/
structure Reaps (handles : PerSide Handle) (side : Side) (before : Chronicle) (status : WaitStatus)
    (left : PerSide Handle) (after : Chronicle) : Prop where
  left : left = handles.set side { handles.get side with status := some status }
  after : after = before.reap (handles.get side).pid status

/-- A side's status is taken when it is its turn. -/
theorem attends_take {side : Side} (waits : Waits handles side before) :
    Attends contest (Taken contest before fun shown left after => ∃ status : WaitStatus, shown = status.shell ∧
      Reaps handles side before status left after) (Cascade.take side) handles before := by
  have alive : (handles.get side).pid? = some (handles.get side).pid := by
    rw [Handle.pid?, waits.alive]
    rfl
  -- It has not been reaped, so that it runs and can be waited for.
  have runs := waits.minded.mem_running alive
  refine .ask (.seq (keeps_wait waits.clean waits.alive runs) fun out after waited => ?_)
  obtain ⟨result, handle⟩ := out
  cases result with
  | error cause =>
    obtain ⟨rfl, rfl⟩ := waited
    refine ⟨?_, rfl, rfl, ?_⟩
    · -- A wait that fails leaves the handle as it was, and is the first fault.
      show Minded (handles.set side (handles.get side)) _
      rw [PerSide.set_get]
      exact waits.minded
    · show Blames contest (before.faults ++ [.wait before.due cause]) (.wait side cause)
      rw [waits.clean, waits.due]
      exact .only _
  | ok status =>
    obtain ⟨rfl, rfl⟩ := waited
    exact keeps_tell ⟨waits.minded.reap waits.alive status, rfl, rfl, status, rfl, rfl, rfl⟩

/-- Reacting to a side's status reaps and kills nobody. -/
theorem attends_react (minded : Minded handles before) (tally : Cascade.Tally) (side : Side) (status : Nat) :
    Attends contest (fun _ left after => left = handles ∧ after = before) (Cascade.react tally side status)
      handles before := by
  rw [Cascade.react]
  -- A side that failed has the other asked to end, unless the other's status has been taken.
  split
  · split
    · exact keeps_tell ⟨rfl, rfl⟩
    · -- The other is signalled only if it has not been reaped, and then it runs.
      have asked : (handles.get side.other).terminate.Abides (chronicleRules contest)
          (fun _ after => after = before) before := by
        rw [Handle.terminate]
        split
        · exact rfl
        · rename_i pid alive
          split
          · exact rfl
          · refine keeps_tell (.ask (minded.mem_running alive) fun answer after leads => ?_)
            obtain rfl := leads
            cases answer <;> exact rfl
      -- Whatever comes of that is told at most.
      refine .ask (.seq asked fun answer after same => ?_)
      subst same
      cases answer <;> exact keeps_tell ⟨rfl, rfl⟩
  · exact ⟨rfl, rfl⟩

/-- A side's status is taken and reacted to. -/
theorem attends_round {side : Side} (waits : Waits handles side before) (tally : Cascade.Tally) :
    Attends contest (Taken contest before fun known left after => ∃ status : WaitStatus,
      known = tally.reap side status.shell ∧ Reaps handles side before status left after)
      (Cascade.round tally side) handles before := by
  -- What the wait has left is what the reaction starts from, and the reaction changes nothing of it.
  refine .seq (attends_take waits) fun result left after taken => ?_
  cases result with
  | error fault => exact ⟨taken.minded, taken.inHand, taken.made, taken.outcome⟩
  | ok shown =>
    obtain ⟨status, rfl, reaps⟩ := taken.outcome
    refine .seq (attends_react taken.minded _ side _) fun _ last after same => ?_
    obtain ⟨rfl, rfl⟩ := same
    exact ⟨taken.minded, taken.inHand, taken.made, status, rfl, reaps⟩

/-- Both statuses were taken, the winner's first, and are shown. -/
def ReapsBoth (handles : PerSide Handle) (winner : Side) (before : Chronicle) (shown : PerSide Int32)
    (after : Chronicle) : Prop :=
  ∃ statuses : PerSide WaitStatus,
    after = (before.reap (handles.get winner).pid (statuses.get winner)).reap (handles.get winner.other).pid
      (statuses.get winner.other) ∧
    ∀ side, (shown.get side).toInt = (statuses.get side).shell

/-- Two rounds that reap the winner and then the other reap both. -/
theorem Reaps.both {winner : Side} {middle after : Chronicle} {left last : PerSide Handle} {won lost : WaitStatus}
    (first : Reaps handles winner before won left middle) (second : Reaps left winner.other middle lost last after)
    (tally : Cascade.Tally) : ReapsBoth handles winner before
      ((tally.reap winner won.shell).reap winner.other lost.shell).statuses after := by
  -- The statuses by side: the winner's is the one that was taken first.
  refine ⟨.ofFn fun side => if side = winner then won else lost, ?_, fun side => ?_⟩
  · -- The first round has changed the winner's handle only.
    have other : left.get winner.other = handles.get winner.other := by rw [first.left, PerSide.get_set_other]
    rw [second.after, first.after, other]
    cases winner <;> rfl
  · by_cases same : side = winner
    · subst same
      -- The other's status was noted later, beside the winner's.
      rw [Cascade.Tally.reap_other_status, Cascade.Tally.reap_status]
      cases side <;> rfl
    · obtain rfl := Side.eq_other_of_ne same
      rw [Cascade.Tally.reap_status]
      cases winner <;> rfl

/-- Both statuses are taken, the winner's first. -/
theorem attends_resolve (contest : Contest) {winner : Side} (waits : Waits handles winner before)
    (won : before.winner = winner) (alive : (handles.get winner.other).status = none) :
    Attends contest (Taken contest before fun shown _ after => ReapsBoth handles winner before shown after)
      (Cascade.resolve winner) handles before := by
  -- Two rounds; the tally between them does not matter to what is reaped.
  have rounds : Attends contest
      (Taken contest before fun known _ after => ReapsBoth handles winner before known.statuses after)
      (Cascade.rounds {} [winner, winner.other]) handles before := by
    refine .seq (attends_round waits {}) fun result left middle first => ?_
    cases result with
    | error fault => exact ⟨first.minded, first.inHand, first.made, first.outcome⟩
    | ok known =>
      -- After the winner it is the other's turn, whose handle is as it was.
      obtain ⟨status, rfl, reaps⟩ := first.outcome
      have due : middle.due = winner.other := by
        rw [reaps.after, Chronicle.due, ← won]
        rfl
      have still : (left.get winner.other).status = none := by
        rw [reaps.left, PerSide.get_set_other]
        exact alive
      have waits : Waits left winner.other middle := ⟨reaps.after ▸ waits.clean, first.minded, due, still⟩
      refine .seq (attends_round waits _) fun result left after second => ?_
      have inHand := second.inHand.trans first.inHand
      have made := second.made.trans first.made
      cases result with
      | error fault => exact ⟨second.minded, inHand, made, second.outcome⟩
      | ok known =>
        obtain ⟨status', rfl, reaps'⟩ := second.outcome
        exact ⟨second.minded, inHand, made, reaps.both reaps' _⟩
  refine .seq rounds fun result left after taken => ?_
  cases result <;> exact ⟨taken.minded, taken.inHand, taken.made, taken.outcome⟩

end Settling

/-- A work ends well, or with the fault known; what is in hand is on account in either case. -/
def Work.Yields {α : Type} (contest : Contest) (good : α → Holdings → Chronicle → Prop) (work : Work α)
    (holdings : Holdings) (before : Chronicle) : Prop :=
  Dialogue.Abides (chronicleRules contest) (fun (out : Except Fault α × Holdings) after =>
    Accounted out.2 after ∧
      match out.1 with
      | .ok value => good value out.2 after
      | .error fault => Blames contest after.faults fault) (work holdings) before

namespace Work.Yields

variable {α β : Type} {holdings : Holdings} {good : α → Holdings → Chronicle → Prop}

/-- Two works in sequence. -/
theorem seq {better : β → Holdings → Chronicle → Prop} {work : Work α} {rest : α → Work β}
    (yields : work.Yields contest good holdings before)
    (goes : ∀ value left after, Accounted left after → good value left after →
      (rest value).Yields contest better left after) :
    (work >>= rest).Yields contest better holdings before := by
  refine Dialogue.Abides.seq yields fun out after held => ?_
  obtain ⟨result, left⟩ := out
  obtain ⟨accounted, held⟩ := held
  -- After a fault the rest is not done, so what was accounted for then is so at the end.
  cases result with
  | error fault => exact ⟨accounted, held⟩
  | ok value => exact goes value left after accounted held

/-- A fault leaves on account what was on account before. -/
theorem spoiled {fault : Fault} {after : Chronicle} (accounted : Accounted holdings before)
    (spoiled : Spoiled contest before fault after) : Accounted holdings after :=
  ⟨spoiled.running.trans accounted.running, List.Subset.trans spoiled.inHand accounted.inHand,
    List.Subset.trans accounted.made spoiled.made⟩

/-- A conduct that leaves nothing more in hand. -/
theorem ofConduct {outcome : α → Chronicle → Prop} {conduct : Conduct (Except Fault α)}
    (accounted : Accounted holdings before) (yields : conduct.Yields contest before outcome before)
    (keeps : ∀ value after, outcome value after → Accounted holdings after) :
    (Work.ofConduct conduct).Yields contest (fun value left after => left = holdings ∧ outcome value after)
      holdings before := by
  refine Dialogue.Abides.seq yields fun result after held => ?_
  -- A fault of the conduct spoils the account, but everything in hand was there before.
  cases result with
  | error fault => exact ⟨spoiled accounted held, held.blames⟩
  | ok value => exact ⟨keeps value after held, rfl, held⟩

/-- A conduct whose descriptors are taken in hand. -/
theorem gain {conduct : Conduct (Except Fault α)} {fds : α → List Nat} (accounted : Accounted holdings before)
    (gains : conduct.Gains contest fds before) :
    (Work.gain conduct fds).Yields contest (fun value left after => left = holdings.keep (fds value) ∧
      ∃ made, (∀ fd, fd ∈ fds value ↔ fd ∈ made) ∧ after = before.gain made) holdings before := by
  refine Dialogue.Abides.bind (.seq gains fun result after held => ?_)
  cases result with
  | error fault => exact ⟨spoiled accounted held, held.blames⟩
  | ok value =>
    -- What was made is taken in hand at once, so that nothing can be lost in between.
    obtain ⟨made, same, rfl⟩ := held
    refine ⟨⟨accounted.running, ?_, ?_⟩, rfl, made, same, rfl⟩
    · exact List.append_subset.mpr ⟨List.subset_append_of_subset_left _ accounted.inHand,
        List.subset_append_of_subset_right _ fun fd listed => (same fd).mpr listed⟩
    · exact List.append_subset.mpr ⟨List.subset_append_of_subset_left _ accounted.made,
        List.subset_append_of_subset_right _ fun fd listed => (same fd).mp listed⟩

/-- Telling something changes nothing. -/
theorem note (accounted : Accounted holdings before) (entry : Entry) :
    (Work.note entry).Yields contest (fun _ left after => left = holdings ∧ after = before) holdings before :=
  keeps_tell ⟨accounted, rfl, rfl⟩

end Work.Yields

section Course

variable {holdings : Holdings} {pipes : PerSide SignalPipe} {wiring : Wiring}

/-- Giving descriptors up leaves the others on account. -/
theorem Accounted.without (accounted : Accounted holdings before) (fds : List Nat) :
    Accounted (holdings.without fds) (before.close fds) := by
  -- Whatever is still in hand was in hand and was not given up.
  refine ⟨accounted.running, fun fd left => ?_, fun fd left => accounted.made (List.mem_filter.mp left).1⟩
  obtain ⟨listed, kept⟩ := List.mem_filter.mp left
  exact List.mem_filter.mpr ⟨accounted.inHand listed, kept⟩

/-- What a bout comes to before the first launch. -/
structure Prepared (holdings : Holdings) (pipes : PerSide SignalPipe) (chronicle : Chronicle) : Prop
    extends Fresh chronicle where
  watched : chronicle.watched = 2
  asked : chronicle.asked = 0
  reaped : chronicle.reaped = []
  handles : holdings.handles = []
  ends : ∀ side, (pipes.get side).writeEnd ∈ chronicle.made

/-- Making more descriptors leaves it so. -/
theorem Prepared.gain (prepared : Prepared holdings pipes before) (fds made : List Nat) :
    Prepared (holdings.keep fds) pipes (before.gain made) :=
  ⟨prepared.toFresh.gain made, prepared.watched, prepared.asked, prepared.reaped, prepared.handles,
    fun side => List.mem_append_left _ (prepared.ends side)⟩

/-- Both signalling pipes are made and watched. -/
theorem yields_arm :
    arm.Yields contest (fun pipes left after => Prepared left pipes after) {} {} := by
  -- A bout begins with nothing in hand and nothing on account.
  have nothing : Accounted {} {} := ⟨.refl _, .refl _, .refl _⟩
  have fresh : Fresh {} := ⟨rfl, rfl⟩
  refine .seq (.gain nothing (gains_create contest fresh .solution)) fun solution left middle accounted made => ?_
  obtain ⟨rfl, fds, same, rfl⟩ := made
  refine .seq (.gain accounted (gains_create contest (fresh.gain fds) .interactor))
    fun interactor left middle accounted made => ?_
  obtain ⟨rfl, fds', same', rfl⟩ := made
  -- How many are watched is on no account, so that watching keeps it.
  have kept {chronicle : Chronicle} {holdings : Holdings} (accounted : Accounted holdings chronicle) (more : Nat) :
      Accounted holdings { chronicle with watched := more } :=
    ⟨accounted.running, accounted.inHand, accounted.made⟩
  have fresh' : Fresh (({} : Chronicle).gain fds |>.gain fds') := (fresh.gain fds).gain fds'
  have forth := yields_watch contest fresh' solution
  refine .seq (.ofConduct accounted forth fun _ _ same => same ▸ kept accounted _)
    fun _ left middle accounted watched => ?_
  obtain ⟨rfl, rfl⟩ := watched
  have fresh'' : Fresh { ({} : Chronicle).gain fds |>.gain fds' with watched := 1 } := ⟨rfl, rfl⟩
  have back := yields_watch contest fresh'' interactor
  refine .seq (.ofConduct accounted back fun _ _ same => same ▸ kept accounted _)
    fun _ left middle accounted watched => ?_
  obtain ⟨rfl, rfl⟩ := watched
  refine ⟨accounted, ⟨fresh'.clean, fresh'.first⟩, rfl, rfl, rfl, rfl, fun side => ?_⟩
  cases side with
  | solution => exact List.mem_append_left _ ((same _).mp (by simp [PerSide.get]))
  | interactor => exact List.mem_append_right _ ((same' _).mp (by simp [PerSide.get]))

/-- A side is launched: its handle is on account, and what it was given is not in hand any more. -/
theorem yields_launchSide {side : Side} (accounted : Accounted holdings before) (awaits : Awaits contest before side)
    (own : (pipes.get side).writeEnd ∈ before.made) (wired : wiring.toList ⊆ before.made) :
    (launchSide contest pipes wiring side).Yields contest (fun handle left after => handle.status = none ∧
      left.handles = holdings.handles ++ [handle] ∧ ∃ order closed, Fits contest before.made side order ∧
        after = (before.after (.call (.spawn order)) (.ok handle.pid)).close closed) holdings before := by
  -- A side's ends are among those of the wiring, all of which were made.
  have given : (wiring.take side).1.toList ⊆ before.made := by
    refine fun fd listed => wired ?_
    cases side
    · exact List.mem_append_left _ listed
    · exact List.mem_append_right _ listed
  let closed := (pipes.get side).writeEnd :: (wiring.take side).1.toList
  -- What the launch is given leaves the hands first; the launch closes it on every path.
  have hands : Dialogue.Abides (chronicleRules contest)
      (fun (out : Except Fault Unit × Holdings) after => out = (.ok (), holdings.without closed) ∧ after = before)
      (Work.handOver closed holdings) before := ⟨rfl, rfl⟩
  refine Dialogue.Abides.seq hands fun out middle handed => ?_
  obtain ⟨rfl, rfl⟩ := handed
  refine Dialogue.Abides.bind (.seq (reckoning _ awaits own given).launch fun result after held => ?_)
  have kept := accounted.without closed
  cases result with
  | error fault => exact ⟨Work.Yields.spoiled kept held, held.blames⟩
  | ok handle =>
    obtain ⟨alive, order, fits, rfl⟩ := held
    refine ⟨⟨?_, kept.inHand, kept.made⟩, alive, rfl, order, closed, fits, rfl⟩
    have known : handle.pid? = some handle.pid := by
      rw [Handle.pid?, alive]
      rfl
    -- The new process is the last of those who run, as its handle is the last.
    show (middle.running ++ [handle.pid]).Perm (pids (holdings.handles ++ [handle]))
    rw [pids, List.filterMap_append, List.filterMap_cons_some known]
    exact accounted.running.append_right _

/-- Both sides have been started, and nobody has been waited for. -/
structure BothLaunched (contest : Contest) (holdings : Holdings) (handles : PerSide Handle) (chronicle : Chronicle) :
    Prop where
  clean : chronicle.faults = []
  started : BothStarted contest chronicle (handles.map Handle.pid)
  watched : chronicle.watched = 2
  asked : chronicle.asked = 0
  reaped : chronicle.reaped = []
  listed : holdings.handles = handles.toList
  alive : ∀ side, (handles.get side).status = none
  planned : planFault? contest = none

/-- Two orders were given. -/
theorem BothStarted.length {pids : PerSide Nat} (started : BothStarted contest before pids) :
    before.orders.length = 2 := by
  obtain ⟨orders, -, known⟩ := started.orders
  rw [known]
  rfl

/-- A bout whose sides are launched is complete once both have been reaped. -/
theorem BothLaunched.complete {handles : PerSide Handle} {shown : PerSide Int32} {after : Chronicle}
    (launched : BothLaunched contest holdings handles before)
    (reaps : ReapsBoth handles before.winner before shown after) : Complete contest after ⟨before.winner, shown⟩ := by
  obtain ⟨statuses, rfl, shows⟩ := reaps
  refine ⟨launched.clean, launched.planned, launched.watched, rfl, handles.map Handle.pid, statuses,
    ⟨launched.started.orders⟩, ?_, shows⟩
  -- Nobody had been reaped before the two.
  show (before.reaped ++ [_]) ++ [_] = _
  rw [launched.reaped]
  cases before.winner <;> rfl

/-- The anchors are closed. -/
theorem yields_release {handles : PerSide Handle} {fds : List Nat} (accounted : Accounted holdings before)
    (launched : BothLaunched contest holdings handles before) (made : fds ⊆ before.made) :
    (Work.release fds).Yields contest (fun _ left after => BothLaunched contest left handles after) holdings
      before := by
  refine Dialogue.Abides.bind (.bind (.seq (keeps_closeAll fds made) fun _ after closed => ?_))
  -- Closing takes the anchors from what is in hand, and nothing else is changed.
  subst closed
  exact ⟨accounted.without fds, launched.clean, ⟨launched.started.orders⟩, launched.watched, launched.asked,
    launched.reaped, launched.listed, launched.alive, launched.planned⟩

/-- It is known who hung up first, or the fault is. -/
theorem yields_firstHangUp (contest : Contest) (pipes : PerSide SignalPipe) (clean : before.faults = [])
    (both : before.orders.length = 2) :
    (firstHangUp pipes).Yields contest before (fun winner after => after = { before with winner := winner })
      before := by
  refine .ask ⟨clean, both⟩ fun answer after leads => ?_
  obtain rfl := leads
  cases answer with
  | error fault =>
    obtain ⟨fd, errno⟩ := fault
    -- The fault is the only one, and nothing else has changed.
    refine .only clean ?_ .rfl (.refl _) (.refl _)
    show before.faults ++ [_] = before.faults ++ [_]
    simp only [List.head?_cons, Option.some.injEq, eq_comm]
  | ok hungUp =>
    -- The solution wins whenever it has hung up, whether the other has or not.
    have won : (Race.Verdict.ofHangUps ⟨hungUp.headD false, (hungUp.drop 1).headD false⟩).winner =
        if hungUp.headD false then .solution else .interactor := by
      rw [Race.Verdict.ofHangUps]
      split <;> rfl
    have told := congrArg (fun winner => { before with winner }) won.symm
    dsimp only
    split
    · exact keeps_tell told
    · exact told

/-- Both statuses are taken and the bout is complete, or the fault is known. -/
theorem yields_settle {winner : Side} {handles : PerSide Handle} (accounted : Accounted holdings before)
    (launched : BothLaunched contest holdings handles before) (won : before.winner = winner) :
    (settle winner handles).Yields contest (fun statuses _ after => Complete contest after ⟨winner, statuses⟩)
      holdings before := by
  subst won
  have minded : Minded handles before := by
    rw [Minded, ← launched.listed]
    exact accounted.running
  -- Nobody has been waited for, so that it is the winner's turn.
  have due : before.due = before.winner := by rw [Chronicle.due, if_pos launched.asked]
  have resolves := attends_resolve contest ⟨launched.clean, minded, due, launched.alive _⟩ rfl (launched.alive _)
  refine Dialogue.Abides.seq resolves fun out after taken => ?_
  obtain ⟨result, left⟩ := out
  have accounted : Accounted { holdings with handles := left.toList } after :=
    ⟨taken.minded, taken.inHand ▸ accounted.inHand, taken.made ▸ accounted.made⟩
  cases result with
  | error fault => exact ⟨accounted, taken.outcome⟩
  | ok statuses => exact ⟨accounted, launched.complete taken.outcome⟩

/-- It is the solution's turn before the first launch. -/
theorem Prepared.awaits (prepared : Prepared holdings pipes before) : Awaits contest before .solution where
  -- Nothing has been handed on yet, so the first turn is due.
  clean := prepared.clean
  turn := by rw [prepared.first]; rfl
  ready _ fits := .solution prepared.first fits
  planned fault dirty := by rw [planFault?, dirty]

/-- Once the solution has been launched, it is the interactor's turn. -/
theorem Prepared.awaits_interactor (prepared : Prepared holdings pipes before) {order : Host.Order} {pid : Nat}
    (fits : Fits contest before.made .solution order) (closed : List Nat) :
    Awaits contest ((before.after (.call (.spawn order)) (.ok pid)).close closed) .interactor where
  clean := prepared.clean
  turn := by
    -- One order has been given.
    show sideAfter (before.orders ++ [_]).length = _
    rw [prepared.first]
    rfl
  ready other fits' := by
    -- The solution's was the first one.
    have one : ((before.after (.call (.spawn order)) (.ok pid)).close closed).orders = [(order, .ok pid)] := by
      show before.orders ++ [_] = [_]
      rw [prepared.first, List.nil_append]
    exact .interactor one fits fits'
  planned fault dirty := by rw [planFault?, fits.redirects, dirty]

/-- From the time that both sides have been started, a bout ends well, or with the fault known. -/
theorem yields_decide {handles : PerSide Handle} {anchors : List Nat} (accounted : Accounted holdings before)
    (launched : BothLaunched contest holdings handles before) (made : anchors ⊆ before.made) :
    Work.Yields contest (fun report _ after => Complete contest after report) (do
      Work.release anchors
      Work.note .bothRunning
      let winner ← Work.ofConduct (firstHangUp pipes)
      Work.note (.finishedFirst winner)
      let statuses ← settle winner handles
      return (⟨winner, statuses⟩ : Report)) holdings before := by
  -- The acts in their order, and what each leaves for the next.
  refine .seq (yields_release accounted launched made) fun _ left middle accounted launched => ?_
  refine .seq (.note accounted _) fun _ left middle accounted same => ?_
  obtain ⟨rfl, rfl⟩ := same
  have hangUp := yields_firstHangUp contest pipes launched.clean launched.started.length
  -- To decide takes nothing in hand and puts nothing away.
  have kept : ∀ winner after, after = { middle with winner } → Accounted left after :=
    fun _ _ same => same ▸ ⟨accounted.running, accounted.inHand, accounted.made⟩
  refine .seq (.ofConduct accounted hangUp kept) fun winner left after accounted same => ?_
  obtain ⟨rfl, rfl⟩ := same
  refine .seq (.note accounted _) fun _ left after accounted same => ?_
  obtain ⟨rfl, rfl⟩ := same
  have launched : BothLaunched contest left handles { middle with winner } :=
    { launched with started := ⟨launched.started.orders⟩ }
  refine .seq (yields_settle accounted launched rfl) fun statuses left after accounted ended => ?_
  exact ⟨accounted, ended⟩

/-- From the time that everything is prepared, a bout ends well, or with the fault known. -/
theorem yields_launches {anchors : List Nat} (accounted : Accounted holdings before)
    (prepared : Prepared holdings pipes before) (wired : wiring.toList ⊆ before.made)
    (made : anchors ⊆ before.made) :
    Work.Yields contest (fun report _ after => Complete contest after report) (do
      let solution ← launchSide contest pipes wiring .solution
      let interactor ← launchSide contest pipes wiring .interactor
      Work.release anchors
      Work.note .bothRunning
      let winner ← Work.ofConduct (firstHangUp pipes)
      Work.note (.finishedFirst winner)
      let statuses ← settle winner ⟨solution, interactor⟩
      return (⟨winner, statuses⟩ : Report)) holdings before := by
  -- The solution first; what its launch leaves is what the interactor's needs.
  refine .seq (yields_launchSide accounted prepared.awaits (prepared.ends .solution) wired)
    fun solution left middle accounted launched => ?_
  obtain ⟨alive, handles, order, closed, fits, rfl⟩ := launched
  refine .seq (yields_launchSide accounted (prepared.awaits_interactor fits closed) (prepared.ends .interactor) wired)
    fun interactor last middle accounted launched => ?_
  obtain ⟨alive', handles', order', closed', fits', rfl⟩ := launched
  refine yields_decide accounted ⟨prepared.clean, ⟨⟨order, order'⟩, ?_, ?_⟩, prepared.watched, prepared.asked,
    prepared.reaped, ?_, ?_, ?_⟩ made
  · intro side
    cases side <;> assumption
  · -- There were no orders before these two.
    show (before.orders ++ [_]) ++ [_] = _
    rw [prepared.first]
    rfl
  · rw [handles', handles, prepared.handles]
    rfl
  · intro side
    cases side <;> assumption
  · rw [planFault?, fits.redirects, fits'.redirects]

/-- The work of a bout ends well, or with the fault known. -/
theorem yields_work : (work contest).Yields contest
    (fun report _ after => Complete contest after report) {} {} := by
  refine .seq yields_arm fun pipes left armed accounted prepared => ?_
  refine .seq (.gain accounted (gains_wiring contest prepared.toFresh)) fun wiring left wired accounted gained => ?_
  obtain ⟨rfl, fds, ends, rfl⟩ := gained
  -- The wiring and the anchors add to what was made and take nothing away, so that the bout is prepared still.
  have prepared := prepared.gain wiring.toList fds
  refine .seq (.gain accounted (gains_anchors contest prepared.toFresh))
    fun anchors left anchored accounted gained => ?_
  obtain ⟨rfl, fds', same, rfl⟩ := gained
  refine yields_launches accounted (prepared.gain anchors fds') ?_ ?_
  · exact fun fd listed => List.mem_append_left _ (List.mem_append_right _ ((ends fd).mp listed))
  · exact fun fd listed => List.mem_append_right _ ((same fd).mp listed)

/-- A bout ends with nobody running and nothing in hand, and as it has to by what went wrong. -/
theorem abides_chronicle : (run contest).Abides (chronicleRules contest) (fun result after =>
    after.running = [] ∧ after.inHand = [] ∧ Concludes contest after result) {} := by
  refine .seq yields_work fun out after held => ?_
  obtain ⟨result, holdings⟩ := out
  obtain ⟨accounted, held⟩ := held
  -- However the work has ended, what it leaves is on account, and so is let go of.
  refine .seq (keeps_dissolve accounted) fun _ last dissolved => ?_
  subst dissolved
  refine ⟨rfl, rfl, ?_⟩
  cases result with
  | error fault => exact held
  | ok report => exact ⟨held.clean, held.planned, held.watched, held.decided, held.reaped.imp fun _ => by
      rintro ⟨statuses, started, rest⟩
      exact ⟨statuses, ⟨started.orders⟩, rest⟩⟩

end Course

end Umpire.Bout
