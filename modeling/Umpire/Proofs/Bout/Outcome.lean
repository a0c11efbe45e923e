import Umpire.Proofs.Bout.Clearing

/-! The outcome of a bout under every pattern of failures: which fault it ends in, and that no side outlives
it. -/

namespace Umpire.Bout

open Chronicle (Fits MayStart)

variable {contest : Contest}

/-- What is exchanged in a bout. -/
abbrev Event := Answered Act.vocabulary

/-- An exchange after which a process is not the umpire's to end any more: its status was taken, or it was
killed. -/
def Event.Ends (pid : Nat) : Event → Prop
  | ⟨.call (.reap child _), answer⟩ => child = some pid ∧ ∃ status, answer = .ok (some status)
  | ⟨.call (.signal target number), _⟩ => target = pid ∧ number = Host.Signal.kill
  | _ => False

namespace Chronicle

/-- What went wrong stays known. -/
theorem faults_after (chronicle : Chronicle) (act : Act) (answer : act.Answer) :
    chronicle.faults <+: (chronicle.after act answer).faults := by
  -- No change to the account touches what went wrong; a failure is added at the end.
  have same : (chronicle.changed act answer).faults = chronicle.faults := by
    unfold changed
    split <;> first | rfl | (split <;> rfl)
  rw [after]
  split
  · exact same ▸ List.prefix_refl _
  · exact List.prefix_append _ _

/-- Who runs goes on running until it is ended. -/
theorem mem_running_after {chronicle : Chronicle} {event : Event} {pid : Nat} (running : pid ∈ chronicle.running)
    (lasts : ¬ event.Ends pid) : pid ∈ (chronicle.after event.request event.answer).running := by
  obtain ⟨act, answer⟩ := event
  -- Only a status and a kill take anybody off, and then it is the one that they are about.
  have kept : pid ∈ (chronicle.changed act answer).running := by
    unfold changed
    split <;> try exact running
    · exact List.mem_append_left _ running
    · rename_i child _ number status
      have other : pid ≠ child := fun same => lasts ⟨same ▸ rfl, (number, status), rfl⟩
      exact (List.mem_erase_of_ne other).mpr running
    · rename_i target number _
      split
      · rename_i kills
        have other : pid ≠ target := fun same => lasts ⟨same.symm, kills⟩
        exact (List.mem_erase_of_ne other).mpr running
      · exact running
  -- A fault that is noted leaves who runs as it is.
  rw [after]
  split <;> exact kept

/-- Who runs at some time and does not in the end was ended in between. -/
theorem ends_of_running {chronicle : Chronicle} {events : List Event} {pid : Nat}
    (running : pid ∈ chronicle.running)
    (alone : (Answered.digest (S := Act.vocabulary) after chronicle events).running = []) :
    ∃ event ∈ events, event.Ends pid := by
  -- By induction on the exchanges: the first one ends the process, or it runs on and is ended by a later one.
  induction events generalizing chronicle with
  | nil =>
    rw [show chronicle.running = [] from alone] at running
    cases running
  | cons event rest ih =>
    by_cases ends : event.Ends pid
    · exact ⟨event, List.mem_cons_self, ends⟩
    · obtain ⟨later, listed, ends⟩ := ih (mem_running_after running ends) alone
      exact ⟨later, List.mem_cons_of_mem _ listed, ends⟩

end Chronicle

/-- What holds of a bout's exchanges and its result, whichever of its acts failed. -/
structure Orderly (contest : Contest) (events : List Event) (result : Except Fault Report) : Prop where
  /-- There is a report only if nothing went wrong, and then both sides were watched, started and reaped, with the
  statuses that it shows; else the bout ends in the fault of what went wrong. -/
  concludes : Concludes contest (Chronicle.ofEvents events) result
  /-- Whoever was started is reaped or killed afterwards. -/
  ends : ∀ earlier order pid later, events = earlier ++ ⟨.call (.spawn order), .ok pid⟩ :: later →
    ∃ event ∈ later, Event.Ends pid event
  /-- Nobody is signalled but who was started and has been neither reaped nor killed. -/
  spares : ∀ earlier pid number answer later, events = earlier ++ ⟨.call (.signal pid number), answer⟩ :: later →
    pid ∈ (Chronicle.ofEvents earlier).running
  /-- Sides are started only while nothing is wrong: the solution first, and the interactor once the solution
  has been started. -/
  starts : ∀ earlier order started later, events = earlier ++ ⟨.call (.spawn order), started⟩ :: later →
    (Chronicle.ofEvents earlier).faults = [] ∧ MayStart contest (Chronicle.ofEvents earlier) order
  /-- What was made has been closed. -/
  closes : (Chronicle.ofEvents events).inHand = []

/-- The chronicle of a course that goes on. -/
theorem Chronicle.ofEvents_append (earlier later : List Event) :
    ofEvents (earlier ++ later) = Answered.digest (S := Act.vocabulary) after (ofEvents earlier) later :=
  List.foldl_append

/-- A bout that is held in whatever surroundings comes to an end, and whatever fails in it, it ends in the fault
of what failed first and leaves no side running: each one that was started is reaped or killed before the end,
and nobody else is signalled. The interactor is not started unless the solution has been, and no side is
started twice. It ends in a report only if nothing failed and both sides were watched, started and reaped. -/
theorem no_side_outlives_bout (contest : Contest) (host : Surroundings Act.vocabulary) :
    let bout := (run contest).hold host []
    Orderly contest bout.1 bout.2 := by
  intro bout
  -- The bout is held to its end, so that it takes a course, and what the rules ask holds all along it.
  have course : (run contest).Course bout.1 bout.2 := (run contest).course_hold host []
  obtain ⟨⟨running, inHand, concludes⟩, may⟩ := abides_chronicle.course course
  refine ⟨concludes, fun earlier order pid later cut => ?_, fun earlier pid number answer later cut => ?_,
    fun earlier order started later cut => ?_, inHand⟩
  · -- A process that is started is on the account right then, and nobody is at the end.
    have started : pid ∈ ((Chronicle.ofEvents earlier).after (.call (.spawn order)) (.ok pid)).running :=
      List.mem_append_right _ List.mem_cons_self
    have alone : (Chronicle.ofEvents bout.1).running = [] := running
    rw [cut, Chronicle.ofEvents_append] at alone
    exact Chronicle.ends_of_running started alone
  · exact may earlier _ later cut
  · exact may earlier _ later cut

/-- The answer to an act by a host that can do nothing. -/
def Act.refused : (act : Act) → act.Answer
  | .note _ | .call (.giveUp _) => ()
  | .call .clock | .call (.setMask _) | .call (.setLimit _) => (0 : Nat)
  | .call .takeSignal => none
  | .call .words | .call .environment => []
  | .call .identity => (1, 0)
  | .call (.action _) => Host.Action.standard
  | .call (.exec ..) => Errno.noEntry
  | .call (.spawn _) => .error (.host Errno.noEntry)
  | .call (.hangUp ..) => .error (0, Errno.noEntry)
  -- All that can fail does.
  | .call .pipe | .call (.openFile ..) | .call (.close _) | .call (.duplicateTo ..)
  | .call (.duplicateFrom ..) | .call (.closeOnExec _) | .call (.setCloseOnExec ..) | .call (.read ..)
  | .call (.goBack ..) | .call (.write ..) | .call (.info ..) | .call (.list _) | .call (.readLink _)
  | .call (.create ..) | .call (.setMode ..) | .call (.remove _) | .call (.removeDirectory _)
  | .call (.rename ..) | .call (.link ..) | .call (.enterDirectory _) | .call .fork | .call (.reap ..)
  | .call (.signal ..) | .call .leadGroup | .call (.signalGroup ..) | .call (.setAction ..)
  | .call (.sleep _) | .call (.watch _) => .error Errno.noEntry

/-- A host that starts one process, and can do nothing about a second. -/
def lonely : Surroundings Act.vocabulary := fun past act =>
  match act with
  | .call .pipe => .ok (2 * past.length, 2 * past.length + 1)
  | .call (.watch _) | .call (.close _) | .call (.setCloseOnExec ..) => .ok ()
  | .call (.closeOnExec _) => .ok true
  | .call (.spawn _) => if (Chronicle.ofEvents past).orders.isEmpty then .ok 7 else .error (.host Errno.noEntry)
  | act => act.refused

/-- A contest of two programs that are given no files. -/
def plainContest : Contest :=
  let contestant := Contestant.mk [Bytes.ofString "a"] none none none
  ⟨⟨contestant, contestant⟩, false, none⟩

/-- Where the interactor cannot be started, the bout ends in that fault and the solution is killed. -/
theorem no_side_outlives_bout_of_lonely_host :
    let bout := (run plainContest).hold lonely []
    Orderly plainContest bout.1 bout.2 ∧ bout.2 = .error (.launch .interactor (.host Errno.noEntry)) ∧
      ⟨.call (.signal 7 Host.Signal.kill), .error Errno.noEntry⟩ ∈ bout.1 := by
  intro bout
  refine ⟨no_side_outlives_bout plainContest lonely, rfl, ?_⟩
  -- It is done once the second launch has given up all that it was handed.
  have killed : bout.1[29]? = some ⟨.call (.signal 7 Host.Signal.kill), .error Errno.noEntry⟩ := rfl
  exact List.mem_of_getElem? killed

end Umpire.Bout
