import Umpire.Proofs.Bout.Phases

/-! Handling a side that has been started: whatever is done with its handle in whatever order, it is signalled only as
long as its status has not been taken, and then by its own number. -/

namespace Umpire.Bout

open Host (Call)

namespace Handle

/-- What is done with a handle, and what it comes to. -/
inductive Use where
  | id (answer : Option Nat)
  | wait (result : Except IoFault WaitStatus)
  | terminate (result : Except IoFault Unit)

/-- A use of a handle, and what is exchanged in it. -/
structure Deal where
  use : Use
  events : List (Answered Act.vocabulary)

/-- What has been done with a handle from the first on, the latest first, and what has become of it. The host may answer
whatever it likes. -/
inductive Handled (first : Handle) : List Deal → Handle → Prop where
  | fresh : Handled first [] first
  | id {past : List Deal} {handle : Handle} (handled : Handled first past handle) :
      Handled first (⟨.id handle.pid?, []⟩ :: past) handle
  | wait {past : List Deal} {handle next : Handle} {result : Except IoFault WaitStatus}
      {events : List (Answered Act.vocabulary)} (handled : Handled first past handle)
      (course : handle.wait.Course events (result, next)) : Handled first (⟨.wait result, events⟩ :: past) next
  | terminate {past : List Deal} {handle : Handle} {result : Except IoFault Unit}
      {events : List (Answered Act.vocabulary)} (handled : Handled first past handle)
      (course : handle.terminate.Course events result) :
      Handled first (⟨.terminate result, events⟩ :: past) handle

/-- A wait has returned a status. -/
def Reaped (status : WaitStatus) (past : List Deal) : Prop :=
  ∃ deal ∈ past, deal.use = .wait (.ok status)

/-- What a wait comes to, by the host's answer. -/
def reported : Except Errno (Option (Nat × WaitStatus)) → Except IoFault WaitStatus
  | .ok (some (_, status)) => .ok status
  | .ok none => .error (.host Errno.noChild)
  | .error errno => .error (.host errno)

/-- How a process is dealt with whose status has not been taken. -/
inductive Current (side : Side) (pid : Nat) : Deal → Prop where
  | id : Current side pid ⟨.id (some pid), []⟩
  /-- It is waited for, and no other. -/
  | wait (answer : Except Errno (Option (Nat × WaitStatus))) :
      Current side pid ⟨.wait (reported answer), [⟨.call (.reap (some pid) true), answer⟩]⟩
  /-- Its number cannot be given to a signal, and there is none. -/
  | unaddressed (high : highestPid < pid) : Current side pid ⟨.terminate (.error .pidOutOfRange), []⟩
  /-- It is sent one signal, and nobody else is. -/
  | signalled (low : pid ≤ highestPid) (answer : Except Errno Unit) :
      Current side pid ⟨.terminate (answer.mapError .host),
        [⟨.note (.signalling side pid), ()⟩, ⟨.call (.signal pid Host.Signal.term), answer⟩]⟩

/-- How a process is dealt with whose status has been taken: nothing is asked of the host any more. -/
inductive Past (status : WaitStatus) : Deal → Prop where
  | id : Past status ⟨.id none, []⟩
  | wait : Past status ⟨.wait (.ok status), []⟩
  | terminate : Past status ⟨.terminate (.error .reaped), []⟩

/-- A deal with a handle as it stands. -/
def Fits (handle : Handle) (deal : Deal) : Prop :=
  match handle.status with
  | none => Current handle.side handle.pid deal
  | some status => Past status deal

section Deals

variable {handle next : Handle} {events : List (Answered Act.vocabulary)}

/-- A handle tells its number as long as it has no status. -/
theorem fits_id (handle : Handle) : handle.Fits ⟨.id handle.pid?, []⟩ := by
  rw [Fits, pid?]
  cases handle.status with
  | none => exact .id
  | some status => exact .id

/-- A wait fits the handle, which keeps the status that it returns. -/
theorem fits_wait {result : Except IoFault WaitStatus} (course : handle.wait.Course events (result, next)) :
    handle.Fits ⟨.wait result, events⟩ ∧ next = { handle with status := result.toOption } := by
  obtain ⟨side, pid, status⟩ := handle
  rw [Fits]
  cases status with
  | some status =>
    -- A status that was taken is returned again, and the host is not asked.
    obtain ⟨rfl, value⟩ := Dialogue.course_done.mp course
    cases value
    exact ⟨.wait, rfl⟩
  | none =>
    -- Otherwise the host is asked once, and what it answers is what is returned.
    obtain ⟨answer, later, rfl, rest⟩ := Dialogue.course_request.mp course
    have comes : later = [] ∧ (result, next) = (reported answer, ⟨side, pid, (reported answer).toOption⟩) := by
      match answer with
      | .ok (some (_, status)) | .ok none | .error errno => exact Dialogue.course_done.mp rest
    obtain ⟨rfl, value⟩ := comes
    cases value
    exact ⟨.wait answer, rfl⟩

/-- Asking a process to end fits its handle. -/
theorem fits_terminate {result : Except IoFault Unit} (course : handle.terminate.Course events result) :
    handle.Fits ⟨.terminate result, events⟩ := by
  obtain ⟨side, pid, status⟩ := handle
  rw [Fits]
  cases status with
  | some status =>
    -- Once there is a status the process is gone, and nobody is signalled.
    obtain ⟨rfl, rfl⟩ := Dialogue.course_done.mp course
    exact .terminate
  | none =>
    simp only [terminate, pid?, Option.isSome_none, Bool.false_eq_true, if_false] at course
    split at course
    · rename_i high
      obtain ⟨rfl, rfl⟩ := Dialogue.course_done.mp course
      exact .unaddressed high
    · rename_i low
      -- The signal is told of first, and then sent.
      obtain ⟨_, _, rfl, told⟩ := Dialogue.course_request.mp course
      obtain ⟨answer, later, rfl, rest⟩ := Dialogue.course_request.mp told
      have comes : later = [] ∧ result = answer.mapError .host := by
        match answer with
        | .ok () | .error errno => exact Dialogue.course_done.mp rest
      obtain ⟨rfl, rfl⟩ := comes
      exact .signalled (Nat.le_of_not_lt low) answer

end Deals

section Run

variable {first handle : Handle} {past : List Deal} {status : WaitStatus}

/-- A wait has returned a status if the latest use is one that has, or an earlier one was. -/
theorem reaped_cons {deal : Deal} :
    Reaped status (deal :: past) ↔ deal.use = .wait (.ok status) ∨ Reaped status past := by
  simp [Reaped]

/-- A handle has the status that a wait has returned, and otherwise is what it was. -/
theorem status_of_handled (fresh : first.status = none) (handled : Handled first past handle) :
    handle.side = first.side ∧ handle.pid = first.pid ∧
      ∀ status, handle.status = some status ↔ Reaped status past := by
  -- Only waiting changes a handle, and it gives the handle the status that it returns.
  induction handled with
  | fresh =>
    refine ⟨rfl, rfl, fun status => ?_⟩
    simp [fresh, Reaped]
  | id handled ih | terminate handled course ih =>
    obtain ⟨side, pid, known⟩ := ih
    exact ⟨side, pid, fun status => (known status).trans (by simp [reaped_cons])⟩
  | @wait past handle next result events handled course ih =>
    obtain ⟨side, pid, known⟩ := ih
    obtain ⟨fits, rfl⟩ := fits_wait course
    refine ⟨side, pid, fun status => ?_⟩
    rw [reaped_cons, ← known status]
    constructor
    · intro kept
      cases result with
      | ok returned =>
        cases kept
        exact .inl rfl
      | error fault => cases kept
    · rintro (returned | had)
      · cases returned
        rfl
      · -- A status that was there is what the wait returns.
        rw [Fits, had] at fits
        cases fits
        rfl

/-- Each use fits the handle as it stood then. -/
theorem fits_of_handled (handled : Handled first past handle) {deal : Deal} {earlier : List Deal}
    (reached : deal :: earlier <:+ past) : ∃ before, Handled first earlier before ∧ before.Fits deal := by
  -- The use is the latest one, or one among those before.
  induction handled with
  | fresh => cases List.suffix_nil.mp reached
  | id handled ih =>
    rcases List.suffix_cons_iff.mp reached with same | further
    · cases same
      exact ⟨_, handled, fits_id _⟩
    · exact ih further
  | wait handled course ih =>
    rcases List.suffix_cons_iff.mp reached with same | further
    · cases same
      exact ⟨_, handled, (fits_wait course).1⟩
    · exact ih further
  | terminate handled course ih =>
    rcases List.suffix_cons_iff.mp reached with same | further
    · cases same
      exact ⟨_, handled, fits_terminate course⟩
    · exact ih further

end Run

/-- The only signal that is sent is one to the process itself that asks it to end. -/
theorem Current.signal {side : Side} {pid number signal : Nat} {deal : Deal} (current : Current side pid deal)
    {answer : (Call.signal number signal).Answer}
    (listed : (⟨.call (.signal number signal), answer⟩ : Answered Act.vocabulary) ∈ deal.events) :
    (∃ result, deal.use = .terminate result) ∧ number = pid ∧ signal = Host.Signal.term ∧ pid ≤ highestPid := by
  -- Only asking it to end sends anything.
  cases current with
  | id | unaddressed => cases listed
  | wait => cases List.mem_singleton.mp listed
  | signalled low =>
    rcases List.mem_cons.mp listed with same | later
    · cases same
    · cases List.mem_singleton.mp later
      exact ⟨⟨_, rfl⟩, rfl, rfl, low⟩

/-- The number of a process that can be given to a signal is positive there. -/
theorem toInt_of_addressed {pid : Nat} (positive : 0 < pid) (low : pid ≤ highestPid) :
    (Int32.ofNat pid).toInt = pid ∧ 0 < (Int32.ofNat pid).toInt := by
  -- No number of a process is so great that it would turn negative.
  have same : (Int32.ofNat pid).toInt = pid := Int32.toInt_ofNat_of_lt (Nat.lt_succ_of_le low)
  rw [same]
  exact ⟨rfl, Int.natCast_pos.mpr positive⟩

end Handle

section Launched

variable {side : Side} {contestant : Contestant} {privateEnd : Nat} {ends : Ends}
  {events : List (Answered Act.vocabulary)}

/-- Some order was answered so. -/
def Answers (started : Except IoFault Nat) (events : List (Answered Act.vocabulary)) : Prop :=
  ∃ order, (⟨.call (.spawn order), started⟩ : Answered Act.vocabulary) ∈ events

/-- The phases of a launch bring what the host has answered to an order. -/
def answered (side : Side) (contestant : Contestant) (privateEnd : Nat) (ends : Ends) :
    Phases (.recording Act.vocabulary) side contestant privateEnd ends [] (fun result events =>
      ∀ handle, result = .ok handle → handle.side = side ∧ handle.status = none ∧ Answers (.ok handle.pid) events) where
  told _ := True
  entered _ _ := True
  ordered := Answers
  orphaned _ _ _ := True
  begun result events := ∀ started, result = .ok started → Answers started events
  closed result events := ∀ started, result = .ok started → Answers started events
  files _ _ := nofun
  tells _ _ := ⟨trivial, fun _ _ _ => trivial⟩
  tellsFiles _ _ _ := ⟨trivial, fun _ _ _ => trivial⟩
  enters _ past _ _ := (Dialogue.abides_recording _ past).mono fun result _ _ => by
    cases result with
    | ok done => trivial
    | error fault => exact nofun
  -- The answer to the order is on record from here on, and all that follows comes after it.
  orders _ past _ _ := by
    refine ⟨trivial, fun started events leads => ?_⟩
    obtain rfl := leads
    exact ⟨_, List.mem_append_right past List.mem_cons_self⟩
  leaves started past ordered := (Dialogue.abides_recording _ past).mono fun result events longer => by
    have still : Answers started events := ordered.imp fun _ listed => longer.subset listed
    cases result with
    | ok done =>
      rintro _ ⟨⟩
      exact still
    | error fault =>
      cases started with
      | ok pid => trivial
      | error cause => exact nofun
  kills _ _ _ _ := ⟨trivial, fun _ _ _ => nofun⟩
  closes _ past begun := (Dialogue.abides_recording _ past).mono fun _ _ longer started same =>
    (begun started same).imp fun _ listed => longer.subset listed
  fails _ _ _ := nofun
  declines _ _ _ := nofun
  succeeds pid past closed := by
    refine ⟨trivial, fun _ events leads => ?_⟩
    obtain rfl := leads
    rintro _ ⟨⟩
    obtain ⟨order, listed⟩ := closed (.ok pid) rfl
    exact ⟨rfl, rfl, order, List.mem_append_left _ listed⟩

/-- A launch that succeeds gives a handle on the process that was started, whose status has not been taken. -/
theorem spawned_of_launch {handle : Handle}
    (course : (launch side contestant privateEnd ends).Course events (.ok handle)) :
    handle.side = side ∧ handle.status = none ∧
      ∃ order, (⟨.call (.spawn order), .ok handle.pid⟩ : Answered Act.vocabulary) ∈ events :=
  (answered side contestant privateEnd ends).launch.recorded course handle rfl

/-- Whatever is done with the handle of a side that was launched, in whatever order and number: as long as no wait has
returned a status, asking the process to end is one signal to its own number, which is positive, or none if there is no
such number for signals; from then on there is neither a number nor a signal, and each wait returns that status
again. -/
theorem signals_precede_reaping {launching : List (Answered Act.vocabulary)} {handle last : Handle}
    {past : List Handle.Deal} (launched : (launch side contestant privateEnd ends).Course launching (.ok handle))
    (positive : ∀ order pid,
      (⟨.call (.spawn order), .ok pid⟩ : Answered Act.vocabulary) ∈ launching → 0 < pid)
    (handled : Handle.Handled handle past last) :
    (∃ order, (⟨.call (.spawn order), .ok handle.pid⟩ : Answered Act.vocabulary) ∈ launching) ∧
      ∀ deal earlier, deal :: earlier <:+ past →
        ((∀ status, ¬ Handle.Reaped status earlier) → Handle.Current side handle.pid deal) ∧
        (∀ status, Handle.Reaped status earlier → Handle.Past status deal) ∧
        ∀ number signal answer, (⟨.call (.signal number signal), answer⟩ : Answered Act.vocabulary) ∈ deal.events →
          (∃ result, deal.use = .terminate result) ∧ number = handle.pid ∧ signal = Host.Signal.term ∧
            (Int32.ofNat number).toInt = number ∧ 0 < (Int32.ofNat number).toInt := by
  obtain ⟨own, fresh, order, ordered⟩ := spawned_of_launch launched
  refine ⟨⟨order, ordered⟩, fun deal earlier reached => ?_⟩
  -- What is done fits the handle as it stood, which has a status exactly if a wait has returned one.
  obtain ⟨before, brought, fits⟩ := Handle.fits_of_handled handled reached
  obtain ⟨same, number, known⟩ := Handle.status_of_handled fresh brought
  cases had : before.status with
  | none =>
    -- Not yet reaped, the process is still the handle's own.
    rw [Handle.Fits, had, same, own, number] at fits
    refine ⟨fun _ => fits, fun status reaped => ?_, fun other signal answer listed => ?_⟩
    · have kept := (known status).mpr reaped
      rw [had] at kept
      cases kept
    · obtain ⟨ends, rfl, term, low⟩ := fits.signal listed
      exact ⟨ends, rfl, term, Handle.toInt_of_addressed (positive order _ ordered) low⟩
  | some status =>
    rw [Handle.Fits, had] at fits
    have reaped := (known status).mp had
    refine ⟨fun never => absurd reaped (never status), fun other again => ?_, fun _ _ _ listed => ?_⟩
    · have kept := (known other).mpr again
      cases had.symm.trans kept
      exact fits
    · -- Nothing is exchanged any more.
      cases fits <;> cases listed

end Launched

namespace Sample

/-- What is exchanged in the launch of a side whose process gets the number 7. -/
def begun : List (Answered Act.vocabulary) :=
  [⟨.note (.starting .solution (Bytes.ofString "/a") [] 4), ()⟩, ⟨.call (.closeOnExec 4), Except.ok true⟩,
    ⟨.call (.setCloseOnExec 4 false), Except.ok ()⟩,
    ⟨.call (.spawn { words := [Bytes.ofString "/a"] }), Except.ok 7⟩, ⟨.call (.closeOnExec 4), Except.ok false⟩,
    ⟨.call (.setCloseOnExec 4 true), Except.ok ()⟩, ⟨.call (.close 4), Except.ok ()⟩,
    ⟨.note (.started .solution (some 7)), ()⟩]

/-- The process is asked to end, waited for, and asked to end again. -/
def deals : List Handle.Deal :=
  [⟨.terminate (.error .reaped), []⟩,
    ⟨.wait (.ok (.ofSignal 15)), [⟨.call (.reap (some 7) true), Except.ok (some (7, .ofSignal 15))⟩]⟩,
    ⟨.terminate (.ok ()), [⟨.note (.signalling .solution 7), ()⟩, ⟨.call (.signal 7 15), Except.ok ()⟩]⟩]

end Sample

open Sample in
/-- A process that is asked to end, then waited for and then asked to end again is signalled once. -/
theorem signals_precede_reaping_sample : ∃ last,
    (launch .solution { words := [Bytes.ofString "/a"] } 4 {}).Course begun (.ok ⟨.solution, 7, none⟩) ∧
      (∀ order pid, (⟨.call (.spawn order), .ok pid⟩ : Answered Act.vocabulary) ∈ begun → 0 < pid) ∧
      Handle.Handled ⟨.solution, 7, none⟩ deals last ∧
      (∃ order, (⟨.call (.spawn order), .ok 7⟩ : Answered Act.vocabulary) ∈ begun) ∧
      ∀ deal earlier, deal :: earlier <:+ deals →
        ((∀ status, ¬ Handle.Reaped status earlier) → Handle.Current .solution 7 deal) ∧
        (∀ status, Handle.Reaped status earlier → Handle.Past status deal) ∧
        ∀ number signal answer, (⟨.call (.signal number signal), answer⟩ : Answered Act.vocabulary) ∈ deal.events →
          (∃ result, deal.use = .terminate result) ∧ number = 7 ∧ signal = Host.Signal.term ∧
            (Int32.ofNat number).toInt = number ∧ 0 < (Int32.ofNat number).toInt := by
  have launched : (launch .solution { words := [Bytes.ofString "/a"] } 4 {}).Course begun
      (.ok ⟨.solution, 7, none⟩) :=
    .ask _ <| .ask _ <| .ask _ <| .ask _ <| .ask _ <| .ask _ <| .ask _ <| .ask _ <| .done _
  -- There is one order, and it was answered with 7.
  have positive (order : Host.Order) (pid : Nat)
      (listed : (⟨.call (.spawn order), .ok pid⟩ : Answered Act.vocabulary) ∈ begun) : 0 < pid := by
    obtain ⟨-, rfl⟩ : order = { words := [Bytes.ofString "/a"] } ∧ pid = 7 := by simpa [begun] using listed
    exact Nat.succ_pos 6
  have handled : Handle.Handled ⟨.solution, 7, none⟩ deals ⟨.solution, 7, some (.ofSignal 15)⟩ :=
    .terminate (.wait (.terminate .fresh (.ask _ <| .ask _ <| .done _)) (.ask _ <| .done _)) (.done _)
  exact ⟨_, launched, positive, handled, signals_precede_reaping launched positive handled⟩

end Umpire.Bout
