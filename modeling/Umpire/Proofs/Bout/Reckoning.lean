import Umpire.Proofs.Bout.Chronicle
import Umpire.Proofs.Bout.Phases

/-! Reckoning: whatever the umpire is answered, it gives back what it has in hand when something fails, and
the fault that it comes to is the first. -/

namespace Umpire.Bout

open Chronicle (Fits MayStart)

variable {contest : Contest} {base before : Chronicle}

namespace Chronicle

/-- Descriptors that are made one after the other are made together. -/
theorem gain_gain (chronicle : Chronicle) (fds more : List Nat) :
    (chronicle.gain fds).gain more = chronicle.gain (fds ++ more) := by
  simp only [gain, List.append_assoc]

/-- Gaining nothing changes nothing. -/
theorem gain_nil (chronicle : Chronicle) : chronicle.gain [] = chronicle := by
  simp only [gain, List.append_nil]

/-- Closing one after the other is closing all. -/
theorem close_close (chronicle : Chronicle) (fds more : List Nat) :
    (chronicle.close fds).close more = chronicle.close (fds ++ more) := by
  simp only [close, List.filter_filter]
  congr 1
  -- A descriptor is left by both if it is in neither list.
  refine List.filter_congr fun fd _ => ?_
  rw [List.contains_append, Bool.not_or, Bool.and_comm]

/-- Closing nothing changes nothing. -/
theorem close_nil (chronicle : Chronicle) : chronicle.close [] = chronicle := by
  have whole : (chronicle.inHand.filter fun fd => !([] : List Nat).contains fd) = chronicle.inHand :=
    List.filter_eq_self.mpr fun _ _ => rfl
  rw [close, whole]

/-- What is gained is the first that is in hand again once it is closed. -/
theorem gain_close_inHand_subset (chronicle : Chronicle) {fds closed : List Nat} (covers : fds ⊆ closed) :
    ((chronicle.gain fds).close closed).inHand ⊆ chronicle.inHand := by
  intro fd left
  obtain ⟨listed, kept⟩ := List.mem_filter.mp left
  -- What is left and had been gained would have been closed.
  rcases List.mem_append.mp listed with there | gained
  · exact there
  · rw [List.contains_iff_mem.mpr (covers gained)] at kept
    cases kept

end Chronicle

/-- Something failed: it is known which fault it comes to, and nothing more is running or in hand than there
was. -/
structure Spoiled (contest : Contest) (before : Chronicle) (fault : Fault) (after : Chronicle) : Prop where
  blames : Blames contest after.faults fault
  running : after.running.Perm before.running
  inHand : after.inHand ⊆ before.inHand
  made : before.made ⊆ after.made

/-- What failed is the only thing that went wrong. -/
theorem Spoiled.only {after : Chronicle} {fault : Fault} (clean : before.faults = [])
    (faults : after.faults = before.faults ++ [fault]) (running : after.running.Perm base.running)
    (inHand : after.inHand ⊆ base.inHand) (made : base.made ⊆ after.made) : Spoiled contest base fault after := by
  refine ⟨?_, running, inHand, made⟩
  -- Before it nothing had gone wrong.
  rw [faults, clean]
  exact .only fault

/-- A conduct ends well, or in a fault with nothing more in hand than there was at some point before. -/
def Conduct.Yields {α : Type} (contest : Contest) (base : Chronicle) (good : α → Chronicle → Prop)
    (conduct : Conduct (Except Fault α)) (before : Chronicle) : Prop :=
  conduct.Abides (chronicleRules contest) (fun result after =>
    match result with
    | .ok value => good value after
    | .error fault => Spoiled contest base fault after) before

/-- A conduct makes some descriptors and does nothing else, or ends in a fault with nothing more in hand. -/
def Conduct.Gains {α : Type} (contest : Contest) (fds : α → List Nat) (conduct : Conduct (Except Fault α))
    (before : Chronicle) : Prop :=
  conduct.Yields contest before (fun value after => ∃ made,
    (∀ fd, fd ∈ fds value ↔ fd ∈ made) ∧ after = before.gain made) before

/-- Telling something changes nothing. -/
theorem keeps_tell {β : Type} {good : β → Chronicle → Prop} {entry : Entry} {rest : Unit → Conduct β}
    (goes : (rest ()).Abides (chronicleRules contest) good before) :
    Dialogue.Abides (chronicleRules contest) good (tell entry >>= rest) before := by
  -- The chronicle only folds calls.
  refine .ask trivial fun _ after leads => ?_
  obtain rfl := leads
  exact goes

/-- Descriptors of the umpire's making can be closed. -/
theorem keeps_closeAll (fds : List Nat) (made : fds ⊆ before.made) :
    (closeAll fds).Abides (chronicleRules contest) (fun _ after => after = before.close fds) before := by
  -- By induction on the list; closing one makes nothing, so that the others may be closed still.
  induction fds generalizing before with
  | nil => exact before.close_nil.symm
  | cons fd rest ih =>
    obtain ⟨first, others⟩ := List.cons_subset.mp made
    refine .ask first fun _ after leads => ?_
    obtain rfl : after = before.close [fd] := leads
    refine (@ih (before.close [fd]) others).mono fun _ last closed => ?_
    rw [closed, Chronicle.close_close, List.singleton_append]

namespace Wiring

/-- Nothing carries yet what a side writes to the other. -/
def Free (wiring : Wiring) (writer : Side) : Prop :=
  (wiring.ends.get writer).stdout = none ∧ (wiring.ends.get writer.other).stdin = none

/-- A pipe from a side to the other adds its two ends. -/
theorem mem_toList_join {wiring : Wiring} {writer : Side} (free : wiring.Free writer) {readEnd writeEnd fd : Nat} :
    fd ∈ (wiring.join writer readEnd writeEnd).toList ↔ fd ∈ wiring.toList ∨ fd = readEnd ∨ fd = writeEnd := by
  obtain ⟨stdout, stdin⟩ := free
  -- Each end goes to a place that was free, so that no other is lost.
  cases writer <;>
    simp_all [toList, Ends.toList, join, PerSide.set, PerSide.get, Side.other] <;> grind

/-- A pipe from a side to the other is none from the other. -/
theorem Free.join {wiring : Wiring} {writer : Side} (free : wiring.Free writer.other) (readEnd writeEnd : Nat) :
    (wiring.join writer readEnd writeEnd).Free writer.other := by
  cases writer <;> exact free

end Wiring

section Preparing

/-- Nothing went wrong so far, and no order was given. -/
structure Fresh (chronicle : Chronicle) : Prop where
  clean : chronicle.faults = []
  first : chronicle.orders = []

/-- Making descriptors leaves it so. -/
theorem Fresh.gain (fresh : Fresh before) (fds : List Nat) : Fresh (before.gain fds) :=
  ⟨fresh.clean, fresh.first⟩

variable (contest) (fresh : Fresh before)

include fresh

/-- A side's signalling pipe is made. -/
theorem gains_create (side : Side) :
    (SignalPipe.create side).Gains contest (fun pipe => [pipe.readEnd, pipe.writeEnd]) before := by
  refine .ask ⟨fresh.clean, fresh.first⟩ fun answer after leads => ?_
  obtain rfl := leads
  -- A pipe that is made is told of, and a call that fails is the first thing that went wrong.
  cases answer with
  | ok ends => exact keeps_tell ⟨[ends.1, ends.2], fun _ => .rfl, rfl⟩
  | error errno => exact .only fresh.clean rfl .rfl (.refl _) (.refl _)

/-- The signalling pipe of the side whose turn it is gets watched. -/
theorem yields_watch (pipe : SignalPipe) :
    (watch (sideAfter before.watched) pipe).Yields contest before
      (fun _ after => after = { before with watched := before.watched + 1 }) before := by
  refine .ask ⟨fresh.clean, fresh.first⟩ fun answer after leads => ?_
  obtain rfl := leads
  -- A refusal is the first fault, and nothing has been taken in hand by it.
  cases answer with
  | ok done => exact keeps_tell rfl
  | error errno => exact .only fresh.clean rfl .rfl (.refl _) (.refl _)

/-- One of the wiring's pipes is made, if there is to be one; else what was made for the others is closed. -/
theorem yields_extend {fds : List Nat} {wiring : Wiring} (ends : ∀ fd, fd ∈ wiring.toList ↔ fd ∈ fds)
    {writer : Side} (free : wiring.Free writer) (wanted : Bool) :
    (wiring.extend writer wanted).Yields contest before (fun wider after =>
      (∃ fds, (∀ fd, fd ∈ wider.toList ↔ fd ∈ fds) ∧ after = before.gain fds) ∧
        (wiring.Free writer.other → wider.Free writer.other)) (before.gain fds) := by
  rw [Wiring.extend]
  -- Without a wish for the pipe, what there was is what there is.
  split
  · refine .ask ⟨fresh.clean, fresh.first⟩ fun answer after leads => ?_
    obtain rfl := leads
    cases answer with
    | ok made =>
      refine ⟨⟨fds ++ [made.1, made.2], fun fd => ?_, before.gain_gain fds _⟩, fun free => free.join _ _⟩
      simp [Wiring.mem_toList_join free, ends]
    | error errno =>
      -- The ends that were made before are the umpire's own, so that it may close them.
      have known : wiring.toList ⊆ before.made ++ fds :=
        fun fd listed => List.mem_append_right _ ((ends fd).mp listed)
      refine .seq (keeps_closeAll _ known) fun _ last closed => ?_
      obtain rfl := closed
      exact .only fresh.clean rfl .rfl (before.gain_close_inHand_subset fun fd listed => (ends fd).mpr listed)
        (List.subset_append_left _ _)
  · exact ⟨⟨fds, ends, rfl⟩, id⟩

/-- The wiring's pipes are made. -/
theorem gains_wiring : (Wiring.create contest).Gains contest Wiring.toList before := by
  have none : ∀ fd, fd ∈ ({} : Wiring).toList ↔ fd ∈ ([] : List Nat) := fun _ => .rfl
  have free : ({} : Wiring).Free .solution := ⟨rfl, rfl⟩
  -- The first pipe is counted from the bare account, and the second from the account with the first.
  have forth := yields_extend contest fresh none free contest.joinsSolutionToInteractor
  rw [Chronicle.gain_nil] at forth
  refine .seq forth fun result middle yields => ?_
  cases result with
  | error fault => exact yields
  | ok wiring =>
    obtain ⟨⟨fds, ends, rfl⟩, free⟩ := yields
    have back := yields_extend contest fresh ends (free ⟨rfl, rfl⟩) contest.joinsInteractorToSolution
    -- The second may fail like the first, with nothing left in hand but what was there.
    refine back.mono fun result after yields => ?_
    cases result with
    | error fault => exact yields
    | ok wider => exact yields.1

/-- Asking what a path leads to changes nothing. -/
theorem keeps_isFifo (path : Bytes) :
    (Anchors.isFifo path).Abides (chronicleRules contest) (fun _ after => after = before) before := by
  refine .ask ⟨fresh.clean, fresh.first⟩ fun answer after leads => ?_
  obtain rfl := leads
  -- A path that leads nowhere counts as one that leads to no named pipe.
  cases answer <;> rfl

/-- Named pipes are held; if one cannot be, those that are held already are closed. -/
theorem yields_holdAll {paths : List Bytes} (named : paths ⊆ Anchors.paths contest) (held : List Nat) :
    (Anchors.holdAll held paths).Yields contest before (fun anchors after => after = before.gain anchors)
      (before.gain held) := by
  -- By induction on the paths, for any that are held already, which are counted from the same account.
  induction paths generalizing held with
  | nil => exact rfl
  | cons path rest ih =>
    obtain ⟨named, others⟩ := List.cons_subset.mp named
    refine .seq (keeps_isFifo contest (fresh.gain held) path) fun isFifo middle same => ?_
    subst same
    split
    · refine .ask ⟨⟨fresh.clean, fresh.first⟩, named, rfl, rfl⟩ fun answer after leads => ?_
      obtain rfl := leads
      cases answer with
      | ok fd =>
        refine keeps_tell ?_
        -- One more is held, and counts with the others.
        have held := ih others (held ++ [fd])
        rw [← before.gain_gain] at held
        exact held
      | error errno =>
        -- All that are held are given back, and only the fault is new.
        refine .seq (keeps_closeAll held (List.subset_append_right _ _)) fun _ last closed => ?_
        obtain rfl := closed
        exact .only fresh.clean rfl .rfl (before.gain_close_inHand_subset (.refl _)) (List.subset_append_left _ _)
    · exact ih others held

/-- The named pipes that both sides open are held. -/
theorem gains_anchors : (Anchors.hold contest).Gains contest id before := by
  -- At the start none is held.
  have held := yields_holdAll contest fresh (.refl _) []
  rw [Chronicle.gain_nil] at held
  refine held.mono fun result after held => ?_
  cases result with
  | error fault => exact held
  | ok anchors => exact ⟨anchors, fun _ => .rfl, held⟩

end Preparing

section Launching

/-- A descriptor's flag is changed, or there is a fault of the host's. -/
theorem keeps_setPrivate {fd : Nat} (made : fd ∈ before.made) (flag : Bool) :
    (Inheritance.setPrivate fd flag).Abides (chronicleRules contest) (fun result after =>
      match result with
      | .ok _ => after = before
      | .error fault => ∃ context errno, fault = .os context errno ∧
          after = { before with faults := before.faults ++ [fault] }) before := by
  -- The flag is read first, and either call may fail with a fault of the host's.
  have asks : (Inheritance.isPrivate fd).Abides (chronicleRules contest) (fun result after =>
      match result with
      | .ok _ => after = before
      | .error fault => ∃ context errno, fault = .os context errno ∧
          after = { before with faults := before.faults ++ [fault] }) before := by
    refine .ask made fun answer after leads => ?_
    obtain rfl := leads
    cases answer with
    | ok flag => exact rfl
    | error errno => exact ⟨_, errno, rfl, rfl⟩
  refine .seq asks fun result middle kept => ?_
  cases result with
  | error fault => exact kept
  | ok was =>
    subst kept
    refine .ask made fun answer after leads => ?_
    obtain rfl := leads
    cases answer with
    | ok done => exact rfl
    | error errno => exact ⟨_, errno, rfl, rfl⟩

/-- It is a side's turn to be launched. -/
structure Awaits (contest : Contest) (chronicle : Chronicle) (side : Side) : Prop where
  clean : chronicle.faults = []
  turn : sideAfter chronicle.orders.length = side
  ready : ∀ order, Fits contest chronicle.made side order → MayStart contest chronicle order
  planned : ∀ fault, (contest.contestant side).redirects = .error fault → planFault? contest = some fault

/-- An order that is the side's has been answered. -/
def Chronicle.Dispatched (contest : Contest) (before : Chronicle) (side : Side) (started : Except IoFault Nat)
    (after : Chronicle) : Prop :=
  ∃ order, Fits contest before.made side order ∧ after = before.after (.call (.spawn order)) started

/-- An answer to an order makes no descriptor. -/
theorem Chronicle.Dispatched.made {side : Side} {started : Except IoFault Nat} {after : Chronicle}
    (dispatched : before.Dispatched contest side started after) : after.made = before.made := by
  obtain ⟨order, -, rfl⟩ := dispatched
  cases started <;> rfl

/-- A process that is killed right after it was started leaves as many running as there were. -/
theorem running_of_killed (running : List Nat) (pid : Nat) : ((running ++ [pid]).erase pid).Perm running := by
  -- The process is the last of those who run; from the front it is erased at once.
  have front := (List.perm_append_singleton pid running).erase pid
  rwa [List.erase_cons_head] at front

variable {side : Side} {privateEnd : Nat} (ends : Ends) (awaits : Awaits contest before side)
  (made : privateEnd ∈ before.made)

include awaits made

/-- The phases of a launch end in a handle, or in a fault that is known, with nobody more running than before; what was
given is closed whatever comes of it. -/
def reckoning (given : ends.toList ⊆ before.made) :
    Phases (chronicleRules contest) side ((contest.contestant side).bind (Int32.ofNat privateEnd)) privateEnd ends
      before (fun
        | .ok handle => fun after => handle.status = none ∧ ∃ order, Fits contest before.made side order ∧
            after = (before.after (.call (.spawn order)) (.ok handle.pid)).close (privateEnd :: ends.toList)
        | .error fault => Spoiled contest (before.close (privateEnd :: ends.toList)) fault) where
  told := (· = before)
  entered _ := (· = before)
  ordered := before.Dispatched contest side
  orphaned fault pid state := ∃ middle, before.Dispatched contest side (.ok pid) middle ∧
    state = { middle with faults := middle.faults ++ [fault] }
  begun := fun
    | .ok started => before.Dispatched contest side started
    | .error fault => Spoiled contest before fault
  closed := fun
    | .ok started => fun state => ∃ middle, before.Dispatched contest side started middle ∧
        state = middle.close (privateEnd :: ends.toList)
    | .error fault => Spoiled contest (before.close (privateEnd :: ends.toList)) fault
  files fault dirty := by
    -- Nothing was asked for, so it is the files that are to blame.
    refine ⟨?_, .rfl, .refl _, .refl _⟩
    rw [awaits.clean]
    exact .files (awaits.planned fault dirty)
  tells _ _ := ⟨trivial, fun _ _ leads => leads⟩
  tellsFiles _ _ told := ⟨trivial, fun _ _ leads => Eq.trans leads told⟩
  enters _ state _ told := by
    subst told
    refine (keeps_setPrivate made false).mono fun result after kept => ?_
    cases result with
    | ok done => exact kept
    -- A region that cannot be entered is the first thing that went wrong.
    | error fault =>
      obtain ⟨context, errno, rfl, rfl⟩ := kept
      exact .only awaits.clean rfl .rfl (.refl _) (.refl _)
  -- The order is the side's own: it was planned from the files and tells the side's write end.
  orders redirects state planned entered := by
    subst entered
    have fits : Fits contest state.made side
        (order ((contest.contestant side).bind (Int32.ofNat privateEnd)) ends redirects) :=
      ⟨⟨privateEnd, made, rfl⟩, planned⟩
    exact ⟨⟨awaits.clean, awaits.ready _ fits⟩, fun _ _ leads => ⟨_, fits, leads⟩⟩
  leaves started state ordered := by
    have made' : privateEnd ∈ state.made := ordered.made ▸ made
    refine (keeps_setPrivate made' true).mono fun result after kept => ?_
    cases result with
    | ok done =>
      obtain rfl : after = state := kept
      exact ordered
    | error fault =>
      obtain ⟨context, errno, rfl, rfl⟩ := kept
      cases started with
      | ok pid => exact ⟨state, ordered, rfl⟩
      | error cause =>
        -- The region's fault outweighs that of the start.
        obtain ⟨order, -, rfl⟩ := ordered
        refine ⟨?_, ?_, .refl _, .refl _⟩
        · show Blames contest (before.faults ++ [.launch _ cause] ++ [.os context errno]) _
          rw [awaits.clean]
          exact .region _ cause context errno
        · show (before.running ++ []).Perm before.running
          rw [List.append_nil]
  -- The process runs, since it has just been started, and so it may be killed.
  kills fault pid state orphaned := by
    obtain ⟨_, ⟨order, -, rfl⟩, rfl⟩ := orphaned
    refine ⟨List.mem_append_right _ List.mem_cons_self, fun _ after leads => ?_⟩
    obtain rfl := leads
    exact .only awaits.clean rfl (running_of_killed before.running pid) (.refl _) (.refl _)
  closes result state begun := by
    have known : privateEnd :: ends.toList ⊆ before.made := List.cons_subset.mpr ⟨made, given⟩
    cases result with
    | error fault =>
      have spoiled : Spoiled contest before fault state := begun
      refine (keeps_closeAll _ (List.Subset.trans known spoiled.made)).mono fun _ after closed => ?_
      obtain rfl := closed
      exact ⟨spoiled.blames, spoiled.running, List.filter_subset _ spoiled.inHand, spoiled.made⟩
    | ok started =>
      have dispatched : before.Dispatched contest side started state := begun
      exact (keeps_closeAll _ (dispatched.made ▸ known)).mono fun _ _ closed => ⟨state, dispatched, closed⟩
  fails _ _ spoiled := spoiled
  -- An order that was declined starts nobody, and is the only thing that went wrong.
  declines cause state closed := by
    obtain ⟨_, ⟨order, -, rfl⟩, rfl⟩ := closed
    refine .only awaits.clean ?_ (.of_eq (List.append_nil _)) (.refl _) (.refl _)
    rw [← awaits.turn]
    rfl
  succeeds pid state closed := by
    obtain ⟨_, ⟨order, fits, rfl⟩, rfl⟩ := closed
    exact ⟨trivial, fun _ _ leads => ⟨rfl, order, fits, leads⟩⟩

end Launching

end Umpire.Bout
