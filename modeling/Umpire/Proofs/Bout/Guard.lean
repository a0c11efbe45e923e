import Umpire.Bout.Launch
import Umpire.Proofs.Bout.Drive
import Umpire.Proofs.Host.Redirecting

/-! Guards of regions, in a process among all others of its host: what entering a region, leaving it and letting go of
its guard do to the process's descriptors, and what they call on the host for. -/

namespace Umpire

namespace Host

variable {who fd : Nat} {kernel before after : Kernel}

/-- The calls that a process was answered in some turns, in order. -/
def Deed.answered (deeds : List Deed) : List Call :=
  deeds.filterMap fun deed => deed.answer.map fun _ => deed.wanted

/-- Whether what a process has under a number goes away when another program is run. -/
def Kernel.flag? (kernel : Kernel) (who fd : Nat) : Option Bool :=
  (kernel.slot? who fd).map Slot.closeOnExec

/-- The calls that a process was answered are those of earlier turns and then those of later ones. -/
theorem Deed.answered_append (earlier later : List Deed) :
    Deed.answered (earlier ++ later) = Deed.answered earlier ++ Deed.answered later :=
  List.filterMap_append

/-- The calls that a process was answered, up to an answer and from there on. -/
theorem Asked.answered {wanted : Call} {answer : wanted.Answer} {deeds later : List Deed}
    (asked : Asked who kernel wanted deeds before answer after later) :
    Deed.answered deeds = wanted :: Deed.answered later := by
  obtain ⟨waits, rfl, calm⟩ := asked.cut
  -- As long as a process waits it is not answered anything.
  have silent : Deed.answered waits = [] := by
    refine List.filterMap_eq_nil_iff.mpr fun deed listed => ?_
    rw [Option.isNone_iff_eq_none.mp (calm deed listed), Option.map_none]
  rw [Deed.answered_append, silent]
  rfl

namespace Kernel

/-- A process is told whether a descriptor is kept by new programs, or that it is not open. -/
theorem answer_closeOnExec (sound : kernel.Sound) {answer : Except Errno Bool}
    (may : kernel.May who (.closeOnExec fd) (.answered answer after)) :
    (∀ number, after.slot? who number = kernel.slot? who number) ∧
      answer = (kernel.flag? who fd).elim (.error Errno.badDescriptor) .ok := by
  obtain ⟨was, left, had, has, effect⟩ := effect_may sound may
  -- The flag is that of the slot, or there is no slot.
  cases answer with
  | ok flag =>
    obtain ⟨⟨slot, found, rfl⟩, rfl, -⟩ := effect
    refine ⟨fun number => by rw [had, has], ?_⟩
    rw [flag?, had, found]
    rfl
  | error errno =>
    obtain ⟨absent, rfl, -⟩ := effect
    refine ⟨fun number => by rw [had, has], ?_⟩
    -- The host has only one reason to refuse.
    obtain ⟨-, plain⟩ := heard_cases may nofun nofun
    simp only [attend] at plain
    rw [flag?, had, absent]
    split at plain <;> cases plain
    rfl

/-- A descriptor that is open can be set to be kept by new programs or not, which changes nothing else. -/
theorem answer_setCloseOnExec (sound : kernel.Sound) {flag : Bool} {slot : Slot}
    (found : kernel.slot? who fd = some slot) {answer : Except Errno Unit}
    (may : kernel.May who (.setCloseOnExec fd flag) (.answered answer after)) :
    answer = .ok () ∧ ∀ number, after.slot? who number =
      if number = fd then some { slot with closeOnExec := flag } else kernel.slot? who number := by
  obtain ⟨was, left, had, has, effect⟩ := effect_may sound may
  -- It can only fail for a descriptor that is not open, and this one is.
  cases answer with
  | ok done =>
    obtain ⟨known, held, rfl⟩ := Table.setCloseOnExec_ok effect.1
    obtain rfl : known = slot := Option.some.inj (held.symm.trans ((had fd).symm.trans found))
    refine ⟨rfl, fun number => ?_⟩
    rw [has, Table.get?_put, had]
  | error errno =>
    rw [had, effect.1] at found
    cases found

end Kernel

end Host

namespace Bout

open Host (Asked Call Deed Kernel Passage Slot)

/-- Two parts of a conduct are told one after the other. -/
theorem Conduct.telling_bind {α β : Type} (first : Conduct α) (rest : α → Conduct β) (told : List Entry) :
    telling (first >>= rest) told = telling first told >>= fun ended => telling (rest ended.1) ended.2 := by
  rw [telling, Dialogue.answerWith_bind, StateT.run_bind]
  rfl

namespace Inheritance

open Conduct (telling telling_bind)

/-- The fault of somebody who deals with a descriptor that is not open. -/
def notOpen : Fault :=
  .os "fcntl(F_GETFD) failed" Errno.badDescriptor

/-- What comes of setting whether a descriptor is kept by new programs. -/
inductive Setting (who fd : Nat) (flag : Bool) (kernel : Kernel) (deeds : List Deed) (last : Kernel) :
    Except Fault Unit → Prop where
  /-- It is open: its flag is asked for and set, and nothing else changes. -/
  | set {slot : Slot} (onward : Host.Onward kernel last) (found : kernel.slot? who fd = some slot)
      (calls : Deed.answered deeds = [.closeOnExec fd, .setCloseOnExec fd flag])
      (slots : ∀ number, last.slot? who number =
        if number = fd then some { slot with closeOnExec := flag } else kernel.slot? who number) :
      Setting who fd flag kernel deeds last (.ok ())
  /-- It is not open: its flag is asked for in vain, and nothing changes. -/
  | absent (onward : Host.Onward kernel last) (free : kernel.slot? who fd = none)
      (calls : Deed.answered deeds = [.closeOnExec fd])
      (slots : ∀ number, last.slot? who number = kernel.slot? who number) :
      Setting who fd flag kernel deeds last (.error notOpen)

namespace Setting

variable {who fd : Nat} {flag : Bool} {kernel last : Kernel} {deeds : List Deed} {result : Except Fault Unit}

/-- Everything that lasts does so. -/
theorem onward (setting : Setting who fd flag kernel deeds last result) : Host.Onward kernel last := by
  cases setting with
  | set onward | absent onward => exact onward

/-- No other descriptor changes. -/
theorem others (setting : Setting who fd flag kernel deeds last result) {number : Nat} (apart : number ≠ fd) :
    last.slot? who number = kernel.slot? who number := by
  cases setting with
  | set _ _ _ slots => rw [slots, if_neg apart]
  | absent _ _ _ slots => exact slots number

/-- A descriptor that is open has the flag afterwards. -/
theorem of_open (setting : Setting who fd flag kernel deeds last result) {slot : Slot}
    (held : kernel.slot? who fd = some slot) :
    result = .ok () ∧ Deed.answered deeds = [.closeOnExec fd, .setCloseOnExec fd flag] ∧
      last.slot? who fd = some { slot with closeOnExec := flag } := by
  -- It is open, so it is not absent.
  cases setting with
  | set _ found calls slots =>
    cases held.symm.trans found
    exact ⟨rfl, calls, by rw [slots, if_pos rfl]⟩
  | absent _ free => cases free.symm.trans held

/-- A descriptor that is not open stays so. -/
theorem of_absent (setting : Setting who fd flag kernel deeds last result) (free : kernel.slot? who fd = none) :
    result = .error notOpen ∧ Deed.answered deeds = [.closeOnExec fd] ∧ last.slot? who fd = none := by
  -- It is not open, so nothing was set.
  cases setting with
  | set _ found => cases free.symm.trans found
  | absent _ _ calls slots => exact ⟨rfl, calls, by rw [slots, free]⟩

end Setting

namespace Guard

/-- What is told when a guard is let go of, by what came of leaving its region. -/
def complaint (guard : Guard) : Except Fault Unit → List Entry
  | .ok () => []
  | .error fault => [.restoreFailed guard.fd fault]

/-- Letting go of a guard that has been released does nothing. -/
theorem drop_disarmed {guard : Guard} (disarmed : guard.armed = false) : guard.drop = pure () := by
  rw [drop, disarmed]
  rfl

/-- A release is nothing but leaving the region: the guard is disarmed when it is let go of. -/
theorem release_eq (guard : Guard) : guard.release = Inheritance.release guard.fd := by
  have disarmed : Guard.drop { guard with armed := false } = pure () := drop_disarmed rfl
  simp only [release, disarmed, pure_bind, bind_pure]

/-- A side is started inside a region that has a guard, which is released on every path behind the start. -/
theorem startInside_eq (contestant : Contestant) (privateEnd : Nat) (ends : Ends) (redirects : List Host.Redirect) :
    startInside contestant privateEnd ends redirects = (do
      match ← enter privateEnd with
      | .error fault => return .error fault
      | .ok guard =>
        let started ← ask (.spawn (order contestant ends redirects))
        match ← guard.release with
        | .ok () => return .ok started
        | .error fault =>
          match started with
          | .error _ => return .error fault
          | .ok pid =>
            let _ ← ask (.signal pid Host.Signal.kill)
            return .error fault) := by
  simp only [startInside, enter, bind_assoc, release_eq]
  -- The two go the same way once the region has been entered or not.
  refine bind_congr fun entered => ?_
  cases entered with
  | error fault => rfl
  | ok done => rfl

end Guard

variable {who fd : Nat} {kernel last : Kernel} {deeds : List Deed} {told entries : List Entry}
  (sound : kernel.Sound) (old : who < kernel.processes.next)

include sound old

/-- Whoever looks at a descriptor's flag is told it, or that the descriptor is not open, and changes nothing. -/
theorem flag_of_isPrivate {result : Except Fault Bool}
    (passage : Passage who kernel (telling (isPrivate fd) told) deeds last (result, entries)) :
    Host.Onward kernel last ∧ (∀ number, last.slot? who number = kernel.slot? who number) ∧
      Deed.answered deeds = [.closeOnExec fd] ∧ entries = told ∧
      result = (kernel.flag? who fd).elim (.error notOpen) .ok := by
  obtain ⟨before, answer, after, later, asked, rest⟩ := Passage.of_ask passage sound old
  obtain ⟨same, rfl⟩ := Kernel.answer_closeOnExec asked.meanwhile.sound asked.may
  -- Neither the others meanwhile nor the call itself has touched the process's slots.
  have unchanged (number : Nat) : after.slot? who number = kernel.slot? who number :=
    (same number).trans (asked.slots number)
  rw [Kernel.flag?, asked.slots, ← Kernel.flag?] at rest
  cases seen : kernel.flag? who fd with
  | _ =>
    rw [seen] at rest
    obtain ⟨rfl, rfl, value⟩ := Passage.of_done rest
    cases value
    exact ⟨asked.onward, unchanged, asked.answered, rfl, rfl⟩

/-- Setting whether a descriptor is kept by new programs succeeds exactly if it is open. -/
theorem setting_of_passage {flag : Bool} {result : Except Fault Unit}
    (passage : Passage who kernel (telling (setPrivate fd flag) told) deeds last (result, entries)) :
    Setting who fd flag kernel deeds last result ∧ entries = told := by
  rw [setPrivate, telling_bind] at passage
  obtain ⟨earlier, middle, ⟨seen, between⟩, later, rfl, first, second⟩ := Passage.of_bind passage
  obtain ⟨onward, unchanged, calls, rfl, rfl⟩ := flag_of_isPrivate sound old first
  -- Nothing is set where nothing is open.
  cases found : kernel.slot? who fd with
  | none =>
    rw [Kernel.flag?, found] at second
    obtain ⟨rfl, rfl, value⟩ := Passage.of_done second
    cases value
    rw [List.append_nil]
    exact ⟨.absent onward found calls unchanged, rfl⟩
  | some slot =>
    rw [Kernel.flag?, found] at second
    have old' := Nat.lt_of_lt_of_le old onward.numbers
    obtain ⟨before, answer, after, rest, asked, ended⟩ := Passage.of_ask second onward.sound old'
    -- The slot is still there when the flag is set, since only the process itself could have closed it.
    have held : before.slot? who fd = some slot := by
      rw [asked.slots, unchanged, found]
    obtain ⟨rfl, slots⟩ := Kernel.answer_setCloseOnExec asked.meanwhile.sound held asked.may
    obtain ⟨rfl, rfl, value⟩ := Passage.of_done ended
    cases value
    refine ⟨.set (onward.trans asked.onward) found ?_ fun number => ?_, rfl⟩
    · rw [Deed.answered_append, calls, asked.answered]
      rfl
    · rw [slots, asked.slots, unchanged]

namespace Guard

/-- A region is entered, and there is a guard, exactly if the descriptor is open. -/
theorem setting_of_enter {result : Except Fault Guard}
    (passage : Passage who kernel (telling (enter fd) told) deeds last (result, entries)) :
    ∃ entered, Setting who fd false kernel deeds last entered ∧ result = entered.map (fun _ => { fd }) ∧
      entries = told := by
  rw [enter, telling_bind] at passage
  obtain ⟨earlier, middle, ⟨entered, between⟩, later, rfl, first, second⟩ := Passage.of_bind passage
  obtain ⟨setting, rfl⟩ := setting_of_passage sound old first
  -- What is done behind it is to hand out the guard or the fault.
  cases entered with
  | _ =>
    obtain ⟨rfl, rfl, value⟩ := Passage.of_done second
    cases value
    rw [List.append_nil]
    exact ⟨_, setting, rfl, rfl⟩

/-- A region is left by its release, which sets the flag once. -/
theorem setting_of_release {guard : Guard} {result : Except Fault Unit}
    (passage : Passage who kernel (telling guard.release told) deeds last (result, entries)) :
    Setting who guard.fd true kernel deeds last result ∧ entries = told := by
  rw [release_eq] at passage
  exact setting_of_passage sound old passage

/-- A region is left when its guard is let go of; that it could not be is told. -/
theorem setting_of_drop {guard : Guard} (armed : guard.armed = true)
    (passage : Passage who kernel (telling guard.drop told) deeds last ((), entries)) :
    ∃ result, Setting who guard.fd true kernel deeds last result ∧ entries = told ++ guard.complaint result := by
  -- The guard is armed, so that its region is left here and nowhere else.
  rw [drop, if_pos armed, abandon, telling_bind] at passage
  obtain ⟨earlier, middle, ⟨left, between⟩, later, rfl, first, second⟩ := Passage.of_bind passage
  obtain ⟨setting, rfl⟩ := setting_of_passage sound old first
  refine ⟨left, ?_⟩
  cases left with
  | _ =>
    obtain ⟨rfl, rfl, value⟩ := Passage.of_done second
    cases value
    simp [setting, complaint]

end Guard

end Inheritance

end Bout

end Umpire
