import Umpire.Host.Transfer
import Umpire.Proofs.Dialogue

/-! What arrives at a descriptor, however many calls it takes to write it. -/

namespace Umpire.Host

/-- What a process exchanges with its host. -/
abbrev Event := Answered Call.vocabulary

/-- What an exchange brings to a descriptor. -/
def Event.delivered (fd : Nat) : Event → Bytes
  | ⟨.write target data, .ok count⟩ => if target = fd then data.take count else []
  | _ => []

/-- What arrives at a descriptor in some exchanges. -/
def written (fd : Nat) (events : List Event) : Bytes :=
  events.flatMap (Event.delivered fd)

@[simp] theorem written_nil (fd : Nat) : written fd [] = [] :=
  rfl

@[simp] theorem written_cons (fd : Nat) (event : Event) (events : List Event) :
    written fd (event :: events) = event.delivered fd ++ written fd events :=
  List.flatMap_cons

@[simp] theorem written_append (fd : Nat) (earlier later : List Event) :
    written fd (earlier ++ later) = written fd earlier ++ written fd later :=
  List.flatMap_append

/-- Whatever is written on a descriptor in an exchange, some of it is taken. -/
def Event.Takes (fd : Nat) : Event → Prop
  | ⟨.write target _, answer⟩ => target = fd → ∃ count, answer = .ok (count + 1)
  | _ => True

section WriteSome

variable {fuel fd : Nat} {data : Bytes} {events : List Event} {result : Except Errno Unit}

/-- Writing on a descriptor brings nothing to another. -/
theorem written_writeSome_of_ne {other : Nat} (course : (writeSome fuel fd data).Course events result)
    (elsewhere : fd ≠ other) : written other events = [] := by
  -- By induction on the calls that are left, for any data, since each call leaves less of it.
  induction fuel generalizing data events with
  | zero =>
    obtain ⟨rfl, -⟩ := Dialogue.course_done.mp course
    rfl
  | succ fuel ih =>
    rw [writeSome] at course
    split at course
    · obtain ⟨rfl, -⟩ := Dialogue.course_done.mp course
      rfl
    · obtain ⟨answer, later, rfl, goes⟩ := Dialogue.course_request.mp course
      cases answer with
      | ok count => rw [written_cons, Event.delivered, if_neg elsewhere, ih goes, List.append_nil]
      | error errno =>
        dsimp only at goes
        -- A call that was broken off is made again, and any other failure is the end.
        split at goes
        · rw [written_cons]
          exact ih goes
        · obtain ⟨rfl, -⟩ := Dialogue.course_done.mp goes
          rfl

/-- What arrives is a first part of what was to be written. -/
theorem written_writeSome_prefix (course : (writeSome fuel fd data).Course events result) :
    written fd events <+: data := by
  -- By induction on the calls that are left. What a call has taken is put in front of what arrives later.
  induction fuel generalizing data events with
  | zero =>
    obtain ⟨rfl, -⟩ := Dialogue.course_done.mp course
    exact List.nil_prefix
  | succ fuel ih =>
    rw [writeSome] at course
    split at course
    · obtain ⟨rfl, -⟩ := Dialogue.course_done.mp course
      exact List.nil_prefix
    · obtain ⟨answer, later, rfl, goes⟩ := Dialogue.course_request.mp course
      cases answer with
      | ok count =>
        rw [written_cons, Event.delivered, if_pos rfl]
        -- What was taken and what was dropped are the data again.
        have whole := (List.prefix_append_right_inj (data.take count)).mpr (ih goes)
        rwa [List.take_append_drop] at whole
      | error errno =>
        dsimp only at goes
        split at goes
        · rw [written_cons]
          exact ih goes
        · obtain ⟨rfl, -⟩ := Dialogue.course_done.mp goes
          exact List.nil_prefix

/-- If each call takes some of it, everything arrives in as many calls as there are bytes. -/
theorem written_writeSome (course : (writeSome fuel fd data).Course events result)
    (takes : ∀ event ∈ events, event.Takes fd) (enough : data.length ≤ fuel) : written fd events = data := by
  -- By induction on the calls that are left, of which there are as many as bytes at least.
  induction fuel generalizing data events with
  | zero =>
    obtain ⟨rfl, -⟩ := Dialogue.course_done.mp course
    exact (List.eq_nil_of_length_eq_zero (Nat.le_zero.mp enough)).symm
  | succ fuel ih =>
    rw [writeSome] at course
    split at course
    · rename_i empty
      obtain ⟨rfl, -⟩ := Dialogue.course_done.mp course
      exact (List.isEmpty_iff.mp empty).symm
    · obtain ⟨answer, later, rfl, goes⟩ := Dialogue.course_request.mp course
      obtain ⟨taken, later'⟩ := List.forall_mem_cons.mp takes
      obtain ⟨count, rfl⟩ := taken rfl
      -- The call has taken one byte at least, so that the calls left are enough for the rest.
      have shorter : (data.drop (count + 1)).length ≤ fuel := by
        rw [List.length_drop]
        omega
      have rest := ih goes later' shorter
      rw [written_cons, Event.delivered, if_pos rfl, rest, List.take_append_drop]

/-- Writing all of some bytes, each call taking some. -/
theorem written_writeAll (course : (writeAll fd data).Course events result)
    (takes : ∀ event ∈ events, event.Takes fd) : written fd events = data :=
  written_writeSome course takes (by omega)

end WriteSome

end Umpire.Host
