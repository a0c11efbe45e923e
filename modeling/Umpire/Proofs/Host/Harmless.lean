import Umpire.Proofs.Host.Turns

/-! Harmless calls: those that make descriptors, look at things and close, but leave every file as it is. -/

namespace Umpire.Host

/-- Whether a call makes, empties and writes no file. -/
def Call.IsHarmless : Call → Prop
  | .pipe | .close _ | .closeOnExec _ | .setCloseOnExec .. | .info .. | .watch _ => True
  | .openFile _ access _ => access.create = false ∧ access.truncate = false
  | _ => False

namespace Kernel

/-- Taking leave changes no file. -/
theorem nodes_finish (kernel : Kernel) (self : Nat) (status : WaitStatus) :
    (kernel.finish self status).nodes = kernel.nodes := by
  simp only [finish]
  repeat' split
  -- Processes are buried or removed in every case, and nothing else is touched.
  all_goals rfl

/-- One signal that takes effect changes no file. -/
theorem nodes_take (kernel : Kernel) (self number : Nat) : (kernel.take self number).nodes = kernel.nodes := by
  -- A signal to nobody, or to one who has ended, has no effect.
  rw [take]
  split
  · rfl
  · split
    · rfl
    · dsimp only
      -- A process that is woken is the only thing that changes before the signal is told by its kind.
      have awake : (if Signal.meaning number = .resumes then
          kernel.update self fun known => { known with stopped := false } else kernel).nodes = kernel.nodes := by
        split <;> rfl
      split
      · exact awake
      · exact awake
      · split
        · exact (nodes_finish _ _ _).trans awake
        all_goals exact awake

/-- Signals that take effect change no file. -/
theorem nodes_takeAll (kernel : Kernel) (self : Nat) : (kernel.takeAll self).nodes = kernel.nodes := by
  rw [takeAll]
  split
  · rfl
  · rename_i process _
    split
    · rfl
    · dsimp only
      -- One signal after another, by induction on what is pending.
      have all (numbers : List Nat) (reached : Kernel) :
          (numbers.foldl (fun reached number => reached.take self number) reached).nodes = reached.nodes := by
        induction numbers generalizing reached with
        | nil => rfl
        | cons number rest ih => exact (ih _).trans (nodes_take reached self number)
      exact all _ _

/-- Letting a process have an open file changes no file. -/
theorem nodes_grant {kernel after : Kernel} {self fd : Nat} {file : OpenFile} {closeOnExec : Bool}
    (granted : kernel.grant self file closeOnExec = .ok (fd, after)) : after.nodes = kernel.nodes := by
  rw [grant] at granted
  split at granted
  · cases granted
  · dsimp only at granted
    -- A grant that succeeds adds an open file and a slot.
    split at granted
    · cases granted
    · cases granted
      rfl

/-- Answering an opening changes no file. -/
theorem nodes_opened (kernel : Kernel) (self : Nat) (place : Place) (access : Access) (closeOnExec : Bool) :
    (kernel.opened self place access closeOnExec).kernel.nodes = kernel.nodes := by
  rw [opened]
  -- Where there is no free number nothing is granted.
  split
  · rfl
  · exact nodes_grant ‹_›

/-- Opening a file that is neither made nor emptied changes no file. -/
theorem nodes_openPath (kernel : Kernel) (self : Nat) (path : Bytes) {access : Access} (closeOnExec : Bool)
    (keeps : access.create = false ∧ access.truncate = false) :
    (kernel.openPath self path access closeOnExec).kernel.nodes = kernel.nodes := by
  -- Neither branch that makes or empties a file can be taken, which leaves those that only open one.
  simp only [openPath, openPlace, openChannel, keeps.1, keeps.2, Bool.false_eq_true, if_false]
  repeat' split
  all_goals first | rfl | exact nodes_opened _ _ _ _ _

/-- Changing what a process has open changes no file. -/
theorem nodes_withTable (kernel : Kernel) (self : Nat) (change : Table → Except Errno Table) :
    (kernel.done (kernel.withTable self change)).kernel.nodes = kernel.nodes := by
  rw [withTable]
  repeat' split
  all_goals rfl

/-- Making a pipe changes no file. -/
theorem nodes_pipe (kernel : Kernel) (self : Nat) :
    (kernel.gained (kernel.makePipe self)).kernel.nodes = kernel.nodes := by
  simp only [makePipe]
  split
  · rfl
  · rename_i readEnd reading first
    split
    · rfl
    · rename_i writeEnd both second
      -- Two grants, one after the other.
      have kept := nodes_grant first
      exact (nodes_grant second).trans kept

/-- Doing what a harmless call asks changes no file. -/
theorem nodes_attend (kernel : Kernel) (who : Nat) {wanted : Call} (harmless : wanted.IsHarmless) :
    (kernel.attend who wanted).kernel.nodes = kernel.nodes := by
  -- Of all calls, only the harmless ones are left to look at.
  cases wanted with
  | pipe => exact nodes_pipe kernel who
  | openFile path access closeOnExec =>
    rw [attend, ← nodes_openPath kernel who path closeOnExec harmless]
    cases kernel.openPath who path access closeOnExec <;> rfl
  | close | setCloseOnExec => exact nodes_withTable kernel who _
  | closeOnExec | info =>
    rw [attend]
    split <;> rfl
  | watch fd => rfl
  | _ => exact harmless.elim

/-- A turn whose call changes no file changes none. -/
theorem nodes_turn_of_attend (kernel : Kernel) (who : Nat) {wanted : Call}
    (attended : ((kernel.takeAll who).attend who wanted).kernel.nodes = (kernel.takeAll who).nodes) :
    (kernel.turn who wanted).kernel.nodes = kernel.nodes := by
  have felt := nodes_takeAll kernel who
  -- Signals come first and change no file, so that the call finds the files as they were.
  have attended := attended.trans felt
  -- The process may be gone or stopped by its signals, or else its call is attended to.
  simp only [turn]
  split
  · exact felt
  · split
    · exact felt
    · split
      · exact felt
      · split
        · rename_i waits
          rw [waits] at attended
          split
          · split <;> exact attended
          · exact attended
        · exact attended

/-- A turn with a harmless call changes no file. -/
theorem nodes_turn (kernel : Kernel) (who : Nat) {wanted : Call} (harmless : wanted.IsHarmless) :
    (kernel.turn who wanted).kernel.nodes = kernel.nodes :=
  nodes_turn_of_attend kernel who (nodes_attend (kernel.takeAll who) who harmless)

end Kernel

end Umpire.Host
