import Umpire.Host.Install
import Umpire.Proofs.Dialogue

/-! Installing redirects: in which order a process that follows an order opens its files. -/

namespace Umpire.Host

variable {paths : List Bytes} {late : Bool}

/-- The path at which a call opens a file. -/
def Call.opens? : Call → Option Bytes
  | .openFile path .. => some path
  | _ => none

/-- The rules of a process that opens files at some paths first: once it has opened another, which is late, it opens
none of them any more. -/
def latecomerRules (paths : List Bytes) : Rules Call.vocabulary Bool where
  may late wanted := ∀ path, wanted.opens? = some path → late = true → path ∉ paths
  leads late wanted _ after := after = (late || wanted.opens?.any (!paths.contains ·))

/-- A call that opens no file leaves a process as late as it was. -/
theorem abides_plain {α : Type} {good : α → Bool → Prop} {wanted : Call} {next : wanted.Answer → Talk α}
    (plain : wanted.opens? = none) (goes : ∀ answer, (next answer).Abides (latecomerRules paths) good late) :
    Dialogue.Abides (latecomerRules paths) good (.ask wanted next) late := by
  refine ⟨fun path opens => ?_, fun answer after leads => ?_⟩
  · rw [plain] at opens
    cases opens
  · -- Only an opening can make a process late.
    obtain rfl : after = late := by simpa [latecomerRules, plain] using leads
    exact goes answer

/-- A process that may open a file at none of the paths may do so late. -/
theorem abides_late {α : Type} {good : α → Bool → Prop} {wanted : Call} {next : wanted.Answer → Talk α}
    (abides : Dialogue.Abides (latecomerRules paths) good (.ask wanted next) late) {path : Bytes}
    (opens : wanted.opens? = some path) (strays : path ∉ paths) :
    Dialogue.Abides (latecomerRules paths) good (.ask wanted next) true := by
  -- The opening itself makes it late, so that it does not matter whether it was so before.
  have overdue : wanted.opens?.any (!paths.contains ·) = true := by simpa [opens] using strays
  refine ⟨fun other same _ => ?_, fun answer after leads => abides.2 answer after ?_⟩
  · cases opens.symm.trans same
    exact strays
  · simp only [latecomerRules, overdue, Bool.or_true] at leads ⊢
    exact leads

/-- A process that opens no file is as late as it was. -/
def Punctual {α : Type} (paths : List Bytes) (late : Bool) (talk : Talk α) : Prop :=
  talk.Abides (latecomerRules paths) (fun _ after => after = late) late

/-- Putting streams in place opens no file. -/
theorem punctual_place (given : List (Nat × Stream)) :
    Punctual paths late (eachOf (fun choice : Nat × Stream => call (.duplicateTo choice.1 choice.2.fd)) given) := by
  -- One stream after another; the first that cannot be placed is the last that is tried.
  induction given with
  | nil => exact rfl
  | cons choice rest ih =>
    refine abides_plain rfl fun answer => ?_
    cases answer with
    | error errno => exact rfl
    | ok done => exact ih

section Running

variable (words : List Bytes) (environment : List (Bytes × Bytes)) (shell : Option Bytes)

/-- Running a file opens none. -/
theorem punctual_runFile (path : Bytes) : Punctual paths late (runFile path words environment shell) := by
  refine abides_plain rfl fun refusal => ?_
  -- A file that cannot be run may be handed to a shell, which is run in its place.
  cases shell with
  | none => exact rfl
  | some program =>
    dsimp only [Bind.bind, Dialogue.bind]
    split
    · exact abides_plain rfl fun _ => rfl
    · exact rfl

/-- Looking for a file to run opens none. -/
theorem punctual_runFrom (name : Bytes) (reason : Errno) (directories : List Bytes) :
    Punctual paths late (runFrom name words environment shell reason directories) := by
  -- By induction on the directories, for any reason so far, since a refusal may change it.
  induction directories generalizing reason with
  | nil => exact rfl
  | cons directory rest ih =>
    refine .seq (punctual_runFile words environment shell _) fun refusal after same => ?_
    subst same
    split
    · exact ih reason
    · split
      · exact ih Errno.accessDenied
      · exact rfl

/-- Running a program opens no file. -/
theorem punctual_runProgram : Punctual paths late (runProgram words environment shell) := by
  -- No words are a refusal, a word with a slash is one file, and any other is looked for.
  rw [runProgram]
  split
  · exact rfl
  · split
    · exact punctual_runFile words environment shell _
    · split
      · exact rfl
      · exact punctual_runFrom words environment shell _ _ _

end Running

/-- Redirects that a process may install that is late, or is not: those at some paths come first, and none of them
comes if it is late. -/
structure Sequenced (paths : List Bytes) (late : Bool) (redirects : List Redirect) : Prop where
  sorted : redirects.Pairwise fun one other => one.path ∉ paths → other.path ∉ paths
  passed : late = true → ∀ redirect ∈ redirects, redirect.path ∉ paths

/-- Redirects are installed in sequence. -/
theorem abides_install_sequenced {redirects : List Redirect} (sequenced : Sequenced paths late redirects) :
    (install redirects).Abides (latecomerRules paths) (fun _ _ => True) late := by
  rw [install]
  -- By induction on the redirects, with their order as the invariant: being late already is carried along.
  induction redirects generalizing late with
  | nil => exact trivial
  | cons redirect rest ih =>
    obtain ⟨sorted, passed⟩ := sequenced
    obtain ⟨first, sorted⟩ := List.pairwise_cons.mp sorted
    -- What is left is in sequence too: a path outside makes late, and then only such paths follow.
    have goes : Sequenced paths (late || !paths.contains redirect.path) rest := by
      refine ⟨sorted, fun tardy other listed => ?_⟩
      rcases Bool.or_eq_true_iff.mp tardy with tardy | strays
      · exact passed tardy other (List.mem_cons_of_mem _ listed)
      · exact first other listed (by simpa using strays)
    -- One redirect opens one file and then puts it in place, which opens nothing more.
    have installed : redirect.install.Abides (latecomerRules paths)
        (fun _ after => after = (late || !paths.contains redirect.path)) late := by
      refine .ask (fun path same tardy => ?_) fun answer after leads => ?_
      · cases same
        exact passed tardy redirect List.mem_cons_self
      · obtain rfl := leads
        cases answer with
        | error errno => exact rfl
        | ok fd =>
          dsimp only [Bind.bind, Dialogue.bind]
          split
          · exact rfl
          · refine abides_plain rfl fun answer => ?_
            cases answer with
            | error errno => exact rfl
            | ok done => exact abides_plain rfl fun _ => rfl
    refine installed.seq fun result after same => ?_
    subst same
    cases result with
    | error errno => exact trivial
    | ok done => exact ih goes

/-- A process that follows an order opens its files in sequence. -/
theorem abides_obey_sequenced {order : Order} (sequenced : Sequenced paths false order.redirects) :
    order.obey.Abides (latecomerRules paths) (fun _ _ => True) false := by
  -- However far it has come, a process that fails gives up without opening anything.
  have gives_up (errno : Errno) (late : Bool) :
      (do call (.giveUp errno); return 1 : Talk Nat).Abides (latecomerRules paths) (fun _ _ => True) late :=
    abides_plain rfl fun _ => trivial
  -- Of its parts, one after the other, only the installing opens files.
  refine .seq (punctual_place order.given) fun placed after same => ?_
  subst same
  cases placed with
  | error errno => exact gives_up errno _
  | ok done =>
    refine abides_plain rfl fun _ => ?_
    have installed := abides_install_sequenced sequenced
    refine installed.seq fun installed late _ => ?_
    cases installed with
    | error errno => exact gives_up errno late
    | ok done =>
      refine abides_plain rfl fun environment => ?_
      have runs (shell : Option Bytes) : Punctual paths late (runProgram order.words environment shell) :=
        punctual_runProgram order.words environment shell
      exact (runs _).seq fun refusal _ _ => gives_up refusal _

end Umpire.Host
