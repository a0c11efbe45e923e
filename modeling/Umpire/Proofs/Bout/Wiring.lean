import Umpire.Bout.Launch
import Umpire.Host.Install
import Umpire.Proofs.Loading

/-! Where the sides' streams come from: each from a file or from a pipe to the other side. -/

namespace Umpire.Bout

/-- The descriptor that becomes a side's stream; standard error gets none. -/
def Ends.fd? (ends : Ends) : Stream → Option Nat
  | .stdin => ends.stdin
  | .stdout => ends.stdout
  | .stderr => none

/-- The descriptors of a side's ends are those that become its streams. -/
theorem Ends.mem_toList {ends : Ends} {fd : Nat} : fd ∈ ends.toList ↔ ∃ stream, ends.fd? stream = some fd := by
  rw [toList, List.mem_append, Option.mem_toList, Option.mem_toList]
  -- There is no end for the standard error.
  constructor
  · rintro (stdin | stdout)
    · exact ⟨.stdin, stdin⟩
    · exact ⟨.stdout, stdout⟩
  · rintro ⟨stream, given⟩
    cases stream with
    | stdin => exact .inl given
    | stdout => exact .inr given
    | stderr => cases given

/-- A stream of a started side is a descriptor that its order gives. -/
theorem mem_given_order {contestant : Contestant} {ends : Ends} {redirects : List Host.Redirect}
    {fd : Nat} {stream : Stream} :
    (fd, stream) ∈ (order contestant ends redirects).given ↔ ends.fd? stream = some fd := by
  rcases ends with ⟨_ | stdin, _ | stdout⟩ <;> cases stream <;>
    simp [order, Host.Order.given, Ends.fd?, eq_comm]

namespace Wiring

/-- What the sides of a list are handed, each in its turn. -/
def handed (wiring : Wiring) : List Side → List Ends
  | [] => []
  | side :: rest => (wiring.take side).1 :: (wiring.take side).2.handed rest

/-- Handing one side its ends leaves the other's where they are. -/
theorem take_left (wiring : Wiring) (side any : Side) :
    (wiring.take side).2.ends.get any = if any = side then {} else wiring.ends.get any := by
  -- The side that is handed its ends has none left.
  by_cases same : any = side
  · subst same
    simp only [take, PerSide.get_set_same, if_true]
  · rw [if_neg same, Side.eq_other_of_ne same]
    exact PerSide.get_set_other wiring.ends side {}

/-- A side is handed its ends the first time that it asks, and nothing any later time, in whatever
order the sides ask. -/
theorem handed_at (wiring : Wiring) (earlier later : List Side) (side : Side) :
    (wiring.handed (earlier ++ side :: later))[earlier.length]? =
      some (if side ∈ earlier then {} else wiring.ends.get side) := by
  -- Each earlier side takes its own ends out of the wiring, and leaves the other's.
  induction earlier generalizing wiring with
  | nil => rfl
  | cons first rest ih =>
    rw [List.cons_append, handed, List.length_cons, List.getElem?_cons_succ, ih, take_left]
    by_cases same : side = first <;> simp [same]

/-- A host that makes pipes one after the other, and can do nothing else. -/
def plumber (pipes : Nat → Nat × Nat) : (act : Act) → StateT Nat Option act.Answer
  | .call .pipe => fun made => some (.ok (pipes made), made + 1)
  | _ => fun _ => none

/-- Which of the pipes that are made carries what a side writes to the other. -/
def line (contest : Contest) : Side → Option Nat
  | .solution => if contest.joinsSolutionToInteractor then some 0 else none
  | .interactor =>
    if contest.joinsInteractorToSolution then
      if contest.joinsSolutionToInteractor then some 1 else some 0
    else none

/-- The wiring of pipes: what a side writes goes into its line, and what it reads comes out of the
other side's. -/
def laid (contest : Contest) (pipes : Nat → Nat × Nat) : Wiring where
  ends := .ofFn fun side =>
    { stdin := (line contest side.other).map fun made => (pipes made).1
      stdout := (line contest side).map fun made => (pipes made).2 }

/-- The ends of a side in the wiring of pipes. -/
theorem get_laid (contest : Contest) (pipes : Nat → Nat × Nat) (side : Side) :
    (laid contest pipes).ends.get side =
      { stdin := (line contest side.other).map fun made => (pipes made).1
        stdout := (line contest side).map fun made => (pipes made).2 } := by
  cases side <;> rfl

/-- Where pipes can be made, the wiring is of as many as are wanted. -/
theorem create_plumbed (contest : Contest) (pipes : Nat → Nat × Nat) :
    ∃ made, (create contest).answerWith (plumber pipes) 0 = some (.ok (laid contest pipes), made) := by
  -- Either pipe is wanted or not, and the second is the first one made if the first is not wanted.
  cases forth : contest.joinsSolutionToInteractor <;> cases back : contest.joinsInteractorToSolution
  · exact ⟨0, by simp only [create, laid, line, forth, back]; rfl⟩
  · exact ⟨1, by simp only [create, laid, line, forth, back]; rfl⟩
  · exact ⟨1, by simp only [create, laid, line, forth, back]; rfl⟩
  · exact ⟨2, by simp only [create, laid, line, forth, back]; rfl⟩

/-- The two lines are different pipes. -/
theorem line_ne {contest : Contest} {made : Nat} (forth : line contest .solution = some made) :
    line contest .interactor ≠ some made := by
  intro back
  -- Only if both are wanted there are two lines, and then one is the pipe made first and the other the second.
  cases wanted : contest.joinsSolutionToInteractor with
  | false => simp [line, wanted] at forth
  | true =>
    cases other : contest.joinsInteractorToSolution with
    | false => simp [line, other] at back
    | true =>
      simp only [line, wanted, other, if_true, Option.some.injEq] at forth back
      omega

/-- The solution's line is laid exactly if its output has no file. -/
theorem line_solution_eq_none {contest : Contest} :
    line contest .solution = none ↔ (contest.contestant .solution).stdout ≠ none := by
  simp only [line, Contest.joinsSolutionToInteractor, Contest.contestant, PerSide.get,
    Option.isNone_iff_eq_none]
  split <;> simp_all

/-- The interactor's line is laid exactly if the solution's input has no file. -/
theorem line_interactor_eq_none {contest : Contest} :
    line contest .interactor = none ↔ (contest.contestant .solution).stdin ≠ none := by
  simp only [line, Contest.joinsInteractorToSolution, Contest.contestant, PerSide.get,
    Option.isNone_iff_eq_none]
  -- It is the second or the first, as the solution's is laid or not.
  split
  · split <;> simp_all
  · simp_all

/-- In a contest that is loaded a stream other than standard error has a file exactly if the wiring
has no pipe for it. Who reads and who writes is mirrored, so the solution's files decide for both. -/
theorem fd?_eq_none_iff {contest : Contest} (loadable : contest.Loadable)
    (pipes : Nat → Nat × Nat) (side : Side) {stream : Stream} (joined : stream ≠ .stderr) :
    ((laid contest pipes).ends.get side).fd? stream = none ↔
      (contest.contestant side).file? stream ≠ none := by
  -- The interactor's files are the solution's, crosswise.
  have reads : (contest.contestant .interactor).stdin = (contest.contestant .solution).stdout :=
    loadable.interactor_reads
  have writes : (contest.contestant .interactor).stdout = (contest.contestant .solution).stdin :=
    loadable.interactor_writes
  rw [get_laid]
  -- What a side reads is the other's line, and what it writes its own.
  cases stream with
  | stderr => exact absurd rfl joined
  | stdin =>
    simp only [Ends.fd?, Contestant.file?, Option.map_eq_none_iff]
    cases side with
    | solution => exact line_interactor_eq_none
    | interactor => exact reads ▸ line_solution_eq_none
  | stdout =>
    simp only [Ends.fd?, Contestant.file?, Option.map_eq_none_iff]
    cases side with
    | solution => exact line_solution_eq_none
    | interactor => exact writes ▸ line_interactor_eq_none

/-- Each side's standard input and output have exactly one source: a file that the side opens, or a
pipe to the other side. The ends of the pipes are handed to the side they belong to once, whatever
the order in which they are asked for; the end that one side writes to is joined to the end that the
other reads from, by a pipe of their own. So what a started side is told of its streams never leaves
one of these two as the umpire's, and never has two sources for it. -/
theorem streams_have_one_source {tokens : List Bytes} {contest : Contest}
    (loaded : Contest.load tokens = .ok contest)
    (clean : ∀ side, (contest.contestant side).Clean) (pipes : Nat → Nat × Nat) :
    ∃ wiring made, (create contest).answerWith (plumber pipes) 0 = some (.ok wiring, made) ∧
      (∀ side, ∃ redirects, (contest.contestant side).redirects = .ok redirects ∧
        ∀ stream, stream ≠ .stderr →
          ((∃ redirect ∈ redirects, redirect.stream = stream) ↔
            (wiring.ends.get side).fd? stream = none) ∧
          ∀ fd : Int32,
            let told := order ((contest.contestant side).bind fd) (wiring.take side).1 redirects
            (∃ redirect ∈ told.redirects, redirect.stream = stream) ↔
              ¬ ∃ given, (given, stream) ∈ told.given) ∧
      (∀ earlier side later, (wiring.handed (earlier ++ side :: later))[earlier.length]? =
        some (if side ∈ earlier then {} else wiring.ends.get side)) ∧
      ∃ line : Side → Option Nat,
        (∀ side, (wiring.ends.get side).stdout = (line side).map fun made => (pipes made).2) ∧
        (∀ side, (wiring.ends.get side).stdin = (line side.other).map fun made => (pipes made).1) ∧
        ∀ made, line .solution = some made → line .interactor ≠ some made := by
  have loadable := Contest.loadable_of_load loaded
  obtain ⟨made, created⟩ := create_plumbed contest pipes
  refine ⟨laid contest pipes, made, created, ?_, ?_, line contest, ?_, ?_, fun _ => line_ne⟩
  · intro side
    refine ⟨_, Contestant.redirects_of_clean (clean side), fun stream joined => ?_⟩
    -- A stream is redirected if it has a file, and has an end of a pipe if it has none.
    have source : (∃ redirect ∈ (contest.contestant side).plan, redirect.stream = stream) ↔
        ((laid contest pipes).ends.get side).fd? stream = none := by
      rw [Contestant.exists_mem_plan, fd?_eq_none_iff loadable pipes side joined]
    refine ⟨source, fun fd => ?_⟩
    -- What is given are the ends that the side takes.
    simp only [mem_given_order, take, ← Option.ne_none_iff_exists', Decidable.not_not]
    exact source
  · intro earlier side later
    exact (laid contest pipes).handed_at earlier later side
  · intro side
    rw [get_laid]
  · intro side
    rw [get_laid]

/-- With a file for the solution's input alone, one pipe joins what the solution writes to what the
interactor reads, and each side's other stream is redirected. -/
theorem streams_of_input_file :
    let contest := Contest.ofParts { input := some (Bytes.ofString "in") }
      [Bytes.ofString "a"] [Bytes.ofString "b"]
    let tokens := ["pipe", "-iin", "--", "a", "=", "b"].map Bytes.ofString
    Contest.load tokens = .ok contest ∧ (∀ side, (contest.contestant side).Clean) ∧
      ∃ wiring, (create contest).answerWith (plumber fun made => (2 * made + 7, 2 * made + 8)) 0 =
          some (.ok wiring, 1) ∧
        wiring.ends = ⟨{ stdout := some 8 }, { stdin := some 7 }⟩ ∧
        wiring.handed [.interactor, .interactor, .solution] =
          [{ stdin := some 7 }, {}, { stdout := some 8 }] ∧
        ∀ side, ∃ redirects, (contest.contestant side).redirects = .ok redirects ∧
          ∀ stream, stream ≠ .stderr → ((∃ redirect ∈ redirects, redirect.stream = stream) ↔
            (wiring.ends.get side).fd? stream = none) := by
  intro contest tokens
  have loaded : Contest.load tokens = .ok contest := by rfl
  -- The name of the one file is a path.
  have clean : ∀ side, (contest.contestant side).Clean := by
    intro side stream path given
    cases side <;> cases stream <;> cases given <;> rfl
  obtain ⟨wiring, made, created, source, -⟩ :=
    streams_have_one_source loaded clean fun made => (2 * made + 7, 2 * made + 8)
  -- What is made can be computed, and what holds of it is what was proved.
  have computed : some (Except.ok wiring, made) =
      some (Except.ok (ε := Fault) ⟨{ stdout := some 8 }, { stdin := some 7 }⟩, 1) :=
    created.symm.trans rfl
  cases computed
  refine ⟨loaded, clean, _, created, rfl, rfl, fun side => ?_⟩
  obtain ⟨redirects, succeeded, streams⟩ := source side
  exact ⟨redirects, succeeded, fun stream joined => (streams stream joined).1⟩

end Wiring

end Umpire.Bout
