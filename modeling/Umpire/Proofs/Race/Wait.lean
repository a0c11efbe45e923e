import Umpire.Proofs.Race.History

/-! A wait for a hang-up while news comes in between its steps: it never ends without a hang-up, and once one has been
told it ends, however the two fall together. -/

namespace Umpire.Race

/-- What may be left of what is known after what was seen has been cleared: nothing else goes, and a
hang-up stays whether it was seen or not. -/
structure Readiness.Spares (ready seen left : Readiness) : Prop where
  hungUp : left.hungUp = ready.hungUp
  known : left.payload = true → ready.payload = true
  unseen : ready.payload = true → seen.payload = false → left.payload = true

/-- Clearing spares what was not seen. -/
theorem Readiness.spares_clear (ready seen : Readiness) : ready.Spares seen (ready.clear seen) where
  hungUp := rfl
  -- Clearing takes away payload only, and only if it was seen.
  known kept := by
    simp only [clear, Bool.and_eq_true] at kept
    exact kept.1
  unseen known other := by simp [clear, known, other]

/-- A clearing that comes too late, after fresh news, may also clear nothing. -/
theorem Readiness.spares_all (ready seen : Readiness) : ready.Spares seen ready :=
  ⟨rfl, id, fun known _ => known⟩

/-- A read end, and where the wait for its hang-up stands. -/
structure Watch where
  wait : Wait := .asking
  ready : Readiness := {}
  deriving DecidableEq, Repr

/-- Something that happens to a watch. -/
inductive Happening where
  /-- News of the read end is told. -/
  | told (news : Readiness)
  /-- The wait asks and gets hold of what is known. -/
  | asked
  /-- The wait looks for a hang-up in that. -/
  | tested
  /-- The wait clears it. -/
  | cleared
  /-- The wait is given up, and another one begins. -/
  | restarted
  deriving DecidableEq, Repr

namespace Happening

/-- Whether a hang-up is told. -/
def tellsHangUp : Happening → Bool
  | .told news => news.hungUp
  | _ => false

/-- Whether it is a step of the wait itself. -/
def isOwn : Happening → Bool
  | .asked | .tested | .cleared => true
  | .told _ | .restarted => false

end Happening

namespace Wait

/-- The step that a wait takes next, unless it is over. -/
def next? : Wait → Option Happening
  | .asking => some .asked
  | .holding _ => some .tested
  | .passing _ => some .cleared
  | .over => none

/-- Whether a wait has found a hang-up, or holds one and is about to find it. -/
def finds : Wait → Bool
  | .holding seen => seen.hungUp
  | .over => true
  | .asking | .passing _ => false

/-- How often a wait has yet to clear once a hang-up is known. -/
def clearsLeft : Wait → Nat
  | .holding seen => if seen.hungUp then 0 else 1
  | .passing _ => 1
  | .asking | .over => 0

/-- How often a wait has yet to test once a hang-up is known. -/
def testsLeft : Wait → Nat
  | .holding seen => if seen.hungUp then 1 else 2
  | .asking | .passing _ => 1
  | .over => 0

/-- How many steps a wait has yet to take once a hang-up is known. -/
def stepsLeft : Wait → Nat
  | .asking => 2
  | .holding seen => if seen.hungUp then 1 else 4
  | .passing _ => 3
  | .over => 0

end Wait

/-- One thing that happens to a watch. -/
inductive Happens : Watch → Happening → Watch → Prop where
  /-- News adds to what is known, wherever the wait stands. -/
  | told (watch : Watch) (news : Readiness) :
      Happens watch (.told news) { watch with ready := watch.ready.deliver news }
  /-- The wait takes its next step. -/
  | goes {wait next : Wait} {ready left : Readiness} {happening : Happening}
      (own : wait.next? = some happening) (taken : wait.step ready = some (next, left)) :
      Happens ⟨wait, ready⟩ happening ⟨next, left⟩
  /-- A clearing may spare more than it has to. -/
  | spares {seen ready left : Readiness} (spared : ready.Spares seen left) :
      Happens ⟨.passing seen, ready⟩ .cleared ⟨.asking, left⟩
  /-- Another wait begins, with what is known. -/
  | restarted (watch : Watch) : Happens watch .restarted { watch with wait := .asking }

/-- What happens to a watch, one thing after the other. -/
inductive Course : Watch → List Happening → Watch → Prop where
  | nothing (watch : Watch) : Course watch [] watch
  | first {watch next last : Watch} {happening : Happening} {rest : List Happening}
      (happens : Happens watch happening next) (course : Course next rest last) :
      Course watch (happening :: rest) last

/-- What a watch is before and after something that happens to it. -/
inductive Moved : Watch → Happening → Watch → Prop where
  | told (wait : Wait) (ready news : Readiness) :
      Moved ⟨wait, ready⟩ (.told news) ⟨wait, ready.deliver news⟩
  /-- The wait gets hold of all that is known, and rests while nothing is. -/
  | asked {ready : Readiness} (known : ready.isEmpty = false) :
      Moved ⟨.asking, ready⟩ .asked ⟨.holding ready, ready⟩
  /-- The wait finds a hang-up in what it holds. -/
  | found {seen : Readiness} (hungUp : seen.hungUp = true) (ready : Readiness) :
      Moved ⟨.holding seen, ready⟩ .tested ⟨.over, ready⟩
  /-- The wait finds none there, whatever has been told since. -/
  | passed {seen : Readiness} (quiet : seen.hungUp = false) (ready : Readiness) :
      Moved ⟨.holding seen, ready⟩ .tested ⟨.passing seen, ready⟩
  | cleared {seen ready left : Readiness} (spared : ready.Spares seen left) :
      Moved ⟨.passing seen, ready⟩ .cleared ⟨.asking, left⟩
  | restarted (wait : Wait) (ready : Readiness) : Moved ⟨wait, ready⟩ .restarted ⟨.asking, ready⟩

/-- Whatever happens moves a watch in one of these ways. -/
theorem Happens.moved {watch next : Watch} {happening : Happening}
    (happens : Happens watch happening next) : Moved watch happening next := by
  cases happens with
  | told => exact .told _ _ _
  | restarted => exact .restarted _ _
  | spares spared => exact .cleared spared
  | @goes wait _ ready _ _ own taken =>
    -- Where the wait stands settles which step is its own, and what that does.
    cases wait with
    | asking =>
      cases own
      simp only [Wait.step] at taken
      split at taken <;> cases taken
      rename_i known
      exact .asked (Bool.eq_false_iff.mpr known)
    | holding seen =>
      cases own
      cases taken
      cases hungUp : seen.hungUp with
      | true => simpa [hungUp] using Moved.found hungUp ready
      | false => simpa [hungUp] using Moved.passed hungUp ready
    | passing seen =>
      cases own
      cases taken
      exact .cleared (Readiness.spares_clear ready seen)
    | _ => cases own

namespace Moved

variable {watch next : Watch} {happening : Happening} (moved : Moved watch happening next)

include moved

/-- A hang-up is known afterwards if it was before or has just been told. -/
theorem hungUp : next.ready.hungUp = (watch.ready.hungUp || happening.tellsHangUp) := by
  -- Nothing but news adds a hang-up, and not even a clearing takes one away.
  cases moved with
  | told wait ready news => rfl
  | cleared spared => simp [spared.hungUp, Happening.tellsHangUp]
  | _ => simp [Happening.tellsHangUp]

/-- What a wait finds is known. -/
theorem sound (sound : watch.wait.finds = true → watch.ready.hungUp = true) :
    next.wait.finds = true → next.ready.hungUp = true := by
  -- A wait only gets hold of what is known, and that stays known.
  cases moved with
  | told wait ready news =>
    intro found
    have known : ready.hungUp = true := sound found
    simp [known]
  | asked known => exact id
  | found hungUp ready => exact fun _ => sound hungUp
  | _ => exact fun found => by cases found

section

variable (known : watch.ready.hungUp = true)

include known

/-- Each clearing takes one from those that are yet to come, and nothing adds one. -/
theorem clearsLeft :
    (if happening = .cleared then 1 else 0) + next.wait.clearsLeft ≤ watch.wait.clearsLeft := by
  -- What the wait asks for now holds the hang-up, so it will not be cleared.
  cases moved <;> simp_all [Wait.clearsLeft]

/-- Each test takes one from those that are yet to come, unless another wait begins. -/
theorem testsLeft (same : happening ≠ .restarted) :
    (if happening = .tested then 1 else 0) + next.wait.testsLeft ≤ watch.wait.testsLeft := by
  -- A test that finds nothing was of what the wait held before, and leaves one more.
  cases moved <;> simp_all [Wait.testsLeft]

/-- Each step of the wait takes one from those that are yet to come, unless another wait begins. -/
theorem stepsLeft (same : happening ≠ .restarted) :
    (if happening.isOwn then 1 else 0) + next.wait.stepsLeft ≤ watch.wait.stepsLeft := by
  -- The longest way goes once around: to clear what was held before, to ask and to test again.
  cases moved <;> simp_all [Happening.isOwn, Wait.stepsLeft]

end

end Moved

namespace Course

variable {watch last : Watch} {happenings : List Happening} (course : Course watch happenings last)

include course

/-- A hang-up is known in the end if it was at first or has been told. -/
theorem hungUp :
    last.ready.hungUp = (watch.ready.hungUp || happenings.any Happening.tellsHangUp) := by
  -- Each happening adds what it tells.
  induction course with
  | nothing => simp
  | first happens rest ih => rw [ih, happens.moved.hungUp, List.any_cons, Bool.or_assoc]

/-- What a wait finds is known, whatever happens. -/
theorem sound (sound : watch.wait.finds = true → watch.ready.hungUp = true) :
    last.wait.finds = true → last.ready.hungUp = true := by
  -- Each happening keeps it.
  induction course with
  | nothing => exact sound
  | first happens rest ih => exact ih (happens.moved.sound sound)

/-- What takes one from a stock whenever it happens happens no more often than the stock lasts, if
nothing adds to the stock. -/
theorem countP_le (counts : Happening → Bool) (stock : Wait → Nat)
    (lowers : ∀ {watch next : Watch} {happening : Happening}, happening ∈ happenings →
      Moved watch happening next → watch.ready.hungUp = true →
      (if counts happening then 1 else 0) + stock next.wait ≤ stock watch.wait)
    (known : watch.ready.hungUp = true) :
    happenings.countP counts + stock last.wait ≤ stock watch.wait := by
  -- The hang-up stays known, so each happening is weighed on its own.
  induction course with
  | nothing => simp
  | first happens rest ih =>
    have still := happens.moved.hungUp
    rw [known, Bool.true_or] at still
    have here := lowers List.mem_cons_self happens.moved known
    have later := ih (fun member => lowers (List.mem_cons_of_mem _ member)) still
    rw [List.countP_cons]
    omega

end Course

/-- A hang-up is told among some happenings exactly if one of them is such news. -/
theorem any_tellsHangUp_iff {happenings : List Happening} :
    happenings.any Happening.tellsHangUp = true ↔
      ∃ news, .told news ∈ happenings ∧ news.hungUp = true := by
  rw [List.any_eq_true]
  constructor
  · rintro ⟨happening, member, tells⟩
    -- Only news tells anything.
    cases happening with
    | told news => exact ⟨news, member, tells⟩
    | _ => cases tells
  · rintro ⟨news, member, hungUp⟩
    exact ⟨.told news, member, hungUp⟩

namespace Wait

variable {ready : Readiness} (known : ready.hungUp = true)

include known

/-- A known hang-up leaves no wait at rest. -/
theorem step_isSome_of_hungUp {wait : Wait} (unfinished : wait ≠ .over) : (wait.step ready).isSome = true := by
  -- It would rest only where nothing is known.
  cases wait with
  | asking | holding | passing => simp [step, Readiness.isEmpty, known]
  | _ => exact absurd rfl unfinished

/-- A known hang-up ends any wait within four steps that are taken without a break. -/
theorem steps_four_over (wait : Wait) : (steps 4 wait ready).1 = .over := by
  -- The longest way is to clear what is held without a hang-up, and to ask and test once more.
  cases wait with
  | holding seen => cases hungUp : seen.hungUp <;> simp [steps, step, Readiness.isEmpty, known, hungUp]
  | _ => simp [steps, step, Readiness.isEmpty, known]

omit known

/-- Of clearings one is yet to come at most. -/
theorem clearsLeft_le (wait : Wait) : wait.clearsLeft ≤ 1 := by
  -- A clearing is to come only where something without a hang-up is held or has been passed.
  cases wait with
  | holding seen => cases hungUp : seen.hungUp <;> simp [clearsLeft, hungUp]
  | _ => simp [clearsLeft]

/-- Of tests two are yet to come at most. -/
theorem testsLeft_le (wait : Wait) : wait.testsLeft ≤ 2 := by
  cases wait with
  | holding seen => cases hungUp : seen.hungUp <;> simp [testsLeft, hungUp]
  | _ => simp [testsLeft]

/-- Only a wait that is over has no test to come. -/
theorem over_of_testsLeft {wait : Wait} (none_left : wait.testsLeft = 0) : wait = .over := by
  -- Wherever else a wait stands it has a test to come.
  cases wait with
  | holding seen => cases hungUp : seen.hungUp <;> simp [testsLeft, hungUp] at none_left
  | asking | passing => simp [testsLeft] at none_left
  | _ => rfl

/-- Of steps four are yet to come at most. -/
theorem stepsLeft_le (wait : Wait) : wait.stepsLeft ≤ 4 := by
  cases wait with
  | holding seen => cases hungUp : seen.hungUp <;> simp [stepsLeft, hungUp]
  | _ => simp [stepsLeft]

end Wait

namespace Course

variable {watch last : Watch} {happenings : List Happening} (course : Course watch happenings last)
  (known : watch.ready.hungUp = true)

include course known

/-- Once a hang-up is known, at most one clearing follows, of what a wait held before. -/
theorem count_cleared_le : happenings.count .cleared ≤ 1 := by
  -- Each clearing takes one from a stock of one.
  have bound := course.countP_le (· == .cleared) Wait.clearsLeft
    (fun _ moved known => by simpa using moved.clearsLeft known) known
  have most := watch.wait.clearsLeft_le
  rw [List.count]
  omega

variable (same : .restarted ∉ happenings)

include same

/-- A wait tests twice at most once a hang-up is known, and is over after the second time. -/
theorem count_tested_le :
    happenings.count .tested ≤ 2 ∧ (happenings.count .tested = 2 → last.wait = .over) := by
  have bound := course.countP_le (· == .tested) Wait.testsLeft
    (fun member moved known => by
      simpa using moved.testsLeft known fun other => same (other ▸ member)) known
  have most := watch.wait.testsLeft_le
  rw [List.count]
  refine ⟨by omega, fun twice => ?_⟩
  -- Two tests use up all that were left.
  have none_left : last.wait.testsLeft = 0 := by omega
  exact Wait.over_of_testsLeft none_left

/-- A wait takes four steps at most once a hang-up is known. -/
theorem countP_isOwn_le : happenings.countP Happening.isOwn ≤ 4 := by
  -- Each step takes one from a stock of four.
  have bound := course.countP_le Happening.isOwn Wait.stepsLeft
    (fun member moved known => moved.stepsLeft known fun other => same (other ▸ member)) known
  have most := watch.wait.stepsLeft_le
  omega

end Course

/-- Whatever is told of a read end between the steps of its wait, and however often the wait is given
up for another, a hang-up is known from the moment it is told, and no wait is over before. From then
on no wait comes to rest but in its end: at most one clearing is still to come, of what was held
before, and a wait that is not given up tests twice and takes four steps at most, after the second
test being over. Left alone, the wait's own run ends it in four steps. -/
theorem hang_up_never_lost {earlier : List Happening} {watch : Watch} (course : Course {} earlier watch) :
    (watch.ready.hungUp = true ↔ ∃ news, .told news ∈ earlier ∧ news.hungUp = true) ∧
    (watch.wait = .over → ∃ news, .told news ∈ earlier ∧ news.hungUp = true) ∧
    ((∃ news, .told news ∈ earlier ∧ news.hungUp = true) →
      ∀ later reached, Course watch later reached →
        reached.ready.hungUp = true ∧
        (reached.wait ≠ .over → (reached.wait.step reached.ready).isSome = true) ∧
        (Wait.steps 4 reached.wait reached.ready).1 = .over ∧
        later.count .cleared ≤ 1 ∧
        (.restarted ∉ later →
          later.count .tested ≤ 2 ∧ (later.count .tested = 2 → reached.wait = .over) ∧
            later.countP Happening.isOwn ≤ 4)) := by
  have told : watch.ready.hungUp = true ↔ ∃ news, .told news ∈ earlier ∧ news.hungUp = true := by
    -- A new watch knows of nothing.
    rw [← any_tellsHangUp_iff, course.hungUp]
    simp
  refine ⟨told, fun isOver => ?_, fun before later reached continued => ?_⟩
  · -- A wait is over only by what it has found, and it finds what is known.
    have sound : watch.wait.finds = true → watch.ready.hungUp = true :=
      course.sound fun found => by cases found
    exact told.mp (sound (by rw [isOver]; rfl))
  · have known := told.mpr before
    -- Nothing that comes later takes the hang-up away.
    have still : reached.ready.hungUp = true := by rw [continued.hungUp, known, Bool.true_or]
    refine ⟨still, Wait.step_isSome_of_hungUp still, Wait.steps_four_over still _,
      continued.count_cleared_le known, fun same => ?_⟩
    obtain ⟨twice, ends⟩ := continued.count_tested_le known same
    exact ⟨twice, ends, continued.countP_isOwn_le known same⟩

/-- Payload is told, and before the wait looks at it the hang-up; more payload comes before that is
cleared, which the clearing spares. The second test ends the wait. -/
theorem hang_up_never_lost_between_steps :
    let earlier : List Happening := [.told ⟨true, false⟩, .asked, .told ⟨false, true⟩]
    let later : List Happening := [.tested, .told ⟨true, false⟩, .cleared, .asked, .tested]
    ∃ watch reached, Course {} earlier watch ∧ Course watch later reached ∧
      watch.wait = .holding ⟨true, false⟩ ∧ later.count .cleared ≤ 1 ∧ reached.wait = .over := by
  intro earlier later
  -- The wait holds a readiness without the hang-up that has come meanwhile.
  have before : Course {} earlier ⟨.holding ⟨true, false⟩, ⟨true, true⟩⟩ :=
    .first (.told _ _) (.first (.goes rfl rfl) (.first (.told _ _) (.nothing _)))
  have after : Course ⟨.holding ⟨true, false⟩, ⟨true, true⟩⟩ later ⟨.over, ⟨true, true⟩⟩ :=
    .first (.goes rfl rfl) (.first (.told _ _) (.first (.spares (Readiness.spares_all _ _))
      (.first (.goes rfl rfl) (.first (.goes rfl rfl) (.nothing _)))))
  have lost := (hang_up_never_lost before).2.2 ⟨⟨false, true⟩, by decide, rfl⟩ later _ after
  exact ⟨_, _, before, after, rfl, lost.2.2.2.1, (lost.2.2.2.2 (by decide)).2.1 (by decide)⟩

end Umpire.Race
