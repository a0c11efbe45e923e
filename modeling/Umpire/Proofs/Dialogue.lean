import Umpire.Dialogue

/-! Rules of dialogues: what may be asked in each state of the surroundings, and where the answers lead. The course of a
dialogue is what is exchanged in it from its first request to its end, however it is answered. -/

namespace Umpire

/-- Rules on the requests of a vocabulary, in terms of some state. -/
structure Rules (S : Signature) (σ : Type) where
  /-- What may be asked in a state. -/
  may : σ → S.Request → Prop
  /-- The states that an answer can lead to. -/
  leads : σ → (request : S.Request) → S.Answer request → σ → Prop

namespace Dialogue

variable {S : Signature} {σ α β : Type} {rules : Rules S σ}

/-- Two dialogues in sequence are answered in sequence. -/
theorem answerWith_bind {m : Type → Type} [Monad m] [LawfulMonad m]
    (answer : (wanted : S.Request) → m (S.Answer wanted)) (first : Dialogue S α) (rest : α → Dialogue S β) :
    (first >>= rest).answerWith answer = first.answerWith answer >>= fun value => (rest value).answerWith answer := by
  -- By induction on the first: each of its requests is answered before what follows.
  induction first with
  | done value => exact (LawfulMonad.pure_bind value fun value => (rest value).answerWith answer).symm
  | ask request next ih =>
    rw [answerWith, LawfulMonad.bind_assoc]
    exact bind_congr ih

/-- A dialogue abides by rules if it asks only what it may, whatever it is answered, and ends well. -/
def Abides (rules : Rules S σ) (good : α → σ → Prop) : Dialogue S α → σ → Prop
  | .done value, state => good value state
  | .ask request next, state => rules.may state request ∧
      ∀ answer after, rules.leads state request answer after → (next answer).Abides rules good after

/-- A dialogue that ends well ends well in any weaker sense. -/
theorem Abides.mono {good better : α → σ → Prop} (weaker : ∀ value state, better value state → good value state)
    {dialogue : Dialogue S α} {state : σ} (abides : dialogue.Abides rules better state) :
    dialogue.Abides rules good state := by
  -- By induction on the dialogue; only its end is judged differently.
  induction dialogue generalizing state with
  | done value => exact weaker value state abides
  | ask request next ih =>
    exact ⟨abides.1, fun answer after leads => ih answer (abides.2 answer after leads)⟩

/-- Two dialogues in sequence abide by rules if the second does wherever the first ends. -/
theorem Abides.bind {good : β → σ → Prop} {first : Dialogue S α} {rest : α → Dialogue S β} {state : σ}
    (abides : first.Abides rules (fun value after => (rest value).Abides rules good after) state) :
    (first >>= rest).Abides rules good state := by
  -- By induction on the first, whose end is where the second begins.
  induction first generalizing state with
  | done value => exact abides
  | ask request next ih =>
    exact ⟨abides.1, fun answer after leads => ih answer (abides.2 answer after leads)⟩

/-- Two dialogues in sequence, with what the first ends in by name. -/
theorem Abides.seq {between : α → σ → Prop} {good : β → σ → Prop} {first : Dialogue S α}
    {rest : α → Dialogue S β} {state : σ} (abides : first.Abides rules between state)
    (goes : ∀ value after, between value after → (rest value).Abides rules good after) :
    (first >>= rest).Abides rules good state :=
  .bind (abides.mono goes)

/-- A request that may be made, and what follows on each answer to it. -/
theorem Abides.ask {request : S.Request} {good : β → σ → Prop} {rest : S.Answer request → Dialogue S β}
    {state : σ} (may : rules.may state request)
    (goes : ∀ answer after, rules.leads state request answer after → (rest answer).Abides rules good after) :
    (Dialogue.request request >>= rest).Abides rules good state :=
  ⟨may, goes⟩

end Dialogue

variable {S T : Signature} {σ α β : Type}

/-- A request, and how it was answered. -/
structure Answered (S : Signature) where
  request : S.Request
  answer : S.Answer request

/-- Surroundings that answer each request in view of all that was exchanged before. -/
abbrev Surroundings (S : Signature) :=
  List (Answered S) → (request : S.Request) → S.Answer request

namespace Dialogue

/-- What is exchanged in a dialogue that ends with a value. -/
inductive Course : Dialogue S α → List (Answered S) → α → Prop where
  /-- Nothing is exchanged any more. -/
  | done (value : α) : Course (.done value) [] value
  /-- A request is answered in some way. -/
  | ask {request : S.Request} {next : S.Answer request → Dialogue S α} {events : List (Answered S)} {value : α}
      (answer : S.Answer request) (rest : Course (next answer) events value) :
      Course (.ask request next) (⟨request, answer⟩ :: events) value

/-- Hold a dialogue in some surroundings after what was exchanged in the past. -/
def hold (surroundings : Surroundings S) : List (Answered S) → Dialogue S α → List (Answered S) × α
  | _, .done value => ([], value)
  | past, .ask request next =>
    let exchange := ⟨request, surroundings past request⟩
    let held := (next exchange.answer).hold surroundings (past ++ [exchange])
    (exchange :: held.1, held.2)

/-- A dialogue that is held takes a course. -/
theorem course_hold (surroundings : Surroundings S) (past : List (Answered S)) (dialogue : Dialogue S α) :
    dialogue.Course (dialogue.hold surroundings past).1 (dialogue.hold surroundings past).2 := by
  -- By induction on the dialogue, for any past, which each exchange makes longer.
  induction dialogue generalizing past with
  | done value => exact .done value
  | ask request next ih => exact .ask _ (ih _ _)

/-- What is exchanged in some surroundings is answered by them. -/
theorem answer_of_mem_hold {surroundings : Surroundings S} {past : List (Answered S)} {dialogue : Dialogue S α}
    {exchange : Answered S} (listed : exchange ∈ (dialogue.hold surroundings past).1) :
    ∃ past, exchange.answer = surroundings past exchange.request := by
  induction dialogue generalizing past with
  | done value => cases listed
  | ask request next ih =>
    -- It is the first exchange, or one that is made with that one in the past.
    rcases List.mem_cons.mp listed with rfl | later
    · exact ⟨past, rfl⟩
    · exact ih _ later

/-- Nothing is exchanged in a dialogue that has ended. -/
@[simp] theorem course_done {last value : α} {events : List (Answered S)} :
    Course (S := S) (.done last) events value ↔ events = [] ∧ value = last := by
  constructor
  · rintro ⟨⟩
    exact ⟨rfl, rfl⟩
  · rintro ⟨rfl, rfl⟩
    exact .done _

/-- The course of two dialogues in sequence is the first's and then the second's. -/
theorem course_bind {first : Dialogue S α} {rest : α → Dialogue S β} {events : List (Answered S)} {value : β} :
    (first >>= rest).Course events value ↔ ∃ earlier middle later,
      events = earlier ++ later ∧ first.Course earlier middle ∧ (rest middle).Course later value := by
  constructor
  · intro course
    -- Forth by induction on the first dialogue, which is where its own exchanges end.
    induction first generalizing events with
    | done middle => exact ⟨[], middle, events, rfl, .done middle, course⟩
    | ask request next ih =>
      obtain _ | ⟨answer, course⟩ := course
      obtain ⟨earlier, middle, later, rfl, first, second⟩ := ih answer course
      exact ⟨_, middle, later, rfl, .ask answer first, second⟩
  · rintro ⟨earlier, middle, later, rfl, course, goes⟩
    -- Back by induction on the first's course, behind which the second's is put.
    induction course with
    | done middle => exact goes
    | ask answer _ ih => exact .ask answer (ih goes)

/-- A request is one exchange, and then what follows on the answer takes its course. -/
theorem course_request {request : S.Request} {rest : S.Answer request → Dialogue S β}
    {events : List (Answered S)} {value : β} :
    (Dialogue.request request >>= rest).Course events value ↔ ∃ answer later,
      events = ⟨request, answer⟩ :: later ∧ (rest answer).Course later value := by
  constructor
  · -- A dialogue that starts with a request has not ended.
    rintro (_ | ⟨answer, course⟩)
    exact ⟨answer, _, rfl, course⟩
  · rintro ⟨answer, later, rfl, course⟩
    exact .ask answer course

/-- Exchanges carried out in another vocabulary, each by a dialogue of its own. -/
inductive Carried (answer : (wanted : S.Request) → Dialogue T (S.Answer wanted)) :
    List (Answered S) → List (Answered T) → Prop where
  | nil : Carried answer [] []
  | cons {exchange : Answered S} {others : List (Answered S)} {part rest : List (Answered T)}
      (course : (answer exchange.request).Course part exchange.answer) (carried : Carried answer others rest) :
      Carried answer (exchange :: others) (part ++ rest)

/-- The course of a dialogue whose requests are carried out in another vocabulary is that of its own exchanges,
carried out one after the other. -/
theorem course_answerWith {answer : (wanted : S.Request) → Dialogue T (S.Answer wanted)} {dialogue : Dialogue S α}
    {events : List (Answered T)} {value : α} :
    (dialogue.answerWith answer).Course events value ↔
      ∃ exchanges, dialogue.Course exchanges value ∧ Carried answer exchanges events := by
  constructor
  · intro course
    -- Each request's exchanges are split off in front, and the rest is carried by induction.
    induction dialogue generalizing events with
    | done last =>
      obtain ⟨rfl, rfl⟩ := course_done.mp course
      exact ⟨[], .done _, .nil⟩
    | ask wanted next ih =>
      obtain ⟨part, got, rest, rfl, first, course⟩ := course_bind.mp course
      obtain ⟨exchanges, course, carried⟩ := ih got course
      exact ⟨⟨wanted, got⟩ :: exchanges, .ask got course, .cons first carried⟩
  · rintro ⟨exchanges, course, carried⟩
    -- Back by induction on the dialogue's own course, one part for each of its exchanges.
    induction course generalizing events with
    | done value =>
      obtain _ | _ := carried
      exact .done value
    | ask got _ ih =>
      obtain _ | ⟨first, carried⟩ := carried
      exact course_bind.mpr ⟨_, got, _, rfl, first, ih carried⟩

end Dialogue

/-- The state that is kept of what was exchanged. -/
def Answered.digest (after : σ → (request : S.Request) → S.Answer request → σ) (state : σ)
    (events : List (Answered S)) : σ :=
  events.foldl (fun state exchange => after state exchange.request exchange.answer) state

/-- Rules in terms of a state that is kept of what was exchanged. -/
def Rules.keeping (may : σ → S.Request → Prop) (after : σ → (request : S.Request) → S.Answer request → σ) :
    Rules S σ where
  may := may
  leads state request answer later := later = after state request answer

/-- A dialogue that abides by such rules asks what it may in each state that is kept of its course, and ends
well in the last. -/
theorem Dialogue.Abides.course {may : σ → S.Request → Prop}
    {after : σ → (request : S.Request) → S.Answer request → σ} {good : α → σ → Prop} {dialogue : Dialogue S α}
    {state : σ} {events : List (Answered S)} {value : α}
    (abides : dialogue.Abides (.keeping may after) good state) (course : dialogue.Course events value) :
    good value (Answered.digest after state events) ∧ ∀ earlier exchange later,
      events = earlier ++ exchange :: later → may (Answered.digest after state earlier) exchange.request := by
  -- By induction on the course. An exchange on it is the first, which the rules ask about at once, or a later one.
  induction course generalizing state with
  | done value => exact ⟨abides, fun earlier exchange later cut => by simp at cut⟩
  | @ask request next events value answer course ih =>
    obtain ⟨ends, asks⟩ := ih (abides.2 answer _ rfl)
    refine ⟨ends, fun earlier exchange later cut => ?_⟩
    cases earlier with
    -- Nothing comes before the first exchange, so the state is the one at the start.
    | nil =>
      obtain ⟨rfl, -⟩ := List.cons.inj cut
      exact abides.1
    | cons first earlier =>
      obtain ⟨same, rest⟩ := List.cons.inj cut
      subst same
      exact asks earlier exchange later rest

/-- Rules under which anything may be asked, with all that was exchanged as the state. -/
def Rules.recording (S : Signature) : Rules S (List (Answered S)) :=
  .keeping (fun _ _ => True) fun events request answer => events ++ [⟨request, answer⟩]

namespace Dialogue

/-- A dialogue adds to what was exchanged before. -/
theorem abides_recording (dialogue : Dialogue S α) (past : List (Answered S)) :
    dialogue.Abides (.recording S) (fun _ events => past <+: events) past := by
  -- Each exchange makes what was exchanged longer, and nothing is ever taken off it.
  induction dialogue generalizing past with
  | done value => exact List.prefix_refl past
  | ask request next ih =>
    refine ⟨trivial, fun answer events leads => ?_⟩
    obtain rfl := leads
    exact (ih answer _).mono fun _ _ longer => (List.prefix_append _ _).trans longer

/-- What is shown of the exchanges by going through a dialogue holds of its course. -/
theorem Abides.recorded {good : α → List (Answered S) → Prop} {dialogue : Dialogue S α} {events : List (Answered S)}
    {value : α} (abides : dialogue.Abides (.recording S) good []) (course : dialogue.Course events value) :
    good value events := by
  -- What is kept of the exchanges is these themselves, behind those of the past.
  have recorded (past events : List (Answered S)) :
      Answered.digest (fun events request answer => events ++ [⟨request, answer⟩]) past events = past ++ events := by
    induction events generalizing past with
    | nil => exact (List.append_nil past).symm
    | cons first rest ih => exact (ih _).trans (List.append_assoc past [first] rest)
  have held := (Abides.course abides course).1
  rwa [recorded, List.nil_append] at held

end Dialogue

end Umpire
