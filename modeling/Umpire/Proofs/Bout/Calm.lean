import Umpire.Proofs.Bout.Record

/-! Calm: acts that make nothing and start nothing leave the umpire with no more than it had, so that
whatever it does by such acts alone is allowed from a calm state on, and ends in one. -/

namespace Umpire.Bout

/-- Whether an act makes no descriptor, starts nobody, tells of neither and looks at nothing. -/
def Act.IsQuiet : Act → Prop
  | .note (.pipeCreated ..) | .note (.starting ..) | .note (.started ..) | .note .bothRunning => False
  | .note _ => True
  | .call (.close _) | .call (.watch _) | .call (.hangUp ..) | .call (.reap ..)
  | .call (.signal ..) => True
  | .call _ => False

/-- The rules of conduct by quiet acts. -/
def quietRules : Rules Act.vocabulary Unit where
  may _ act := act.IsQuiet
  leads _ _ _ _ := True

/-- A conduct is quiet if all its acts are. -/
def Conduct.Quiet {α : Type} (conduct : Conduct α) : Prop :=
  conduct.Abides quietRules (fun _ _ => True) ()

namespace Ledger

variable {contest : Contest} {before after : Ledger}

/-- A ledger with the same record and nothing more open is calm. -/
theorem Calm.of_fewer (calm : before.Calm) (record : after.record = before.record)
    (fewer : ∀ fd slot, after.table.get? fd = some slot → before.table.get? fd = some slot) :
    after.Calm where
  privately fd slot made := calm.privately fd slot ⟨fewer fd slot made.1, record ▸ made.2⟩
  settled := by
    intro both fd slot made
    -- The same has been told of, and what is still open was open when it was calm.
    rw [record] at both ⊢
    exact calm.settled both fd slot ⟨fewer fd slot made.1, record ▸ made.2⟩

/-- A quiet act is allowed in a calm state. -/
theorem Calm.allows (calm : before.Calm) {act : Act} (quiet : act.IsQuiet) : (rules contest).may before act := by
  refine ⟨calm.settled, ?_⟩
  -- What a quiet act needs is that nothing is open to be handed on, which is what being calm says.
  cases act with
  | call wanted => cases wanted <;> first | exact quiet.elim | exact calm.privately
  | note entry => cases entry <;> first | exact quiet.elim | exact calm.privately

/-- A quiet act leads from a calm state to a calm state. -/
theorem Calm.step (calm : before.Calm) {act : Act} (quiet : act.IsQuiet) {answer : act.Answer}
    (leads : (rules contest).leads before act answer after) : after.Calm := by
  -- A note that is quiet is of nothing that the record keeps; of the quiet calls, only closing changes what is open.
  cases act with
  | note entry =>
    obtain rfl := leads
    cases entry <;> first | exact quiet.elim | exact calm
  | call wanted =>
    obtain ⟨⟨now, -, effect⟩, record⟩ := leads
    cases wanted
    case close fd =>
      refine calm.of_fewer record fun number slot found => ?_
      cases answer with
      | error errno =>
        obtain ⟨-, same, -⟩ := effect
        exact same ▸ found
      | ok done =>
        obtain ⟨closed, -⟩ := effect
        rw [Host.Table.close_ok closed, Host.Table.get?_put] at found
        -- Closing takes one number away, so that whatever is found afterwards was there before.
        split at found
        · cases found
        · exact found
    case watch | hangUp | reap | signal =>
      obtain ⟨same, -⟩ := effect
      exact calm.of_fewer record fun number slot found => same ▸ found
    all_goals exact quiet.elim

/-- Quiet conduct is allowed in a calm state and leads to a calm state. -/
theorem Calm.abides (calm : before.Calm) {α : Type} {conduct : Conduct α} (quiet : conduct.Quiet) :
    conduct.Abides (rules contest) (fun _ after => after.Calm) before := by
  -- By induction on the conduct, with being calm as the invariant that its acts keep.
  induction conduct generalizing before with
  | done value => exact calm
  | ask act next ih =>
    exact ⟨calm.allows quiet.1, fun answer after leads =>
      ih answer (calm.step quiet.1 leads) (quiet.2 answer () trivial)⟩

end Ledger

namespace Conduct.Quiet

variable {α β : Type}

/-- Quiet conduct goes on quietly. -/
theorem bind {conduct : Conduct α} {rest : α → Conduct β} (quiet : conduct.Quiet)
    (goes : ∀ value, (rest value).Quiet) : Conduct.Quiet (conduct >>= rest) :=
  .seq quiet fun value _ _ => goes value

/-- A quiet act and what follows on it. -/
theorem ask {act : Act} {rest : act.Answer → Conduct β} (quiet : act.IsQuiet)
    (goes : ∀ answer, (rest answer).Quiet) :
    Conduct.Quiet (Dialogue.request (S := Act.vocabulary) act >>= rest) :=
  Dialogue.Abides.ask quiet fun answer _ _ => goes answer

/-- Ending is quiet. -/
theorem done (value : α) : Conduct.Quiet (pure value) := trivial

/-- Closing is quiet. -/
theorem closeAll (fds : List Nat) : (Bout.closeAll fds).Quiet := by
  -- One descriptor after another, whatever comes of closing each.
  induction fds with
  | nil => exact .done ()
  | cons fd rest ih => exact .ask trivial fun _ => ih

/-- Waiting for a side's end is quiet. -/
theorem wait (handle : Handle) : handle.wait.Quiet := by
  rw [Handle.wait]
  -- A status that is known is not asked for again.
  split
  · exact .done _
  · refine .ask trivial fun answer => ?_
    -- Three answers are possible, an error, no status and a status, and on none does anything follow.
    rcases answer with errno | ⟨⟩ | ⟨pid, status⟩ <;> exact .done _

/-- Asking a side to end is quiet. -/
theorem terminate (handle : Handle) : handle.terminate.Quiet := by
  rw [Handle.terminate]
  -- Nobody is signalled who has been waited for or whose number is no process's.
  split
  · exact .done _
  · split
    · exact .done _
    · refine .ask trivial fun _ => .ask trivial fun answer => ?_
      cases answer <;> exact .done _

/-- Letting go of a side is quiet. -/
theorem drop (handle : Handle) : handle.drop.Quiet := by
  rw [Handle.drop]
  split
  · exact .done _
  · exact .ask trivial fun _ => .done _

/-- Letting go of everything is quiet. -/
theorem dissolve (holdings : Holdings) : holdings.dissolve.Quiet := by
  -- The sides go first and then the descriptors, as locals do that were made in the opposite order.
  refine .bind ?_ fun _ => .closeAll holdings.descriptors
  -- A side after another is let go of.
  induction holdings.handles with
  | nil => exact .done ()
  | cons handle rest ih => exact .bind (.drop handle) fun _ => ih

/-- Waiting for the first side to hang up is quiet. -/
theorem firstHangUp (pipes : PerSide SignalPipe) : (Bout.firstHangUp pipes).Quiet := by
  refine .ask trivial fun answer => ?_
  cases answer with
  | error fault => exact .done _
  | ok hungUp =>
    dsimp only
    -- A hang-up is told of, and that is a note of nothing that was made.
    split
    · exact .ask trivial fun _ => .done _
    · exact .done _

/-- Doing what taking the statuses asks for is quiet, if what is told of it is. -/
theorem attend (wanted : Cascade.Request) (handles : PerSide Handle)
    (plain : ∀ entry, wanted = .note entry → Act.IsQuiet (.note entry)) :
    Conduct.Quiet (Bout.attend wanted handles) := by
  -- Only what is told is the asker's choice, which is why it is the one thing that is assumed.
  cases wanted with
  | wait side => exact .bind (.wait _) fun _ => .done _
  | terminate side => exact .bind (.terminate _) fun _ => .done _
  | note entry => exact .ask (plain entry rfl) fun _ => .done _

end Conduct.Quiet

/-- The rules of taking statuses by which only what is quiet is told. -/
def plainRules : Rules Cascade.vocabulary Unit where
  may
    | _, .note entry => Act.IsQuiet (.note entry)
    | _, _ => True
  leads _ _ _ _ := True

/-- Taking a side's status tells only what is quiet. -/
theorem plain_take (side : Side) : (Cascade.take side).Abides plainRules (fun _ _ => True) () := by
  -- The wait may be answered by anything; what is told of it is told only of a status.
  refine .ask trivial fun answer _ _ => ?_
  cases answer with
  | error cause => exact trivial
  | ok status => exact .ask trivial fun _ _ _ => trivial

/-- Reacting to a side's status tells only what is quiet. -/
theorem plain_react (tally : Cascade.Tally) (side : Side) (status : Nat) :
    (Cascade.react tally side status).Abides plainRules (fun _ _ => True) () := by
  rw [Cascade.react]
  -- The other side is asked to end at most once, and only a failure of that is told before the rest.
  split
  · split
    · exact ⟨trivial, fun _ _ _ => trivial⟩
    · refine .ask trivial fun answer _ _ => ?_
      cases answer <;> exact ⟨trivial, fun _ _ _ => trivial⟩
  · exact trivial

/-- Taking a side's status and reacting to it tells only what is quiet. -/
theorem plain_round (tally : Cascade.Tally) (side : Side) :
    (Cascade.round tally side).Abides plainRules (fun _ _ => True) () := by
  -- A fault ends the round before any reaction.
  refine .seq (plain_take side) fun taken _ _ => ?_
  cases taken with
  | error fault => exact trivial
  | ok status => exact .seq (plain_react _ side status) fun _ _ _ => trivial

/-- Taking some sides' statuses tells only what is quiet. -/
theorem plain_rounds (tally : Cascade.Tally) (sides : List Side) :
    (Cascade.rounds tally sides).Abides plainRules (fun _ _ => True) () := by
  -- By induction on the sides that are left, for any tally, as each round hands its tally on.
  induction sides generalizing tally with
  | nil => exact trivial
  | cons side rest ih =>
    refine .seq (plain_round tally side) fun known _ _ => ?_
    cases known with
    | error fault => exact trivial
    | ok known => exact ih known

/-- Taking both statuses tells only what is quiet. -/
theorem plain_resolve (winner : Side) :
    (Cascade.resolve winner).Abides plainRules (fun _ _ => True) () :=
  .seq (plain_rounds {} [winner, winner.other]) fun _ _ _ => trivial

/-- Taking statuses is quiet if what is told of it is. -/
theorem Conduct.Quiet.answered {α : Type} {talk : Cascade.Talk α}
    (plain : talk.Abides plainRules (fun _ _ => True) ()) (handles : PerSide Handle) :
    Conduct.Quiet ((talk.answerWith Bout.attend).run handles) := by
  -- By induction on what is asked, for any handles, since a wait changes the handle that it was made on.
  induction talk generalizing handles with
  | done value => exact .done _
  | ask wanted next ih =>
    refine .bind (.attend wanted handles ?_) fun out => ih out.1 (plain.2 out.1 () trivial) out.2
    rintro entry rfl
    exact plain.1

/-- Taking both statuses is quiet. -/
theorem Conduct.Quiet.settle (winner : Side) (handles : PerSide Handle) (holdings : Holdings) :
    Conduct.Quiet (Bout.settle winner handles holdings) :=
  .bind (.answered (plain_resolve winner) handles) fun _ => .done _

end Umpire.Bout
