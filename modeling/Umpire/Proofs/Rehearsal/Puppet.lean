import Umpire.Proofs.Cascade
import Umpire.Rehearsal.Puppet

/-! Scripted processes answer by their scripts and by what has been asked of them, whatever is asked of others in
between; so what comes of taking both their statuses is told by the scripts. -/

namespace Umpire.Rehearsal

open Cascade (Call Handles Played)

namespace Puppet

/-- The same process, made deaf to being asked to end or not. -/
def refusingIf (puppet : Puppet) (deaf : Bool) : Puppet :=
  if deaf then puppet.refusing else puppet

/-- Being asked to end changes a puppet in one thing at most: it has been made to end if it agrees. -/
theorem terminate_left (puppet : Puppet) : ∃ ended : Bool,
    puppet.terminate.2 = { puppet with terminated := ended } ∧
      (ended = true ↔ puppet.terminated = true ∨ puppet.terminate.1 = .ok ()) := by
  -- A deaf puppet refuses and is left as it is, and any other agrees.
  unfold terminate
  split
  · exact ⟨puppet.terminated, rfl, by simp⟩
  · exact ⟨true, rfl, by simp⟩

/-- A puppet's answer to being asked to end does not hang on whether it has been made to end. -/
theorem terminate_of_terminated (puppet : Puppet) (ended : Bool) :
    { puppet with terminated := ended }.terminate.1 = puppet.terminate.1 := by
  unfold terminate
  cases puppet.termFault <;> rfl

variable (raw : Int32) (deaf : Bool)

/-- Asking a puppet to end is refused exactly if it is deaf. -/
theorem terminate_script :
    ((ofRaw raw).refusingIf deaf).terminate.1 = if deaf then .error (.worded "no such process") else .ok () := by
  cases deaf <;> rfl

/-- A puppet that has been asked for nothing gives the scripted status. -/
theorem wait_script : ((ofRaw raw).refusingIf deaf).wait = .ok ⟨raw⟩ := by
  cases deaf <;> rfl

/-- A wait gives the scripted status as long as the puppet has not been made to end. -/
theorem wait_script_of_terminated (ended : Bool) :
    { (ofRaw raw).refusingIf deaf with terminated := ended }.wait = .ok ⟨if ended then 15 else raw⟩ := by
  cases deaf <;> cases ended <;> rfl

/-- A puppet that may have been asked to end gives the scripted status if it has not been, or is deaf. -/
theorem wait_script_of_asked (spared : Prop) [Decidable spared] :
    (if spared then (ofRaw raw).refusingIf deaf else ((ofRaw raw).refusingIf deaf).terminate.2).wait =
      .ok ⟨if spared ∨ deaf = true then raw else 15⟩ := by
  -- Only a puppet that is asked and agrees ends by the signal.
  by_cases quiet : spared
  · rw [if_pos quiet, if_pos (.inl quiet), wait_script]
  · rw [if_neg quiet]
    cases deaf with
    | true => rw [if_pos (.inr rfl)]; rfl
    | false => rw [if_neg (by simp [quiet])]; rfl

end Puppet

/-- What testers ask of one of two puppets. -/
inductive Use where
  | wait (side : Side)
  | terminate (side : Side)
  deriving DecidableEq, Repr

namespace Use

/-- Whose puppet is asked. -/
def side : Use → Side
  | .wait side => side
  | .terminate side => side

/-- What is recorded of it. -/
def event (roles : PerSide Side) : Use → Event
  | .wait side => .waited (roles.get side)
  | .terminate side => .terminated (roles.get side)

/-- What was asked in a call. -/
def ofCall : Call → Use
  | .waited side _ => .wait side
  | .terminated side _ => .terminate side

end Use

namespace Stage

/-- Ask something of a puppet: the call with its answer, and the stage afterwards. -/
def use (stage : Stage) : Use → Call × Stage
  | .wait side => (.waited side (stage.wait side).1, (stage.wait side).2)
  | .terminate side => (.terminated side (stage.terminate side).1, (stage.terminate side).2)

/-- Ask several things, one after the other. -/
def uses (stage : Stage) : List Use → List Call × Stage
  | [] => ([], stage)
  | first :: rest =>
    let (call, after) := stage.use first
    let (calls, last) := after.uses rest
    (call :: calls, last)

variable {stage others : Stage} {side : Side}

/-- The first call, and those that follow it. -/
theorem uses_cons (stage : Stage) (first : Use) (rest : List Use) :
    stage.uses (first :: rest) =
      ((stage.use first).1 :: ((stage.use first).2.uses rest).1, ((stage.use first).2.uses rest).2) := rfl

/-- A call is what was asked, with its answer. -/
@[simp] theorem ofCall_use (stage : Stage) (use : Use) : Use.ofCall (stage.use use).1 = use := by
  cases use <;> rfl

/-- What is called is exactly what is asked for, in this order. -/
theorem calls_uses (stage : Stage) (uses : List Use) : (stage.uses uses).1.map Use.ofCall = uses := by
  induction uses generalizing stage with
  | nil => rfl
  | cons use rest ih => rw [uses_cons, List.map_cons, ofCall_use, ih]

/-- Each call is recorded behind those before it. -/
theorem events_uses (stage : Stage) (uses : List Use) :
    (stage.uses uses).2.events = stage.events ++ uses.map (Use.event stage.roles) := by
  induction uses generalizing stage with
  | nil => exact (List.append_nil _).symm
  | cons use rest ih =>
    -- One use appends what it is recorded as, and leaves who plays which side.
    have recorded : (stage.use use).2.events = stage.events ++ [use.event stage.roles] := by cases use <;> rfl
    have roles : (stage.use use).2.roles = stage.roles := by cases use <;> rfl
    rw [uses_cons, ih, recorded, roles, List.append_assoc, List.singleton_append, List.map_cons]

/-- What is asked of one puppet leaves the other as it is. -/
theorem get_use_of_ne {use : Use} (different : use.side ≠ side) :
    (stage.use use).2.puppets.get side = stage.puppets.get side := by
  cases use with
  | wait any => rfl
  | terminate any =>
    -- A wait changes no puppet, and being asked to end changes the one that is asked.
    have across : any = side.other := Side.eq_other_of_ne different
    subst across
    exact PerSide.get_set_of_other ..

/-- A puppet's answer, and what becomes of the puppet, hang on nothing but itself. -/
theorem use_congr {use : Use} (same : others.puppets.get use.side = stage.puppets.get use.side) :
    (others.use use).1 = (stage.use use).1 ∧
      (others.use use).2.puppets.get use.side = (stage.use use).2.puppets.get use.side := by
  -- Either use looks at the one puppet, and changes no other.
  cases use with
  | wait any =>
    have asked : others.puppets.get any = stage.puppets.get any := same
    exact ⟨by simp only [use, wait, asked], same⟩
  | terminate any =>
    have asked : others.puppets.get any = stage.puppets.get any := same
    refine ⟨by simp only [use, terminate, asked], ?_⟩
    simp only [use, terminate, Use.side, asked, PerSide.get_set_same]

/-- A puppet answers as it would if nothing were asked of the other one, whatever the other one is. -/
theorem uses_filter (same : others.puppets.get side = stage.puppets.get side) (uses : List Use) :
    (others.uses (uses.filter (·.side = side))).1 =
      (stage.uses uses).1.filter fun call => (Use.ofCall call).side = side := by
  induction uses generalizing stage others with
  | nil => rfl
  | cons use rest ih =>
    by_cases mine : use.side = side
    · subst mine
      -- The puppet is as it is there, so it answers alike and is left alike.
      obtain ⟨call, left⟩ := use_congr same
      simp [uses_cons, call, ih left]
    · -- Here nothing is asked of the puppet, and there nothing at all.
      have left : others.puppets.get side = (stage.use use).2.puppets.get side := by rw [get_use_of_ne mine, same]
      simp [uses_cons, mine, ih left]

/-- All that a use changes of a puppet is whether it has been made to end: by being asked to, if it agrees. -/
theorem get_use (stage : Stage) (use : Use) (side : Side) : ∃ ended : Bool,
    (stage.use use).2.puppets.get side = { stage.puppets.get side with terminated := ended } ∧
      (ended = true ↔ (stage.puppets.get side).terminated = true ∨ (stage.use use).1 = .terminated side (.ok ())) := by
  by_cases mine : use.side = side
  · subst mine
    cases use with
    | wait any => exact ⟨(stage.puppets.get any).terminated, rfl, by simp [Stage.use, Use.side]⟩
    | terminate any =>
      -- Of its own calls only being asked to end changes it.
      obtain ⟨ended, left, known⟩ := (stage.puppets.get any).terminate_left
      refine ⟨ended, ?_, ?_⟩
      · simpa [Stage.use, terminate, Use.side] using left
      · simpa [Stage.use, terminate, Use.side] using known
  · -- The call is another's.
    have other : (stage.use use).1 ≠ .terminated side (.ok ()) := by
      intro called
      rw [← ofCall_use stage use, called] at mine
      exact mine rfl
    exact ⟨(stage.puppets.get side).terminated, get_use_of_ne mine, by simp [other]⟩

/-- All that uses change of a puppet is whether it has been made to end: by one in which it agreed to. -/
theorem get_uses (stage : Stage) (uses : List Use) (side : Side) : ∃ ended : Bool,
    (stage.uses uses).2.puppets.get side = { stage.puppets.get side with terminated := ended } ∧
      (ended = true ↔
        (stage.puppets.get side).terminated = true ∨ .terminated side (.ok ()) ∈ (stage.uses uses).1) := by
  induction uses generalizing stage with
  | nil => exact ⟨(stage.puppets.get side).terminated, rfl, by simp [Stage.uses]⟩
  | cons use rest ih =>
    -- What the first use leaves is what the others start from.
    obtain ⟨first, now, agreed⟩ := stage.get_use use side
    obtain ⟨ended, left, known⟩ := ih (stage.use use).2
    refine ⟨ended, ?_, ?_⟩
    · rw [uses_cons, left, now]
    · rw [known, now, uses_cons, List.mem_cons, agreed, or_assoc, eq_comm (a := Call.terminated side (.ok ()))]

/-- A call among others was made on the stage that the calls before it left. -/
theorem use_of_cut {uses : List Use} {earlier later : List Call} {call : Call}
    (cut : (stage.uses uses).1 = earlier ++ call :: later) : ∃ before use,
      (stage.uses before).1 = earlier ∧ ((stage.uses before).2.use use).1 = call := by
  -- The call is the first one, or among those on the stage that the first one leaves.
  induction uses generalizing stage earlier with
  | nil => simp [Stage.uses] at cut
  | cons first rest ih =>
    rw [uses_cons] at cut
    cases earlier with
    | nil => exact ⟨[], first, rfl, (List.cons.inj cut).1⟩
    | cons head earlier =>
      obtain ⟨here, rest⟩ := List.cons.inj cut
      obtain ⟨before, use, same, called⟩ := ih rest
      exact ⟨first :: before, use, by rw [uses_cons, same, here], called⟩

/-- A wait among other calls is answered by the puppet, in view of whether it agreed to end in an earlier one. -/
theorem answer_of_waited {uses : List Use} {earlier later : List Call} {answer : Except IoFault WaitStatus}
    (cut : (stage.uses uses).1 = earlier ++ .waited side answer :: later) : ∃ ended : Bool,
      answer = { stage.puppets.get side with terminated := ended }.wait ∧
        (ended = true ↔ (stage.puppets.get side).terminated = true ∨ .terminated side (.ok ()) ∈ earlier) := by
  obtain ⟨before, use, rfl, called⟩ := use_of_cut cut
  -- All that the earlier calls changed of the puppet is whether it has been made to end.
  obtain ⟨ended, left, known⟩ := stage.get_uses before side
  cases use with
  | terminate any => cases called
  | wait any =>
    cases called
    exact ⟨ended, congrArg Puppet.wait left, known⟩

/-- Asking a puppet to end is answered as it would be at the start. -/
theorem answer_of_terminated {uses : List Use} {answer : Except IoFault Unit}
    (listed : .terminated side answer ∈ (stage.uses uses).1) :
    answer = (stage.puppets.get side).terminate.1 := by
  obtain ⟨earlier, later, cut⟩ := List.append_of_mem listed
  obtain ⟨before, use, rfl, called⟩ := use_of_cut cut
  obtain ⟨ended, left, -⟩ := stage.get_uses before side
  cases use with
  | wait any => cases called
  | terminate any =>
    cases called
    -- What the earlier calls changed makes no difference to this answer.
    exact (congrArg (fun puppet => puppet.terminate.1) left).trans (Puppet.terminate_of_terminated ..)

/-- The two puppets as processes that can be waited for and asked to end. -/
def handles : Handles Stage where
  wait side stage := stage.wait side
  terminate side stage := stage.terminate side

/-- Waiting for a process is waiting for its puppet. -/
@[simp] theorem handles_wait (side : Side) (stage : Stage) : handles.wait side stage = stage.wait side := rfl

/-- Asking a process to end is asking its puppet. -/
@[simp] theorem handles_terminate (side : Side) (stage : Stage) :
    handles.terminate side stage = stage.terminate side := rfl

/-- What is told during a talk makes no difference to the puppets and to what is asked of them. -/
theorem run_answerWith {α : Type} (talk : Cascade.Talk α) (stage : Stage) (journal : List Entry) :
    ∃ told, (talk.answerWith answer).run { stage with journal } =
      ((handles.play talk stage).value, { (handles.play talk stage).left with journal := told }) := by
  -- Waiting and asking to end do not look at the journal, and telling touches nothing else.
  induction talk generalizing stage journal with
  | done value => exact ⟨journal, rfl⟩
  | ask wanted next ih =>
    cases wanted with
    | wait side => exact ih _ (stage.wait side).2 journal
    | terminate side => exact ih _ (stage.terminate side).2 journal
    | note entry => exact ih () stage (journal ++ [entry])

/-- A talk with the puppets is a sequence of uses. -/
theorem uses_play {α : Type} (talk : Cascade.Talk α) (stage : Stage) :
    stage.uses ((handles.play talk stage).calls.map Use.ofCall) =
      ((handles.play talk stage).calls, (handles.play talk stage).left) := by
  -- What is told is no use, so each call is one use and nothing else is.
  induction talk generalizing stage with
  | done value => rfl
  | ask wanted next ih =>
    cases wanted with
    | wait side => simp only [Handles.play, handles_wait, Played.after, List.map_cons, Use.ofCall, uses_cons, use, ih]
    | terminate side =>
      simp only [Handles.play, handles_terminate, Played.after, List.map_cons, Use.ofCall, uses_cons, use, ih]
    | note entry => exact ih () stage

/-- What comes of taking both statuses if both waits are answered: the winner's by its puppet as it stands, the
other's by its puppet as it stands or once it has been asked to end. -/
theorem resolve_of_waits {winner : Side} {first second : WaitStatus}
    (taken : (stage.puppets.get winner).wait = .ok first)
    (answered : (if first.shell = 0 then stage.puppets.get winner.other
      else (stage.puppets.get winner.other).terminate.2).wait = .ok second) :
    (∃ statuses, (stage.resolve winner).1 = .ok statuses ∧
      (statuses.get winner).toInt = first.shell ∧ (statuses.get winner.other).toInt = second.shell) ∧
    (stage.resolve winner).2.events = stage.events ++
      ([.wait winner] ++ (if first.shell = 0 then [] else [.terminate winner.other]) ++
        [.wait winner.other] : List Use).map (Use.event stage.roles) := by
  -- The winner is waited for first, on the stage as it is.
  have waited : (handles.wait winner stage).1 = .ok first := taken
  have played := handles.play_resolve_taken waited
  -- Then the other one is, as it was left: asked to end unless the winner ended well.
  have last : (handles.wait winner.other (if first.shell = 0 then (handles.wait winner stage).2
      else (handles.terminate winner.other (handles.wait winner stage).2).2)).1 = .ok second := by
    rw [← answered]
    split
    · rfl
    · exact congrArg Puppet.wait (PerSide.get_set_same ..)
  dsimp only at played
  rw [last] at played
  -- What is recorded is what was called, one by one.
  have recorded := congrArg (fun done => done.2.events) (uses_play (Cascade.resolve winner) stage)
  rw [events_uses] at recorded
  -- The resolver with its journal comes to what the talk comes to.
  obtain ⟨told, run⟩ := run_answerWith (Cascade.resolve winner) stage stage.journal
  have resolved : stage.resolve winner = _ := run
  rw [resolved]
  refine ⟨⟨_, congrArg Played.value played, ?_, ?_⟩, recorded.symm.trans ?_⟩
  · rw [Cascade.Tally.reap_other_status, Cascade.Tally.reap_status]
  · exact Cascade.Tally.reap_status ..
  · rw [played]
    by_cases clean : first.shell = 0 <;> simp [clean, Use.ofCall]

/-- Two scripted puppets, each of which may be deaf, with what has been recorded and told so far. -/
def cast (scripts : PerSide Puppet) (deaf : PerSide Bool) (roles : PerSide Side) (events : List Event)
    (journal : List Entry) : Stage :=
  { puppets := .ofFn fun side => (scripts.get side).refusingIf (deaf.get side), roles, events, journal }

/-- Each side is stood for by the puppet that is scripted for it. -/
theorem get_cast {α : Type} (script : α → Puppet) (values : PerSide α) (deaf : PerSide Bool) (roles : PerSide Side)
    (events : List Event) (journal : List Entry) (side : Side) :
    (cast (values.map script) deaf roles events journal).puppets.get side =
      (script (values.get side)).refusingIf (deaf.get side) := by
  cases side <;> rfl

/-- Calls on two puppets are answered by scripts. -/
structure Scripted (raw : PerSide Int32) (deaf : PerSide Bool) (calls : List Call) : Prop where
  /-- Asking a puppet to end is refused each time if it is deaf, and never otherwise. -/
  terminated : ∀ side answer, .terminated side answer ∈ calls →
    answer = if deaf.get side then .error (.worded "no such process") else .ok ()
  /-- A wait gives the status of the signal if the same puppet has agreed to end in an earlier call. -/
  waited_ended : ∀ earlier side answer later, calls = earlier ++ .waited side answer :: later →
    .terminated side (.ok ()) ∈ earlier → answer = .ok ⟨15⟩
  /-- A wait gives the scripted status in every other case. -/
  waited_alive : ∀ earlier side answer later, calls = earlier ++ .waited side answer :: later →
    .terminated side (.ok ()) ∉ earlier → answer = .ok ⟨raw.get side⟩

/-- Whatever is asked of scripted puppets, and in whichever order, is answered by their scripts. -/
theorem scripted_uses (raw : PerSide Int32) (deaf : PerSide Bool) (roles : PerSide Side) (events : List Event)
    (journal : List Entry) (uses : List Use) :
    Scripted raw deaf ((cast (raw.map Puppet.ofRaw) deaf roles events journal).uses uses).1 := by
  -- A wait's answer hangs on whether the puppet agreed to end before it, as nobody has at the start.
  have ends {earlier later : List Call} {side : Side} {answer : Except IoFault WaitStatus}
      (cut : ((cast (raw.map Puppet.ofRaw) deaf roles events journal).uses uses).1 =
        earlier ++ .waited side answer :: later) : ∃ ended : Bool,
      answer = .ok ⟨if ended then 15 else raw.get side⟩ ∧ (ended = true ↔ .terminated side (.ok ()) ∈ earlier) := by
    obtain ⟨ended, same, known⟩ := answer_of_waited cut
    rw [get_cast] at same known
    have fresh : ((Puppet.ofRaw (raw.get side)).refusingIf (deaf.get side)).terminated = false := by
      cases deaf.get side <;> rfl
    refine ⟨ended, same.trans (Puppet.wait_script_of_terminated ..), known.trans ?_⟩
    simp only [fresh, Bool.false_eq_true, false_or]
  constructor
  case terminated =>
    intro side answer listed
    rw [answer_of_terminated listed, get_cast, Puppet.terminate_script]
  case waited_ended =>
    intro earlier side answer later cut agreed
    obtain ⟨ended, same, known⟩ := ends cut
    rw [same, if_pos (known.mpr agreed)]
  case waited_alive =>
    intro earlier side answer later cut never
    obtain ⟨ended, same, known⟩ := ends cut
    rw [same, if_neg (mt known.mp never)]

/-- Whatever scripts two puppets have, be they deaf or not, and whatever is asked of them in whichever order: all of
it is recorded in this order and answered by the scripts, and what a puppet answers hangs on nothing but itself and
what is asked of it, be the other puppet and what is asked of that as they may. So if both have exit codes, taking
their statuses gives the winner its code modulo 256, and the other side 143 if that is not zero and it can be made to
end, or else its own code modulo 256. -/
theorem puppets_follow_scripts (deaf : PerSide Bool) (roles : PerSide Side) (events : List Event)
    (journal : List Entry) :
    (∀ (raw : PerSide Int32) (uses : List Use),
      let stage := cast (raw.map Puppet.ofRaw) deaf roles events journal
      let played := stage.uses uses
      played.1.map Use.ofCall = uses ∧ played.2.events = events ++ uses.map (Use.event roles) ∧
      Scripted raw deaf played.1 ∧
      ∀ side (others : Stage) (theirs : List Use), others.puppets.get side = stage.puppets.get side →
        theirs.filter (·.side = side) = uses.filter (·.side = side) →
        (others.uses theirs).1.filter (fun call => (Use.ofCall call).side = side) =
          played.1.filter fun call => (Use.ofCall call).side = side) ∧
    ∀ (codes : PerSide Int32) (winner : Side),
      let resolved := (cast (codes.map Puppet.exitsWith) deaf roles events journal).resolve winner
      let code := fun side => (codes.get side).toInt % 256
      (∃ statuses, resolved.1 = .ok statuses ∧ (statuses.get winner).toInt = code winner ∧
        (statuses.get winner.other).toInt =
          if code winner ≠ 0 ∧ deaf.get winner.other = false then 143 else code winner.other) ∧
      resolved.2.events = events ++ ([.wait winner] ++ (if code winner = 0 then [] else [.terminate winner.other]) ++
        [.wait winner.other] : List Use).map (Use.event roles) := by
  refine ⟨fun raw uses => ⟨calls_uses .., events_uses .., scripted_uses .., ?_⟩, fun codes winner => ?_⟩
  · intro side others theirs same alike
    -- Both sequences answer for this puppet as the uses of it alone would.
    rw [← uses_filter same.symm theirs, alike]
    exact uses_filter rfl uses
  · intro resolved code
    -- A process that exits with a code has the code as its status modulo 256.
    have shell (side : Side) : ((WaitStatus.mk (codes.get side <<< 8)).shell : Int) = code side :=
      WaitStatus.shell_of_code _
    have clean : (WaitStatus.mk (codes.get winner <<< 8)).shell = 0 ↔ code winner = 0 := by
      rw [← shell]
      exact Int.natCast_eq_zero.symm
    let stage := cast (codes.map Puppet.exitsWith) deaf roles events journal
    have puppet (side : Side) : stage.puppets.get side =
        (Puppet.ofRaw (codes.get side <<< 8)).refusingIf (deaf.get side) := get_cast ..
    -- Before its wait the winner's puppet is asked for nothing, and the other's at most to end.
    have taken : (stage.puppets.get winner).wait = .ok ⟨codes.get winner <<< 8⟩ := by rw [puppet, Puppet.wait_script]
    have answered : (if (WaitStatus.mk (codes.get winner <<< 8)).shell = 0 then stage.puppets.get winner.other
        else (stage.puppets.get winner.other).terminate.2).wait =
        .ok ⟨if (WaitStatus.mk (codes.get winner <<< 8)).shell = 0 ∨ deaf.get winner.other = true then
          codes.get winner.other <<< 8 else 15⟩ := by
      rw [puppet, Puppet.wait_script_of_asked]
    obtain ⟨⟨statuses, result, first, second⟩, recorded⟩ := resolve_of_waits taken answered
    simp only [clean] at second recorded
    refine ⟨⟨statuses, result, first.trans (shell winner), second.trans ?_⟩, recorded⟩
    by_cases own : code winner = 0 ∨ deaf.get winner.other = true
    · have spared : ¬(code winner ≠ 0 ∧ deaf.get winner.other = false) := by
        rintro ⟨failed, hears⟩
        rw [hears] at own
        exact own.elim failed Bool.false_ne_true
      rw [if_pos own, if_neg spared, shell]
    · rw [if_neg own, if_pos (by simpa using own)]
      rfl

/-- Of a code only eight bits count: one of 256 is as good as none, and a negative one is high. -/
example : ((cast ⟨.exitsWith 256, .exitsWith (-1)⟩ ⟨false, false⟩ ⟨.solution, .interactor⟩ [] []).resolve .solution).1 =
    .ok ⟨0, 255⟩ := rfl

end Stage

end Umpire.Rehearsal
