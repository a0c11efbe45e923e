import Umpire.Program
import Umpire.Proofs.Bout.Outcome
import Umpire.Proofs.Host.Transfer
import Umpire.Proofs.Report
import Umpire.Proofs.Text.Utf8

/-! The code of the program, and what is written by then: a code of zero stands for a whole report on standard
output, or for a text that was asked for. -/

namespace Umpire

namespace Bytes

/-- Nothing, or lines of which each is finished. -/
def Whole (bytes : Bytes) : Prop :=
  bytes = [] ∨ bytes.getLast? = some (ascii '\n')

/-- Finished lines in sequence are finished lines. -/
theorem Whole.append {first second : Bytes} (former : first.Whole) (latter : second.Whole) :
    (first ++ second).Whole := by
  -- Together they end as the second ones do, or as the first if there are no second ones.
  rcases latter with rfl | ends
  · rwa [List.append_nil]
  · refine .inr ?_
    rw [List.getLast?_append, ends]
    rfl

end Bytes

/-- A line of the journal is finished. -/
theorem Entry.whole_line (entry : Entry) (micros : Nat) : (Bytes.ofChars (entry.line micros)).Whole := by
  -- The line feed is what every line ends in.
  refine .inr ?_
  rw [line, Bytes.ofChars_append, List.getLast?_append]
  rfl

/-- A complaint that shows no text is no request. -/
theorem Options.Complaint.isRequest_of_request?_none {complaint : Complaint} (none : complaint.request? = none) :
    complaint.isRequest = false := by
  cases complaint <;> first | rfl | cases none

namespace Program

open Host Dialogue

/-- Whether a signal broke off a write on standard output. -/
def breaksOff : Event → Bool
  | ⟨.write 1 _, .error errno⟩ => errno == Errno.interrupted
  | _ => false

/-- What is relied on in the answers: whatever is written on standard error is taken, a write on standard
output that fails is told to have failed, and signals do not break writes off for ever. -/
structure Honest (events : List Event) : Prop where
  takes : ∀ event ∈ events, event.Takes 2
  tells : ∀ data, ⟨.write 1 data, .error Errno.badDescriptor⟩ ∉ events
  relents : events.countP breaksOff < patience

/-- What is relied on in some exchanges is so in a part of them. -/
theorem Honest.mono {events some_ : List Event} (honest : Honest events) (among : some_.Sublist events) :
    Honest some_ where
  takes event listed := honest.takes event (among.subset listed)
  tells data listed := honest.tells data (among.subset listed)
  relents := Nat.lt_of_le_of_lt among.countP_le honest.relents

/-- A write on standard output that failed for a cause, and was not just broken off by a signal. -/
def Refuses (cause : IoFault) : Event → Prop
  | ⟨.write target _, .error errno⟩ => target = 1 ∧ errno ≠ Errno.interrupted ∧ cause = .host errno
  | ⟨.write target _, .ok 0⟩ => target = 1 ∧ cause = .worded "failed to write the buffered data"
  | _ => False

section Output

variable {events : List Event}

/-- What becomes of a buffer that is written with some calls left. -/
inductive Poured (fuel : Nat) (buffer : Bytes) (events : List Event) : Except (IoFault × Bytes) Unit → Prop where
  /-- All of it has arrived. -/
  | all (arrived : written 1 events = buffer) : Poured fuel buffer events (.ok ())
  /-- All but what is left has arrived, and then a write failed, or there were too few calls for the signals. -/
  | part {cause : IoFault} {left : Bytes} (arrived : written 1 events ++ left = buffer)
      (failed : (∃ event ∈ events, Refuses cause event) ∨ fuel ≤ buffer.length + events.countP breaksOff) :
      Poured fuel buffer events (.error (cause, left))

/-- A buffer of which a write takes some is poured as its rest is. -/
theorem Poured.more {fuel count : Nat} {buffer : Bytes} {result : Except (IoFault × Bytes) Unit} (some_ : buffer ≠ [])
    (poured : Poured fuel (buffer.drop (count + 1)) events result) :
    Poured (fuel + 1) buffer (⟨.write 1 buffer, .ok (count + 1)⟩ :: events) result := by
  have shorter : (buffer.drop (count + 1)).length < buffer.length := by
    have := List.length_pos_iff.mpr some_
    rw [List.length_drop]
    omega
  -- What the write took and what arrived of the rest are together what arrived.
  have whole (rest : Bytes) (same : written 1 events ++ rest = buffer.drop (count + 1)) :
      written 1 (⟨.write 1 buffer, .ok (count + 1)⟩ :: events) ++ rest = buffer := by
    rw [written_cons, List.append_assoc, same]
    exact List.take_append_drop _ _
  cases poured with
  | all arrived =>
    have arrived := whole [] (by rwa [List.append_nil])
    rw [List.append_nil] at arrived
    exact .all arrived
  | part arrived failed =>
    refine .part (whole _ arrived) (failed.imp ?_ fun few => ?_)
    · rintro ⟨event, listed, refuses⟩
      exact ⟨event, List.mem_cons_of_mem _ listed, refuses⟩
    · -- The call is paid for by what it took.
      rw [List.countP_cons_of_neg Bool.false_ne_true]
      omega

/-- A buffer is poured as before after a signal, which uses up a call. -/
theorem Poured.again {fuel : Nat} {buffer : Bytes} {result : Except (IoFault × Bytes) Unit}
    (poured : Poured fuel buffer events result) :
    Poured (fuel + 1) buffer (⟨.write 1 buffer, .error Errno.interrupted⟩ :: events) result := by
  cases poured with
  | all arrived => exact .all arrived
  | part arrived failed =>
    -- The call is paid for by the signal.
    refine .part arrived (failed.imp ?_ fun few => ?_)
    · rintro ⟨event, listed, refuses⟩
      exact ⟨event, List.mem_cons_of_mem _ listed, refuses⟩
    · rw [List.countP_cons_of_pos rfl]
      omega

/-- A buffer that is written becomes so, and nothing is written on standard error. -/
theorem poured_writeBuffer {fuel : Nat} {buffer : Bytes} {result : Except (IoFault × Bytes) Unit}
    (course : (writeBuffer fuel buffer).Course events result) (honest : Honest events) :
    written 2 events = [] ∧ Poured fuel buffer events result := by
  -- Each call leaves less to write, is a signal, or is the last.
  induction fuel generalizing buffer events with
  | zero =>
    obtain ⟨rfl, rfl⟩ := course_done.mp course
    exact ⟨rfl, .part rfl (.inr (Nat.zero_le _))⟩
  | succ fuel ih =>
    rw [writeBuffer] at course
    split at course
    · rename_i empty
      obtain ⟨rfl, rfl⟩ := course_done.mp course
      exact ⟨rfl, .all (List.isEmpty_iff.mp empty).symm⟩
    · rename_i nonempty
      obtain ⟨answer, later, rfl, goes⟩ := course_request.mp course
      have honest' : Honest later := honest.mono (List.sublist_cons_self _ _)
      cases answer with
      | ok count =>
        cases count with
        | zero =>
          -- Where a write takes nothing, the next would not either.
          obtain ⟨rfl, rfl⟩ := course_done.mp goes
          exact ⟨rfl, .part rfl (.inl ⟨_, List.mem_cons_self, rfl, rfl⟩)⟩
        | succ count =>
          obtain ⟨errors, poured⟩ := ih goes honest'
          exact ⟨errors, poured.more (mt List.isEmpty_iff.mpr nonempty)⟩
      | error errno =>
        dsimp only at goes
        split at goes
        · rename_i signal
          subst signal
          obtain ⟨errors, poured⟩ := ih goes honest'
          exact ⟨errors, poured.again⟩
        · rename_i told
          split at goes
          · -- This is the one failure that is not told of, and it is relied on not to occur.
            rename_i nowhere
            subst nowhere
            exact absurd List.mem_cons_self (honest.tells buffer)
          · obtain ⟨rfl, rfl⟩ := course_done.mp goes
            exact ⟨rfl, .part rfl (.inl ⟨_, List.mem_cons_self, rfl, told, rfl⟩)⟩

/-- What becomes of bytes that are written on standard output: all of them have arrived, or all but what is left
and perhaps more, and then a write failed. -/
inductive Sent (data : Bytes) (events : List Event) : Except (IoFault × Bytes) Unit → Prop where
  | all (arrived : written 1 events = data) : Sent data events (.ok ())
  | part {cause : IoFault} {left : Bytes} (rest : Bytes) (arrived : written 1 events ++ left ++ rest = data)
      (failed : ∃ event ∈ events, Refuses cause event) : Sent data events (.error (cause, left))

/-- What has arrived is a first part of the bytes. -/
theorem Sent.arrived_prefix {data : Bytes} {result : Except (IoFault × Bytes) Unit} (sent : Sent data events result) :
    written 1 events <+: data := by
  -- What is left, if anything, comes behind what has arrived.
  cases sent with
  | all arrived => exact arrived ▸ List.prefix_refl _
  | part rest arrived => exact ⟨_, (List.append_assoc _ _ _).symm.trans arrived⟩

/-- A buffer has enough calls for its bytes and for the signals. -/
theorem sent_flush {buffer : Bytes} {result : Except (IoFault × Bytes) Unit}
    (course : (flush buffer).Course events result) (honest : Honest events) :
    written 2 events = [] ∧ Sent buffer events result := by
  obtain ⟨errors, poured⟩ := poured_writeBuffer course honest
  refine ⟨errors, ?_⟩
  cases poured with
  | all arrived => exact .all arrived
  | part arrived failed =>
    -- Too few calls would mean as many signals as nobody has to bear.
    exact .part [] (by rwa [List.append_nil]) (failed.resolve_right fun few => by have := honest.relents; omega)

/-- Lines are written in sequence, up to the first that is not taken. -/
theorem sent_writeLines {lines : List (List Char)} {result : Except (IoFault × Bytes) Unit}
    (course : (writeLines lines).Course events result) (honest : Honest events) :
    written 2 events = [] ∧ Sent (Bytes.ofChars lines.flatten) events result := by
  -- Each line is a buffer of its own, and the first that fails ends the writing.
  induction lines generalizing events with
  | nil =>
    obtain ⟨rfl, rfl⟩ := course_done.mp course
    exact ⟨rfl, .all rfl⟩
  | cons line lines ih =>
    obtain ⟨earlier, middle, later, rfl, first, goes⟩ := course_bind.mp course
    obtain ⟨errors, sent⟩ := sent_flush first (honest.mono (List.sublist_append_left _ _))
    rw [List.flatten_cons, Bytes.ofChars_append]
    cases sent with
    | all arrived =>
      obtain ⟨errors', sent⟩ := ih goes (honest.mono (List.sublist_append_right _ _))
      refine ⟨by rw [written_append, errors, errors', List.append_nil], ?_⟩
      cases sent with
      | all arrived' => exact .all (by rw [written_append, arrived, arrived'])
      | part rest arrived' failed =>
        obtain ⟨event, listed, refuses⟩ := failed
        refine .part rest ?_ ⟨event, List.mem_append_right _ listed, refuses⟩
        rw [written_append, arrived, ← arrived', List.append_assoc, List.append_assoc, List.append_assoc]
    | part rest arrived failed =>
      -- None of the later lines is written then.
      obtain ⟨rfl, rfl⟩ := course_done.mp goes
      rw [List.append_nil]
      refine ⟨errors, .part (rest ++ Bytes.ofChars lines.flatten) ?_ failed⟩
      rw [← arrived, List.append_assoc, List.append_assoc, List.append_assoc]

end Output

/-- The last that is written on standard error is the wording of a fault, on a line of its own. -/
def Complains (fault : Fault) (events : List Event) : Prop :=
  ∃ earlier, Bytes.Whole earlier ∧
    written 2 events = earlier ++ Bytes.ofString ("pipe ERROR: " ++ fault.message ++ "\n")

/-- A complaint is written on standard error alone, and its code is one. -/
theorem complains_complain {fault : Fault} {events : List Event} {code : Nat}
    (course : (complain fault).Course events code) (honest : Honest events) :
    code = 1 ∧ written 1 events = [] ∧
      written 2 events = Bytes.ofString ("pipe ERROR: " ++ fault.message ++ "\n") := by
  obtain ⟨earlier, result, later, rfl, writes, goes⟩ := course_bind.mp course
  obtain ⟨rfl, rfl⟩ := course_done.mp goes
  rw [List.append_nil] at honest ⊢
  -- The result of the writing is not looked at, but standard error takes everything.
  exact ⟨rfl, written_writeSome_of_ne writes (by decide), written_writeAll writes honest.takes⟩

/-- What the umpire may do brings nothing to standard output, and finished lines to standard error. -/
theorem whole_carryOut {level : Level} {act : Bout.Act} {events : List Event} {answer : act.Answer}
    (course : (carryOut level act).Course events answer) (honest : Honest events) {contest : Contest}
    {chronicle : Bout.Chronicle} (may : chronicle.May contest act) :
    written 1 events = [] ∧ (written 2 events).Whole := by
  cases act with
  | call wanted =>
    obtain _ | ⟨got, ends⟩ := course
    obtain ⟨rfl, -⟩ := course_done.mp ends
    cases wanted with
    -- The umpire never writes to a descriptor itself.
    | write fd data => exact may.elim
    | _ => exact ⟨rfl, .inl rfl⟩
  | note entry =>
    rw [carryOut] at course
    split at course
    · obtain ⟨time, later, rfl, goes⟩ := course_request.mp course
      obtain ⟨told, result, rest, rfl, writes, ends⟩ := course_bind.mp goes
      obtain ⟨rfl, -⟩ := course_done.mp ends
      have takes := (honest.mono (List.sublist_cons_self _ _)).takes
      rw [List.append_nil] at takes ⊢
      -- Looking at the clock delivers nothing, so all there is comes from the line.
      have clock (fd : Nat) : Event.delivered fd ⟨.clock, time⟩ = [] := rfl
      rw [written_cons, written_cons, clock, clock, written_writeSome_of_ne writes (by decide),
        written_writeAll writes takes, List.nil_append, List.nil_append]
      exact ⟨rfl, entry.whole_line time⟩
    · obtain ⟨rfl, -⟩ := course_done.mp course
      exact ⟨rfl, .inl rfl⟩

/-- The same of acts in sequence. -/
theorem whole_carried {level : Level} {acts : List (Answered Bout.Act.vocabulary)} {events : List Event}
    (carried : Carried (carryOut level) acts events) (honest : Honest events) {contest : Contest}
    {chronicle : Bout.Chronicle} (may : ∀ earlier (exchange : Answered Bout.Act.vocabulary) later,
      acts = earlier ++ exchange :: later →
        (Answered.digest (S := Bout.Act.vocabulary) Bout.Chronicle.after chronicle earlier).May contest
          exchange.request) :
    written 1 events = [] ∧ (written 2 events).Whole := by
  -- Each act is one that the umpire may do after those before it.
  induction carried generalizing chronicle with
  | nil => exact ⟨rfl, .inl rfl⟩
  | cons first carried ih =>
    obtain ⟨output, errors⟩ := whole_carryOut first (honest.mono (List.sublist_append_left _ _)) (may [] _ _ rfl)
    obtain ⟨output', errors'⟩ := ih (honest.mono (List.sublist_append_right _ _))
      fun earlier exchange later cut => may (_ :: earlier) exchange later (congrArg _ cut)
    rw [written_append, written_append, output, output']
    exact ⟨rfl, errors.append errors'⟩

/-- While a bout is held nothing comes to standard output, and finished lines to standard error. -/
theorem whole_bout {level : Level} {contest : Contest} {events : List Event} {result : Except Fault Report}
    (course : ((Bout.run contest).answerWith (carryOut level)).Course events result) (honest : Honest events) :
    written 1 events = [] ∧ (written 2 events).Whole := by
  obtain ⟨acts, course, carried⟩ := course_answerWith.mp course
  -- What the umpire may do at any time is known of every bout.
  exact whole_carried carried honest (Bout.abides_chronicle.course course).2

/-- A contest is played: its bout is held with the journal of the environment, and has a result. -/
def Played (words : List Bytes) (contest : Contest) (events : List Event) (result : Except Fault Report) : Prop :=
  Contest.load words = .ok contest ∧ ∃ ignored environment during later,
    events = ⟨.setAction Signal.pipe .ignore, ignored⟩ :: ⟨.environment, environment⟩ :: (during ++ later) ∧
      ((Bout.run contest).answerWith (carryOut (level contest environment))).Course during result

/-- How the program ends, with which code, and what has been written by then. -/
inductive Ends (words : List Bytes) (events : List Event) : Nat → Prop where
  /-- A text was asked for. -/
  | shown {complaint : Options.Complaint} {text : String} (load : Contest.load words = .error (.usage complaint))
      (asked : complaint.request? = some text) (output : written 1 events <+: Bytes.ofString text)
      (errors : written 2 events = []) : Ends words events 0
  /-- The contest has a report, and all of it is on standard output. -/
  | reported {contest : Contest} {report : Report} (played : Played words contest events (.ok report))
      (output : written 1 events = Bytes.ofChars report.text) (reads : Report.parse report.text = .ok report)
      (errors : (written 2 events).Whole) : Ends words events 0
  /-- The words are no contest's. -/
  | refused {fault : Fault} (load : Contest.load words = .error fault) (unasked : fault.isRequest = false)
      (output : written 1 events = []) (complains : Complains fault events) : Ends words events 1
  /-- The contest ends in a fault. -/
  | failed {contest : Contest} {fault : Fault} (played : Played words contest events (.error fault))
      (output : written 1 events = []) (complains : Complains fault events) : Ends words events 1
  /-- The contest has a report, and it could not be written. -/
  | unsaid {contest : Contest} {report : Report} {cause : IoFault} (played : Played words contest events (.ok report))
      (refuses : ∃ event ∈ events, Refuses cause event) (output : written 1 events <+: Bytes.ofChars report.text)
      (complains : Complains (.io cause) events) : Ends words events 1

/-- What comes of a report that is written: all of it has arrived, or a first part of it, and then what failed is
complained of. -/
inductive Delivered (report : Report) (events : List Event) : Nat → Prop where
  | all (output : written 1 events = Bytes.ofChars report.text) (errors : written 2 events = []) :
      Delivered report events 0
  | part {cause : IoFault} (refuses : ∃ event ∈ events, Refuses cause event)
      (output : written 1 events <+: Bytes.ofChars report.text)
      (errors : written 2 events = Bytes.ofString ("pipe ERROR: " ++ (Fault.io cause).message ++ "\n")) :
      Delivered report events 1

/-- A report that is written becomes so. -/
theorem delivered_deliver {report : Report} {events : List Event} {code : Nat}
    (course : (deliver report).Course events code) (honest : Honest events) : Delivered report events code := by
  obtain ⟨writes, stuck, rest, rfl, lines, goes⟩ := course_bind.mp course
  -- First all lines are written.
  obtain ⟨quiet, sent⟩ := sent_writeLines lines (honest.mono (List.sublist_append_left _ _))
  have honest := honest.mono (List.sublist_append_right writes rest)
  cases sent with
  | all arrived =>
    obtain ⟨rfl, rfl⟩ := course_done.mp goes
    rw [List.append_nil]
    exact .all arrived quiet
  | part missing arrived failed =>
    -- After a failure it is complained of, and what was left is tried once more.
    obtain ⟨complaint, said, rest, rfl, complains, goes⟩ := course_bind.mp goes
    obtain ⟨retry, result, rest, rfl, flushes, goes⟩ := course_bind.mp goes
    obtain ⟨rfl, rfl⟩ := course_done.mp goes
    rw [List.append_nil] at honest ⊢
    obtain ⟨rfl, output, errors⟩ := complains_complain complains (honest.mono (List.sublist_append_left _ _))
    obtain ⟨quiet', again⟩ := sent_flush flushes (honest.mono (List.sublist_append_right _ _))
    obtain ⟨event, listed, refuses⟩ := failed
    refine .part ⟨event, List.mem_append_left _ listed, refuses⟩ ?_ ?_
    · rw [written_append, written_append, output, List.nil_append]
      -- What the second trial brings continues what has arrived.
      exact ((List.prefix_append_right_inj _).mpr again.arrived_prefix).trans ⟨missing, arrived⟩
    · rw [written_append, written_append, quiet, quiet', errors, List.append_nil, List.nil_append]

/-- A contest that is played ends the program so. -/
theorem ends_play {words : List Bytes} {contest : Contest} {events : List Event} {code : Nat}
    {ignored : Except Errno Unit} (load : Contest.load words = .ok contest)
    (course : (play contest).Course events code) (honest : Honest events) :
    Ends words (⟨.setAction Signal.pipe .ignore, ignored⟩ :: events) code := by
  obtain ⟨environment, events, rfl, goes⟩ := course_request.mp course
  obtain ⟨during, result, later, rfl, bout, goes⟩ := course_bind.mp goes
  have played : Played words contest (⟨.setAction Signal.pipe .ignore, ignored⟩ ::
      ⟨.environment, environment⟩ :: (during ++ later)) result := ⟨load, _, _, _, _, rfl, bout⟩
  have honest := honest.mono (List.sublist_cons_self _ _)
  -- The bout itself brings nothing to standard output.
  obtain ⟨silent, whole⟩ := whole_bout bout (honest.mono (List.sublist_append_left _ _))
  have honest := honest.mono (List.sublist_append_right during later)
  -- Only the bout and what follows it write anything.
  have total (fd : Nat) : written fd (⟨.setAction Signal.pipe .ignore, ignored⟩ ::
      ⟨.environment, environment⟩ :: (during ++ later)) = written fd during ++ written fd later :=
    written_append fd during later
  have output := total 1
  have errors := total 2
  rw [silent, List.nil_append] at output
  -- A fault is complained of, and a report is written.
  cases result with
  | error fault =>
    obtain ⟨rfl, output', errors'⟩ := complains_complain goes honest
    exact .failed played (output.trans output') ⟨_, whole, errors' ▸ errors⟩
  | ok report =>
    cases delivered_deliver goes honest with
    | all output' errors' =>
      rw [errors', List.append_nil] at errors
      exact .reported played (output.trans output') (Report.parse_text report) (errors ▸ whole)
    | part refuses output' errors' =>
      obtain ⟨event, listed, refuses⟩ := refuses
      refine .unsaid played ⟨event, ?_, refuses⟩ (output ▸ output') ⟨_, whole, errors' ▸ errors⟩
      exact List.mem_cons_of_mem _ (List.mem_cons_of_mem _ (List.mem_append_right during listed))

/-- However its host answers, the code of the program is zero or one: zero only if a text was asked for or all of
the report is on standard output, where it reads as the report; one if a fault is complained of at the end of
standard error, with nothing on standard output but what could be written of a report. -/
theorem code_tells_outcome (words : List Bytes) (host : Surroundings Call.vocabulary)
    (honest : Honest ((run words).hold host []).1) :
    Ends words ((run words).hold host []).1 ((run words).hold host []).2 := by
  -- From here on any course of the program will do, whoever answered in it.
  have course := (run words).course_hold host []
  generalize (run words).hold host [] = held at honest course
  obtain ⟨events, code⟩ := held
  obtain ⟨ignored, events, rfl, course⟩ := course_request.mp course
  have honest := honest.mono (List.sublist_cons_self _ _)
  cases load : Contest.load words with
  | ok contest =>
    rw [load] at course
    exact ends_play load course honest
  | error fault =>
    rw [load] at course
    -- Every fault but a request is complained of, and nothing else is done.
    have refused (unasked : fault.isRequest = false) (complains : (complain fault).Course events code) :
        Ends words (⟨.setAction Signal.pipe .ignore, ignored⟩ :: events) code := by
      obtain ⟨rfl, output, errors⟩ := complains_complain complains honest
      exact .refused load unasked output ⟨[], .inl rfl, errors⟩
    cases fault with
    | usage complaint =>
      dsimp only at course
      cases asked : complaint.request? with
      | some text =>
        rw [asked] at course
        -- A text is shown, whatever comes of it.
        obtain ⟨shows, result, rest, rfl, writes, ends⟩ := course_bind.mp course
        obtain ⟨rfl, rfl⟩ := course_done.mp ends
        rw [List.append_nil]
        have output := written_writeSome_prefix writes
        have errors := written_writeSome_of_ne writes (by decide : 1 ≠ 2)
        exact .shown load asked output errors
      | none =>
        rw [asked] at course
        exact refused (Options.Complaint.isRequest_of_request?_none asked) course
    | _ => exact refused rfl course

/-- A host on which both sides end well, the solution first, and which takes one byte at a time. -/
def patient : Surroundings Call.vocabulary := fun past wanted =>
  match wanted with
  | .write .. => .ok 1
  | .pipe => .ok (3 + 2 * past.length, 4 + 2 * past.length)
  | .watch _ | .close _ | .setCloseOnExec .. | .setAction .. | .signal .. => .ok ()
  | .closeOnExec _ => .ok true
  | .spawn _ => .ok 7
  | .hangUp .. => .ok [true, false]
  | .reap .. => .ok (some (7, .ofExit 0))
  | wanted => Bout.Act.refused (.call wanted)

/-- There the whole report comes to standard output. -/
theorem code_of_patient_host :
    let words := ["pipe", "--", "a", "=", "b"].map Bytes.ofString
    let held := (run words).hold patient []
    Honest held.1 ∧ Ends words held.1 held.2 ∧ held.2 = 0 ∧ written 1 held.1 = Bytes.ofString "1\n0\n0\n" := by
  intro words held
  have honest : Honest held.1 := by
    refine ⟨fun event listed => ?_, fun data listed => ?_, by decide +kernel⟩
    · -- This host takes a byte of every write and never fails one.
      obtain ⟨past, answered⟩ := answer_of_mem_hold listed
      obtain ⟨wanted, answer⟩ := event
      cases wanted with
      | write fd data => exact fun _ => ⟨0, answered⟩
      | _ => trivial
    · obtain ⟨past, answered⟩ := answer_of_mem_hold listed
      cases answered
  exact ⟨honest, code_tells_outcome words patient honest, by decide +kernel, by decide +kernel⟩

end Program

end Umpire
