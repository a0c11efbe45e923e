import Umpire.Proofs.Bout.Calm
import Umpire.Proofs.Bout.Stock

/-! Preparation: until the first side is started, everything that the umpire makes is accounted for. -/

namespace Umpire.Bout

open Host (Slot Table)

variable {contest : Contest} {before after : Ledger} {known : List (Nat × Nat)}

/-- Where a bout stands before its interactor has been started: all that the umpire has made is known. -/
structure Stage (ledger : Ledger) (known : List (Nat × Nat)) : Prop where
  stock : Stock ledger.table ledger.record.made ledger.next known
  waits : ledger.record.started.interactor = none
  runs : ledger.record.running = false

/-- Where a bout stands before anybody has been started. -/
structure Arming (ledger : Ledger) (known : List (Nat × Nat)) : Prop extends Stage ledger known where
  unspent : ledger.record.spent = []
  /-- Nothing that was made has been closed. -/
  complete : ledger.record.made = known.map Prod.snd

/-- Nothing more is on record of signalling pipes and of what was opened at paths. -/
structure Record.Alike (before after : Record) : Prop where
  beacons : after.beacons = before.beacons
  anchors : after.anchors = before.anchors

/-- Records that are alike to the same one are alike. -/
theorem Record.Alike.trans {earlier record later : Record} (first : earlier.Alike record)
    (second : record.Alike later) :
    earlier.Alike later :=
  ⟨second.beacons.trans first.beacons, second.anchors.trans first.anchors⟩

/-- How a part of a bout ends: well, or in a fault with the umpire calm. -/
def Fares {α : Type} (good : α → Ledger → Prop) : Except Fault α → Ledger → Prop
  | .ok value, ledger => good value ledger
  | .error _, ledger => ledger.Calm

/-- As long as the interactor has not been started, not both sides have been. -/
theorem Ledger.settled_of_waits (waits : before.record.started.interactor = none) : before.Settled := by
  -- To be settled is asked of both sides once they run, and one of them does not.
  intro both
  have started := both .interactor
  rw [show before.record.started.get .interactor = none from waits] at started
  cases started

namespace Stage

/-- Where the interactor has not been started, nothing has to be settled. -/
theorem settled (stage : Stage before known) : before.Settled :=
  Ledger.settled_of_waits stage.waits

/-- All that is known is kept by no new program. -/
theorem calm (stage : Stage before known) : before.Calm where
  -- What the umpire has made is all in stock, where nothing is kept over a start.
  privately fd slot made := (stage.stock.all fd slot made.1 made.2).1
  settled := stage.settled

/-- A call that changes nothing leaves the stage. -/
theorem same (stage : Stage before known) (table : after.table = before.table)
    (next : before.next ≤ after.next) (record : after.record = before.record) : Stage after known where
  stock := by
    rw [table, record]
    exact stage.stock.later next
  waits := record ▸ stage.waits
  runs := record ▸ stage.runs

end Stage

namespace Arming

/-- A call that changes nothing leaves everything prepared as it was. -/
theorem same (arming : Arming before known) (table : after.table = before.table)
    (next : before.next ≤ after.next) (record : after.record = before.record) : Arming after known where
  toStage := arming.toStage.same table next record
  unspent := record ▸ arming.unspent
  complete := record ▸ arming.complete

/-- A pipe may be made, and its two ends are all that is new then. -/
theorem pipe (contest : Contest) (arming : Arming before known) :
    (rules contest).may before (.call .pipe) ∧ ∀ answer after,
      (rules contest).leads before (.call .pipe) answer after →
      match answer with
      | .error _ => Arming after known
      | .ok (readEnd, writeEnd) => before.record.Alike after.record ∧
        ∃ file, Arming after (known ++ [(readEnd, file), (writeEnd, file + 1)]) := by
  refine ⟨⟨arming.settled, arming.calm.privately, arming.unspent⟩, fun answer after leads => ?_⟩
  obtain ⟨⟨now, later, effect⟩, record⟩ := leads
  cases answer with
  | error errno => exact arming.same effect.1 (effect.2 ▸ later) record
  | ok ends =>
    obtain ⟨readEnd, writeEnd⟩ := ends
    obtain ⟨between, first, second, next⟩ := effect
    -- The two ends are inserted one after the other, under numbers that were free.
    have stock := ((arming.stock.later later).insert first).insert second
    rw [List.append_assoc, List.append_assoc] at stock
    have reading := (stock.held (readEnd, now) (by simp)).1
    have writing := (stock.held (writeEnd, now + 1) (by simp)).1
    -- What is on record as made are the files under the two numbers, in their order.
    have made : after.record.made = before.record.made ++ [now, now + 1] := by
      rw [record]
      simp [Record.after, Record.filesUnder, reading, writing]
    refine ⟨⟨by rw [record]; rfl, by rw [record]; rfl⟩, now,
      ⟨?_, by rw [record]; exact arming.waits, by rw [record]; exact arming.runs⟩,
      by rw [record]; exact arming.unspent, by simp [made, arming.complete]⟩
    rw [made, next]
    exact stock

/-- A file may be opened at both ends that new programs do not keep, and it is all that is new then. -/
theorem openFile (contest : Contest) (arming : Arming before known) (path : Bytes) :
    (rules contest).may before (.call (.openFile path Host.Access.both true)) ∧ ∀ answer after,
      (rules contest).leads before (.call (.openFile path Host.Access.both true)) answer after →
      match answer with
      | .error _ => Arming after known
      | .ok fd => ∃ file, after.record = { before.record with
            made := before.record.made ++ [file]
            anchors := before.record.anchors ++ [(path, file)] } ∧
          Arming after (known ++ [(fd, file)]) := by
  refine ⟨⟨arming.settled, arming.calm.privately, arming.unspent, rfl⟩, fun answer after leads => ?_⟩
  obtain ⟨⟨now, later, effect⟩, record⟩ := leads
  cases answer with
  | error errno => exact arming.same effect.1 (effect.2 ▸ later) record
  | ok fd =>
    obtain ⟨taken, next⟩ := effect
    have stock := (arming.stock.later later).insert taken
    have opened := (stock.held (fd, now) (by simp)).1
    -- The number stands for the new file, which is the one that is put on record.
    have files : Record.filesUnder after.table [fd] = [now] := by simp [Record.filesUnder, opened]
    have record : after.record = { before.record with
        made := before.record.made ++ [now]
        anchors := before.record.anchors ++ [(path, now)] } := by
      rw [record, Record.after, files]
      rfl
    refine ⟨now, record, ⟨?_, by rw [record]; exact arming.waits, by rw [record]; exact arming.runs⟩,
      by rw [record]; exact arming.unspent, by simp [record, arming.complete]⟩
    rw [record, next]
    exact stock

end Arming

/-- A side's signalling pipe is made and told of, and is all that is new then. -/
theorem abides_create (arming : Arming before known) (side : Side) :
    (SignalPipe.create side).Abides (rules contest) (Fares fun pipe after => ∃ file,
      Arming after (known ++ [(pipe.readEnd, file), (pipe.writeEnd, file + 1)]) ∧
        after.record.beacons = before.record.beacons.set side (some ⟨pipe, file, file + 1⟩) ∧
        after.record.anchors = before.record.anchors) before := by
  obtain ⟨may, made⟩ := arming.pipe contest
  -- The call first, and then its note, which is what puts the pipe on record as a beacon.
  refine .ask may fun answer after leads => ?_
  have made := made answer after leads
  cases answer with
  | error errno => exact made.calm
  | ok ends =>
    obtain ⟨readEnd, writeEnd⟩ := ends
    obtain ⟨alike, file, armed⟩ := made
    refine .ask ⟨armed.settled, armed.calm.privately, armed.unspent⟩ fun told last leads => ?_
    obtain rfl := leads
    -- The two numbers stand for the files that were just made, which is how the note finds them.
    have reading := (armed.stock.held (readEnd, file) (by simp)).1
    have writing := (armed.stock.held (writeEnd, file + 1) (by simp)).1
    refine ⟨file, ⟨⟨armed.stock, armed.waits, armed.runs⟩, armed.unspent, armed.complete⟩, ?_, alike.anchors⟩
    simp [Record.after, Record.beacon?, reading, writing, alike.beacons]

/-- Having a read end watched changes nothing of what is open. -/
theorem abides_watch (arming : Arming before known) (side : Side) (pipe : SignalPipe) :
    (watch side pipe).Abides (rules contest) (Fares fun _ after =>
      Arming after known ∧ before.record.Alike after.record) before := by
  -- Watching a read end is allowed as anything quiet is, and so is telling of it.
  refine .ask ⟨arming.settled, arming.calm.privately⟩ fun answer after leads => ?_
  obtain ⟨⟨now, later, same, next⟩, record⟩ := leads
  have armed : Arming after known := arming.same same (next ▸ later) record
  cases answer with
  | error errno => exact armed.calm
  | ok done =>
    refine .ask ⟨armed.settled, armed.calm.privately⟩ fun told last leads => ?_
    obtain rfl := leads
    exact ⟨armed, congrArg Record.beacons record, congrArg Record.anchors record⟩

/-- A pipe of the wiring is made if it is wanted, and is all that is new then. -/
theorem abides_extend (arming : Arming before known) (wiring : Wiring) (writer : Side) (wanted : Bool) :
    (wiring.extend writer wanted).Abides (rules contest) (Fares fun wired after =>
      before.record.Alike after.record ∧
        (wanted = false ∧ Arming after known ∧ wired = wiring ∨
          wanted = true ∧ ∃ readEnd writeEnd file,
            Arming after (known ++ [(readEnd, file), (writeEnd, file + 1)]) ∧
              wired = wiring.join writer readEnd writeEnd)) before := by
  rw [Wiring.extend]
  cases wanted with
  | false => exact ⟨⟨rfl, rfl⟩, .inl ⟨rfl, arming, rfl⟩⟩
  | true =>
    obtain ⟨may, made⟩ := arming.pipe contest
    refine .ask may fun answer after leads => ?_
    have made := made answer after leads
    cases answer with
    -- A pipe that fails closes what was made before it, which is quiet.
    | error errno => exact .seq (made.calm.abides (.closeAll _)) fun _ _ calm => calm
    | ok ends =>
      obtain ⟨readEnd, writeEnd⟩ := ends
      obtain ⟨alike, file, armed⟩ := made
      exact ⟨alike, .inr ⟨rfl, readEnd, writeEnd, file, armed, rfl⟩⟩

/-- The wiring's ends are those of the pipes that were made, each in its place. -/
structure Laid (contest : Contest) (wiring : Wiring) (new : List (Nat × Nat)) : Prop where
  covers : ∀ fd, fd ∈ wiring.toList ↔ fd ∈ new.map Prod.fst
  places : ∀ side stream, (wiring.ends.get side).fd? stream =
    (Wiring.place contest side stream).bind fun number => new[number]?.map Prod.fst
  enough : ∀ side stream number, Wiring.place contest side stream = some number → number < new.length

/-- Without a pipe there are no ends. -/
theorem laid_none (forth : contest.joinsSolutionToInteractor = false)
    (back : contest.joinsInteractorToSolution = false) : Laid contest {} [] where
  covers fd := by simp [Wiring.toList, Ends.toList]
  places side stream := by
    cases side <;> cases stream <;> simp [Wiring.place, Wiring.line, forth, back, Ends.fd?, PerSide.get]
  enough side stream number := by
    cases side <;> cases stream <;> simp [Wiring.place, Wiring.line, forth, back, Side.other]

/-- One pipe carries what one side writes to the other. -/
theorem laid_one {writer : Side} (wanted : Wiring.line contest writer = some 0)
    (alone : Wiring.line contest writer.other = none) (first second : Nat × Nat) :
    Laid contest (Wiring.join {} writer first.1 second.1) [first, second] where
  -- Four ends would be possible; the writer's side has one and the other's side the other.
  covers fd := by
    cases writer <;>
      simp [Wiring.toList, Ends.toList, Wiring.join, PerSide.set, PerSide.get, Side.other, or_comm]
  places side stream := by
    cases writer <;> cases side <;> cases stream <;>
      simp_all [Wiring.place, Wiring.join, Ends.fd?, PerSide.set, PerSide.get, Side.other]
  enough side stream number := by
    cases writer <;> cases side <;> cases stream <;> simp_all [Wiring.place, Side.other] <;> omega

/-- Two pipes carry what either side writes to the other, the solution's being the first. -/
theorem laid_both (forth : Wiring.line contest .solution = some 0)
    (back : Wiring.line contest .interactor = some 1) (first second third fourth : Nat × Nat) :
    Laid contest (Wiring.join (Wiring.join {} .solution first.1 second.1) .interactor third.1 fourth.1)
      [first, second, third, fourth] where
  -- The read end of the first pipe is the interactor's, and that of the second the solution's.
  covers fd := by
    simp only [Wiring.toList, Ends.toList, Wiring.join, PerSide.set, PerSide.get, Side.other,
      Option.toList_some, List.mem_append, List.map_cons, List.map_nil, List.mem_cons,
      List.not_mem_nil, or_false]
    omega
  places side stream := by
    cases side <;> cases stream <;>
      simp [Wiring.place, Wiring.join, forth, back, Ends.fd?, PerSide.set, PerSide.get, Side.other]
  enough side stream number := by
    cases side <;> cases stream <;> simp [Wiring.place, forth, back, Side.other] <;> omega

/-- The wiring's pipes are made, and their ends are all that is new then. -/
theorem abides_wiring (arming : Arming before known) :
    (Wiring.create contest).Abides (rules contest) (Fares fun wiring after =>
      before.record.Alike after.record ∧
        ∃ new, Arming after (known ++ new) ∧ Laid contest wiring new) before := by
  -- Either pipe may be wanted or not, which makes four layouts.
  refine .seq (abides_extend arming {} .solution _) fun first middle fared => ?_
  cases first with
  | error fault => exact fared
  | ok first =>
    obtain ⟨alike, fared⟩ := fared
    rcases fared with ⟨forth, armed, rfl⟩ | ⟨forth, readEnd, writeEnd, file, armed, rfl⟩
    · refine (abides_extend armed _ .interactor _).mono fun second last fared => ?_
      cases second with
      | error fault => exact fared
      | ok second =>
        obtain ⟨same, fared⟩ := fared
        rcases fared with ⟨back, armed, rfl⟩ | ⟨back, readEnd', writeEnd', file', armed, rfl⟩
        · exact ⟨alike.trans same, [], by simpa using armed, laid_none forth back⟩
        · exact ⟨alike.trans same, _, armed, laid_one (by simp [Wiring.line, forth, back])
            (by simp [Wiring.line, Side.other, forth]) (readEnd', file') (writeEnd', file' + 1)⟩
    · refine (abides_extend armed _ .interactor _).mono fun second last fared => ?_
      cases second with
      | error fault => exact fared
      | ok second =>
        obtain ⟨same, fared⟩ := fared
        rcases fared with ⟨back, armed, rfl⟩ | ⟨back, readEnd', writeEnd', file', armed, rfl⟩
        · exact ⟨alike.trans same, _, armed, laid_one (by simp [Wiring.line, forth])
            (by simp [Wiring.line, Side.other, back]) (readEnd, file) (writeEnd, file + 1)⟩
        · exact ⟨alike.trans same, _, by simpa using armed, laid_both (by simp [Wiring.line, forth])
            (by simp [Wiring.line, forth, back]) (readEnd, file) (writeEnd, file + 1) (readEnd', file')
            (writeEnd', file' + 1)⟩

/-- Asking what a path leads to changes nothing but what is known of that. -/
theorem abides_isFifo (arming : Arming before known) (path : Bytes) :
    (Anchors.isFifo path).Abides (rules contest) (fun fifo after => Arming after known ∧
      ∃ told, after.record = { before.record with probed := before.record.probed ++ [(path, told)] } ∧
        (fifo = true ↔ TellsFifo told)) before := by
  refine .ask ⟨arming.settled, arming.calm.privately⟩ fun told after leads => ?_
  -- Only what was told of the path is new on record.
  obtain ⟨⟨now, later, same, next⟩, record⟩ := leads
  have record : after.record = { before.record with probed := before.record.probed ++ [(path, told)] } := record
  have armed : Arming after known := by
    refine ⟨⟨?_, by rw [record]; exact arming.waits, by rw [record]; exact arming.runs⟩,
      by rw [record]; exact arming.unspent, by rw [record]; exact arming.complete⟩
    rw [record, same, next]
    exact arming.stock.later later
  -- A path that cannot be looked at is no named pipe.
  cases told with
  | error errno => exact ⟨armed, _, record, by simp [TellsFifo]⟩
  | ok info => exact ⟨armed, _, record, by simp [TellsFifo]⟩

/-- What has become of some paths: each was found to lead to no named pipe or is held, and what is new are the
open files that are held for them. -/
structure Moored (before after : Record) (paths : List Bytes) (new : List (Nat × Nat)) : Prop where
  beacons : after.beacons = before.beacons
  anchored : after.anchored = before.anchored ++ new.map Prod.snd
  probed : before.probed ⊆ after.probed
  anchors : before.anchors ⊆ after.anchors
  each : ∀ path ∈ paths, (∃ told, (path, told) ∈ after.probed ∧ ¬ TellsFifo told) ∨
    ∃ entry ∈ new, (path, entry.2) ∈ after.anchors

namespace Moored

variable {earlier record later : Record} {path : Bytes} {rest : List Bytes} {new : List (Nat × Nat)}

/-- One more path was found to lead to no named pipe. -/
theorem skip {told : Except Errno Host.Info}
    (moored : Moored { earlier with probed := earlier.probed ++ [(path, told)] } later rest new)
    (plain : ¬ TellsFifo told) : Moored earlier later (path :: rest) new where
  beacons := moored.beacons
  anchored := moored.anchored
  probed := fun _ known => moored.probed (List.mem_append_left _ known)
  anchors := moored.anchors
  -- The path itself is plain, and the rest were dealt with after it.
  each := List.forall_mem_cons.mpr
    ⟨.inl ⟨told, moored.probed (List.mem_append_right _ List.mem_cons_self), plain⟩, moored.each⟩

/-- One more path is held. -/
theorem hold {told : Except Errno Host.Info} {fd file : Nat}
    (moored : Moored { earlier with
      probed := earlier.probed ++ [(path, told)]
      made := earlier.made ++ [file]
      anchors := earlier.anchors ++ [(path, file)] } later rest new) :
    Moored earlier later (path :: rest) ((fd, file) :: new) where
  beacons := moored.beacons
  anchored := by
    rw [moored.anchored]
    simp [Record.anchored]
  probed := fun _ known => moored.probed (List.mem_append_left _ known)
  anchors := fun _ known => moored.anchors (List.mem_append_left _ known)
  each := by
    -- The path itself has the new anchor, and the rest were dealt with after it.
    refine List.forall_mem_cons.mpr ⟨.inr ⟨(fd, file), List.mem_cons_self, ?_⟩, fun other listed => ?_⟩
    · exact moored.anchors (List.mem_append_right _ List.mem_cons_self)
    · obtain plain | ⟨entry, held, anchor⟩ := moored.each other listed
      · exact .inl plain
      · exact .inr ⟨entry, List.mem_cons_of_mem _ held, anchor⟩

end Moored

/-- The named pipes among some paths are held, and nothing else is new then. -/
theorem abides_holdAll (arming : Arming before known) (held : List Nat) (paths : List Bytes) :
    (Anchors.holdAll held paths).Abides (rules contest) (Fares fun fds after =>
      ∃ new, Arming after (known ++ new) ∧ fds = held ++ new.map Prod.fst ∧
        Moored before.record after.record paths new) before := by
  -- By induction on the paths. What is held so far and known so far grow along, so that both are general.
  induction paths generalizing before known held with
  | nil => exact ⟨[], by simpa using arming, by simp, rfl, by simp, .refl _, .refl _, nofun⟩
  | cons path rest ih =>
    refine .seq (abides_isFifo arming path) fun fifo middle asked => ?_
    obtain ⟨armed, told, record, tells⟩ := asked
    cases fifo with
    | false =>
      -- A path that is no named pipe is passed over, and only what was told of it is new.
      refine (ih armed held).mono fun result last fared => ?_
      cases result with
      | error fault => exact fared
      | ok fds =>
        obtain ⟨new, armed, same, moored⟩ := fared
        rw [record] at moored
        exact ⟨new, armed, same, moored.skip fun fifo => Bool.false_ne_true (tells.mpr fifo)⟩
    | true =>
      obtain ⟨may, opened⟩ := armed.openFile contest path
      refine .ask may fun answer after leads => ?_
      have opened := opened answer after leads
      cases answer with
      | error errno => exact .seq (opened.calm.abides (.closeAll held)) fun _ _ calm => calm
      | ok fd =>
        obtain ⟨file, record', armed⟩ := opened
        refine .ask ⟨armed.settled, armed.calm.privately⟩ fun _ last leads => ?_
        obtain rfl := leads
        refine (ih armed (held ++ [fd])).mono fun out ends fared => ?_
        cases out with
        | error fault => exact fared
        | ok fds =>
          obtain ⟨new, armed, rfl, moored⟩ := fared
          have moored : Moored after.record ends.record rest new := moored
          rw [record', record] at moored
          exact ⟨(fd, file) :: new, by simpa using armed, by simp, moored.hold⟩

/-- The state of an umpire that has made nothing yet. -/
theorem arming_start {table : Table} {next : Nat}
    (opened : ∀ fd slot, table.get? fd = some slot → slot.file < next)
    (low : ∀ fd, fd < 3 → (table.get? fd).isSome) (limit : table.limit ≤ 2147483648) :
    Arming ⟨table, next, {}⟩ [] where
  -- Nothing is known yet, so what is open only has to have been there.
  stock := ⟨nofun, nofun, List.nodup_nil, nofun, opened, fun fd standard => by
    obtain ⟨slot, found⟩ := Option.isSome_iff_exists.mp (low fd standard)
    exact ⟨slot, found, nofun⟩, limit⟩
  waits := rfl
  runs := rfl
  unspent := rfl
  complete := rfl

end Umpire.Bout
