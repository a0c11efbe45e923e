import Umpire.Proofs.Bout.Dispatch

/-! Progress: a whole bout does nothing but what its rules allow. -/

namespace Umpire.Bout

variable {contest : Contest} {before after : Ledger} {known : List (Nat × Nat)}

/-- A work meets an end if it keeps to the rules and ends so, whatever is in hand, or in a fault with the
umpire calm. -/
def Work.Meets {α : Type} (contest : Contest) (good : α → Ledger → Prop) (work : Work α) (ledger : Ledger) :
    Prop :=
  ∀ holdings : Holdings,
    Dialogue.Abides (rules contest) (fun out after => Fares good out.1 after) (work holdings) ledger

namespace Work.Meets

variable {α β : Type} {good : α → Ledger → Prop}

/-- Two works in sequence. -/
theorem seq {better : β → Ledger → Prop} {work : Work α} {rest : α → Work β}
    (meets : work.Meets contest good before)
    (goes : ∀ value after, good value after → (rest value).Meets contest better after) :
    (work >>= rest).Meets contest better before := by
  intro holdings
  refine .seq (meets holdings) fun out after fared => ?_
  obtain ⟨result, left⟩ := out
  -- A fault skips the second work, and the umpire is calm by then.
  cases result with
  | error fault => exact fared
  | ok value => exact goes value after fared left

/-- A work that ends at once. -/
theorem done {value : α} (meets : good value before) : Work.Meets contest good (pure value) before :=
  fun _ => meets

/-- A conduct with a work's end. -/
theorem ofConduct {conduct : Conduct (Except Fault α)}
    (abides : conduct.Abides (rules contest) (Fares good) before) :
    (Work.ofConduct conduct).Meets contest good before :=
  fun _ => .seq abides fun _ _ fared => fared

/-- A conduct whose descriptors are taken in hand. -/
theorem gain {conduct : Conduct (Except Fault α)} (fds : α → List Nat)
    (abides : conduct.Abides (rules contest) (Fares good) before) :
    (Work.gain conduct fds).Meets contest good before :=
  .seq (.ofConduct abides) fun _ _ fared _ => fared

/-- Quiet conduct from a calm state. -/
theorem quiet (calm : before.Calm) {conduct : Conduct (Except Fault α)} (quiet : conduct.Quiet) :
    (Work.ofConduct conduct).Meets contest (fun _ after => after.Calm) before := by
  refine .ofConduct ((calm.abides quiet).mono fun result after calm => ?_)
  cases result <;> exact calm

end Work.Meets

/-- The numbers and open files of a signalling pipe's ends. -/
def Beacon.entries (beacon : Beacon) : List (Nat × Nat) :=
  [(beacon.pipe.readEnd, beacon.reading), (beacon.pipe.writeEnd, beacon.writing)]

/-- Both signalling pipes are made and told of, and are all that is new then. -/
theorem meets_arm (arming : Arming before []) :
    arm.Meets contest (fun pipes after => ∃ beacons : PerSide Beacon,
      (∀ side, (beacons.get side).pipe = pipes.get side) ∧
      after.record.beacons = beacons.map some ∧ after.record.anchors = before.record.anchors ∧
      Arming after (beacons.solution.entries ++ beacons.interactor.entries)) before := by
  -- Two pipes are made and two read ends watched, each from where the one before has led.
  refine .seq (.gain _ (abides_create arming .solution)) fun solution first made => ?_
  obtain ⟨file, armed, beacons, anchors⟩ := made
  refine .seq (.gain _ (abides_create armed .interactor)) fun interactor second made => ?_
  obtain ⟨file', armed, beacons', anchors'⟩ := made
  refine .seq (.ofConduct (abides_watch armed .solution solution)) fun _ third watched => ?_
  obtain ⟨armed, same⟩ := watched
  refine .seq (.ofConduct (abides_watch armed .interactor interactor)) fun _ last watched => ?_
  obtain ⟨armed, same'⟩ := watched
  refine .done ⟨⟨⟨solution, file, file + 1⟩, ⟨interactor, file', file' + 1⟩⟩, ?_, ?_, ?_, armed⟩
  · -- The beacons are those that the notes have put on record.
    intro side
    cases side <;> rfl
  · rw [same'.beacons, same.beacons, beacons', beacons]
    rfl
  · rw [same'.anchors, same.anchors, anchors', anchors]

/-- A side is launched with its ends of the wiring, and nothing that was handed on is left then. -/
theorem meets_launchSide {side : Side} {beacon : Beacon} {pipes : PerSide SignalPipe} {wiring : Wiring}
    (stage : Stage before known)
    (due : Due contest before.record known side beacon (wiring.ends.get side))
    (pipe : beacon.pipe = pipes.get side) (high : ∀ fd ∈ (wiring.ends.get side).toList, 2 < fd) :
    (launchSide contest pipes wiring side).Meets contest (fun handle after => ∃ charge,
      let left := known.filter fun entry =>
        !(beacon.pipe.writeEnd :: (wiring.ends.get side).toList).contains entry.1
      Stock after.table after.record.made after.next left ∧
      after.record = { before.record with
        starting := some side
        spent := before.record.spent ++ [(⟨some side, charge⟩, some handle.pid)]
        started := before.record.started.set side (some handle.pid) } ∧
      ∀ entry ∈ left, ¬ charge.Hands entry.2) before := by
  -- To hand descriptors over is no act of the umpire.
  have handsOver (fds : List Nat) : (Work.handOver fds).Meets contest (fun _ after => after = before) before :=
    fun _ => rfl
  refine .seq (handsOver _) fun _ same equal => ?_
  subst equal
  -- The pipe of the side is the one that its write end is known by.
  rw [← pipe]
  exact .seq (.ofConduct (dispatch stage due high).launch) fun _ _ fared _ => fared

/-- The number and open file of a signalling pipe's read end. -/
def Beacon.ear (beacon : Beacon) : Nat × Nat :=
  (beacon.pipe.readEnd, beacon.reading)

/-- The umpire is calm where it has read ends of signalling pipes only, and what it holds until both sides
are told to run. -/
theorem calm_of_ears {beacons : PerSide Beacon}
    (stock : Stock before.table before.record.made before.next known)
    (told : before.record.beacons = beacons.map some)
    (ears : ∀ entry ∈ known, (∃ side, entry = (beacons.get side).ear) ∨
      before.record.running = false ∧ entry.2 ∈ before.record.anchored)
    (gone : ∀ spent ∈ before.record.spent, ∀ entry ∈ known, ¬ spent.1.charge.Hands entry.2) :
    before.Calm where
  privately fd slot made := (stock.all fd slot made.1 made.2).1
  settled := by
    intro _ fd slot made
    -- Whatever the umpire has made and has open is known, and all that is known is one of the two.
    have member := (stock.all fd slot made.1 made.2).2
    refine ⟨?_, fun spent listed => gone spent listed _ member⟩
    rcases ears _ member with ⟨side, ear⟩ | anchored
    · refine .inl ⟨side, beacons.get side, ?_, congrArg Prod.fst ear, congrArg Prod.snd ear⟩
      rw [told]
      cases side <;> rfl
    · exact .inr anchored

section Launches

variable {beacons : PerSide Beacon} {pipes : PerSide SignalPipe} {wiring : Wiring}
  {wired held : List (Nat × Nat)}

/-- What a bout has before its sides are launched: their signalling pipes, the wiring's pipes and what is
held until both run. -/
structure Equipped (contest : Contest) (ledger : Ledger) (beacons : PerSide Beacon) (wiring : Wiring)
    (wired held : List (Nat × Nat)) : Prop
    extends Arming ledger (beacons.solution.entries ++ (beacons.interactor.entries ++ (wired ++ held))) where
  told : ledger.record.beacons = beacons.map some
  laid : Laid contest wiring wired
  anchored : ledger.record.anchored = held.map Prod.snd
  moored : ∀ path ∈ Anchors.paths contest, (∃ told, (path, told) ∈ ledger.record.probed ∧ ¬ TellsFifo told) ∨
    ∃ entry ∈ held, (path, entry.2) ∈ ledger.record.anchors

/-- What is left once a side's write end and its ends of the wiring are closed. -/
def leftBy (beacons : PerSide Beacon) (wiring : Wiring) (side : Side) (known : List (Nat × Nat)) :
    List (Nat × Nat) :=
  known.filter fun entry =>
    !((beacons.get side).pipe.writeEnd :: (wiring.ends.get side).toList).contains entry.1

namespace Equipped

variable (equipped : Equipped contest before beacons wiring wired held)

include equipped

/-- The ends of the wiring are among what is known. -/
theorem mem_wired {side : Side} {fd : Nat} (listed : fd ∈ (wiring.ends.get side).toList) :
    ∃ file, (fd, file) ∈ wired := by
  -- Either side's ends are ends of the wiring, all of which are covered.
  have whole : fd ∈ wiring.toList := by
    cases side
    · exact List.mem_append_left _ listed
    · exact List.mem_append_right _ listed
  obtain ⟨entry, member, rfl⟩ := List.mem_map.mp ((equipped.laid.covers fd).mp whole)
  exact ⟨entry.2, member⟩

/-- The ends of the wiring are no standard streams. -/
theorem ends_high {side : Side} {fd : Nat} (listed : fd ∈ (wiring.ends.get side).toList) : 2 < fd := by
  -- The umpire knows of the ends, and it has all that it knows of beyond the streams.
  obtain ⟨file, member⟩ := equipped.mem_wired listed
  have known : (fd, file) ∈ beacons.solution.entries ++ (beacons.interactor.entries ++ (wired ++ held)) := by
    simp [member]
  exact equipped.stock.beyond_streams known

/-- The ends of the signalling pipes were made before the wiring's. -/
theorem made_later : before.record.made.drop 4 = wired.map Prod.snd ++ held.map Prod.snd := by
  -- Four ends of signalling pipes come before all else.
  rw [equipped.complete]
  simp [Beacon.entries]

/-- Where an end of the wiring has its place, it was made, and is to become the side's stream. -/
theorem placed {side : Side} {stream : Stream} {number : Nat}
    (place : Wiring.place contest side stream = some number) : ∃ fd file, (fd, file) ∈ wired ∧
      (wiring.ends.get side).fd? stream = some fd ∧ before.record.wire contest side stream = some file := by
  -- The place is one of the ends that there are, under whose number the file is found.
  have bound := equipped.laid.enough side stream number place
  refine ⟨wired[number].1, wired[number].2, List.getElem_mem bound, ?_, ?_⟩
  · rw [equipped.laid.places, place, Option.bind_some, List.getElem?_eq_getElem bound]
    rfl
  · rw [Record.wire, place, Option.bind_some, equipped.made_later, List.getElem?_append_left (by simpa using bound),
      List.getElem?_map, List.getElem?_eq_getElem bound]
    rfl

/-- What becomes a side's stream is among what is known, as it is told from what was made. -/
theorem wire {side : Side} {stream : Stream} {fd : Nat}
    (given : (wiring.ends.get side).fd? stream = some fd) :
    ∃ file, (fd, file) ∈ wired ∧ before.record.wire contest side stream = some file := by
  -- What has no place on the wiring is given no descriptor.
  cases place : Wiring.place contest side stream with
  | none =>
    rw [equipped.laid.places, place] at given
    cases given
  | some number =>
    obtain ⟨fd', file, listed, given', wire⟩ := equipped.placed place
    cases given.symm.trans given'
    exact ⟨file, listed, wire⟩

/-- What is to become a side's stream, as it is told from what was made, is what the side is given. -/
theorem given {side : Side} {stream : Stream} {file : Nat}
    (wire : before.record.wire contest side stream = some file) :
    ∃ fd, (wiring.ends.get side).fd? stream = some fd ∧ (fd, file) ∈ wired := by
  -- Both are read off the same place on the wiring.
  obtain ⟨number, place, -⟩ := Option.bind_eq_some_iff.mp wire
  obtain ⟨fd, file', listed, given, wire'⟩ := equipped.placed place
  cases wire.symm.trans wire'
  exact ⟨fd, given, listed⟩

/-- Nothing was made twice. -/
theorem made_nodup : before.record.made.Nodup :=
  equipped.complete ▸ equipped.stock.distinct

/-- The write ends of the two signalling pipes are different open files. -/
theorem own (side : Side) (other : Beacon) (told : before.record.beacons.get side.other = some other) :
    other.writing ≠ (beacons.get side).writing := by
  -- No file is known twice, and the two are at different positions.
  have distinct := equipped.stock.distinct
  simp only [Beacon.entries, List.cons_append, List.nil_append, List.map_cons, List.nodup_cons,
    List.mem_cons, not_or] at distinct
  rw [equipped.told] at told
  cases side with
  | solution =>
    obtain rfl := Option.some.inj told
    exact Ne.symm distinct.2.1.2.1
  | interactor =>
    obtain rfl := Option.some.inj told
    exact distinct.2.1.2.1

/-- The ends of the signalling pipes were made first. -/
theorem signals (which : Side) (beacon : Beacon) (told : before.record.beacons.get which = some beacon) :
    beacon.reading ∈ before.record.made.take 4 ∧ beacon.writing ∈ before.record.made.take 4 := by
  rw [equipped.told] at told
  -- What was made begins with both sides' pipes.
  rw [equipped.complete]
  cases which <;> obtain rfl := Option.some.inj told <;> simp [Beacon.entries]

/-- What is held becomes no side's. -/
theorem unmeant (file : Nat) (anchored : file ∈ before.record.anchored) : file ∉ before.record.made.take 4 ∧
    ∀ which stream, before.record.wire contest which stream ≠ some file := by
  rw [equipped.anchored] at anchored
  have distinct := equipped.made_nodup
  have whole := List.take_append_drop 4 before.record.made
  rw [equipped.made_later] at whole
  -- Signalling pipes, the wiring and what is held were made in this order, and nothing twice.
  rw [← whole, List.nodup_append] at distinct
  obtain ⟨-, later, apart⟩ := distinct
  refine ⟨fun early => apart file early file (List.mem_append_right _ anchored) rfl, fun which stream wire => ?_⟩
  obtain ⟨fd, -, listed⟩ := equipped.given wire
  exact (List.nodup_append.mp later).2.2 file (List.mem_map_of_mem listed) file anchored rfl

/-- A side is due to be started as long as its ends are there and nothing was handed on that is. -/
theorem due (side : Side) {record : Record} (beacons_eq : record.beacons = before.record.beacons)
    (made : record.made = before.record.made) (probed : record.probed = before.record.probed)
    (anchors : record.anchors = before.record.anchors) (holds : held ⊆ known)
    (member : ((beacons.get side).pipe.writeEnd, (beacons.get side).writing) ∈ known)
    (kept : ∀ stream fd file, (wiring.ends.get side).fd? stream = some fd → (fd, file) ∈ wired →
      (fd, file) ∈ known)
    (unspent : ∀ spent ∈ record.spent, spent.1.side ≠ some side ∧
      ∀ entry ∈ known, ¬ spent.1.charge.Hands entry.2) :
    Due contest record known side (beacons.get side) (wiring.ends.get side) where
  member := member
  -- Nothing in the record has changed that these clauses mention.
  told := by
    rw [beacons_eq, equipped.told]
    cases side <;> rfl
  own other told := equipped.own side other (beacons_eq ▸ told)
  wired stream fd given := by
    obtain ⟨file, listed, wire⟩ := equipped.wire given
    exact ⟨file, kept stream fd file given listed, by rw [Record.wire, made]; exact wire⟩
  gives stream file wire := by
    rw [Record.wire, made] at wire
    obtain ⟨fd, given, listed⟩ := equipped.given wire
    exact ⟨fd, given, kept stream fd file given listed⟩
  distinct := made ▸ equipped.made_nodup
  signals which told found := made ▸ equipped.signals which told (beacons_eq ▸ found)
  unspent := unspent
  -- What was found at the paths is on record as it was.
  moored path shared := by
    rw [probed, anchors]
    refine (equipped.moored path shared).imp_right ?_
    rintro ⟨entry, listed, anchor⟩
    exact ⟨entry, holds listed, anchor⟩
  unmeant file anchored := by
    rw [Record.anchored, anchors] at anchored
    simp only [Record.wire, made]
    exact equipped.unmeant file anchored

/-- What is the interactor's is not closed with what is the solution's. -/
theorem mem_leftBy_solution {entry : Nat × Nat}
    (own : entry = (beacons.interactor.pipe.writeEnd, beacons.interactor.writing) ∨
      ∃ stream, wiring.ends.interactor.fd? stream = some entry.1 ∧ entry ∈ wired) :
    entry ∈ leftBy beacons wiring .solution
      (beacons.solution.entries ++ (beacons.interactor.entries ++ (wired ++ held))) := by
  have listed : entry ∈ beacons.interactor.entries ++ (wired ++ held) := by
    rcases own with rfl | ⟨stream, -, member⟩
    · simp [Beacon.entries]
    · simp [member]
  refine List.mem_filter.mpr ⟨List.mem_append_right _ listed, ?_⟩
  rw [Bool.not_eq_true', ← Bool.not_eq_true, List.contains_iff_mem]
  intro closed
  rcases List.mem_cons.mp closed with same | closed
  · -- The solution's write end is known under its own number.
    have early : (beacons.solution.pipe.writeEnd, beacons.solution.writing) ∈ beacons.solution.entries := by
      simp [Beacon.entries]
    exact equipped.stock.apart rfl early listed same.symm
  · rcases own with rfl | ⟨stream, given, member⟩
    · -- Nor is the interactor's write end an end of the wiring.
      obtain ⟨file, member⟩ := equipped.mem_wired closed
      have early : (beacons.interactor.pipe.writeEnd, beacons.interactor.writing) ∈
          beacons.solution.entries ++ beacons.interactor.entries := by
        simp [Beacon.entries]
      have late : (beacons.interactor.pipe.writeEnd, file) ∈ wired ++ held := List.mem_append_left _ member
      exact equipped.stock.apart (List.append_assoc _ _ _).symm early late rfl
    · -- An end that were a stream of both sides would be the same open file for both.
      have interactor : (wiring.ends.get .interactor).fd? stream = some entry.1 := given
      obtain ⟨stream', solution⟩ := Ends.mem_toList.mp closed
      obtain ⟨file, member, wire⟩ := equipped.wire interactor
      obtain ⟨file', member', wire'⟩ := equipped.wire solution
      have known {file : Nat} (member : (entry.1, file) ∈ wired) : (entry.1, file) ∈
          beacons.solution.entries ++ (beacons.interactor.entries ++ (wired ++ held)) := by
        simp [member]
      cases equipped.stock.eq_of_number (known member) (known member') rfl
      cases Record.wire_inj equipped.made_nodup wire wire'

/-- What is held is not closed with what is the solution's. -/
theorem held_left : held ⊆ leftBy beacons wiring .solution
    (beacons.solution.entries ++ (beacons.interactor.entries ++ (wired ++ held))) := by
  intro entry member
  refine List.mem_filter.mpr ⟨by simp [member], ?_⟩
  -- It is left unless its number is one of those that are closed.
  rw [Bool.not_eq_true', ← Bool.not_eq_true, List.contains_iff_mem]
  intro closed
  -- What is held has numbers of its own: neither the write end's nor one of the wiring's.
  rcases List.mem_cons.mp closed with same | closed
  · have early : (beacons.solution.pipe.writeEnd, beacons.solution.writing) ∈ beacons.solution.entries := by
      simp [Beacon.entries]
    have late : entry ∈ beacons.interactor.entries ++ (wired ++ held) := by simp [member]
    exact equipped.stock.apart rfl early late same.symm
  · obtain ⟨file, wire⟩ := equipped.mem_wired closed
    have early : (entry.1, file) ∈ beacons.solution.entries ++ (beacons.interactor.entries ++ wired) := by
      simp [wire]
    exact equipped.stock.apart (by simp) early member rfl

/-- The solution is due to be started first. -/
theorem due_solution : Due contest before.record
    (beacons.solution.entries ++ (beacons.interactor.entries ++ (wired ++ held))) .solution beacons.solution
    (wiring.ends.get .solution) := by
  refine equipped.due .solution rfl rfl rfl rfl (fun entry member => by simp [member])
    (by simp [Beacon.entries, PerSide.get]) (fun stream fd file _ member => by simp [member]) fun spent listed => ?_
  -- No order has been answered yet.
  rw [equipped.unspent] at listed
  cases listed

/-- The interactor is due once the solution has been started, which had none of what the interactor is given. -/
theorem due_interactor {charge : Host.Charge} {pid? : Option Nat}
    (record : after.record = { before.record with
      starting := some .solution
      spent := before.record.spent ++ [(⟨some .solution, charge⟩, pid?)]
      started := before.record.started.set .solution pid? })
    (handed : ∀ entry ∈ leftBy beacons wiring .solution
      (beacons.solution.entries ++ (beacons.interactor.entries ++ (wired ++ held))), ¬ charge.Hands entry.2) :
    Due contest after.record (leftBy beacons wiring .solution
      (beacons.solution.entries ++ (beacons.interactor.entries ++ (wired ++ held)))) .interactor
      beacons.interactor (wiring.ends.get .interactor) := by
  -- The record has changed only in who was started, which these clauses do not mention.
  refine equipped.due .interactor (by rw [record]) (by rw [record]) (by rw [record]) (by rw [record])
    equipped.held_left (equipped.mem_leftBy_solution (.inl rfl))
    (fun stream fd file given member => equipped.mem_leftBy_solution (.inr ⟨stream, given, member⟩))
    fun spent listed => ?_
  -- The solution's order is the only one that has been answered.
  rw [record, show before.record.spent = [] from equipped.unspent] at listed
  obtain rfl := List.mem_singleton.mp listed
  exact ⟨by simp, handed⟩

/-- When what is either side's is closed, the read ends are left and what is held. -/
theorem left_cases {entry : Nat × Nat} (left : entry ∈ leftBy beacons wiring .interactor
    (leftBy beacons wiring .solution
      (beacons.solution.entries ++ (beacons.interactor.entries ++ (wired ++ held))))) :
    (∃ side, entry = (beacons.get side).ear) ∨ entry ∈ held := by
  obtain ⟨left, interactor⟩ := List.mem_filter.mp left
  obtain ⟨listed, solution⟩ := List.mem_filter.mp left
  -- Neither side's write end is left, nor any of its ends of the wiring.
  have closed (side : Side) : entry.1 ≠ (beacons.get side).pipe.writeEnd ∧
      entry.1 ∉ (wiring.ends.get side).toList := by
    cases side <;> simp_all
  -- Of what was known there are four kinds, and of three something has been closed.
  simp only [List.mem_append] at listed
  rcases listed with solution | interactor | wires | held
  · rcases List.mem_cons.mp solution with ear | last
    · exact .inl ⟨.solution, ear⟩
    · obtain rfl := List.mem_singleton.mp last
      exact absurd rfl (closed .solution).1
  · rcases List.mem_cons.mp interactor with ear | last
    · exact .inl ⟨.interactor, ear⟩
    · obtain rfl := List.mem_singleton.mp last
      exact absurd rfl (closed .interactor).1
  · have whole := (equipped.laid.covers entry.1).mpr (List.mem_map_of_mem wires)
    rcases List.mem_append.mp whole with ends | ends
    · exact absurd ends (closed .solution).2
    · exact absurd ends (closed .interactor).2
  · exact .inr held

end Equipped

/-- Both sides are launched; what the umpire has then are the read ends and what it holds. -/
theorem meets_launches {rest : Handle → Handle → Work Report} {good : Report → Ledger → Prop}
    (equipped : Equipped contest before beacons wiring wired held)
    (pipe : ∀ side, (beacons.get side).pipe = pipes.get side)
    (goes : ∀ solution interactor after left, Stock after.table after.record.made after.next left →
      after.record.beacons = beacons.map some → after.record.running = false →
      (∀ entry ∈ held, entry.2 ∈ after.record.anchored) → after.record.BothStarted →
      (∀ entry ∈ left, (∃ side, entry = (beacons.get side).ear) ∨ entry ∈ held) →
      (∀ spent ∈ after.record.spent, ∀ entry ∈ left, ¬ spent.1.charge.Hands entry.2) →
      (rest solution interactor).Meets contest good after) :
    Work.Meets contest good (do
      let solution ← launchSide contest pipes wiring .solution
      let interactor ← launchSide contest pipes wiring .interactor
      rest solution interactor) before := by
  refine .seq (meets_launchSide equipped.toStage equipped.due_solution (pipe .solution) fun _ =>
    equipped.ends_high) fun solution first launched => ?_
  obtain ⟨charge, stock, record, handed⟩ := launched
  -- The interactor has still not been started.
  have stage : Stage first (leftBy beacons wiring .solution
      (beacons.solution.entries ++ (beacons.interactor.entries ++ (wired ++ held)))) := by
    refine ⟨stock, ?_, ?_⟩ <;> rw [record]
    · exact equipped.waits
    · exact equipped.runs
  have due := equipped.due_interactor record handed
  refine .seq (meets_launchSide stage due (pipe .interactor) fun _ => equipped.ends_high)
    fun interactor second launched => ?_
  obtain ⟨charge', stock', record', handed'⟩ := launched
  -- Both launches have only added to the record, so that each part of it is read through the two.
  refine goes _ _ second _ stock' ?_ ?_ ?_ ?_ (fun entry left => equipped.left_cases left) ?_
  · rw [record', record]
    exact equipped.told
  · rw [record', record]
    exact equipped.runs
  · rw [record', record]
    intro entry member
    show entry.2 ∈ before.record.anchored
    rw [equipped.anchored]
    exact List.mem_map_of_mem member
  · rw [record', record]
    intro side
    cases side <;> rfl
  · intro spent listed entry left
    rw [record'] at listed
    -- The solution was handed nothing that is left after its own launch, the interactor nothing after both.
    rcases List.mem_append.mp listed with earlier | last
    · exact (due.unspent spent earlier).2 entry (List.mem_filter.mp left).1
    · obtain rfl := List.mem_singleton.mp last
      exact handed' entry left

/-- What was held until both sides run is let go of. -/
theorem meets_release (stock : Stock before.table before.record.made before.next known) (calm : before.Calm)
    (fds : List Nat) (high : ∀ fd ∈ fds, 2 < fd) :
    (Work.release fds).Meets contest (fun _ after =>
      Stock after.table after.record.made after.next (known.filter fun entry => !fds.contains entry.1) ∧
        after.Calm ∧ after.record = before.record) before := by
  -- The numbers are closed first; that they are not in hand any more is no act.
  have closes : Work.Meets contest (fun _ after =>
      Stock after.table after.record.made after.next (known.filter fun entry => !fds.contains entry.1) ∧
        after.Calm ∧ after.record = before.record)
      (Work.ofConduct (do closeAll fds; return .ok ())) before :=
    .ofConduct (.seq (abides_closeAll stock calm fds high) fun _ _ closed => closed)
  exact .seq closes fun _ _ closed _ => closed

/-- Both sides are told to run once the umpire has nothing but the read ends. -/
theorem meets_running (stock : Stock before.table before.record.made before.next known) (calm : before.Calm)
    (told : before.record.beacons = beacons.map some) (both : before.record.BothStarted)
    (ears : ∀ entry ∈ known, ∃ side, entry = (beacons.get side).ear)
    (gone : ∀ spent ∈ before.record.spent, ∀ entry ∈ known, ¬ spent.1.charge.Hands entry.2) :
    (Work.note .bothRunning).Meets contest (fun _ after => after.Calm) before := by
  refine .ofConduct (.ask ⟨calm.settled, calm.privately, both⟩ fun _ after leads => ?_)
  obtain rfl := leads
  -- From then on what is held may not be there, and it has been let go of.
  have running : Ledger.Calm { before with record := { before.record with running := true } } :=
    calm_of_ears stock told (fun entry listed => .inl (ears entry listed)) gone
  exact running

/-- The whole work of a bout keeps to its rules. -/
theorem meets_work (arming : Arming before []) (none : before.record.anchors = []) :
    (work contest).Meets contest (fun _ after => after.Calm) before := by
  refine .seq (meets_arm arming) fun pipes armed made => ?_
  obtain ⟨beacons, pipe, told, unheld, arming⟩ := made
  refine .seq (.gain _ (abides_wiring arming)) fun wiring middle made => ?_
  obtain ⟨alike, wired, arming, laid⟩ := made
  refine .seq (.gain _ (abides_holdAll arming [] _)) fun anchors equipped made => ?_
  obtain ⟨held, arming, numbers, moored⟩ := made
  rw [List.nil_append] at numbers
  subst numbers
  -- All that a launch needs has been made by now.
  have equipped : Equipped contest equipped beacons wiring wired held := by
    refine ⟨by simpa using arming, moored.beacons.trans (alike.beacons.trans told), laid, ?_, moored.each⟩
    rw [moored.anchored, Record.anchored, alike.anchors, unheld, none]
    rfl
  -- After both launches the umpire has the read ends, and what it holds until it tells them to run.
  refine meets_launches equipped pipe
    fun solution interactor running left stock told runs anchored both ears gone => ?_
  have calm : running.Calm := calm_of_ears stock told (fun entry listed =>
    (ears entry listed).imp_right fun member => ⟨runs, anchored entry member⟩) gone
  -- What is held is no standard stream, since it is known.
  have high : ∀ fd ∈ held.map Prod.fst, 2 < fd := by
    intro fd listed
    obtain ⟨entry, member, rfl⟩ := List.mem_map.mp listed
    exact equipped.stock.beyond_streams (by simp [member])
  refine .seq (meets_release stock calm _ high) fun _ released closed => ?_
  obtain ⟨stock, calm, same⟩ := closed
  refine .seq (meets_running stock calm (same ▸ told) (same ▸ both) (fun entry listed => ?_) ?_)
    fun _ settled calm => ?_
  · obtain ⟨listed, kept⟩ := List.mem_filter.mp listed
    refine (ears entry listed).resolve_right fun member => ?_
    rw [List.contains_iff_mem.mpr (List.mem_map_of_mem member)] at kept
    cases kept
  · rw [same]
    exact fun spent listed entry left => gone spent listed entry (List.mem_filter.mp left).1
  refine .seq (.quiet calm (.firstHangUp pipes)) fun winner hungUp calm => ?_
  refine .seq (.quiet calm (.ask trivial fun _ => .done _)) fun _ finished calm => ?_
  refine .seq (fun holdings => (calm.abides (.settle winner ⟨solution, interactor⟩ holdings)).mono ?_)
    fun statuses last calm => .done calm
  intro out after calm
  obtain ⟨result, holdings⟩ := out
  cases result <;> exact calm

end Launches

/-- A bout keeps to its rules from its start, and ends with the umpire calm. -/
theorem abides_run (arming : Arming before []) (none : before.record.anchors = []) :
    (run contest).Abides (rules contest) (fun _ after => after.Calm) before := by
  refine .seq (meets_work arming none {}) fun out after fared => ?_
  obtain ⟨result, holdings⟩ := out
  -- However the work has ended, the umpire is calm, and letting go of everything is quiet.
  have calm : after.Calm := by cases result <;> exact fared
  exact .seq (calm.abides (.dissolve holdings)) fun _ _ calm => calm

end Umpire.Bout
