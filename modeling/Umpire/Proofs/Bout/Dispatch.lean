import Umpire.Proofs.Bout.Phases
import Umpire.Proofs.Bout.Preparation

/-! Dispatch: a side is started with the write end of its signalling pipe kept by its program, and once it
has been started the umpire has nothing left of what it handed on. -/

namespace Umpire.Bout

open Host (Charge Slot Table)

variable {contest : Contest} {before after : Ledger} {known : List (Nat × Nat)}

/-- Closing a descriptor of the umpire's making leaves all others. -/
theorem stock_close (stock : Stock before.table before.record.made before.next known) {fd : Nat}
    (high : 2 < fd) {answer : Except Errno Unit}
    (leads : (rules contest).leads before (.call (.close fd)) answer after) :
    Stock after.table after.record.made after.next (known.filter fun entry => entry.1 != fd) ∧
      after.record = before.record := by
  obtain ⟨⟨now, later, effect⟩, record⟩ := leads
  refine ⟨?_, record⟩
  rw [show after.record.made = before.record.made from congrArg Record.made record]
  -- Whether closing succeeds or not, the number stands for nothing afterwards.
  cases answer with
  | ok done =>
    obtain ⟨closed, next⟩ := effect
    rw [Table.close_ok closed, next]
    exact (stock.later later).free high (fun number => by rw [Table.get?_put]) rfl
  | error errno =>
    -- It fails only if there was nothing under the number.
    obtain ⟨absent, same, next⟩ := effect
    rw [same, next]
    refine (stock.later later).free high (fun number => ?_) rfl
    split
    · rename_i gone
      rw [gone, absent]
    · rfl

/-- Closing descriptors of the umpire's making leaves all others. -/
theorem abides_closeAll (stock : Stock before.table before.record.made before.next known)
    (calm : before.Calm) (fds : List Nat) (high : ∀ fd ∈ fds, 2 < fd) :
    (closeAll fds).Abides (rules contest) (fun _ after =>
      Stock after.table after.record.made after.next (known.filter fun entry => !fds.contains entry.1) ∧
        after.Calm ∧ after.record = before.record) before := by
  -- By induction on the numbers: each is taken off what is known, and the rest off what is left.
  induction fds generalizing before known with
  | nil =>
    have all : (known.filter fun entry => !([] : List Nat).contains entry.1) = known :=
      List.filter_eq_self.mpr fun _ _ => rfl
    exact ⟨all.symm ▸ stock, calm, rfl⟩
  | cons fd rest ih =>
    refine .ask (calm.allows trivial) fun answer after leads => ?_
    obtain ⟨fewer, record⟩ := stock_close stock (high fd List.mem_cons_self) leads
    have calmer : after.Calm := calm.step (show Act.IsQuiet (.call (.close fd)) from trivial) leads
    refine (ih fewer calmer fun other member => high other (List.mem_cons_of_mem _ member)).mono
      fun _ last closed => ⟨?_, closed.2.1, closed.2.2.trans record⟩
    -- To filter by one and then by the others is to filter by all.
    have same : (known.filter fun entry => !(fd :: rest).contains entry.1) =
        (known.filter fun entry => entry.1 != fd).filter fun entry => !rest.contains entry.1 := by
      rw [List.filter_filter]
      refine List.filter_congr fun entry _ => ?_
      rw [List.contains_cons, Bool.not_or, Bool.and_comm]
      rfl
    exact same ▸ closed.1

/-- Where the umpire stands while the write end of a side's signalling pipe is kept by new programs: it
would be as before were that end not. -/
structure Region (ledger : Ledger) (known : List (Nat × Nat)) (side : Side) (beacon : Beacon) : Prop where
  stage : Stage { ledger with
    table := ledger.table.put beacon.pipe.writeEnd (some ⟨beacon.writing, true⟩) } known
  kept : ledger.table.get? beacon.pipe.writeEnd = some ⟨beacon.writing, false⟩
  member : (beacon.pipe.writeEnd, beacon.writing) ∈ known
  told : ledger.record.beacons.get side = some beacon
  starting : ledger.record.starting = some side

namespace Region

variable {side : Side} {beacon : Beacon} (region : Region before known side beacon)

include region

/-- What the umpire has made is the exposed write end, or is known and kept by no new program. -/
theorem made_cases {fd : Nat} {slot : Slot} (made : before.Made fd slot) :
    (fd, slot.file) ∈ known ∧
      (fd = beacon.pipe.writeEnd ∧ slot.file = beacon.writing ∨ slot.closeOnExec = true) := by
  obtain ⟨found, new⟩ := made
  -- The region differs from the stage in one number, which is the write end's.
  by_cases same : fd = beacon.pipe.writeEnd
  · subst same
    cases region.kept.symm.trans found
    exact ⟨region.member, .inl ⟨rfl, rfl⟩⟩
  · have found' : (before.table.put beacon.pipe.writeEnd (some ⟨beacon.writing, true⟩)).get? fd =
        some slot := by
      rw [Table.get?_put, if_neg same]
      exact found
    obtain ⟨private_, member⟩ := region.stage.stock.all fd slot found' new
    exact ⟨member, .inr private_⟩

/-- What is known is open. -/
theorem found {entry : Nat × Nat} (listed : entry ∈ known) :
    ∃ slot, before.table.get? entry.1 = some slot ∧ slot.file = entry.2 := by
  -- What is known stands where it stood, and the write end stands there too, exposed.
  by_cases same : entry.1 = beacon.pipe.writeEnd
  · obtain rfl := region.stage.stock.eq_of_number listed region.member same
    exact ⟨_, region.kept, rfl⟩
  · have held := (region.stage.stock.held entry listed).1
    rw [Table.get?_put, if_neg same] at held
    exact ⟨_, held, rfl⟩

/-- Only the write end is exposed. -/
theorem exposes : before.Exposes side beacon := by
  refine ⟨region.starting, region.told, fun fd slot made exposed => ?_⟩
  -- Whatever is kept by new programs is the write end, as all else is private.
  rcases (region.made_cases made).2 with same | private_
  · exact same
  · rw [exposed] at private_
    cases private_

/-- Where the interactor has not been started, nothing has to be settled. -/
theorem settled : before.Settled :=
  Ledger.settled_of_waits region.stage.waits

/-- What changes nothing but the orders that were answered leaves the region. -/
theorem same (table : after.table = before.table) (next : before.next ≤ after.next)
    (record : after.record = { before.record with spent := after.record.spent }) :
    Region after known side beacon := by
  -- Each clause is read off what it was before, as no clause mentions the orders.
  refine ⟨⟨?_, ?_, ?_⟩, ?_, region.member, ?_, ?_⟩
  · rw [record, table]
    exact region.stage.stock.later next
  · rw [record]
    exact region.stage.waits
  · rw [record]
    exact region.stage.runs
  · rw [table]
    exact region.kept
  · rw [record]
    exact region.told
  · rw [record]
    exact region.starting

/-- What the order hands on of the umpire's making is the write end and what becomes a standard stream. -/
theorem number_of_hands {order : Host.Order} {entry : Nat × Nat} (listed : entry ∈ known)
    (hands : Charge.Hands ⟨order, before.table⟩ entry.2) :
    entry.1 = beacon.pipe.writeEnd ∨ entry.1 ∈ order.given.map Prod.fst := by
  obtain ⟨fd, slot, found, same, how⟩ := hands
  have new : slot.file ∈ before.record.made := same ▸ (region.stage.stock.held entry listed).2.1
  -- What is handed on is known, and stands under one number only.
  obtain ⟨member, made⟩ := region.made_cases ⟨found, new⟩
  obtain rfl : (fd, slot.file) = entry := region.stage.stock.single member listed same
  -- It is handed on because it is kept, or because it becomes a stream.
  rcases how with exposed | given
  · exact .inl (region.exposes.2.2 fd slot ⟨found, new⟩ exposed).1
  · exact .inr given

end Region

/-- The number of a descriptor that is closed on running a program is asked for and its flag is taken away:
the umpire is in the region then. -/
theorem abides_enter {side : Side} {beacon : Beacon} (stage : Stage before known)
    (member : (beacon.pipe.writeEnd, beacon.writing) ∈ known)
    (told : before.record.beacons.get side = some beacon) (starting : before.record.starting = some side) :
    (Inheritance.enter beacon.pipe.writeEnd).Abides (rules contest) (Fares fun _ after =>
      Region after known side beacon ∧ after.record = before.record) before := by
  -- Nothing is exposed yet, so that the flag may be asked for.
  have exposes : before.Exposes side beacon := by
    refine ⟨starting, told, fun fd slot made exposed => ?_⟩
    rw [stage.calm.privately fd slot made] at exposed
    cases exposed
  -- The flag is asked for first, which changes nothing.
  have asks : (Inheritance.isPrivate beacon.pipe.writeEnd).Abides (rules contest)
      (Fares fun _ middle => Stage middle known ∧ middle.record = before.record) before := by
    refine .ask ⟨stage.settled, side, beacon, exposes⟩ fun answer middle leads => ?_
    obtain ⟨⟨now, later, effect⟩, record⟩ := leads
    have same : middle.table = before.table ∧ middle.next = now := by
      cases answer <;> exact effect.2
    have staged := stage.same same.1 (same.2 ▸ later) record
    cases answer with
    | error errno => exact staged.calm
    | ok flag => exact ⟨staged, record⟩
  refine .seq asks fun asked middle fared => ?_
  cases asked with
  | error fault => exact fared
  | ok flag =>
    obtain ⟨staged, record⟩ := fared
    -- It is then taken away, which opens the region.
    refine .ask ⟨staged.settled, staged.calm.privately⟩ fun answer after leads => ?_
    obtain ⟨⟨now, later, effect⟩, record'⟩ := leads
    cases answer with
    | error errno => exact (staged.same effect.2.1 (effect.2.2 ▸ later) record').calm
    | ok done =>
      obtain ⟨set, next⟩ := effect
      obtain ⟨slot, found, table⟩ := Table.setCloseOnExec_ok set
      cases found.symm.trans (staged.stock.held _ member).1
      have kept : after.table.get? beacon.pipe.writeEnd = some ⟨beacon.writing, false⟩ := by
        rw [table, Table.get?_put, if_pos rfl]
      have whole : after.record = before.record := record'.trans record
      refine ⟨⟨⟨?_, whole ▸ stage.waits, whole ▸ stage.runs⟩, kept, member, whole ▸ told, whole ▸ starting⟩,
        whole⟩
      -- With the flag back, the number would stand for what it stood for before.
      have back (fd : Nat) : (after.table.put beacon.pipe.writeEnd (some ⟨beacon.writing, true⟩)).get? fd =
          middle.table.get? fd := by
        rw [table, Table.get?_put, Table.get?_put]
        split
        · rename_i same
          rw [same, found]
        · rfl
      rw [show after.record.made = middle.record.made from congrArg Record.made record', next]
      exact (staged.stock.later later).congr back (by rw [table]; rfl)

/-- The flag is given back, which cannot fail for a descriptor that is open. -/
theorem abides_release {side : Side} {beacon : Beacon} (region : Region before known side beacon) :
    (Inheritance.release beacon.pipe.writeEnd).Abides (rules contest) (fun result after =>
      result = .ok () ∧ Stage after known ∧ after.record = before.record) before := by
  -- The write end is open, so that the host tells its flag.
  have asks : (Inheritance.isPrivate beacon.pipe.writeEnd).Abides (rules contest)
      (fun asked middle => (∃ flag, asked = .ok flag) ∧ Region middle known side beacon ∧
        middle.record = before.record) before := by
    refine .ask ⟨region.settled, side, beacon, region.exposes⟩ fun answer middle leads => ?_
    obtain ⟨⟨now, later, effect⟩, record⟩ := leads
    cases answer with
    | error errno =>
      obtain ⟨absent, -⟩ := effect
      rw [region.kept] at absent
      cases absent
    | ok flag =>
      obtain ⟨-, table, next⟩ := effect
      exact ⟨⟨flag, rfl⟩, region.same table (next ▸ later) (by rw [record]; rfl), record⟩
  refine .seq asks fun asked middle fared => ?_
  obtain ⟨⟨flag, rfl⟩, region, record⟩ := fared
  refine .ask ⟨region.settled, side, beacon, region.exposes⟩ fun answer after leads => ?_
  obtain ⟨⟨now, later, effect⟩, record'⟩ := leads
  cases answer with
  | error errno =>
    obtain ⟨absent, -⟩ := effect
    rw [region.kept] at absent
    cases absent
  | ok done =>
    obtain ⟨set, next⟩ := effect
    obtain ⟨slot, found, table⟩ := Table.setCloseOnExec_ok set
    cases found.symm.trans region.kept
    -- The stage is what the region is defined by: the table with the flag back.
    have staged : Stage after known := region.stage.same table (next ▸ later) record'
    exact ⟨rfl, staged, record'.trans record⟩

/-- What is put in the place of standard streams for a side is its ends. -/
theorem given_order (contestant : Contestant) (ends : Ends) (redirects : List Host.Redirect) :
    (order contestant ends redirects).given.map Prod.fst = ends.toList := by
  obtain ⟨stdin, stdout⟩ := ends
  cases stdin <;> cases stdout <;> rfl

/-- The order for a side is on record with its answer, and it handed on nothing that is known but what was given. -/
def Commissions (before : Record) (known : List (Nat × Nat)) (side : Side) (given : List Nat) (pid? : Option Nat)
    (after : Record) : Prop :=
  ∃ charge, after = { before with
      starting := some side
      spent := before.spent ++ [(⟨some side, charge⟩, pid?)] } ∧
    ∀ entry ∈ known, charge.Hands entry.2 → entry.1 ∈ given

/-- Once a side's order is answered it is on record, and it handed on the side's write end and its ends of pipes. -/
theorem Region.commissions {side : Side} {beacon : Beacon} (region : Region before known side beacon)
    {contestant : Contestant} {ends : Ends} {redirects : List Host.Redirect}
    {started : Except IoFault Nat}
    (leads : (rules contest).leads before (.call (.spawn (order contestant ends redirects))) started after) :
    Region after known side beacon ∧
      Commissions before.record known side (beacon.pipe.writeEnd :: ends.toList) started.toOption after.record := by
  obtain ⟨⟨now, later, table, next⟩, record⟩ := leads
  have region' : Region after known side beacon := region.same table (next ▸ later) (by rw [record]; rfl)
  -- The order goes on record with the table that it was given in.
  refine ⟨region', ⟨order contestant ends redirects, after.table⟩, ?_, fun entry listed hands => ?_⟩
  · rw [record]
    simp only [Record.after, region.starting]
  · rcases region'.number_of_hands listed hands with same | given
    · exact same ▸ List.mem_cons_self
    · exact List.mem_cons_of_mem _ (given_order contestant ends redirects ▸ given)

/-- A side can be started: its signalling pipe is known and told of, and the ends of the wiring that are
to be its streams are known; nobody was started for it before, and nothing that was handed on then is
still there. What is held of the paths that both sides open is known, and becomes no side's. -/
structure Due (contest : Contest) (record : Record) (known : List (Nat × Nat)) (side : Side) (beacon : Beacon)
    (ends : Ends) : Prop where
  member : (beacon.pipe.writeEnd, beacon.writing) ∈ known
  told : record.beacons.get side = some beacon
  own : ∀ other, record.beacons.get side.other = some other → other.writing ≠ beacon.writing
  wired : ∀ stream fd, ends.fd? stream = some fd →
    ∃ file, (fd, file) ∈ known ∧ record.wire contest side stream = some file
  gives : ∀ stream file, record.wire contest side stream = some file →
    ∃ fd, ends.fd? stream = some fd ∧ (fd, file) ∈ known
  distinct : record.made.Nodup
  signals : ∀ which told, record.beacons.get which = some told →
    told.reading ∈ record.made.take 4 ∧ told.writing ∈ record.made.take 4
  unspent : ∀ spent ∈ record.spent, spent.1.side ≠ some side ∧ ∀ entry ∈ known, ¬ spent.1.charge.Hands entry.2
  moored : ∀ path ∈ Anchors.paths contest, (∃ told, (path, told) ∈ record.probed ∧ ¬ TellsFifo told) ∨
    ∃ entry ∈ known, (path, entry.2) ∈ record.anchors
  unmeant : ∀ file ∈ record.anchored, file ∉ record.made.take 4 ∧
    ∀ which stream, record.wire contest which stream ≠ some file

section Starting

variable {side : Side} {beacon : Beacon} {ends : Ends} (stage : Stage before known)
  (due : Due contest before.record known side beacon ends)

include due

/-- In its region the order for a side may be given. -/
theorem Due.orders (region : Region before known side beacon) {redirects : List Host.Redirect}
    (files : (contest.contestant side).redirects = .ok redirects) :
    before.Orders contest (order ((contest.contestant side).bind (Int32.ofNat beacon.pipe.writeEnd)) ends
      redirects) side beacon where
  exposes := region.exposes
  kept := region.kept
  made := (region.stage.stock.held _ due.member).2.1
  own := due.own
  beyond_streams := region.stage.stock.beyond_streams due.member
  in_range := (region.stage.stock.held _ due.member).2.2
  words := rfl
  -- Each number that is given as a stream is an end of the wiring, which stands for the file that it was made for.
  wired choice given := by
    obtain ⟨file, listed, wire⟩ := due.wired choice.2 choice.1 (mem_given_order.mp given)
    obtain ⟨slot, found, rfl⟩ := region.found listed
    exact ⟨slot, found, wire⟩
  gives stream file wire := by
    obtain ⟨fd, given, listed⟩ := due.gives stream file wire
    obtain ⟨slot, found, same⟩ := region.found listed
    exact ⟨fd, slot, mem_given_order.mpr given, found, same⟩
  distinct := due.distinct
  signals := due.signals
  once spent listed := (due.unspent spent listed).1
  apart spent listed fd slot made := (due.unspent spent listed).2 _ (region.made_cases made).1
  redirects := files
  -- What is held for a path is known, and so it is open.
  moored path shared := by
    refine (due.moored path shared).imp_right ?_
    rintro ⟨entry, listed, anchor⟩
    obtain ⟨slot, found, same⟩ := region.found listed
    exact ⟨entry.1, slot, found, same ▸ anchor⟩
  unmeant := due.unmeant

include stage

/-- The phases of a launch keep the umpire calm, and where they come to a handle nothing is left of what was handed
on. -/
def dispatch (high : ∀ fd ∈ ends.toList, 2 < fd) :
    Phases (rules contest) side ((contest.contestant side).bind (Int32.ofNat beacon.pipe.writeEnd))
      beacon.pipe.writeEnd ends before (Fares fun handle after => ∃ charge,
        let left := known.filter fun entry => !(beacon.pipe.writeEnd :: ends.toList).contains entry.1
        Stock after.table after.record.made after.next left ∧
        after.record = { before.record with
          starting := some side
          spent := before.record.spent ++ [(⟨some side, charge⟩, some handle.pid)]
          started := before.record.started.set side (some handle.pid) } ∧
        ∀ entry ∈ left, ¬ charge.Hands entry.2) where
  told state := Stage state known ∧ state.record = { before.record with starting := some side }
  entered _ state := Region state known side beacon ∧ state.record = { before.record with starting := some side }
  ordered started state := Region state known side beacon ∧
    Commissions before.record known side (beacon.pipe.writeEnd :: ends.toList) started.toOption state.record
  -- The region can always be left.
  orphaned _ _ _ := False
  begun := Fares fun started state => Stage state known ∧
    Commissions before.record known side (beacon.pipe.writeEnd :: ends.toList) started.toOption state.record
  closed := fun
    | .error _ => Ledger.Calm
    | .ok started => fun state => state.Calm ∧
      Stock state.table state.record.made state.next
        (known.filter fun entry => !(beacon.pipe.writeEnd :: ends.toList).contains entry.1) ∧
      Commissions before.record known side (beacon.pipe.writeEnd :: ends.toList) started.toOption state.record
  files _ _ := stage.calm
  tells _ _ := by
    refine ⟨⟨stage.settled, stage.calm.privately⟩, fun _ after leads => ?_⟩
    obtain rfl := leads
    exact ⟨⟨stage.stock, stage.waits, stage.runs⟩, rfl⟩
  tellsFiles _ state told := by
    refine ⟨⟨told.1.settled, told.1.calm.privately⟩, fun _ after leads => ?_⟩
    obtain rfl := leads
    exact told
  -- The stage is as it was, but for the note of who is being started.
  enters _ state _ told := by
    obtain ⟨staged, record⟩ := told
    have starting : state.record.starting = some side := by rw [record]
    have told : state.record.beacons.get side = some beacon := by
      rw [record]
      exact due.told
    have enters := @abides_enter contest state known side beacon staged due.member told starting
    refine enters.mono fun result after fared => ?_
    cases result with
    | error fault => exact fared
    | ok done => exact ⟨fared.1, fared.2.trans record⟩
  -- The order is due in the region as it was before, since neither changes what is known.
  orders redirects state files entered := by
    obtain ⟨region, record⟩ := entered
    have due' : Due contest state.record known side beacon ends := record ▸ { due with }
    refine ⟨⟨region.settled, side, beacon, due'.orders region files⟩, fun started after leads => ?_⟩
    obtain ⟨region', charge, spent, handed⟩ := region.commissions leads
    exact ⟨region', charge, by rw [spent, record], handed⟩
  leaves started state ordered := by
    refine (abides_release ordered.1).mono fun result after left => ?_
    obtain ⟨rfl, staged, record⟩ := left
    exact ⟨staged, record ▸ ordered.2⟩
  kills _ _ _ orphaned := orphaned.elim
  closes result state begun := by
    cases result with
    | error fault => exact Ledger.Calm.abides begun (.closeAll _)
    | ok started =>
      obtain ⟨staged, commissions⟩ := begun
      -- None of what is closed is a standard stream.
      have beyond : ∀ fd ∈ beacon.pipe.writeEnd :: ends.toList, 2 < fd := by
        intro fd listed
        rcases List.mem_cons.mp listed with rfl | listed
        · exact stage.stock.beyond_streams due.member
        · exact high fd listed
      refine (abides_closeAll staged.stock staged.calm _ beyond).mono fun _ after closed => ?_
      exact ⟨closed.2.1, closed.1, closed.2.2 ▸ commissions⟩
  fails _ _ calm := calm
  declines _ _ closed := closed.1
  succeeds pid state closed := by
    obtain ⟨calm, left, charge, record, handed⟩ := closed
    refine ⟨⟨calm.settled, calm.privately, (⟨some side, charge⟩, some pid), ?_, rfl, rfl, rfl⟩,
      fun _ after leads => ?_⟩
    · rw [record]
      exact List.mem_append_right _ (List.mem_singleton.mpr rfl)
    · obtain rfl := leads
      refine ⟨charge, left, ?_, fun entry listed hands => ?_⟩
      · simp only [Record.after, record]
        rfl
      · -- What was handed on has been closed.
        obtain ⟨listed, kept⟩ := List.mem_filter.mp listed
        have closed := handed entry listed hands
        rw [List.contains_iff_mem.mpr closed] at kept
        cases kept

end Starting

end Umpire.Bout
