import Umpire.Host.Install
import Umpire.Proofs.Dialogue
import Umpire.Proofs.Host.Turns

/-! Obedience: a process that follows an order changes nothing of what it was given but its standard
streams, and has nothing more than it was to be handed when it runs its program. -/

namespace Umpire.Host

/-- What a process is started with on an order. -/
structure Charge where
  order : Order
  /-- What is open for the process that gives the order. -/
  table : Table

namespace Charge

/-- The open files that the order hands on: what is kept by new programs, and what is to become a
standard stream. -/
def Hands (charge : Charge) (file : Nat) : Prop :=
  ∃ fd slot, charge.table.get? fd = some slot ∧ slot.file = file ∧
    (slot.closeOnExec = false ∨ fd ∈ charge.order.given.map Prod.fst)

/-- The words of the order, or those by which a shell runs the order's file. -/
def Wording (charge : Charge) (words : List Bytes) : Prop :=
  words = charge.order.words ∨ ∃ path, words = shellPath :: path :: charge.order.words.tail

/-- How the table of the new process stands to that of the old one: what a new program would keep was
handed on or is new, which is what has a number from a bound on, and what is not a standard stream is as
it was. -/
structure Suits (charge : Charge) (bound : Nat) (table : Table) : Prop where
  kept : ∀ fd slot, table.get? fd = some slot → slot.closeOnExec = false →
    charge.Hands slot.file ∨ bound ≤ slot.file
  untouched : ∀ fd slot, 2 < fd → charge.table.get? fd = some slot → table.get? fd = some slot

/-- What a process may do that follows an order: it starts no other, and runs the program with what it
was handed. -/
def rules (charge : Charge) (bound : Nat) : Rules Call.vocabulary Table where
  may
    | table, .exec _ words _ => charge.Suits bound table ∧ charge.Wording words
    | _, .fork | _, .spawn _ => False
    | _, _ => True
  leads table wanted value after :=
    ∃ next later, bound ≤ next ∧ Effect next table wanted value later after

variable {charge : Charge} {bound : Nat} {table : Table}

section Running

variable (environment : List (Bytes × Bytes)) {shell : Option Bytes}
  (isShell : ∀ program, shell = some program → program = shellPath)

include isShell

/-- Running a file abides by the rules. -/
theorem abides_runFile (suits : charge.Suits bound table) (path : Bytes) :
    (runFile path charge.order.words environment shell).Abides (charge.rules bound)
      (fun _ after => charge.Suits bound after) table := by
  refine .ask ⟨suits, .inl rfl⟩ fun refusal after leads => ?_
  -- A process that hears of its program's failure has what it had.
  obtain ⟨_, _, -, rfl, -⟩ := leads
  -- A shell is tried only where there is one and the file is no program.
  cases shell with
  | none => exact suits
  | some program =>
    dsimp only [Bind.bind, Dialogue.bind]
    split
    · refine .ask ⟨suits, .inr ⟨path, ?_⟩⟩ fun refusal after leads => ?_
      · rw [isShell program rfl]
      · obtain ⟨_, _, -, rfl, -⟩ := leads
        exact suits
    · exact suits

/-- Looking for a file to run abides by the rules. -/
theorem abides_runFrom (suits : charge.Suits bound table) (name : Bytes) (reason : Errno)
    (directories : List Bytes) :
    (runFrom name charge.order.words environment shell reason directories).Abides (charge.rules bound)
      (fun _ after => charge.Suits bound after) table := by
  -- By induction on the directories; each attempt leaves the table as it suits the order.
  induction directories generalizing table reason with
  | nil => exact suits
  | cons directory rest ih =>
    refine .seq (abides_runFile environment isShell suits _) fun refusal after suits => ?_
    split
    · exact ih suits reason
    · split
      · exact ih suits Errno.accessDenied
      · exact suits

/-- Running a program abides by the rules. -/
theorem abides_runProgram (suits : charge.Suits bound table) :
    (runProgram charge.order.words environment shell).Abides (charge.rules bound)
      (fun _ after => charge.Suits bound after) table := by
  -- No words are a refusal, a word with a slash is one file, and any other is looked for.
  rw [runProgram]
  split
  · exact suits
  · split
    · exact abides_runFile environment isShell suits _
    · split
      · exact suits
      · exact abides_runFrom environment isShell suits _ _ _

end Running

/-- A standard stream has one of the first three numbers. -/
theorem fd_lt_three (stream : Stream) : stream.fd < 3 := by
  cases stream <;> decide

/-- While standard streams are put in place, what is still to be put there is handed on or new. -/
structure Places (charge : Charge) (bound : Nat) (rest : List (Nat × Stream)) (table : Table) : Prop
    extends charge.Suits bound table where
  given : ∀ choice ∈ rest, ∀ slot, table.get? choice.1 = some slot →
    charge.Hands slot.file ∨ bound ≤ slot.file

/-- Putting something that is handed on or new in the place of a standard stream suits the order. -/
theorem Places.put {rest : List (Nat × Stream)} {slot : Slot} (places : charge.Places bound rest table)
    (stream : Stream) (allowed : charge.Hands slot.file ∨ bound ≤ slot.file) :
    charge.Places bound rest (table.put stream.fd (some slot)) where
  -- Under the stream's number stands what was put there, and under others what did before.
  kept fd found held flag := by
    rw [Table.get?_put] at held
    split at held
    · cases held
      exact allowed
    · exact places.kept fd found held flag
  -- A standard stream's number is none of those that have to be left.
  untouched fd found high held := by
    have low := fd_lt_three stream
    rw [Table.get?_put, if_neg (by omega)]
    exact places.untouched fd found high held
  given choice member found held := by
    rw [Table.get?_put] at held
    split at held
    · cases held
      exact allowed
    · exact places.given choice member found held

/-- Putting streams in place abides by the rules. -/
theorem abides_place (rest : List (Nat × Stream)) (places : charge.Places bound rest table) :
    (eachOf (fun choice : Nat × Stream => call (.duplicateTo choice.1 choice.2.fd)) rest).Abides
      (charge.rules bound) (fun _ after => charge.Suits bound after) table := by
  -- By induction on the streams that are left, with what is still to be placed as the invariant.
  induction rest generalizing table with
  | nil => exact places.toSuits
  | cons choice rest ih =>
    refine .ask trivial fun answer after leads => ?_
    obtain ⟨next, later, -, effect⟩ := leads
    have fewer : charge.Places bound rest table :=
      ⟨places.toSuits, fun other member => places.given other (List.mem_cons_of_mem _ member)⟩
    cases answer with
    | error errno =>
      obtain ⟨rfl, -⟩ := effect
      exact places.toSuits
    | ok done =>
      obtain ⟨copied, -⟩ := effect
      obtain ⟨slot, found, rfl⟩ := Table.duplicateTo_ok copied
      refine ih ?_
      -- A stream that is in its place already is left there.
      split
      · exact fewer
      · exact fewer.put choice.2 (places.given choice List.mem_cons_self slot found)

/-- The table that a new process starts with. -/
theorem places_start (charge : Charge) (bound : Nat) : charge.Places bound charge.order.given charge.table where
  -- Every slot is under the number that it had, whether it is kept or meant for a stream.
  kept fd slot held flag := .inl ⟨fd, slot, held, rfl, .inl flag⟩
  untouched _ _ _ held := held
  given choice member slot held := .inl ⟨choice.1, slot, held, rfl, .inr (List.mem_map_of_mem member)⟩

/-- A file that is opened takes a number that was free, so that nothing else is touched. -/
theorem Suits.opened {after : Table} {fd file : Nat} (suits : charge.Suits bound table)
    (new : bound ≤ file) (taken : table.insert 0 ⟨file, false⟩ = .ok (fd, after)) :
    charge.Suits bound after ∧ after.get? fd = some ⟨file, false⟩ ∧ (2 < fd → charge.table.get? fd = none) := by
  obtain ⟨free, -, rfl⟩ := Table.insert_ok taken
  refine ⟨⟨fun number slot held flag => ?_, fun number slot high held => ?_⟩, ?_, fun high => ?_⟩
  · rw [Table.get?_put] at held
    split at held
    · cases held
      exact .inr new
    · exact suits.kept number slot held flag
  · -- What was there is not under the new number, which was free.
    have known := suits.untouched number slot high held
    have other : number ≠ fd := by
      rintro rfl
      rw [free] at known
      cases known
    rw [Table.get?_put, if_neg other]
    exact known
  · rw [Table.get?_put, if_pos rfl]
  · -- Had the number stood for something at first, it would still, and would not have been free.
    cases held : charge.table.get? fd with
    | none => rfl
    | some slot =>
      rw [suits.untouched fd slot high held] at free
      cases free

/-- Closing what was not handed on as it is touches nothing else. -/
theorem Suits.closed {fd : Nat} (suits : charge.Suits bound table)
    (own : 2 < fd → charge.table.get? fd = none) : charge.Suits bound (table.put fd none) where
  kept number slot held flag := by
    rw [Table.get?_put] at held
    split at held
    · cases held
    · exact suits.kept number slot held flag
  untouched number slot high held := by
    -- The number that is closed stood for nothing at first.
    have other : number ≠ fd := by
      rintro rfl
      rw [own high] at held
      cases held
    rw [Table.get?_put, if_neg other]
    exact suits.untouched number slot high held

/-- Installing a redirect abides by the rules. -/
theorem abides_redirect (suits : charge.Suits bound table) (redirect : Redirect) :
    redirect.install.Abides (charge.rules bound) (fun _ after => charge.Suits bound after) table := by
  refine .ask trivial fun answer opened leads => ?_
  obtain ⟨next, later, new, effect⟩ := leads
  cases answer with
  | error errno =>
    obtain ⟨rfl, -⟩ := effect
    exact suits
  | ok fd =>
    obtain ⟨taken, -⟩ := effect
    obtain ⟨suits, held, own⟩ := suits.opened new taken
    dsimp only [Bind.bind, Dialogue.bind]
    -- A file that got the stream's own number is in its place.
    split
    · exact suits
    · rename_i other
      refine .ask trivial fun answer copied leads => ?_
      obtain ⟨_, _, -, effect⟩ := leads
      cases answer with
      | error errno =>
        obtain ⟨rfl, -⟩ := effect
        exact suits
      | ok done =>
        obtain ⟨duplicated, -⟩ := effect
        obtain ⟨slot, found, rfl⟩ := Table.duplicateTo_ok duplicated
        cases held.symm.trans found
        rw [if_neg other]
        -- Else its number is duplicated onto the stream's and then closed, each of which may fail.
        have alone : charge.Places bound [] opened := ⟨suits, nofun⟩
        have placed : charge.Places bound [] (opened.put redirect.stream.fd (some ⟨next, false⟩)) :=
          alone.put redirect.stream (.inr new)
        refine .ask trivial fun answer closed leads => ?_
        obtain ⟨_, _, -, effect⟩ := leads
        cases answer with
        | error errno =>
          obtain ⟨-, rfl, -⟩ := effect
          exact placed.toSuits
        | ok done =>
          obtain ⟨freed, -⟩ := effect
          obtain rfl := Table.close_ok freed
          exact placed.toSuits.closed own

/-- Installing redirects abides by the rules. -/
theorem abides_install (suits : charge.Suits bound table) (redirects : List Redirect) :
    (install redirects).Abides (charge.rules bound) (fun _ after => charge.Suits bound after) table := by
  rw [install]
  -- By induction on the redirects, with a table that suits the order as the invariant.
  induction redirects generalizing table with
  | nil => exact suits
  | cons redirect rest ih =>
    refine .seq (abides_redirect suits redirect) fun result after suits => ?_
    cases result with
    | error errno => exact suits
    | ok done => exact ih suits

/-- Giving up abides by the rules. -/
theorem abides_giveUp (errno : Errno) :
    (do call (.giveUp errno); return 1 : Talk Nat).Abides (charge.rules bound) (fun _ _ => True) table :=
  ⟨trivial, fun _ _ _ => trivial⟩

/-- A process that follows an order abides by the rules. -/
theorem abides_obey (charge : Charge) (bound : Nat) :
    charge.order.obey.Abides (charge.rules bound) (fun _ _ => True) charge.table := by
  -- Streams, redirects and the program, each starting from a table that suits the order.
  refine .seq (abides_place _ (charge.places_start bound)) fun placed table suits => ?_
  cases placed with
  | error errno => exact abides_giveUp errno
  | ok done =>
    refine .ask trivial fun answer after leads => ?_
    -- Such a call leaves the table.
    have same : after = table := by
      obtain ⟨_, _, -, effect⟩ := leads
      exact effect.1
    subst same
    refine .seq (abides_install suits _) fun installed table suits => ?_
    cases installed with
    | error errno => exact abides_giveUp errno
    | ok done =>
      refine .ask trivial fun environment after leads => ?_
      have same : after = table := by
        obtain ⟨_, _, -, effect⟩ := leads
        exact effect.1
      subst same
      refine .seq (abides_runProgram environment ?_ suits) fun refusal _ _ => abides_giveUp refusal
      intro program chosen
      split at chosen
      · cases chosen
      · exact (Option.some.inj chosen).symm

end Charge

end Umpire.Host
