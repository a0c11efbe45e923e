import Umpire.Proofs.Options.Reading

/-! The scan of an option list takes what the grammar spells and nothing else. -/

namespace Umpire.Options

/-- The groups of a scan are spelled by what was pending and the tokens scanned. -/
theorem scanFrom_spells {tokens : List Bytes} {pending : Option Pending} {groups : List Group}
    (read : scanFrom pending tokens = .ok groups) :
    Spells groups (pendingTokens pending ++ tokens) := by
  -- What is spelled but not yet a group stands in what is pending, from token to token.
  induction tokens generalizing pending groups with
  | nil => simpa using settle_spells read
  | cons token rest ih =>
    obtain ⟨⟨first, next⟩, taken, later⟩ := bind_ok.mp read
    obtain ⟨others, scanned, same⟩ := bind_ok.mp later
    cases same
    obtain ⟨before, spelled, whole⟩ := step_spells taken
    have rest_spelled := spelled.append (ih scanned)
    rwa [← List.append_assoc, ← whole, List.append_assoc] at rest_spelled

/-- A scan that ends in a request meets it right after whole groups. -/
theorem scanFrom_requests {tokens : List Bytes} {pending : Option Pending} {complaint : Complaint}
    (request : complaint.isRequest = true) (read : scanFrom pending tokens = .error complaint) :
    Requests (pendingTokens pending ++ tokens) complaint := by
  -- The scan gets past all tokens before the one that asks, so those spell whole groups.
  induction tokens generalizing pending with
  | nil =>
    have fault := settle_fault read
    simp [fault] at request
  | cons token rest ih =>
    rcases bind_error.mp read with met | ⟨⟨first, next⟩, taken, later⟩
    · obtain ⟨⟨settled, done⟩, asks⟩ := step_asks request met
      exact ⟨settled, _, token, rest, settle_spells done, asks, rfl⟩
    · rcases bind_error.mp later with scanned | ⟨_, _, odd⟩
      · obtain ⟨before, spelled, whole⟩ := step_spells taken
        have asked := (ih scanned).after spelled
        rwa [← List.append_assoc, ← whole, List.append_assoc] at asked
      · cases odd

/-- One hyphen and a letter make a token that is read letter by letter. -/
theorem step_letters {first : UInt8} (letter : first ≠ Bytes.ascii '-') (rest : Bytes) :
    step none (Bytes.ascii '-' :: first :: rest) = stepShort none (first :: rest) := by
  simp [step, Shape.of, letter]

/-- A token of flags alone is a whole group. -/
theorem step_flags (more : Nat) :
    step none (cluster (more + 1)) = .ok ([.verbose more], none) := by
  -- All letters are flags, so that nothing is left behind them.
  have adds : stepShort none (List.replicate (more + 1) (Bytes.ascii 'v')) =
      pure ([.verbose more], none) := by
    simp [stepShort, stepLetters, settle_none]
  rw [cluster, List.replicate_succ, step_letters (by decide), ← List.replicate_succ, adds]
  rfl

/-- A token of flags and other letters is read from the first of the others on. -/
theorem step_cluster {first : UInt8} (other : first ≠ Bytes.ascii 'v')
    (letter : first ≠ Bytes.ascii '-') (flags : Nat) (rest : Bytes) :
    step none (cluster flags ++ first :: rest) = stepLetters none flags (first :: rest) := by
  -- It starts with one hyphen, whether there are flags or not.
  have read : step none (cluster flags ++ first :: rest) =
      stepShort none (List.replicate flags (Bytes.ascii 'v') ++ first :: rest) := by
    cases flags with
    | zero => exact step_letters letter rest
    | succ more => exact step_letters (by decide) _
  rw [read]
  simp [stepShort, other]

/-- The letter of a file option is neither a flag nor a hyphen. -/
theorem FileOption.letter_other (option : FileOption) :
    Bytes.ascii option.letter ≠ Bytes.ascii 'v' ∧ Bytes.ascii option.letter ≠ Bytes.ascii '-' := by
  cases option <;> decide

/-- A file option whose value follows its letter at once is a whole group. -/
theorem step_attached (flags : Nat) (option : FileOption) {value : Bytes} (filled : value ≠ [])
    (unsigned : value.head? ≠ some (Bytes.ascii '=')) :
    step none (cluster flags ++ Bytes.ascii option.letter :: value) =
      .ok ([.file flags option .attached value], none) := by
  obtain ⟨other, letter⟩ := option.letter_other
  -- What follows the letter is not empty and does not start with an equals sign.
  obtain ⟨first, tail, rfl⟩ := List.exists_cons_of_ne_nil filled
  have plain : (first == Bytes.ascii '=') = false := by simpa using unsigned
  have made : fileGroup flags option .attached (first :: tail) =
      .ok (.file flags option .attached (first :: tail)) := fileGroup_ok.mpr ⟨filled, rfl⟩
  rw [step_cluster other letter]
  simp only [stepLetters, option.ofLetter_letter, settle_none, pure_bind, plain,
    Bool.false_eq_true, if_false, made]
  rfl

/-- A file option whose value follows an equals sign is a whole group. -/
theorem step_equals (flags : Nat) (option : FileOption) {value : Bytes} (filled : value ≠ []) :
    step none (cluster flags ++ Bytes.ascii option.letter :: Bytes.ascii '=' :: value) =
      .ok ([.file flags option .equals value], none) := by
  obtain ⟨other, letter⟩ := option.letter_other
  -- The value may be anything that is not empty.
  have made : fileGroup flags option .equals value = .ok (.file flags option .equals value) :=
    fileGroup_ok.mpr ⟨filled, rfl⟩
  rw [step_cluster other letter]
  simp only [stepLetters, option.ofLetter_letter, settle_none, pure_bind, beq_self_eq_true, if_true,
    made]
  rfl

/-- A file option with nothing behind its letter waits for the next token. -/
theorem step_opening (flags : Nat) (option : FileOption) :
    step none (cluster flags ++ [Bytes.ascii option.letter]) =
      .ok ([], some (.file flags option none)) := by
  obtain ⟨other, letter⟩ := option.letter_other
  -- Behind the letter there is nothing to be its value.
  rw [step_cluster other letter]
  simp only [stepLetters, option.ofLetter_letter, settle_none, pure_bind]
  rfl

/-- A token that is read leaves the scan to go on from what it leaves pending. -/
theorem scanFrom_step {pending next : Option Pending} {token : Bytes} {groups : List Group}
    (read : step pending token = .ok (groups, next)) (rest : List Bytes) :
    scanFrom pending (token :: rest) = (groups ++ ·) <$> scanFrom next rest := by
  simp only [scanFrom, read, Bind.bind, Except.bind]
  cases scanFrom next rest <;> rfl

/-- A token that is not read ends the scan. -/
theorem scanFrom_fault {pending : Option Pending} {token : Bytes} {complaint : Complaint}
    (failed : step pending token = .error complaint) (rest : List Bytes) :
    scanFrom pending (token :: rest) = .error complaint := by
  simp only [scanFrom, failed]
  rfl

/-- An option that settles goes before whatever the rest of the list adds on its own. -/
theorem scanFrom_settled {pending : Option Pending} {settled : List Group}
    (done : settle pending = .ok settled) (tokens : List Bytes) :
    scanFrom pending tokens = (settled ++ ·) <$> scanFrom none tokens := by
  cases tokens with
  | nil =>
    simp only [scanFrom, done, settle_none, map_pure, List.append_nil]
    rfl
  | cons token rest =>
    -- The first token is read as it would be alone, behind what settles, and settles the rest.
    have behind := step_settled done token
    cases own : step none token with
    | error complaint =>
      rw [own] at behind
      rw [scanFrom_fault behind, scanFrom_fault own]
      rfl
    | ok progress =>
      obtain ⟨groups, next⟩ := progress
      rw [own] at behind
      rw [scanFrom_step behind, scanFrom_step own]
      simp

/-- Two tokens of which the first leaves an option pending and the second lets it settle are read
as the group it settles as. -/
theorem scanFrom_pair {first second : Bytes} {opened filled : Option Pending} {group : Group}
    (read : step none first = .ok ([], opened)) (taken : step opened second = .ok ([], filled))
    (done : settle filled = .ok [group]) (rest : List Bytes) :
    scanFrom none (first :: second :: rest) = ([group] ++ ·) <$> scanFrom none rest := by
  rw [scanFrom_step read, scanFrom_step taken, scanFrom_settled done]
  simp

/-- The tokens of a well-formed group are read as that group, whatever follows. -/
theorem scanFrom_group {group : Group} (formed : group.WellFormed) (rest : List Bytes) :
    scanFrom none (group.tokens ++ rest) = ([group] ++ ·) <$> scanFrom none rest := by
  cases group with
  | verbose more => exact scanFrom_step (step_flags more) rest
  | file flags option form value =>
    cases form with
    | attached => exact scanFrom_step (step_attached flags option formed.1 formed.2) rest
    | equals => exact scanFrom_step (step_equals flags option formed) rest
    | separate =>
      -- The next token is taken whatever it looks like, and then the option settles.
      have closes : settle (some (.file flags option (some value))) =
          .ok [.file flags option .separate value] := by
        rw [settle, Option.getD_some, fileGroup_ok.mpr ⟨formed, rfl⟩]
        rfl
      exact scanFrom_pair (step_opening flags option) rfl closes rest
  | level separate chosen =>
    cases separate with
    | false =>
      apply scanFrom_step
      cases chosen <;> rfl
    | true =>
      -- The name of a level looks like no option, so it is taken.
      have opens : step none levelName = .ok ([], some (.level none)) := rfl
      have takes : step (some (.level none)) (Bytes.ofString chosen.name) =
          .ok ([], some (.level (some (Bytes.ofString chosen.name)))) := by
        cases chosen <;> rfl
      have closes : settle (some (.level (some (Bytes.ofString chosen.name)))) =
          .ok [.level true chosen] := by
        cases chosen <;> rfl
      exact scanFrom_pair opens takes closes rest

/-- The tokens that groups spell are read as those groups, whatever follows. -/
theorem scanFrom_groups {groups : List Group} (formed : ∀ group ∈ groups, group.WellFormed)
    (rest : List Bytes) :
    scanFrom none (groups.flatMap Group.tokens ++ rest) = (groups ++ ·) <$> scanFrom none rest := by
  -- The groups are read one by one, each whatever follows it.
  induction groups with
  | nil => simp
  | cons group others ih =>
    have here := formed group List.mem_cons_self
    have later := ih fun other member => formed other (List.mem_cons_of_mem group member)
    rw [List.flatMap_cons, List.append_assoc, scanFrom_group here, later]
    simp

/-- A token that asks for a text is read as that request. -/
theorem step_asking {token : Bytes} {complaint : Complaint} (asks : Asks token complaint) :
    step none token = .error complaint := by
  -- By a letter it is asked for behind flags at most, and by a name in a token of its own.
  cases asks with
  | help flags rest =>
    rw [step_cluster (by decide) (by decide)]
    rfl
  | version flags rest =>
    rw [step_cluster (by decide) (by decide)]
    rfl
  | longHelp => rfl
  | longVersion => rfl

/-- A scan succeeds exactly with the groups that its tokens spell. -/
theorem scan_ok_iff {tokens : List Bytes} {groups : List Group} :
    scan tokens = .ok groups ↔ Spells groups tokens := by
  constructor
  · intro read
    exact scanFrom_spells read
  · -- After the groups nothing is left over that would have to be settled.
    rintro ⟨formed, rfl⟩
    have read := scanFrom_groups formed []
    rwa [List.append_nil, scanFrom, settle_none, map_pure, List.append_nil] at read

/-- A scan ends in a request exactly if its tokens ask for it right after whole groups. -/
theorem scan_request_iff {tokens : List Bytes} {complaint : Complaint} :
    (complaint.isRequest = true ∧ scan tokens = .error complaint) ↔ Requests tokens complaint := by
  constructor
  · rintro ⟨request, read⟩
    exact scanFrom_requests request read
  · rintro ⟨groups, _, token, rest, ⟨formed, rfl⟩, asks, rfl⟩
    refine ⟨asks.isRequest, ?_⟩
    -- The groups before it are read, and then the token that asks.
    rw [scan, scanFrom_groups formed, scanFrom_fault (step_asking asks)]
    rfl

/-- Tokens spell one list of groups at most. -/
theorem Spells.unique {tokens : List Bytes} {groups others : List Group}
    (spelled : Spells groups tokens) (also : Spells others tokens) : groups = others := by
  have same := (scan_ok_iff.mpr spelled).symm.trans (scan_ok_iff.mpr also)
  exact Except.ok.inj same

end Umpire.Options
