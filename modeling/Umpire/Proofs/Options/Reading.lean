import Umpire.Proofs.Options.Grammar

/-! How one token of an option list is read, and that its reading is what the grammar says of it. -/

namespace Umpire.Options

/-- The tokens that an option which may be pending has taken so far. -/
def pendingTokens : Option Pending → List Bytes
  | none => []
  | some (.file flags option value) =>
    (cluster flags ++ [Bytes.ascii option.letter]) :: value.toList
  | some (.level value) => levelName :: value.toList

/-- The progress of a token behind groups that were settled before. -/
def Progress.after (settled : List Group) (progress : Progress) : Progress := do
  let (groups, next) ← progress
  return (settled ++ groups, next)

/-- A sequence of two readings succeeds exactly if both do. -/
theorem bind_ok {ε α β : Type} {first : Except ε α} {rest : α → Except ε β} {value : β} :
    (first >>= rest) = .ok value ↔ ∃ middle, first = .ok middle ∧ rest middle = .ok value := by
  cases first <;> simp [Bind.bind, Except.bind]

/-- A sequence of two readings fails as the first of them that does. -/
theorem bind_error {ε α β : Type} {first : Except ε α} {rest : α → Except ε β} {cause : ε} :
    (first >>= rest) = .error cause ↔
      first = .error cause ∨ ∃ middle, first = .ok middle ∧ rest middle = .error cause := by
  cases first <;> simp [Bind.bind, Except.bind]

/-- Every file option is found by its letter. -/
theorem FileOption.ofLetter_letter (option : FileOption) :
    FileOption.ofLetter? (Bytes.ascii option.letter) = some option := by
  cases option <;> decide

/-- The letter that finds a file option is its own. -/
theorem FileOption.letter_of_ofLetter {byte : UInt8} {option : FileOption}
    (found : FileOption.ofLetter? byte = some option) : byte = Bytes.ascii option.letter := by
  have same := List.find?_some found
  simp only [beq_iff_eq] at same
  exact same.symm

/-- A file option is made into a group exactly if its value is not empty. -/
theorem fileGroup_ok {flags : Nat} {option : FileOption} {form : ValueForm} {value : Bytes}
    {group : Group} :
    fileGroup flags option form value = .ok group ↔
      value ≠ [] ∧ group = .file flags option form value := by
  unfold fileGroup
  -- Nothing but an empty value is refused.
  cases value <;> simp [eq_comm]

/-- A level option is made into a group exactly if its value is the name of a level. -/
theorem levelGroup_ok {separate : Bool} {value : Bytes} {group : Group} :
    levelGroup separate value = .ok group ↔
      ∃ chosen : Level, value = Bytes.ofString chosen.name ∧ group = .level separate chosen := by
  constructor
  · intro made
    unfold levelGroup at made
    split at made
    case h_1 chosen found =>
      have named := List.find?_some found
      simp only [beq_iff_eq] at named
      injection made with same
      exact ⟨chosen, named.symm, same.symm⟩
    case h_2 => split at made <;> contradiction
  · rintro ⟨chosen, rfl, rfl⟩
    -- The names of the levels differ, so the search finds the level itself.
    cases chosen <;> rfl

/-- A value that makes no group of a file option is a fault. -/
theorem fileGroup_fault {flags : Nat} {option : FileOption} {form : ValueForm} {value : Bytes}
    {complaint : Complaint} (failed : fileGroup flags option form value = .error complaint) :
    complaint.isRequest = false := by
  -- The only thing wrong with such a value is that there is none.
  unfold fileGroup at failed
  split at failed <;> cases failed
  rfl

/-- A value that makes no group of the level option is a fault. -/
theorem levelGroup_fault {separate : Bool} {value : Bytes} {complaint : Complaint}
    (failed : levelGroup separate value = .error complaint) : complaint.isRequest = false := by
  unfold levelGroup at failed
  split at failed
  case h_1 => contradiction
  -- The value is empty, or names no level.
  case h_2 => split at failed <;> cases failed <;> rfl

/-- An option that settles is a group that its tokens spell. -/
theorem settle_spells {pending : Option Pending} {groups : List Group}
    (settled : settle pending = .ok groups) : Spells groups (pendingTokens pending) := by
  cases pending with
  | none =>
    cases settled
    exact Spells.nil
  | some waiting =>
    cases waiting with
    | file flags option value =>
      obtain ⟨group, made, same⟩ := bind_ok.mp settled
      obtain ⟨filled, rfl⟩ := fileGroup_ok.mp made
      cases same
      -- No value at all counts as an empty one, so there is a value here.
      cases value with
      | none => contradiction
      | some path => exact Spells.one filled
    | level value =>
      obtain ⟨group, made, same⟩ := bind_ok.mp settled
      obtain ⟨chosen, named, rfl⟩ := levelGroup_ok.mp made
      cases same
      cases value with
      -- No level is named by nothing.
      | none => cases chosen <;> contradiction
      | some given =>
        obtain rfl : given = Bytes.ofString chosen.name := named
        exact Spells.one (show Group.WellFormed (.level true chosen) from trivial)

/-- An option that does not settle is a fault. -/
theorem settle_fault {pending : Option Pending} {complaint : Complaint}
    (failed : settle pending = .error complaint) : complaint.isRequest = false := by
  -- What is not pending cannot fail to settle.
  cases pending with
  | none => cases failed
  | some waiting =>
    cases waiting with
    | file flags option value =>
      -- Only the value can be wrong, and that is no request.
      rcases bind_error.mp failed with short | ⟨group, _, odd⟩
      · exact fileGroup_fault short
      · cases odd
    | level value =>
      rcases bind_error.mp failed with short | ⟨group, _, odd⟩
      · exact levelGroup_fault short
      · cases odd

/-- Nothing pending settles as no group. -/
theorem settle_none : settle none = pure [] := rfl

/-- How a token is read that no pending option takes: what is pending settles first, unless the token
is a fault that is found before. -/
inductive Reading (token : Bytes) (read : Option Pending → Progress) : Prop where
  /-- A whole group. -/
  | group {group : Group} (formed : group.WellFormed) (whole : group.tokens = [token])
      (reads : ∀ pending,
        read pending = settle pending >>= fun settled => pure (settled ++ [group], none))
  /-- The start of a group, whose value is still to come. -/
  | opening {next : Option Pending} (whole : pendingTokens next = [token])
      (reads : ∀ pending, read pending = settle pending >>= fun settled => pure (settled, next))
  /-- A request. -/
  | request {complaint : Complaint} (asks : Asks token complaint)
      (reads : ∀ pending, read pending = settle pending >>= fun _ => throw complaint)
  /-- A fault, found before or after what is pending settles. -/
  | fault {complaint : Complaint} (fault : complaint.isRequest = false)
      (reads : ∀ pending, read pending = .error complaint ∨
        read pending = settle pending >>= fun _ => throw complaint)

/-- A token that carries its option's value is a whole group if the value is taken, and else a fault. -/
theorem Reading.valued {token : Bytes} {read : Option Pending → Progress}
    {value : Except Complaint Group}
    (taken : ∀ group, value = .ok group → group.WellFormed ∧ group.tokens = [token])
    (refused : ∀ complaint, value = .error complaint → complaint.isRequest = false)
    (reads : ∀ pending, read pending = settle pending >>= fun settled =>
      value >>= fun group => pure (settled ++ [group], none)) : Reading token read := by
  -- The value is judged once what is pending has settled.
  cases value with
  | error complaint => exact .fault (refused complaint rfl) fun pending => .inr (reads pending)
  | ok group => exact .group (taken group rfl).1 (taken group rfl).2 reads

/-- The letters of a token that has any are read as what the token spells. -/
theorem stepLetters_reading {flags : Nat} {letters : Bytes} (held : flags ≠ 0 ∨ letters ≠ []) :
    Reading (cluster flags ++ letters) fun pending => stepLetters pending flags letters := by
  -- The cases are those of the scan: the first letter that is no flag, and what follows it.
  cases letters with
  | nil =>
    -- Without other letters there is a flag, so the group has a first one.
    have more : flags - 1 + 1 = flags := by
      rcases held with held | held
      · omega
      · contradiction
    refine .group (show Group.WellFormed (.verbose (flags - 1)) from trivial) ?_ fun _ => rfl
    simp [Group.tokens, more]
  | cons letter rest =>
    cases found : FileOption.ofLetter? letter with
    | some option =>
      obtain rfl := FileOption.letter_of_ofLetter found
      simp only [stepLetters, found]
      cases rest with
      | nil => exact .opening rfl fun _ => rfl
      | cons first tail =>
        by_cases sign : first = Bytes.ascii '='
        · subst sign
          simp only [beq_self_eq_true, if_true]
          refine .valued ?_ (fun _ failed => fileGroup_fault failed) fun _ => rfl
          intro group made
          obtain ⟨filled, rfl⟩ := fileGroup_ok.mp made
          exact ⟨filled, rfl⟩
        · simp only [beq_eq_false_iff_ne.mpr sign, Bool.false_eq_true, if_false]
          refine .valued ?_ (fun _ failed => fileGroup_fault failed) fun _ => rfl
          intro group made
          obtain ⟨filled, rfl⟩ := fileGroup_ok.mp made
          exact ⟨⟨filled, by simpa using sign⟩, rfl⟩
    | none =>
      simp only [stepLetters, found]
      by_cases help : letter = Bytes.ascii 'h'
      · subst help
        exact .request (.help flags rest) fun _ => rfl
      by_cases version : letter = Bytes.ascii 'V'
      · subst version
        exact .request (.version flags rest) fun _ => rfl
      simp only [beq_eq_false_iff_ne.mpr help, beq_eq_false_iff_ne.mpr version, Bool.false_eq_true,
        if_false]
      -- An unknown letter is found before what is pending settles unless flags stand before it.
      by_cases alone : flags = 0
      · simp only [if_pos alone]
        cases (Utf8.piece letter rest).1 with
        | char c => exact .fault rfl fun _ => .inl rfl
        | broken bytes => exact .fault rfl fun _ => .inl rfl
      · simp only [if_neg alone]
        cases (Utf8.piece letter rest).1 with
        | char c => exact .fault rfl fun _ => .inr rfl
        | broken bytes => exact .fault rfl fun _ => .inr rfl

/-- A long name is read as what its token spells. -/
theorem stepLong_reading {token name : Bytes} {value : Option Bytes}
    (shown : (Shape.long name value).Shows token) :
    Reading token fun pending => stepLong pending name value := by
  -- Only three names are known, and only one of them takes a value.
  unfold stepLong
  by_cases help : name = Bytes.ofString "help"
  · simp only [if_pos help]
    subst help
    cases value with
    | none =>
      cases shown
      exact .request .longHelp fun _ => rfl
    | some given => exact .fault rfl fun _ => .inl rfl
  by_cases version : name = Bytes.ofString "version"
  · simp only [if_neg help, if_pos version]
    subst version
    cases value with
    | none =>
      cases shown
      exact .request .longVersion fun _ => rfl
    | some given => exact .fault rfl fun _ => .inl rfl
  by_cases level : name = Bytes.ofString "log-level"
  · simp only [if_neg help, if_neg version, if_pos level]
    subst level
    cases value with
    | none =>
      cases shown
      exact .opening (show pendingTokens (some (.level none)) = _ from rfl) fun _ => rfl
    | some given =>
      cases shown
      -- The value is behind the equals sign, so the token is a group of its own or a fault.
      refine .valued ?_ (fun _ failed => levelGroup_fault failed) fun _ => rfl
      intro group made
      obtain ⟨chosen, rfl, rfl⟩ := levelGroup_ok.mp made
      exact ⟨trivial, rfl⟩
  · simp only [if_neg help, if_neg version, if_neg level]
    exact .fault rfl fun _ => .inl rfl

/-- The leading flags of a token and its other letters make up the token. -/
theorem cluster_letters (letters : Bytes) :
    cluster (letters.takeWhile (· == Bytes.ascii 'v')).length ++
        letters.dropWhile (· == Bytes.ascii 'v') = Bytes.ascii '-' :: letters := by
  -- The leading flags are all one letter, so that only their number counts.
  have flags : List.replicate (letters.takeWhile (· == Bytes.ascii 'v')).length (Bytes.ascii 'v') =
      letters.takeWhile (· == Bytes.ascii 'v') := by
    symm
    apply List.eq_replicate_of_mem
    intro letter member
    simpa using List.all_eq_true.mp List.all_takeWhile letter member
  rw [cluster, flags, List.cons_append, List.takeWhile_append_dropWhile]

/-- A token that has letters has a flag or another letter. -/
theorem flags_or_letters {letters : Bytes} (filled : letters ≠ []) :
    (letters.takeWhile (· == Bytes.ascii 'v')).length ≠ 0 ∨
      letters.dropWhile (· == Bytes.ascii 'v') ≠ [] := by
  cases letters with
  | nil => contradiction
  | cons first rest => by_cases flag : first = Bytes.ascii 'v' <;> simp [flag]

/-- Whether the next token goes to a pending option that cannot settle without it. -/
def Takes (pending : Option Pending) (token : Bytes) : Prop :=
  ∃ next, step pending token = .ok ([], next) ∧
    pendingTokens next = pendingTokens pending ++ [token] ∧
    ∃ complaint, settle pending = .error complaint

/-- A file option without a value takes any token. -/
theorem takes_file (flags : Nat) (option : FileOption) (token : Bytes) :
    Takes (some (.file flags option none)) token :=
  ⟨_, rfl, rfl, _, rfl⟩

/-- A level option without a value takes a word. -/
theorem takes_level {token : Bytes} (word : Shape.of token = .word) :
    Takes (some (.level none)) token :=
  ⟨some (.level (some token)), by simp only [step, word], rfl, _, rfl⟩

/-- Every token has one reading, by which it is read unless a pending option takes it. -/
theorem step_reading (token : Bytes) :
    ∃ read, Reading token read ∧
      ∀ pending, Takes pending token ∨ step pending token = read pending := by
  -- The shape of the token settles how it is read, and nothing but words ever depends on more.
  have shown := Shape.of_shows token
  cases shape : Shape.of token with
  | long name value =>
    rw [shape] at shown
    refine ⟨_, stepLong_reading shown, fun pending => ?_⟩
    rcases pending with _ | ⟨flags, option, _ | path⟩ | level
    -- A file option without its value takes any token.
    case some.file.none => exact .inl (takes_file flags option token)
    all_goals
      right
      simp only [step, shape]
  | short letters =>
    rw [shape] at shown
    have reading := stepLetters_reading (flags_or_letters shown.2)
    rw [cluster_letters, ← shown.1] at reading
    refine ⟨_, reading, fun pending => ?_⟩
    rcases pending with _ | ⟨flags, option, _ | path⟩ | level
    case some.file.none => exact .inl (takes_file flags option token)
    all_goals
      right
      simp only [step, shape, stepShort]
  | word =>
    refine ⟨fun _ => .error (.unknown (Utf8.lossy token)), .fault rfl fun _ => .inl rfl, ?_⟩
    intro pending
    rcases pending with _ | ⟨flags, option, _ | path⟩ | _ | level
    case some.file.none => exact .inl (takes_file flags option token)
    -- A level option without its value takes words only.
    case some.level.none => exact .inl (takes_level shape)
    all_goals
      right
      simp only [step, shape]

namespace Reading

variable {token : Bytes} {read : Option Pending → Progress}

/-- What is pending and settles goes before what the token adds on its own. -/
theorem settled (reading : Reading token read) {pending : Option Pending} {groups : List Group}
    (done : settle pending = .ok groups) : read pending = (read none).after groups := by
  -- Each reading says how the token goes on from what is pending.
  cases reading with
  | group formed whole reads =>
    rw [reads pending, reads none, done]
    rfl
  | opening whole reads =>
    rw [reads pending, reads none, done]
    simp only [settle_none, pure_bind, Progress.after, List.append_nil]
    rfl
  | request asks reads =>
    rw [reads pending, reads none, done]
    rfl
  | @fault complaint fault reads =>
    -- Found before or after, it is the same fault.
    have same {any : Option Pending} {others : List Group} (settles : settle any = .ok others) :
        read any = .error complaint := by
      rcases reads any with here | here
      · exact here
      · rw [here, settles]
        rfl
    rw [same done, same settle_none]
    rfl

/-- The tokens so far are those of the groups that are complete and of what is pending then. -/
theorem spells (reading : Reading token read) {pending next : Option Pending}
    {groups : List Group} (taken : read pending = .ok (groups, next)) :
    ∃ before, Spells groups before ∧
      pendingTokens pending ++ [token] = before ++ pendingTokens next := by
  cases reading with
  | group formed whole reads =>
    -- What was pending is settled first, and the token is a group of its own.
    rw [reads pending] at taken
    obtain ⟨settled, done, same⟩ := bind_ok.mp taken
    cases same
    exact ⟨_, (settle_spells done).append (Spells.one formed), by simp [whole, pendingTokens]⟩
  | opening whole reads =>
    rw [reads pending] at taken
    obtain ⟨settled, done, same⟩ := bind_ok.mp taken
    cases same
    exact ⟨_, settle_spells done, by rw [whole]⟩
  | request asks reads =>
    rw [reads pending] at taken
    obtain ⟨settled, done, odd⟩ := bind_ok.mp taken
    cases odd
  | fault fault reads =>
    -- A fault is never taken, whether it is the token's or that of what was pending.
    rcases reads pending with here | here <;> rw [here] at taken
    · cases taken
    · obtain ⟨settled, done, odd⟩ := bind_ok.mp taken
      cases odd

/-- A request is met only behind an option that settles, and by a token that asks for it. -/
theorem asks (reading : Reading token read) {pending : Option Pending} {complaint : Complaint}
    (request : complaint.isRequest = true) (met : read pending = .error complaint) :
    (∃ settled, settle pending = .ok settled) ∧ Asks token complaint := by
  -- What does not settle is a fault.
  have sound : settle pending ≠ .error complaint := by
    intro failed
    simp [settle_fault failed] at request
  cases reading with
  | group formed whole reads =>
    rw [reads pending] at met
    rcases bind_error.mp met with failed | ⟨settled, done, odd⟩
    · exact absurd failed sound
    · cases odd
  | opening whole reads =>
    rw [reads pending] at met
    rcases bind_error.mp met with failed | ⟨settled, done, odd⟩
    · exact absurd failed sound
    · cases odd
  | request asks reads =>
    rw [reads pending] at met
    rcases bind_error.mp met with failed | ⟨settled, done, same⟩
    · exact absurd failed sound
    · cases same
      exact ⟨⟨settled, done⟩, asks⟩
  -- A fault is never met as a request, be it the token's or one of settling.
  | fault fault reads =>
    rcases reads pending with here | here <;> rw [here] at met
    · cases met
      simp [fault] at request
    · rcases bind_error.mp met with failed | ⟨settled, done, same⟩
      · exact absurd failed sound
      · cases same
        simp [fault] at request

end Reading

/-- What is pending and settles goes before what a token adds on its own. -/
theorem step_settled {pending : Option Pending} {groups : List Group}
    (done : settle pending = .ok groups) (token : Bytes) :
    step pending token = (step none token).after groups := by
  obtain ⟨read, reading, agrees⟩ := step_reading token
  -- An option that settles takes no token any more, and where nothing is pending there is none to take it.
  rcases agrees pending with ⟨_, _, _, fault, failed⟩ | here
  · rw [done] at failed
    cases failed
  rcases agrees none with ⟨_, _, _, fault, failed⟩ | alone
  · cases failed
  rw [here, alone, reading.settled done]

/-- The tokens so far are those of the groups that are complete and of what is pending then. -/
theorem step_spells {pending next : Option Pending} {token : Bytes} {groups : List Group}
    (taken : step pending token = .ok (groups, next)) :
    ∃ before, Spells groups before ∧
      pendingTokens pending ++ [token] = before ++ pendingTokens next := by
  obtain ⟨read, reading, agrees⟩ := step_reading token
  -- A token that an option takes completes no group.
  rcases agrees pending with ⟨other, took, whole, _⟩ | here
  · rw [took] at taken
    cases taken
    exact ⟨[], Spells.nil, whole.symm⟩
  · rw [here] at taken
    exact reading.spells taken

/-- A request is met only behind an option that settles, and by a token that asks for it. -/
theorem step_asks {pending : Option Pending} {token : Bytes} {complaint : Complaint}
    (request : complaint.isRequest = true) (met : step pending token = .error complaint) :
    (∃ settled, settle pending = .ok settled) ∧ Asks token complaint := by
  obtain ⟨read, reading, agrees⟩ := step_reading token
  -- A token that an option takes asks for nothing.
  rcases agrees pending with ⟨_, took, _⟩ | here
  · rw [took] at met
    cases met
  · rw [here] at met
    exact reading.asks request met

end Umpire.Options
