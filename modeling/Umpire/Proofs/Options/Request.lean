import Umpire.Proofs.CommandLine

/-! Requests on a command line that never ends its options: one is honoured if whole groups stand before it, and hidden
by whatever fault stands before it. -/

namespace Umpire.Options

/-- A file option that takes the next token as its value stands at the end, behind whole groups. -/
def Waits (tokens : List Bytes) : Prop :=
  ∃ groups before flags option, Spells groups before ∧
    tokens = before ++ [cluster flags ++ [Bytes.ascii (FileOption.letter option)]]

/-- A file option at the end waits whatever groups stand before. -/
theorem Waits.after {groups : List Group} {before tokens : List Bytes}
    (spelled : Spells groups before) (waits : Waits tokens) : Waits (before ++ tokens) := by
  obtain ⟨others, between, flags, option, spells, rfl⟩ := waits
  exact ⟨groups ++ others, before ++ between, flags, option, spelled.append spells,
    (List.append_assoc _ _ _).symm⟩

/-- What waits at the end is a file option with nothing behind its letter. -/
theorem Waits.last (tokens : List Bytes) {token : Bytes} (waits : Waits (tokens ++ [token])) :
    ∃ flags option, token = cluster flags ++ [Bytes.ascii (FileOption.letter option)] := by
  obtain ⟨groups, before, flags, option, -, same⟩ := waits
  -- Both lists end in one token.
  obtain ⟨-, last⟩ := List.append_inj' same rfl
  exact ⟨flags, option, List.head_eq_of_cons_eq last⟩

/-- A request stays one whatever follows it. -/
theorem Requests.append {tokens : List Bytes} {complaint : Complaint}
    (asked : Requests tokens complaint) (after : List Bytes) :
    Requests (tokens ++ after) complaint := by
  obtain ⟨groups, before, token, rest, spelled, asks, rfl⟩ := asked
  exact ⟨groups, before, token, rest ++ after, spelled, asks, by simp⟩

/-- A token asks for one text only. -/
theorem Asks.unique {token : Bytes} {first second : Complaint} (asks : Asks token first)
    (also : Asks token second) : first = second :=
  Except.error.inj ((step_asking asks).symm.trans (step_asking also))

/-- A token that asks for a text starts no group. -/
theorem Asks.not_spelled {token : Bytes} {complaint : Complaint} (asks : Asks token complaint)
    {groups : List Group} {rest : List Bytes} (spelled : Spells groups (token :: rest)) : False := by
  -- The scan would both take the tokens and end in the request.
  have taken := scan_ok_iff.mpr spelled
  have met : scan (token :: rest) = .error complaint := scanFrom_fault (step_asking asks) rest
  rw [taken] at met
  cases met

/-- The name of a level asks for nothing. -/
theorem Asks.ne_level {token : Bytes} {complaint : Complaint} (asks : Asks token complaint)
    (level : Level) : token ≠ Bytes.ofString level.name := by
  -- What asks starts with a hyphen, and no level's name does.
  have hyphen : token.head? = some (Bytes.ascii '-') := by cases asks <;> rfl
  rintro rfl
  cases level <;> exact absurd hyphen (by decide)

/-- Within the tokens of one group a token that asks for a text can only be the value of a file option. -/
theorem waits_of_group {group : Group} (formed : group.WellFormed) {token : Bytes}
    {complaint : Complaint} (asks : Asks token complaint) {before after : List Bytes}
    (within : group.tokens = before ++ token :: after) : Waits before := by
  -- It is not the first token, so the group is of one of the two kinds that have a second.
  cases before with
  | nil =>
    have spelled := Spells.one formed
    rw [within, List.nil_append] at spelled
    exact (asks.not_spelled spelled).elim
  | cons first between =>
    cases group with
    | verbose more => simp [Group.tokens] at within
    | file flags option form value =>
      cases form with
      | separate =>
        obtain ⟨rfl, rfl, -⟩ : first = cluster flags ++ [Bytes.ascii option.letter] ∧ between = [] ∧
            value = token := by
          cases between <;> simp_all [Group.tokens]
        exact ⟨[], [], flags, option, Spells.nil, rfl⟩
      | _ => simp [Group.tokens] at within
    -- The second token of a level's group names a level, and asks for no text.
    | level separate chosen =>
      cases separate with
      | false => simp [Group.tokens] at within
      | true =>
        have named : token = Bytes.ofString chosen.name := by
          cases between <;> simp_all [Group.tokens]
        exact absurd named (asks.ne_level chosen)

/-- Among tokens that groups spell, one that asks for a text can only be the value of a file option. -/
theorem waits_of_spells {token : Bytes} {complaint : Complaint} (asks : Asks token complaint)
    {groups : List Group} {before after : List Bytes}
    (spelled : Spells groups (before ++ token :: after)) : Waits before := by
  -- Group by group: the token stands behind the first group, or is one of that group's own.
  induction groups generalizing before with
  | nil => simp [Spells] at spelled
  | cons group rest ih =>
    obtain ⟨formed, whole⟩ := spelled
    have here := formed group List.mem_cons_self
    have later : ∀ other ∈ rest, other.WellFormed := fun other member =>
      formed other (List.mem_cons_of_mem group member)
    rw [List.flatMap_cons] at whole
    rcases List.append_eq_append_iff.mp whole with ⟨between, within, behind⟩ | ⟨between, rfl, behind⟩
    · cases between with
      | nil =>
        -- The group ends where the token stands, which would then start the rest.
        exact (asks.not_spelled ⟨later, behind⟩).elim
      | cons first others =>
        obtain ⟨rfl, -⟩ := List.cons.inj behind
        exact waits_of_group here asks within
    · exact (ih ⟨later, behind.symm⟩).after (Spells.one here)

/-- Around a token that asks for a text and is no file option's value, the list asks for what the tokens
before it ask for, or for that text if those are whole groups. -/
theorem requests_around {token : Bytes} {complaint : Complaint} (asks : Asks token complaint)
    {before : List Bytes} (free : ¬ Waits before) {after : List Bytes} {request : Complaint} :
    Requests (before ++ token :: after) request ↔
      Requests before request ∨ request = complaint ∧ ∃ groups, Spells groups before := by
  constructor
  · rintro ⟨groups, front, asking, rest, spelled, also, whole⟩
    -- The token that is honoured stands before this one, is this one, or stands behind it.
    rcases List.append_eq_append_iff.mp whole with ⟨between, rfl, behind⟩ | ⟨between, rfl, behind⟩
    · cases between with
      | nil =>
        obtain ⟨rfl, -⟩ := List.cons.inj behind
        rw [List.append_nil] at spelled
        exact .inr ⟨also.unique asks, groups, spelled⟩
      | cons first others =>
        obtain ⟨rfl, -⟩ := List.cons.inj behind
        exact absurd (waits_of_spells asks spelled) free
    · cases between with
      | nil =>
        obtain ⟨rfl, -⟩ := List.cons.inj behind
        exact .inr ⟨also.unique asks, groups, by rwa [List.append_nil]⟩
      | cons first others =>
        obtain ⟨rfl, -⟩ := List.cons.inj behind
        exact .inl ⟨groups, front, asking, others, spelled, also, rfl⟩
  · -- Whatever comes behind a request changes nothing about it.
    rintro (asked | ⟨rfl, groups, spelled⟩)
    · exact asked.append _
    · exact ⟨groups, before, token, after, spelled, asks, rfl⟩

/-- Words make one request at most, and it is one. -/
theorem Requests.unique {tokens : List Bytes} {first second : Complaint}
    (asked : Requests tokens first) (also : Requests tokens second) : first = second := by
  -- A request is what the scan comes to, and that is one thing.
  have one := (scan_request_iff.mpr asked).2
  have other := (scan_request_iff.mpr also).2
  exact Except.error.inj (one.symm.trans other)

end Umpire.Options

namespace Umpire.CommandLine

open Options

variable {words : List Bytes} (unended : optionsEnd ∉ words)

include unended

/-- Without an end of the options the request that the words make is honoured. -/
theorem parse_of_requests {request : Complaint} (asked : Requests words request) (name : Bytes) :
    parse (name :: words) = .error (.usage request) := by
  obtain ⟨shown, met⟩ := scan_request_iff.mpr asked
  simp [parse_unmarked unended, met, shown]

/-- Without an end of the options and without a request that end is missed. -/
theorem parse_of_no_request (none_asked : ∀ request, ¬ Requests words request) (name : Bytes) :
    parse (name :: words) = .error .missingSolutionDelimiter := by
  rw [parse_unmarked unended]
  cases read : scan words with
  | ok groups => rfl
  | error complaint =>
    -- A complaint that were a request would be one of the words.
    cases shown : complaint.isRequest with
    | false => simp [shown]
    | true => exact absurd (scan_request_iff.mp ⟨shown, read⟩) (none_asked complaint)

omit unended

/-- On a command line that never ends its options, let a token ask for a text and be no file option's
value. The outcome is a request exactly if the tokens before that one are whole groups, and then it is
for that text whatever follows, or if they make a request themselves. Behind any other tokens the
request is lost, and the outcome is that the end of the options is missing. -/
theorem request_lost_behind_fault {token : Bytes} {complaint : Complaint} (asks : Asks token complaint)
    {before : List Bytes} (free : ¬ Waits before) (after : List Bytes)
    (unended : optionsEnd ∉ before ++ token :: after) (name : Bytes) :
    ∃ fault, parse (name :: (before ++ token :: after)) = .error fault ∧
      (fault.isRequest = true ↔
        (∃ groups, Spells groups before) ∨ ∃ request, Requests before request) ∧
      (∀ groups, Spells groups before → fault = .usage complaint) ∧
      (∀ request, Requests before request → fault = .usage request) ∧
      (fault.isRequest = false → fault = .missingSolutionDelimiter) := by
  have around {request : Complaint} :
      Requests (before ++ token :: after) request ↔
        Requests before request ∨ request = complaint ∧ ∃ groups, Spells groups before :=
    requests_around asks free
  -- The whole line makes a request or none, and that settles the outcome.
  by_cases asked : ∃ request, Requests (before ++ token :: after) request
  · obtain ⟨request, asked⟩ := asked
    have shown : request.isRequest = true := (scan_request_iff.mpr asked).1
    refine ⟨.usage request, parse_of_requests unended asked name, ?_, ?_, ?_, ?_⟩
    · -- The request is made before the token, or by it behind whole groups.
      refine iff_of_true shown ?_
      rcases around.mp asked with early | ⟨-, groups⟩
      · exact .inr ⟨request, early⟩
      · exact .inl groups
    · intro groups spelled
      rw [asked.unique (around.mpr (.inr ⟨rfl, groups, spelled⟩))]
    · intro early made
      rw [asked.unique (around.mpr (.inl made))]
    · intro unasked
      cases shown.symm.trans unasked
  · have none_asked (request : Complaint) : ¬ Requests (before ++ token :: after) request :=
      fun made => asked ⟨request, made⟩
    refine ⟨_, parse_of_no_request unended none_asked name, ?_, ?_, ?_, fun _ => rfl⟩
    · refine iff_of_false (by simp [Fault.isRequest]) ?_
      rintro (groups | ⟨request, made⟩)
      · exact none_asked complaint (around.mpr (.inr ⟨rfl, groups⟩))
      · exact none_asked request (around.mpr (.inl made))
    · intro groups spelled
      exact absurd (around.mpr (.inr ⟨rfl, groups, spelled⟩)) (none_asked complaint)
    · intro request made
      exact absurd (around.mpr (.inl made)) (none_asked request)

/-- Behind a flag `-h` is honoured, stray words behind it or not; behind a stray word it is lost, although
no option takes it as its value. -/
theorem request_lost_behind_word :
    let name := Bytes.ofString "pipe"
    let stray := Bytes.ofString "stray"
    let help := Bytes.ofString "-h"
    parse [name, Bytes.ofString "-v", help, stray] = .error (.usage (.help false)) ∧
      parse [name, stray, help] = .error .missingSolutionDelimiter := by
  intro name stray help
  have asks : Asks help (.help false) := .help 0 []
  constructor
  · have free : ¬ Waits [Bytes.ofString "-v"] := by
      intro waits
      obtain ⟨flags, option, same⟩ := Waits.last [] waits
      have letter := congrArg List.getLast? same
      rw [List.getLast?_concat] at letter
      cases option <;> exact absurd letter (by decide)
    have spelled : Spells [.verbose 0] [Bytes.ofString "-v"] := ⟨by decide, rfl⟩
    obtain ⟨fault, read, -, honoured, -, -⟩ :=
      request_lost_behind_fault asks free [stray] (by decide) name
    rw [honoured _ spelled] at read
    exact read
  · have free : ¬ Waits [stray] := by
      intro waits
      obtain ⟨flags, option, same⟩ := Waits.last [] waits
      have hyphen := congrArg List.head? same
      exact absurd hyphen (by simp [cluster]; decide)
    have met : scan [stray] = .error (.unknown (Utf8.lossy stray)) := rfl
    obtain ⟨fault, read, asked, -, -, lost⟩ :=
      request_lost_behind_fault asks free [] (by decide) name
    -- The word is no group and makes no request.
    have unasked : fault.isRequest = false := by
      rw [Bool.eq_false_iff, ne_eq, asked]
      rintro (⟨groups, spelled⟩ | ⟨request, made⟩)
      · rw [scan_ok_iff.mpr spelled] at met
        cases met
      · obtain ⟨shown, also⟩ := scan_request_iff.mpr made
        rw [met] at also
        cases also
        cases shown
    rw [lost unasked] at read
    exact read

end Umpire.CommandLine
