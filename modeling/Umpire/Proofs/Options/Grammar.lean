import Umpire.Options.Scan

/-! The grammar of option lists, and how the shape of a token tells what it spells. -/

namespace Umpire.Options

/-- The tokens are those of the groups, one group after the other, and every group reads back. -/
def Spells (groups : List Group) (tokens : List Bytes) : Prop :=
  (∀ group ∈ groups, group.WellFormed) ∧ tokens = groups.flatMap Group.tokens

/-- A token that asks for a text: by a letter in flag position or by a long name. -/
inductive Asks : Bytes → Complaint → Prop where
  | help (flags : Nat) (rest : Bytes) :
      Asks (cluster flags ++ Bytes.ascii 'h' :: rest) (.help false)
  | version (flags : Nat) (rest : Bytes) :
      Asks (cluster flags ++ Bytes.ascii 'V' :: rest) .version
  | longHelp : Asks (Bytes.ofString "--help") (.help true)
  | longVersion : Asks (Bytes.ofString "--version") .version

/-- A token list that asks for a text right after whole groups, whatever follows. -/
def Requests (tokens : List Bytes) (complaint : Complaint) : Prop :=
  ∃ groups before token rest,
    Spells groups before ∧ Asks token complaint ∧ tokens = before ++ token :: rest

/-- Asking for a text is no fault. -/
theorem Asks.isRequest {token : Bytes} {complaint : Complaint} (asked : Asks token complaint) :
    complaint.isRequest = true := by
  cases asked <;> rfl

/-- No group spells no token. -/
theorem Spells.nil : Spells [] [] :=
  ⟨by simp, rfl⟩

/-- One well-formed group spells its own tokens. -/
theorem Spells.one {group : Group} (formed : group.WellFormed) : Spells [group] group.tokens :=
  ⟨by simpa using formed, by simp⟩

/-- Groups after groups spell tokens after tokens. -/
theorem Spells.append {first second : List Group} {before after : List Bytes}
    (left : Spells first before) (right : Spells second after) :
    Spells (first ++ second) (before ++ after) := by
  refine ⟨?_, by rw [left.2, right.2, List.flatMap_append]⟩
  intro group member
  -- A group is one of the first or of the second.
  rcases List.mem_append.mp member with early | late
  · exact left.1 group early
  · exact right.1 group late

/-- A request stays one behind whole groups. -/
theorem Requests.after {groups : List Group} {before tokens : List Bytes} {complaint : Complaint}
    (spelled : Spells groups before) (asked : Requests tokens complaint) :
    Requests (before ++ tokens) complaint := by
  obtain ⟨later, between, token, rest, correct, asks, rfl⟩ := asked
  -- More groups before it are whole groups all the same.
  exact ⟨groups ++ later, before ++ between, token, rest, spelled.append correct, asks, by simp⟩

/-- What a shape says about the token it was read from. -/
def Shape.Shows : Shape → Bytes → Prop
  | .long name none, token => token = Bytes.ascii '-' :: Bytes.ascii '-' :: name
  | .long name (some value), token =>
    token = Bytes.ascii '-' :: Bytes.ascii '-' :: (name ++ Bytes.ascii '=' :: value)
  | .short letters, token => token = Bytes.ascii '-' :: letters ∧ letters ≠ []
  | .word, _ => True

/-- Nothing of a token is lost in its shape, unless it is a word. -/
theorem Shape.of_shows (token : Bytes) : (Shape.of token).Shows token := by
  -- The cases are the paths of the reading: up to two hyphens, then a name up to an equals sign.
  fun_cases Shape.of token with
  | case1 => trivial
  | case2 => trivial
  | case3 => trivial
  | case4 first leading second name other =>
    obtain rfl : first = Bytes.ascii '-' := by simpa using leading
    exact ⟨rfl, by simp⟩
  | case5 first leading second name hyphen bare =>
    obtain rfl : first = Bytes.ascii '-' := by simpa using leading
    obtain rfl : second = Bytes.ascii '-' := by simpa using hyphen
    rfl
  | case6 first leading second name hyphen sign value valued =>
    obtain rfl : first = Bytes.ascii '-' := by simpa using leading
    obtain rfl : second = Bytes.ascii '-' := by simpa using hyphen
    -- The search stops at an equals sign and nowhere else.
    have stop := List.head?_dropWhile_not (· != Bytes.ascii '=') name
    rw [valued] at stop
    obtain rfl : sign = Bytes.ascii '=' := by simpa using stop
    have whole := List.takeWhile_append_dropWhile (p := (· != Bytes.ascii '=')) (l := name)
    rw [valued] at whole
    simp only [Shape.Shows, whole]

end Umpire.Options
