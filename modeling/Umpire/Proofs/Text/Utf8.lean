import Umpire.Text.Utf8

/-! UTF-8 read back: the bytes of a text are cut into its characters, and no other bytes are read as a text. -/

namespace Umpire

namespace Bytes

/-- The form of a text is that of its first character and then that of the others. -/
theorem ofChars_cons (c : Char) (others : List Char) :
    ofChars (c :: others) = String.utf8EncodeChar c ++ ofChars others :=
  List.flatMap_cons

/-- The form of two texts in sequence is that of the first and then that of the second. -/
theorem ofChars_append (first second : List Char) : ofChars (first ++ second) = ofChars first ++ ofChars second :=
  List.flatMap_append

end Bytes

namespace Utf8

section Bounds

variable {first second byte : UInt8}

/-- The bounds of a first byte, by the width that it tells. -/
theorem width_iff : (width first = 1 ↔ first.toNat < 0x80) ∧
    (width first = 2 ↔ 0xC2 ≤ first.toNat ∧ first.toNat ≤ 0xDF) ∧
    (width first = 3 ↔ 0xE0 ≤ first.toNat ∧ first.toNat ≤ 0xEF) ∧
    (width first = 4 ↔ 0xF0 ≤ first.toNat ∧ first.toNat ≤ 0xF4) := by
  -- The bounds are tested from the lowest on, and what no test takes has no width.
  simp only [width, Bool.and_eq_true, decide_eq_true_eq, UInt8.lt_iff_toNat_lt, UInt8.le_iff_toNat_le,
    UInt8.reduceToNat]
  repeat' split
  all_goals omega

/-- The bounds of a byte that follows the first. -/
theorem isTail_iff : isTail byte = true ↔ 0x80 ≤ byte.toNat ∧ byte.toNat ≤ 0xBF := by
  simp [isTail, UInt8.le_iff_toNat_le]

/-- The bounds of a second byte, which four first bytes narrow. -/
theorem isSecond_iff : isSecond first second = true ↔ (0x80 ≤ second.toNat ∧ second.toNat ≤ 0xBF) ∧
    (first.toNat = 0xE0 → 0xA0 ≤ second.toNat) ∧ (first.toNat = 0xED → second.toNat ≤ 0x9F) ∧
    (first.toNat = 0xF0 → 0x90 ≤ second.toNat) ∧ (first.toNat = 0xF4 → second.toNat ≤ 0x8F) := by
  simp only [isSecond, isTail, beq_iff_eq, ← UInt8.toNat_inj, UInt8.reduceToNat]
  -- Four first bytes narrow one of the two bounds, and all others leave both.
  repeat' split
  all_goals
    simp only [Bool.and_eq_true, decide_eq_true_eq, UInt8.le_iff_toNat_le, UInt8.reduceToNat]
    omega

end Bounds

/-- The bytes of a character, the first and those after it, and the number that they give. -/
inductive Spells : UInt8 → Bytes → Nat → Prop where
  | one {a : UInt8} {number : Nat} (lead : a.toNat < 0x80) (value : number = a.toNat) : Spells a [] number
  | two {a b : UInt8} {number : Nat} (lead : 0xC2 ≤ a.toNat ∧ a.toNat ≤ 0xDF) (second : isSecond a b = true)
      (value : number = a.toNat % 32 * 64 + b.toNat % 64) : Spells a [b] number
  | three {a b c : UInt8} {number : Nat} (lead : 0xE0 ≤ a.toNat ∧ a.toNat ≤ 0xEF) (second : isSecond a b = true)
      (third : isTail c = true) (value : number = a.toNat % 16 * 4096 + b.toNat % 64 * 64 + c.toNat % 64) :
      Spells a [b, c] number
  | four {a b c d : UInt8} {number : Nat} (lead : 0xF0 ≤ a.toNat ∧ a.toNat ≤ 0xF4) (second : isSecond a b = true)
      (third : isTail c = true) (fourth : isTail d = true)
      (value : number = a.toNat % 8 * 262144 + b.toNat % 64 * 4096 + c.toNat % 64 * 64 + d.toNat % 64) :
      Spells a [b, c, d] number

section Spelling

variable {first : UInt8} {others rest : Bytes} {number : Nat}

/-- The bytes of a character are read as one piece. -/
theorem piece_spelled (spelled : Spells first others number) (rest : Bytes) :
    piece first (others ++ rest) = (.char (Char.ofNat number), others.length) := by
  -- The first byte tells how many others are read, and each of these passes its check.
  cases spelled with
  | one lead value =>
    have width : width first = 1 := width_iff.1.mpr lead
    simp [piece, width, value]
  | two lead second value =>
    have width : width first = 2 := width_iff.2.1.mpr lead
    simp [piece, width, second, tailBits, value]
  | three lead second third value =>
    have width : width first = 3 := width_iff.2.2.1.mpr lead
    simp [piece, width, second, third, tailBits, value]
  | four lead second third fourth value =>
    have width : width first = 4 := width_iff.2.2.2.mpr lead
    simp [piece, width, second, third, fourth, tailBits, value]

/-- A piece that is a character has the bytes of one. -/
theorem spelled_of_piece {c : Char} {more : Nat} (read : piece first rest = (.char c, more)) :
    ∃ others number behind, Spells first others number ∧ c = Char.ofNat number ∧ rest = others ++ behind ∧
      more = others.length := by
  -- Of the ways through the reader four give a character, one for each width.
  unfold piece at read
  repeat' split at read
  all_goals cases read
  · rename_i width
    exact ⟨_, _, _, .one (width_iff.1.mp width) rfl, rfl, (List.nil_append _).symm, rfl⟩
  · rename_i width second
    exact ⟨_, _, _, .two (width_iff.2.1.mp width) second rfl, rfl, rfl, rfl⟩
  · rename_i width second _ _ _ third
    exact ⟨_, _, _, .three (width_iff.2.2.1.mp width) second third rfl, rfl, rfl, rfl⟩
  · rename_i width second _ _ third _ _ _ fourth
    exact ⟨_, _, _, .four (width_iff.2.2.2.mp width) second third fourth rfl, rfl, rfl, rfl⟩

/-- The number that bytes give is that of a character. -/
theorem Spells.isValidChar (spelled : Spells first others number) : number.isValidChar := by
  -- What narrows a second byte behind 0xED leaves out the surrogates, and what narrows it behind 0xF4 sets the end.
  cases spelled with
  | one lead value => exact .inl (by omega)
  | two lead second value => exact .inl (by omega)
  | three lead second third value =>
    rw [isSecond_iff] at second
    rw [isTail_iff] at third
    rw [Nat.isValidChar]
    omega
  -- The number is beyond the surrogates, so only its upper bound counts.
  | four lead second third fourth value =>
    rw [isSecond_iff] at second
    rw [Nat.isValidChar]
    omega

/-- How a number is written that is that of a character. -/
theorem encode_ofNat (valid : number.isValidChar) : String.utf8EncodeChar (Char.ofNat number) =
    if number ≤ 127 then [UInt8.ofNat number]
    else if number ≤ 2047 then [UInt8.ofNat (number / 64 % 32 + 192), UInt8.ofNat (number % 64 + 128)]
    else if number ≤ 65535 then
      [UInt8.ofNat (number / 4096 % 16 + 224), UInt8.ofNat (number / 64 % 64 + 128), UInt8.ofNat (number % 64 + 128)]
    else
      [UInt8.ofNat (number / 262144 % 8 + 240), UInt8.ofNat (number / 4096 % 64 + 128),
        UInt8.ofNat (number / 64 % 64 + 128), UInt8.ofNat (number % 64 + 128)] := by
  -- The character has the number, since it is one's.
  have value : (Char.ofNat number).val.toNat = number := by
    rw [Char.ofNat, dif_pos valid]
    rfl
  rw [String.utf8EncodeChar, value]

/-- The bytes of a character are how it is written. -/
theorem encode_spelled (spelled : Spells first others number) :
    String.utf8EncodeChar (Char.ofNat number) = first :: others := by
  -- The bounds of the bytes say how large the number is, and so into how many parts it is cut.
  rw [encode_ofNat spelled.isValidChar]
  cases spelled with
  | one lead value =>
    rw [if_pos (by omega), value, UInt8.ofNat_toNat]
  | two lead second value =>
    rw [isSecond_iff] at second
    rw [if_neg (by omega), if_pos (by omega)]
    -- Bytes are the same if their numbers are, and those are sums of bits.
    simp only [List.cons.injEq, and_true, ← UInt8.toNat_inj, UInt8.toNat_ofNat']
    omega
  | three lead second third value =>
    rw [isSecond_iff] at second
    rw [isTail_iff] at third
    rw [if_neg (by omega), if_neg (by omega), if_pos (by omega)]
    simp only [List.cons.injEq, and_true, ← UInt8.toNat_inj, UInt8.toNat_ofNat']
    omega
  | four lead second third fourth value =>
    rw [isSecond_iff] at second
    rw [isTail_iff] at third fourth
    rw [if_neg (by omega), if_neg (by omega), if_neg (by omega)]
    simp only [List.cons.injEq, and_true, ← UInt8.toNat_inj, UInt8.toNat_ofNat']
    omega

/-- The byte behind the first that takes the lowest six bits of a number. -/
def tailByte (number : Nat) : UInt8 :=
  UInt8.ofNat (number % 64 + 0x80)

theorem toNat_tailByte (number : Nat) : (tailByte number).toNat = number % 64 + 0x80 := by
  have small : number % 64 + 0x80 < 256 := by omega
  exact UInt8.toNat_ofNat_of_lt' small

theorem isTail_tailByte (number : Nat) : isTail (tailByte number) = true := by
  rw [isTail_iff, toNat_tailByte]
  omega

/-- Every character has its bytes. -/
theorem exists_spelled (c : Char) : ∃ first others, Spells first others c.toNat := by
  have valid : c.toNat.isValidChar := c.valid
  rw [Nat.isValidChar] at valid
  have lead_eq {n : Nat} (small : n < 256) : (UInt8.ofNat n).toNat = n := UInt8.toNat_ofNat_of_lt' small
  -- Six bits go to each byte behind the first, which has those that are left.
  by_cases one : c.toNat < 0x80
  · exact ⟨_, _, .one (by rwa [lead_eq (by omega)]) (lead_eq (by omega)).symm⟩
  -- The bounds on the number are those on the first and the second byte.
  by_cases two : c.toNat < 0x800
  · have lead := lead_eq (n := c.toNat / 64 + 0xC0) (by omega)
    refine ⟨UInt8.ofNat (c.toNat / 64 + 0xC0), [tailByte c.toNat], .two (by omega) ?_ ?_⟩
    · rw [isSecond_iff, toNat_tailByte, lead]
      omega
    · rw [toNat_tailByte, lead]
      omega
  by_cases three : c.toNat < 0x10000
  · have lead := lead_eq (n := c.toNat / 4096 + 0xE0) (by omega)
    refine ⟨UInt8.ofNat (c.toNat / 4096 + 0xE0), [tailByte (c.toNat / 64), tailByte c.toNat],
      .three (by omega) ?_ (isTail_tailByte _) ?_⟩
    · rw [isSecond_iff, toNat_tailByte, lead]
      omega
    · rw [toNat_tailByte, toNat_tailByte, lead]
      omega
  · have lead := lead_eq (n := c.toNat / 262144 + 0xF0) (by omega)
    refine ⟨UInt8.ofNat (c.toNat / 262144 + 0xF0),
      [tailByte (c.toNat / 4096), tailByte (c.toNat / 64), tailByte c.toNat],
      .four (by omega) ?_ (isTail_tailByte _) (isTail_tailByte _) ?_⟩
    · rw [isSecond_iff, toNat_tailByte, lead]
      omega
    · rw [toNat_tailByte, toNat_tailByte, toNat_tailByte, lead]
      omega

/-- The bytes behind the first are none of ASCII. -/
theorem Spells.beyond_ascii (spelled : Spells first others number) : ∀ byte ∈ others, 0x80 ≤ byte.toNat := by
  have second_tail {a b : UInt8} (second : isSecond a b = true) : 0x80 ≤ b.toNat := (isSecond_iff.mp second).1.1
  have tail {b : UInt8} (isTail : isTail b = true) : 0x80 ≤ b.toNat := (isTail_iff.mp isTail).1
  -- A character of one byte has no others, and those of the rest are continuations.
  cases spelled with
  | one => simp
  | two _ second => simpa using second_tail second
  | three _ second third => simpa using ⟨second_tail second, tail third⟩
  | four _ second third fourth => simpa using ⟨second_tail second, tail third, tail fourth⟩

end Spelling

/-- A character of ASCII is written as the byte of its number. -/
theorem encode_ascii {c : Char} (small : c.toNat < 0x80) : String.utf8EncodeChar c = [UInt8.ofNat c.toNat] :=
  if_pos (Nat.le_of_lt_succ small)

/-- How a character is written. -/
theorem exists_encoded (c : Char) :
    ∃ first others, Spells first others c.toNat ∧ String.utf8EncodeChar c = first :: others := by
  -- The bytes that spell it are the only ones it can be written as.
  obtain ⟨first, others, spelled⟩ := exists_spelled c
  have written := encode_spelled spelled
  rw [Char.ofNat_toNat] at written
  exact ⟨first, others, spelled, written⟩

/-- A written character is the first piece of what starts with it. -/
theorem pieces_encoded (c : Char) (rest : Bytes) :
    pieces (String.utf8EncodeChar c ++ rest) = .char c :: pieces rest := by
  -- The piece says how many bytes it has behind its first, and the next piece starts behind these.
  obtain ⟨first, others, spelled, written⟩ := exists_encoded c
  rw [written, List.cons_append, pieces, piece_spelled spelled, Char.ofNat_toNat]
  simp only [List.drop_left]

/-- A written text is cut into its characters, whatever follows it. -/
theorem pieces_ofChars (chars : List Char) (rest : Bytes) :
    pieces (Bytes.ofChars chars ++ rest) = chars.map .char ++ pieces rest := by
  -- Each written character is the next piece.
  induction chars with
  | nil => rfl
  | cons c others ih =>
    rw [Bytes.ofChars_cons, List.append_assoc, pieces_encoded, ih, List.map_cons, List.cons_append]

/-- No bytes have no pieces. -/
theorem pieces_nil : pieces [] = [] := by
  rw [pieces]

/-- Of two written texts the one starts with the other only if the texts do. -/
theorem ofChars_prefix_iff (front whole : List Char) :
    Bytes.ofChars front <+: Bytes.ofChars whole ↔ front <+: whole := by
  constructor
  · -- The pieces of the one start with the pieces of the other, and no two characters are the same piece.
    rintro ⟨rest, same⟩
    have cut := congrArg pieces same
    rw [← List.append_nil (Bytes.ofChars whole), pieces_ofChars, pieces_ofChars, pieces_nil, List.append_nil] at cut
    have start : front.map Piece.char <+: whole.map Piece.char := ⟨_, cut⟩
    exact (List.prefix_map_iff_of_injective fun a b same => Piece.char.inj same).mp start
  · rintro ⟨rest, rfl⟩
    exact ⟨Bytes.ofChars rest, (Bytes.ofChars_append front rest).symm⟩

/-- Bytes are read as a text if each of their pieces is one of its characters. -/
theorem decode?_eq_some_iff_pieces {bytes : Bytes} {chars : List Char} :
    decode? bytes = some chars ↔ pieces bytes = chars.map .char := by
  rw [decode?]
  -- Piece by piece, as long as each is a character.
  induction pieces bytes generalizing chars with
  | nil => cases chars <;> simp
  | cons piece others ih =>
    cases piece with
    | broken found => cases chars <;> simp
    | char c => cases chars <;> simp [ih, Option.bind_eq_some_iff, and_left_comm]

/-- Bytes of which each piece is a character are how those characters are written. -/
theorem eq_ofChars_of_pieces {bytes : Bytes} {chars : List Char} (cut : pieces bytes = chars.map .char) :
    bytes = Bytes.ofChars chars := by
  -- The induction is on the characters: the first of them is the first piece, which some bytes spell.
  induction chars generalizing bytes with
  | nil =>
    cases bytes with
    | nil => rfl
    | cons first rest =>
      rw [pieces] at cut
      cases cut
  | cons c others ih =>
    cases bytes with
    | nil =>
      rw [pieces] at cut
      cases cut
    | cons first rest =>
      rw [pieces, List.map_cons, List.cons.injEq] at cut
      obtain ⟨head, behind⟩ := cut
      -- Its bytes are put aside, and the other pieces are those of what is behind them.
      obtain ⟨tail, number, back, spelled, rfl, rfl, more⟩ := spelled_of_piece (Prod.ext head rfl)
      rw [show (piece first (tail ++ back)).snd = tail.length from more, List.drop_left] at behind
      rw [ih behind, Bytes.ofChars_cons, encode_spelled spelled, List.cons_append]

/-- What is read as a text is how the text is written. -/
theorem decode?_eq_some_iff {bytes : Bytes} {chars : List Char} :
    decode? bytes = some chars ↔ bytes = Bytes.ofChars chars := by
  rw [decode?_eq_some_iff_pieces]
  constructor
  · exact eq_ofChars_of_pieces
  · rintro rfl
    -- What was written is cut into the same characters again.
    have whole := pieces_ofChars chars []
    rwa [pieces_nil, List.append_nil, List.append_nil] at whole

/-- The bytes that are read as a text are the well-formed ones. -/
theorem isValidUTF8_iff {bytes : Bytes} : bytes.toByteArray.IsValidUTF8 ↔ ∃ chars, decode? bytes = some chars := by
  -- Well-formed is by definition what some characters are written as.
  simp only [decode?_eq_some_iff]
  constructor
  · rintro ⟨chars, same⟩
    exact ⟨chars, List.toByteArray_inj.mp same⟩
  · rintro ⟨chars, rfl⟩
    exact .intro chars rfl

/-- Well-formed bytes have nothing that would be replaced. -/
theorem ofChars_lossy {bytes : Bytes} (valid : bytes.toByteArray.IsValidUTF8) :
    Bytes.ofChars (lossy bytes) = bytes := by
  obtain ⟨chars, read⟩ := isValidUTF8_iff.mp valid
  have cut := decode?_eq_some_iff_pieces.mp read
  -- Each piece is a character, and stands for itself.
  have kept : lossy bytes = chars := by
    rw [lossy, cut, List.map_map]
    exact List.map_id chars
  rw [kept, decode?_eq_some_iff.mp read]

end Utf8

end Umpire
