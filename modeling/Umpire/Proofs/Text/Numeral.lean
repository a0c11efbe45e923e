import Umpire.Text.Numeral

/-! Numerals read back as the numbers they were written for. -/

namespace Umpire.Numeral

/-- The digit of a number below ten has that number as its value. -/
theorem digit?_digitChar {n : Nat} (small : n < 10) : digit? n.digitChar = some n := by
  -- There are ten digits.
  rcases n with _ | _ | _ | _ | _ | _ | _ | _ | _ | _ | n
  all_goals first | rfl | omega

/-- Digits are read from the left: those of a first part, and then the others after their value. -/
theorem readDigits_append (limit : Nat) (beyond : Fault) (value : Nat) (first rest : List Char) :
    readDigits limit beyond value (first ++ rest) =
      (readDigits limit beyond value first).bind fun read => readDigits limit beyond read rest := by
  -- A character that is no digit, or a value beyond the bound, ends both readings alike.
  induction first generalizing value with
  | nil => rfl
  | cons c others ih =>
    simp only [List.cons_append, readDigits]
    cases digit? c with
    | none => rfl
    | some d =>
      dsimp only
      split
      · exact ih _
      · rfl

/-- The digits of a number within the bound are read as that number. -/
theorem readDigits_ofNat {limit n : Nat} (beyond : Fault) (within : n ≤ limit) :
    readDigits limit beyond 0 (ofNat n) = .ok n := by
  -- The induction takes the last digit off.
  induction n using Nat.strongRecOn with
  | ind n ih =>
    rw [ofNat, Nat.toDigits_eq_if (by decide)]
    split
    · rename_i small
      simp only [readDigits, digit?_digitChar small, Nat.zero_mul, Nat.zero_add, if_pos within]
    · have front := ih (n / 10) (by omega) (by omega)
      have whole : n / 10 * 10 + n % 10 = n := by omega
      rw [ofNat] at front
      rw [readDigits_append, front]
      simp only [Except.bind, readDigits, digit?_digitChar (Nat.mod_lt n (by decide : 0 < 10)), whole, if_pos within]

/-- The characters of a numeral, digits and a sign, lie close together. -/
theorem toNat_of_mem_ofInt {value : Int} {c : Char} (listed : c ∈ ofInt value) : 45 ≤ c.toNat ∧ c.toNat ≤ 57 := by
  have digits {n : Nat} (listed : c ∈ ofNat n) : 45 ≤ c.toNat ∧ c.toNat ≤ 57 := by
    have isDigit : c.isDigit = true := Nat.isDigit_of_mem_toDigits (by decide) (by decide) listed
    -- Digits are the ten characters from 48 on, and the sign stands at 45.
    have bounds : 48 ≤ c.toNat ∧ c.toNat ≤ 57 := by
      simpa [Char.isDigit, UInt32.le_iff_toNat_le] using isDigit
    omega
  cases value with
  | ofNat n => exact digits listed
  | negSucc n =>
    rcases List.mem_cons.mp listed with rfl | listed
    · decide
    · exact digits listed

/-- A numeral has at least one digit. -/
theorem ofInt_ne_nil (value : Int) : ofInt value ≠ [] := by
  -- Below zero there is the sign at least.
  cases value with
  | ofNat n => exact Nat.toDigits_ne_nil
  | negSucc n => exact List.cons_ne_nil _ _

/-- The numeral of a number is the text that the number is shown as. -/
theorem ofInt_eq (value : Int) : ofInt value = (toString value).toList := by
  -- A number below zero is shown as a minus sign and the digits of what it is short of zero.
  cases value with
  | ofNat n =>
    show Nat.toDigits 10 n = (String.ofList (Nat.toDigits 10 n)).toList
    rw [String.toList_ofList]
  | negSucc n =>
    show '-' :: Nat.toDigits 10 (n + 1) = ("-" ++ String.ofList (Nat.toDigits 10 (n + 1))).toList
    simp only [String.toList_append, String.toList_ofList]
    rfl

/-- A numeral starts with a digit. -/
theorem ofNat_eq_cons (n : Nat) : ∃ first rest, ofNat n = first :: rest ∧ first.isDigit = true := by
  -- Even zero has a digit.
  cases digits : ofNat n with
  | nil => exact absurd digits Nat.toDigits_ne_nil
  | cons first rest =>
    have member : first ∈ ofNat n := by
      rw [digits]
      exact List.mem_cons_self
    exact ⟨first, rest, rfl, Nat.isDigit_of_mem_toDigits (by decide) (by decide) member⟩

/-- A number within the bound is read back. -/
theorem readNat_ofNat {limit n : Nat} (within : n ≤ limit) : readNat limit (ofNat n) = .ok n := by
  have read := readDigits_ofNat .tooLarge within
  obtain ⟨first, rest, digits, isDigit⟩ := ofNat_eq_cons n
  rw [digits] at read ⊢
  -- A plus sign is no digit.
  have unsigned : first ≠ '+' := by
    rintro rfl
    cases isDigit
  -- The first character is a digit, so it is read neither as a sign nor as the end.
  unfold readNat
  split
  · rename_i none
    cases none
  · rename_i sign
    exact absurd (List.cons.inj sign).1 unsigned
  · rename_i sign
    exact absurd (List.cons.inj sign).1 unsigned
  · exact read

/-- A number of a byte is read back. -/
theorem readByte_ofNat (byte : UInt8) : readByte (ofNat byte.toNat) = .ok byte := by
  -- The bound is the largest byte.
  have within : byte.toNat ≤ 255 := Nat.le_of_lt_succ byte.toNat_lt
  rw [readByte, readNat_ofNat within]
  exact congrArg Except.ok UInt8.ofNat_toNat

/-- A signed number of 32 bits is read back. -/
theorem readInt32_ofInt (value : Int32) : readInt32 (ofInt value.toInt) = .ok value := by
  -- Only the bounds of such a number matter, and that it is found again from its value.
  have above := value.toInt_lt
  have below := value.le_toInt
  have back := Int32.ofInt_toInt value
  generalize value.toInt = number at above below back
  cases number with
  | ofNat n =>
    -- Without a sign, digits go up to the largest number.
    have within : n ≤ 2147483647 := by
      have := Int.ofNat_eq_natCast n
      omega
    have read := readDigits_ofNat .tooLarge within
    obtain ⟨first, rest, digits, isDigit⟩ := ofNat_eq_cons n
    rw [ofInt]
    rw [digits] at read ⊢
    have plain : first ≠ '+' ∧ first ≠ '-' := by
      constructor <;> (rintro rfl; cases isDigit)
    unfold readInt32
    split <;> rename_i sign
    · cases sign
    · exact absurd (List.cons.inj sign).1 plain.1
    · exact absurd (List.cons.inj sign).1 plain.2
    · exact absurd (List.cons.inj sign).1 plain.1
    · exact absurd (List.cons.inj sign).1 plain.2
    · rw [read]
      exact congrArg Except.ok back
  | negSucc n =>
    -- Behind a minus they go one further, as there is one more number below zero.
    have within : n + 1 ≤ 2147483648 := by omega
    have read := readDigits_ofNat .tooSmall within
    obtain ⟨first, rest, digits, -⟩ := ofNat_eq_cons (n + 1)
    rw [ofInt]
    rw [digits] at read ⊢
    simp only [readInt32]
    rw [read]
    exact congrArg Except.ok back

end Umpire.Numeral
