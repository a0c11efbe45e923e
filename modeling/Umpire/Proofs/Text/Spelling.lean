import Umpire.Proofs.Text.Numeral

/-! Spelling: which texts are numerals, and that reading accepts these and no others. -/

namespace Umpire.Numeral

variable {chars : List Char} {limit n : Nat} {value : Int}

/-- Decimal digits, at least one, and the number that they stand for; leading zeros do not count. -/
structure Digits (chars : List Char) (n : Nat) : Prop where
  nonempty : chars ≠ []
  digits : ∀ c ∈ chars, c.isDigit = true
  value : Nat.ofDigitChars 10 chars 0 = n

/-- A natural number is spelled in digits, behind a plus sign or behind none. -/
inductive SpellsNat : List Char → Nat → Prop where
  | plain {chars : List Char} {n : Nat} (digits : Digits chars n) : SpellsNat chars n
  | plus {chars : List Char} {n : Nat} (digits : Digits chars n) : SpellsNat ('+' :: chars) n

/-- An integer is spelled as a natural number is, or in digits behind a minus sign. -/
inductive SpellsInt : List Char → Int → Prop where
  | natural {chars : List Char} {n : Nat} (spells : SpellsNat chars n) : SpellsInt chars n
  | minus {chars : List Char} {n : Nat} (digits : Digits chars n) : SpellsInt ('-' :: chars) (-n)

/-- The digits that have a value are those of ASCII. -/
theorem digit?_eq_some_iff {c : Char} {d : Nat} :
    digit? c = some d ↔ c.isDigit = true ∧ c.toNat - '0'.toNat = d := by
  have same : ('0' ≤ c ∧ c ≤ '9') ↔ c.isDigit = true := by
    rw [Char.isDigit_iff_toNat]
    exact Iff.rfl
  rw [digit?, ← same]
  split <;> rename_i isDigit <;> simp [isDigit]

/-- Further digits make a number no smaller. -/
theorem le_ofDigitChars (chars : List Char) (start : Nat) : start ≤ Nat.ofDigitChars 10 chars start := by
  -- Each digit multiplies by ten and adds something.
  induction chars generalizing start with
  | nil => exact Nat.le_refl start
  | cons c rest ih =>
    have more := ih (10 * start + (c.toNat - '0'.toNat))
    rw [Nat.ofDigitChars_cons]
    omega

/-- Digits are read as their number if they are digits throughout and the number is within the bound. -/
theorem readDigits_eq_ok_iff {beyond : Fault} {start : Nat} (within : start ≤ limit) :
    readDigits limit beyond start chars = .ok n ↔
      (∀ c ∈ chars, c.isDigit = true) ∧ Nat.ofDigitChars 10 chars start = n ∧ n ≤ limit := by
  induction chars generalizing start with
  | nil =>
    rw [readDigits, Nat.ofDigitChars_nil]
    constructor
    · rintro ⟨⟩
      exact ⟨List.forall_mem_nil _, rfl, within⟩
    · rintro ⟨-, rfl, -⟩
      rfl
  | cons c rest ih =>
    rw [readDigits, Nat.ofDigitChars_cons, List.forall_mem_cons]
    cases value : digit? c with
    | none =>
      -- A character that is no digit is no part of any number.
      have stray : c.isDigit ≠ true := fun isDigit => by
        rw [digit?_eq_some_iff.mpr ⟨isDigit, rfl⟩] at value
        cases value
      simp [stray]
    | some d =>
      obtain ⟨isDigit, rfl⟩ := digit?_eq_some_iff.mp value
      have shifted : start * 10 + (c.toNat - '0'.toNat) = 10 * start + (c.toNat - '0'.toNat) := by omega
      dsimp only
      rw [shifted]
      split
      · rename_i still
        rw [ih still]
        simp only [isDigit, true_and]
      · -- Once the number is beyond the bound, no further digit brings it back.
        have more := le_ofDigitChars rest (10 * start + (c.toNat - '0'.toNat))
        constructor
        · intro refused
          cases refused
        · rintro ⟨-, same, le⟩
          omega

/-- Digits alone are read from nothing. -/
theorem readDigits_zero_iff {beyond : Fault} (nonempty : chars ≠ []) :
    readDigits limit beyond 0 chars = .ok n ↔ Digits chars n ∧ n ≤ limit := by
  -- Read from nothing, the value is that of the digits alone.
  rw [readDigits_eq_ok_iff (Nat.zero_le limit)]
  constructor
  · rintro ⟨digits, value, le⟩
    exact ⟨⟨nonempty, digits, value⟩, le⟩
  · rintro ⟨⟨-, digits, value⟩, le⟩
    exact ⟨digits, value, le⟩

/-- A sign is no digit. -/
theorem Digits.head_ne {c : Char} {rest : List Char} (digits : Digits (c :: rest) n) : c ≠ '+' ∧ c ≠ '-' := by
  have isDigit := digits.digits c List.mem_cons_self
  constructor <;> (rintro rfl; cases isDigit)

/-- What is read as a natural number up to a bound is what spells one. -/
theorem readNat_eq_ok_iff : readNat limit chars = .ok n ↔ SpellsNat chars n ∧ n ≤ limit := by
  -- The reader tells apart what the text starts with.
  unfold readNat
  split
  · constructor
    · nofun
    · rintro ⟨⟨⟨nonempty, -⟩⟩, -⟩
      exact absurd rfl nonempty
  · constructor
    · nofun
    · rintro ⟨digits | digits, -⟩
      · exact absurd rfl digits.head_ne.1
      · exact absurd rfl digits.nonempty
  · -- Behind a plus sign the digits are read, which have to be there.
    rename_i rest more
    rw [readDigits_zero_iff more]
    constructor
    · rintro ⟨digits, le⟩
      exact ⟨.plus digits, le⟩
    · rintro ⟨digits | digits, le⟩
      · exact absurd rfl digits.head_ne.1
      · exact ⟨digits, le⟩
  · rename_i nonempty _ unsigned
    rw [readDigits_zero_iff nonempty]
    constructor
    · rintro ⟨digits, le⟩
      exact ⟨.plain digits, le⟩
    · rintro ⟨digits | digits, le⟩
      · exact ⟨digits, le⟩
      · exact absurd rfl (unsigned _)

/-- What is read as a number of a byte is what spells one. -/
theorem readByte_eq_ok_iff {byte : UInt8} : readByte chars = .ok byte ↔ SpellsNat chars byte.toNat := by
  have within : byte.toNat ≤ 255 := Nat.le_of_lt_succ byte.toNat_lt
  rw [readByte]
  constructor
  · intro read
    cases found : readNat 255 chars with
    | error fault =>
      rw [found] at read
      cases read
    | ok number =>
      rw [found] at read
      cases read
      obtain ⟨spells, le⟩ := readNat_eq_ok_iff.mp found
      -- A number of at most 255 is that of a byte.
      have same : (UInt8.ofNat number).toNat = number := UInt8.toNat_ofNat_of_lt (by show number < 256; omega)
      rw [same]
      exact spells
  · intro spells
    -- Whatever a byte's spelling is, its number is within the bound.
    have read : readNat 255 chars = .ok byte.toNat := readNat_eq_ok_iff.mpr ⟨spells, within⟩
    rw [read]
    exact congrArg Except.ok UInt8.ofNat_toNat

/-- Digits that are read and then turned into a number of 32 bits. -/
theorem map_readDigits_eq_ok_iff {beyond : Fault} {turn : Nat → Int32} {sign : Nat → Int} {number : Int32}
    (nonempty : chars ≠ []) (turned : ∀ n ≤ limit, (turn n).toInt = sign n)
    (all : ∀ n, sign n = number.toInt → n ≤ limit) :
    (readDigits limit beyond 0 chars).map turn = .ok number ↔ ∃ n, Digits chars n ∧ sign n = number.toInt := by
  constructor
  · intro read
    -- If a number comes out, digits were read that stand for it.
    cases found : readDigits limit beyond 0 chars with
    | error fault =>
      rw [found] at read
      cases read
    | ok n =>
      rw [found] at read
      cases read
      obtain ⟨digits, le⟩ := (readDigits_zero_iff nonempty).mp found
      exact ⟨n, digits, (turned n le).symm⟩
  · rintro ⟨n, digits, same⟩
    -- A value that has its number of 32 bits is within the limit.
    have le := all n same
    rw [(readDigits_zero_iff nonempty).mpr ⟨digits, le⟩]
    exact congrArg Except.ok (Int32.toInt_inj.mp ((turned n le).trans same))

/-- Digits up to the greatest number of 32 bits, without a minus sign. -/
theorem readDigits_natural_iff {number : Int32} (nonempty : chars ≠ []) :
    (readDigits 2147483647 .tooLarge 0 chars).map Int32.ofNat = .ok number ↔
      ∃ n : Nat, Digits chars n ∧ (n : Int) = number.toInt := by
  have above := number.toInt_lt
  -- Up to the greatest number nothing overflows, and no number of 32 bits is beyond it.
  refine map_readDigits_eq_ok_iff nonempty (fun n le => ?_) fun n same => by omega
  exact Int32.toInt_ofNat_of_lt (by omega)

/-- Behind a plus sign there are digits. -/
theorem spellsInt_plus_iff : SpellsInt ('+' :: chars) value ↔ ∃ n : Nat, Digits chars n ∧ (n : Int) = value := by
  constructor
  · -- A sign is no digit, so the plus is the numeral's own.
    rintro ⟨digits | digits⟩
    · exact absurd rfl digits.head_ne.1
    · exact ⟨_, digits, rfl⟩
  · rintro ⟨n, digits, rfl⟩
    exact .natural (.plus digits)

/-- Behind a minus sign there are digits. -/
theorem spellsInt_minus_iff : SpellsInt ('-' :: chars) value ↔ ∃ n : Nat, Digits chars n ∧ -(n : Int) = value := by
  constructor
  · -- A sign is no digit, so the minus is the numeral's own.
    rintro (spells | digits)
    · cases spells with
      | plain digits => exact absurd rfl digits.head_ne.2
    · exact ⟨_, digits, rfl⟩
  · rintro ⟨n, digits, rfl⟩
    exact .minus digits

/-- Without a sign there are digits only. -/
theorem spellsInt_plain_iff (unsigned : ∀ rest, chars ≠ '+' :: rest ∧ chars ≠ '-' :: rest) :
    SpellsInt chars value ↔ ∃ n : Nat, Digits chars n ∧ (n : Int) = value := by
  constructor
  · -- A numeral with a sign would start with it.
    rintro (⟨digits | digits⟩ | digits)
    · exact ⟨_, digits, rfl⟩
    · exact absurd rfl (unsigned _).1
    · exact absurd rfl (unsigned _).2
  · rintro ⟨n, digits, rfl⟩
    exact .natural (.plain digits)

/-- What is read as a signed number of 32 bits is what spells one. -/
theorem readInt32_eq_ok_iff {number : Int32} : readInt32 chars = .ok number ↔ SpellsInt chars number.toInt := by
  have nothing {value : Nat → Int} : ¬ ∃ n : Nat, Digits [] n ∧ value n = number.toInt :=
    fun ⟨_, digits, _⟩ => digits.nonempty rfl
  have unsigned (rest : List Char) : [] ≠ '+' :: rest ∧ [] ≠ '-' :: rest := ⟨nofun, nofun⟩
  unfold readInt32
  split
  · -- An empty text and a lone sign have no digits.
    rw [spellsInt_plain_iff unsigned]
    exact ⟨nofun, fun spells => absurd spells nothing⟩
  · rw [spellsInt_plus_iff]
    exact ⟨nofun, fun spells => absurd spells nothing⟩
  · rw [spellsInt_minus_iff]
    exact ⟨nofun, fun spells => absurd spells nothing⟩
  · rename_i rest more
    rw [spellsInt_plus_iff]
    exact readDigits_natural_iff more
  · rename_i rest more
    rw [spellsInt_minus_iff]
    -- The least number of 32 bits is one further from zero than the greatest.
    have turned (n : Nat) (le : n ≤ 2147483648) : (Int32.ofInt (-n)).toInt = -n :=
      Int32.toInt_ofInt_of_le (by omega) (by omega)
    have within (n : Nat) (same : -(n : Int) = number.toInt) : n ≤ 2147483648 := by
      have below := number.le_toInt
      omega
    -- It makes no difference that the digits' number is an integer before it is turned.
    have merged (read : Except Fault Nat) : Except.map (fun n : Int => Int32.ofInt (-n)) (do
        let n ← read
        pure (n : Int)) = read.map fun n : Nat => Int32.ofInt (-(n : Int)) := by
      cases read <;> rfl
    rw [merged]
    exact map_readDigits_eq_ok_iff more turned within
  · rename_i nonempty _ _ unsigned unsigned'
    rw [spellsInt_plain_iff fun rest => ⟨unsigned rest, unsigned' rest⟩]
    exact readDigits_natural_iff nonempty

end Umpire.Numeral
