import Mathlib.Algebra.Group.Nat.Defs
import Mathlib.Logic.ExistsUnique
import Umpire.WaitStatus

/-! What shells show of a packed status: the parts of the status, the host's own way to take it apart, and the four
ways to read it, of which every status has exactly one. -/

namespace Umpire.WaitStatus

/-- The low bits choose between exit code, signal and stop signal. -/
theorem shell_eq (status : WaitStatus) :
    status.shell =
      if status.low = 0 then status.high
      else if status.low ≠ 127 then 128 + status.low
      else if status.bits % 256 = 127 then 128 + status.high
      else 0 := by
  -- Each way to end is tried only after the ones before it have been ruled out.
  unfold shell code? signal? stopSignal?
  by_cases ended : status.low = 0
  · simp only [ended, if_true]
  · by_cases stopped : status.low = 127
    · by_cases last : status.bits % 256 = 127 <;> simp [stopped, last]
    · simp [ended, stopped]

/-- The number that shells show is at most 128 more than eight bits hold. -/
theorem shell_le (status : WaitStatus) : status.shell ≤ 383 := by
  have low : status.low < 128 := Nat.mod_lt _ (by decide)
  have high : status.high < 256 := Nat.mod_lt _ (by decide)
  -- In each case it is at most 128 and one of these.
  rw [shell_eq]
  repeat' split
  all_goals omega

/-- The number that shells show is zero for the exit code zero and for a process that has neither ended nor been
stopped. -/
theorem shell_eq_zero_iff (status : WaitStatus) :
    status.shell = 0 ↔ status.low = 0 ∧ status.high = 0 ∨ status.bits % 256 = 255 := by
  have low : status.low = status.bits % 128 := rfl
  -- It is arithmetic on the low seven bits and the next eight.
  rw [shell_eq]
  repeat' split
  all_goals omega

/-- A code of 32 bits that is packed as it is loses all but its low eight bits, whatever its sign is. -/
theorem shell_of_code (code : Int32) : ((mk (code <<< 8)).shell : Int) = code.toInt % 256 := by
  -- Eight bits go out above, and eight zeros come in below.
  have packed : (mk (code <<< 8)).bits = code.toBitVec.toNat * 256 % 2 ^ 32 := by
    have moved : (code <<< 8).toBitVec = code.toBitVec <<< 8 := rfl
    change (code <<< 8).toBitVec.toNat = _
    rw [moved, BitVec.toNat_shiftLeft, Nat.shiftLeft_eq]
  -- The sign is worth a multiple of 256.
  have value : code.toInt % 256 = (code.toBitVec.toNat : Int) % 256 := by
    change code.toBitVec.toInt % 256 = _
    rw [BitVec.toInt_eq_toNat_cond]
    split <;> omega
  have low : (mk (code <<< 8)).low = 0 := by
    rw [low, packed]
    omega
  rw [shell_eq, if_pos low, high, packed, value]
  omega

/-- Masking keeps the lowest bits of the packed form. -/
theorem and_mask (raw : Int32) {places : Nat} (few : places < 32) :
    raw &&& Int32.ofNat (2 ^ places - 1) = Int32.ofNat ((mk raw).bits % 2 ^ places) := by
  -- Neither the mask nor what it keeps is so large that it would be cut.
  have below : 2 ^ places < 2 ^ 32 := Nat.pow_lt_pow_right (by decide) few
  have mask : 2 ^ places - 1 < 2 ^ 32 := Nat.lt_of_le_of_lt (Nat.sub_le _ _) below
  have kept : (mk raw).bits % 2 ^ places < 2 ^ 32 := Nat.lt_trans (Nat.mod_lt _ (Nat.two_pow_pos places)) below
  refine Int32.toBitVec_inj.mp (BitVec.eq_of_toNat_eq ?_)
  rw [Int32.toBitVec_and, BitVec.toNat_and, Int32.toBitVec_ofNat', Int32.toBitVec_ofNat', BitVec.toNat_ofNat,
    BitVec.toNat_ofNat, Nat.mod_eq_of_lt mask, Nat.mod_eq_of_lt kept, Nat.and_two_pow_sub_one_eq_mod]
  rfl

/-- Bits 8 to 15 are what is left when the packed form is shifted down and masked, whatever its sign is. -/
theorem and_high (raw : Int32) : (raw >>> 8) &&& 0xff = Int32.ofNat (mk raw).high := by
  have shifted : (raw >>> 8).toBitVec = raw.toBitVec.sshiftRight 8 := rfl
  have mask : (0xff : Int32).toBitVec = BitVec.ofNat 32 (2 ^ 8 - 1) := rfl
  have bits : (mk raw).high = raw.toBitVec.toNat >>> 8 % 2 ^ 8 := by
    rw [Nat.shiftRight_eq_div_pow]
    rfl
  -- Both are compared bit by bit.
  refine Int32.toBitVec_inj.mp (BitVec.eq_of_getLsbD_eq fun place inside => ?_)
  rw [Int32.toBitVec_and, BitVec.getLsbD_and, shifted, mask, Int32.toBitVec_ofNat', bits, BitVec.getLsbD_sshiftRight,
    BitVec.getLsbD_ofNat, BitVec.getLsbD_ofNat, Nat.testBit_two_pow_sub_one, Nat.testBit_mod_two_pow,
    Nat.testBit_shiftRight]
  -- Copies of the sign come in from above only, where nothing is kept.
  by_cases low : place < 8
  · have within : 8 + place < 32 := by omega
    simp [low, inside, within, Nat.not_le.mpr inside, BitVec.getLsbD]
  · simp [low]

/-! The host's own way to take a status apart, in signed arithmetic: tests one after the other, each with a number. -/

/-- The test for a process that ended by itself. -/
def hasExited (raw : Int32) : Bool :=
  raw &&& 0x7f == 0

/-- The test for a process that a signal ended: of eight bits with a sign, 128 is below zero. -/
def wasKilled (raw : Int32) : Bool :=
  decide (2 ≤ ((raw &&& 0x7f) + 1).toInt8)

/-- The test for a process that has been stopped. -/
def wasStopped (raw : Int32) : Bool :=
  raw &&& 0xff == 0x7f

/-- What comes of the tests, added up in 32 bits. -/
def shellByTests (raw : Int32) : Int32 :=
  if hasExited raw then (raw >>> 8) &&& 0xff
  else if wasKilled raw then (128 : Int32) + (raw &&& 0x7f)
  else if wasStopped raw then (128 : Int32) + ((raw >>> 8) &&& 0xff)
  else 0

/-- The tests are about the low bits. -/
theorem tests_iff (raw : Int32) :
    (hasExited raw = true ↔ (mk raw).low = 0) ∧
    (wasKilled raw = true ↔ (mk raw).low ≠ 0 ∧ (mk raw).low ≠ 127) ∧
    (wasStopped raw = true ↔ (mk raw).bits % 256 = 127) := by
  have low : raw &&& 0x7f = Int32.ofNat (mk raw).low := and_mask raw (by decide : 7 < 32)
  have byte : raw &&& 0xff = Int32.ofNat ((mk raw).bits % 256) := and_mask raw (by decide : 8 < 32)
  -- Each test is a test of a few bits, of which all values can be tried.
  have exits : ∀ number : Fin 128, (Int32.ofNat number == 0) = true ↔ (number : Nat) = 0 := by decide +kernel
  have kills : ∀ number : Fin 128, decide (2 ≤ (Int32.ofNat number + 1).toInt8) = true ↔
      (number : Nat) ≠ 0 ∧ (number : Nat) ≠ 127 := by decide +kernel
  have stops : ∀ number : Fin 256, (Int32.ofNat number == 0x7f) = true ↔ (number : Nat) = 127 := by decide +kernel
  -- The bits that are tested have no other values than those that were tried.
  have few : (mk raw).low < 128 := Nat.mod_lt _ (by decide)
  have few' : (mk raw).bits % 256 < 256 := Nat.mod_lt _ (by decide)
  refine ⟨?_, ?_, ?_⟩
  · rw [hasExited, low]
    exact exits ⟨_, few⟩
  · rw [wasKilled, low]
    exact kills ⟨_, few⟩
  · rw [wasStopped, byte]
    exact stops ⟨_, few'⟩

/-- Nothing overflows when the host's tests are followed: what comes of them is the number that shells show. -/
theorem shellByTests_eq (raw : Int32) : (shellByTests raw).toInt = (mk raw).shell := by
  obtain ⟨exits, kills, stops⟩ := tests_iff raw
  have low : raw &&& 0x7f = Int32.ofNat (mk raw).low := and_mask raw (by decide : 7 < 32)
  -- The tests choose as the low bits do, and what they add up stays within 32 bits.
  have same : shellByTests raw = Int32.ofNat (mk raw).shell := by
    rw [shellByTests, shell_eq, and_high, low]
    simp only [exits, kills, stops]
    by_cases zero : (mk raw).low = 0
    · simp only [zero, if_true]
    · by_cases last : (mk raw).low = 127
      · simp only [last, ne_eq, not_true_eq_false, and_false, if_false, reduceCtorEq]
        split <;> simp [Int32.ofNat_add]
      · simp [zero, last, Int32.ofNat_add]
  -- The number that shells show is far below the bound.
  have small := (mk raw).shell_le
  rw [same, Int32.toInt_ofNat_of_lt (by omega)]

/-- The ways to read a packed status. -/
inductive Ending where
  | exited
  | killed
  | stopped
  | unknown
  deriving DecidableEq, Repr

namespace Ending

/-- Which way a packed status is to be read, by its low seven bits and the bit above them. -/
def Fits (packed : BitVec 32) : Ending → Prop
  | .exited => packed.extractLsb' 0 7 = 0
  | .killed => packed.extractLsb' 0 7 ≠ 0 ∧ packed.extractLsb' 0 7 ≠ 127
  | .stopped => packed.extractLsb' 0 7 = 127 ∧ packed.getLsbD 7 = false
  | .unknown => packed.extractLsb' 0 7 = 127 ∧ packed.getLsbD 7 = true

/-- The number that shells show of a status that is read in some way. -/
def number (packed : BitVec 32) : Ending → Nat
  | .exited => (packed.extractLsb' 8 8).toNat
  | .killed => 128 + (packed.extractLsb' 0 7).toNat
  | .stopped => 128 + (packed.extractLsb' 8 8).toNat
  | .unknown => 0

/-- A status can be read in one way and no other. -/
theorem existsUnique_fits (packed : BitVec 32) : ∃! ending : Ending, ending.Fits packed := by
  -- The low seven bits are none, all or some, and only where all are set the bit above them matters.
  by_cases zero : packed.extractLsb' 0 7 = 0
  · exact ⟨.exited, zero, fun other fits => by cases other <;> simp_all [Fits]⟩
  · by_cases last : packed.extractLsb' 0 7 = 127
    · cases above : packed.getLsbD 7 with
      | false => exact ⟨.stopped, ⟨last, above⟩, fun other fits => by cases other <;> simp_all [Fits]⟩
      | true => exact ⟨.unknown, ⟨last, above⟩, fun other fits => by cases other <;> simp_all [Fits]⟩
    · exact ⟨.killed, ⟨zero, last⟩, fun other fits => by cases other <;> simp_all [Fits]⟩

end Ending

/-- The low seven bits by themselves. -/
theorem toNat_low (status : WaitStatus) : (status.raw.toBitVec.extractLsb' 0 7).toNat = status.low :=
  BitVec.extractLsb'_toNat 0 7 _

/-- The low eight bits by themselves. -/
theorem toNat_byte (status : WaitStatus) : (status.raw.toBitVec.extractLsb' 0 8).toNat = status.bits % 256 :=
  BitVec.extractLsb'_toNat 0 8 _

/-- Bits 8 to 15 by themselves. -/
theorem toNat_high (status : WaitStatus) : (status.raw.toBitVec.extractLsb' 8 8).toNat = status.high := by
  rw [BitVec.extractLsb'_toNat, Nat.shiftRight_eq_div_pow]
  rfl

/-- If the low seven bits are all set, the bit above them tells 255 from 127. -/
theorem getLsbD_seven {status : WaitStatus} (last : status.low = 127) :
    status.raw.toBitVec.getLsbD 7 = true ↔ status.bits % 256 ≠ 127 := by
  have low : status.low = status.bits % 128 := rfl
  -- The bit is what is left of the packed form when the lower ones are gone.
  have bit : status.raw.toBitVec.getLsbD 7 = true ↔ status.bits / 2 ^ 7 % 2 = 1 := by
    rw [BitVec.getLsbD, Nat.testBit_eq_decide_div_mod_eq, decide_eq_true_iff]
    rfl
  rw [bit]
  omega

/-- What shells show is read off the way that a status is to be read. -/
theorem shell_of_fits {status : WaitStatus} {ending : Ending} (fits : ending.Fits status.raw.toBitVec) :
    status.shell = ending.number status.raw.toBitVec := by
  -- Both ways to look at the low bits see the same.
  have zero : status.raw.toBitVec.extractLsb' 0 7 = 0 ↔ status.low = 0 := by
    rw [← BitVec.toNat_inj, toNat_low]
    rfl
  have last : status.raw.toBitVec.extractLsb' 0 7 = 127 ↔ status.low = 127 := by
    rw [← BitVec.toNat_inj, toNat_low]
    rfl
  rw [shell_eq]
  cases ending with
  | exited => rw [if_pos (zero.mp fits), Ending.number, toNat_high]
  | killed =>
    rw [if_neg (mt zero.mpr fits.1), if_pos (mt last.mpr fits.2), Ending.number, toNat_low]
  | stopped =>
    have full := last.mp fits.1
    -- With the bit above unset, the low byte is 127.
    have byte : status.bits % 256 = 127 := Decidable.byContradiction fun other =>
      absurd ((getLsbD_seven full).mpr other) (Bool.eq_false_iff.mp fits.2)
    rw [if_neg (by omega), if_neg (not_not_intro full), if_pos byte, Ending.number, toNat_high]
  | unknown =>
    have full := last.mp fits.1
    rw [if_neg (by omega), if_neg (not_not_intro full), if_neg ((getLsbD_seven full).mp fits.2), Ending.number]

/-- Every packed status, of whatever sign, is read in one way and no other: as an exit code, as the signal that ended
or stopped the process, or as nothing. What shells show is read off that way, comes of the host's own tests without an
overflow, and is zero exactly if the exit code is, or if all low eight bits are set. -/
theorem shell_of_bits (raw : Int32) :
    (∃! ending : Ending, ending.Fits raw.toBitVec) ∧
    (∀ ending : Ending, ending.Fits raw.toBitVec → (mk raw).shell = ending.number raw.toBitVec) ∧
    (shellByTests raw).toInt = (mk raw).shell ∧ (mk raw).shell ≤ 383 ∧
    ((mk raw).shell = 0 ↔
      raw.toBitVec.extractLsb' 0 7 = 0 ∧ raw.toBitVec.extractLsb' 8 8 = 0 ∨
        raw.toBitVec.extractLsb' 0 8 = 0xff) := by
  refine ⟨Ending.existsUnique_fits _, fun ending fits => shell_of_fits fits, shellByTests_eq raw, shell_le _, ?_⟩
  -- Bits and numbers are equal together.
  rw [shell_eq_zero_iff, ← BitVec.toNat_inj, ← BitVec.toNat_inj, ← BitVec.toNat_inj, toNat_low (mk raw),
    toNat_high (mk raw), toNat_byte (mk raw)]
  rfl

end Umpire.WaitStatus
