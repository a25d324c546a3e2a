import AudioScope.Proofs.Report.Record
import Mathlib.Algebra.BigOperators.Group.Finset.Basic
import Mathlib.Data.Nat.Digits.Lemmas

namespace AudioScope

/-!
# What bytes spell

Bytes spell a number with the base 256, the least significant byte first, and as
many bytes spell different numbers differently.  A machine word is the integer
that its bytes spell, read in the format of the word.
-/

/-- The number that some bytes spell, the least significant one first. -/
def littleEndian (bytes : List UInt8) : Nat :=
  Nat.ofDigits 256 (bytes.map UInt8.toNat)

@[simp]
theorem littleEndian_nil : littleEndian [] = 0 :=
  rfl

@[simp]
theorem littleEndian_cons
    (byte : UInt8)
    (bytes : List UInt8) :
    littleEndian (byte :: bytes) = byte.toNat + 256 * littleEndian bytes := by
  rw [littleEndian, List.map_cons, Nat.ofDigits_cons]
  rfl

theorem littleEndian_append (low high : List UInt8) :
    littleEndian (low ++ high) =
      littleEndian low + 256 ^ low.length * littleEndian high := by
  rw [littleEndian, List.map_append, Nat.ofDigits_append, List.length_map]
  rfl

/-- Bytes that are given by their places spell a sum. -/
theorem littleEndian_map_range
    (byte : Nat → UInt8)
    (count : Nat) :
    littleEndian ((List.range count).map byte) =
      ∑ place ∈ Finset.range count, (byte place).toNat * 256 ^ place := by
  induction count with
  | zero =>
      rfl
  | succ count inductionHypothesis =>
      rw [List.range_succ, List.map_append, littleEndian_append, inductionHypothesis,
        Finset.sum_range_succ, List.length_map, List.length_range, List.map_singleton,
        littleEndian_cons, littleEndian_nil, Nat.mul_zero, Nat.add_zero, Nat.mul_comm (256 ^ count)]

theorem digit_lt_of_mem
    {bytes : List UInt8}
    {digit : Nat}
    (member : digit ∈ bytes.map UInt8.toNat) :
    digit < 256 := by
  obtain ⟨byte, -, rfl⟩ := List.mem_map.mp member
  exact byte.toNat_lt

theorem littleEndian_lt (bytes : List UInt8) :
    littleEndian bytes < 256 ^ bytes.length := by
  have bound :=
    Nat.ofDigits_lt_base_pow_length (b := 256) (l := bytes.map UInt8.toNat) (by decide)
      (fun _ member => digit_lt_of_mem member)
  rwa [List.length_map] at bound

/-- As many bytes spell a number in one way only. -/
theorem littleEndian_inj
    {left right : List UInt8}
    (sameLength : left.length = right.length) :
    littleEndian left = littleEndian right ↔ left = right := by
  constructor
  · intro same
    have digits :=
      Nat.ofDigits_inj_of_len_eq (by decide : 1 < 256) (by simpa using sameLength)
        (fun _ member => digit_lt_of_mem member) (fun _ member => digit_lt_of_mem member) same
    exact List.map_injective_iff.mpr (fun _ _ => UInt8.toNat_inj.mp) digits
  · rintro rfl
    rfl

namespace WordFormat

/-- A format reads different numbers as different integers. -/
theorem reading_inj
    {format : WordFormat}
    {left right : Nat}
    (leftFits : left < 2 ^ format.bits)
    (rightFits : right < 2 ^ format.bits) :
    format.reading left = format.reading right ↔ left = right := by
  constructor
  · intro same
    simp only [reading, twosComplement, Nat.pow_eq] at same
    split at same
    · split at same <;> split at same <;> omega
    · omega
  · rintro rfl
    rfl

end WordFormat

section Words

/-! Each word is the number that its bytes spell, and holds what its format makes of this number. -/

theorem littleEndian_byte (byte : UInt8) : littleEndian [byte] = byte.toNat := by
  rw [littleEndian_cons, littleEndian_nil, Nat.mul_zero, Nat.add_zero]

theorem littleEndian_word16 (low high : UInt8) :
    littleEndian [low, high] = (word16 low high).toNat := by
  rw [toNat_word16, littleEndian_cons, littleEndian_byte]

theorem littleEndian_word32 (b0 b1 b2 b3 : UInt8) :
    littleEndian [b0, b1, b2, b3] = (word32 b0 b1 b2 b3).toNat := by
  simp only [toNat_word32, littleEndian_cons, littleEndian_nil]
  omega

theorem toInt_eq_twosComplement
    {count : Nat}
    (bits : BitVec count)
    (positive : 0 < count) :
    bits.toInt = twosComplement count bits.toNat := by
  have halves : 2 ^ count = 2 * 2 ^ (count - 1) := by
    rw [← Nat.pow_succ', Nat.succ_eq_add_one, Nat.sub_add_cancel positive]
  simp only [BitVec.toInt_eq_toNat_cond, twosComplement, Nat.pow_eq]
  split <;> split <;> omega

theorem toInt_byte (byte : UInt8) :
    FixedWidth.toInt byte = (FixedWidth.format UInt8).reading (littleEndian [byte]) := by
  rw [littleEndian_byte]
  rfl

theorem toInt_toInt8 (byte : UInt8) :
    FixedWidth.toInt byte.toInt8 =
      (FixedWidth.format Int8).reading (littleEndian [byte]) := by
  rw [littleEndian_byte]
  exact toInt_eq_twosComplement byte.toBitVec (by decide)

theorem toInt_word16 (low high : UInt8) :
    FixedWidth.toInt (word16 low high) =
      (FixedWidth.format UInt16).reading (littleEndian [low, high]) := by
  rw [littleEndian_word16]
  rfl

theorem toInt_word16_toInt16 (low high : UInt8) :
    FixedWidth.toInt (word16 low high).toInt16 =
      (FixedWidth.format Int16).reading (littleEndian [low, high]) := by
  rw [littleEndian_word16]
  exact toInt_eq_twosComplement (word16 low high).toBitVec (by decide)

theorem toInt_word32 (b0 b1 b2 b3 : UInt8) :
    FixedWidth.toInt (word32 b0 b1 b2 b3) =
      (FixedWidth.format UInt32).reading (littleEndian [b0, b1, b2, b3]) := by
  rw [littleEndian_word32]
  rfl

end Words

end AudioScope
