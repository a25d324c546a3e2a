import AudioScope.Proofs.Report.LittleEndian

namespace AudioScope

/-!
# What the bytes of a record mean

Every slot of a record holds the integer that its bytes spell, least significant
byte first, and the slots share the record out among them.  So a changed byte of
the record changes the one slot that it belongs to, and a changed byte behind the
record changes nothing.
-/

/-- The byte at an offset of a buffer, as a number. -/
def byteAt
    (buffer : List UInt8)
    (offset : Nat) :
    Nat :=
  (buffer.getD offset 0).toNat

namespace Report

namespace Slot

/-- A slot holds the integer that its bytes spell. -/
theorem value_of_decode
    {buffer : List UInt8}
    {report : Report}
    (decoded : decode buffer = .ok report)
    (slot : Slot) :
    slot.value report = slot.format.reading (littleEndian (slot.bytes buffer)) := by
  unfold decode at decoded
  split at decoded
  · cases decoded
    cases slot with
    | sampleRate => exact toInt_word32 _ _ _ _
    | altSetting => exact toInt_byte _
    | mute channel => cases channel <;> exact toInt_toInt8 _
    | volume channel => cases channel <;> exact toInt_word16_toInt16 _ _
    | fifoSize => exact toInt_word16 _ _
    | fifoCount => exact toInt_word16 _ _
    | fifoAverage => exact toInt_word16 _ _
  · cases decoded

/-- No slot reaches beyond the record. -/
theorem end_le (slot : Slot) : slot.offset + slot.width ≤ recordSize := by
  cases slot with
  | mute channel => cases channel <;> decide
  | volume channel => cases channel <;> decide
  | _ => decide

theorem getElem?_bytes
    (slot : Slot)
    (buffer : List UInt8)
    (place : Nat) :
    (slot.bytes buffer)[place]? =
      if place < slot.width then buffer[slot.offset + place]? else none := by
  rw [bytes, List.getElem?_take, List.getElem?_drop]

section

variable {buffer : List UInt8}

theorem length_bytes
    (enough : recordSize ≤ buffer.length)
    (slot : Slot) :
    (slot.bytes buffer).length = slot.width := by
  have bound := slot.end_le
  rw [bytes, List.length_take, List.length_drop]
  omega

/-- The number that the bytes of a slot spell, byte by byte. -/
theorem littleEndian_bytes
    (enough : recordSize ≤ buffer.length)
    (slot : Slot) :
    littleEndian (slot.bytes buffer) =
      ∑ place ∈ Finset.range slot.width, byteAt buffer (slot.offset + place) * 256 ^ place := by
  have bound := slot.end_le
  have placed :
      slot.bytes buffer =
        (List.range slot.width).map fun place => buffer.getD (slot.offset + place) 0 := by
    apply List.ext_getElem?
    intro place
    rw [getElem?_bytes, List.getElem?_map]
    by_cases inside : place < slot.width
    · have present : slot.offset + place < buffer.length := by omega
      simp [inside, present]
    · simp [inside]
  rw [placed, littleEndian_map_range]
  rfl

/-- The bytes of a slot spell a number that its format can hold. -/
theorem littleEndian_bytes_lt
    (enough : recordSize ≤ buffer.length)
    (slot : Slot) :
    littleEndian (slot.bytes buffer) < 2 ^ slot.format.bits := by
  have bound := littleEndian_lt (slot.bytes buffer)
  rwa [length_bytes enough, show 256 = 2 ^ 8 by rfl, ← Nat.pow_mul, ← bits_format] at bound

end

section

variable {left right : List UInt8} {leftReport rightReport : Report}

/-- Two reports agree in a slot if their records do, and not otherwise. -/
theorem value_eq_iff_bytes_eq
    (leftDecoded : decode left = .ok leftReport)
    (rightDecoded : decode right = .ok rightReport)
    (leftEnough : recordSize ≤ left.length)
    (rightEnough : recordSize ≤ right.length)
    (slot : Slot) :
    slot.value leftReport = slot.value rightReport ↔ slot.bytes left = slot.bytes right := by
  rw [value_of_decode leftDecoded, value_of_decode rightDecoded,
    WordFormat.reading_inj (littleEndian_bytes_lt leftEnough slot)
      (littleEndian_bytes_lt rightEnough slot),
    littleEndian_inj ((length_bytes leftEnough slot).trans (length_bytes rightEnough slot).symm)]

/-- A byte that is the only one to differ belongs to the slots whose bytes differ. -/
theorem bytes_ne_iff_owns
    {index : Nat}
    (onlyThere : ∀ place, left[place]? ≠ right[place]? ↔ place = index)
    (slot : Slot) :
    slot.bytes left ≠ slot.bytes right ↔ slot.Owns index := by
  constructor
  · intro different
    by_contra foreign
    refine different (List.ext_getElem? fun place => ?_)
    rw [getElem?_bytes, getElem?_bytes]
    by_cases inside : place < slot.width
    · rw [if_pos inside, if_pos inside]
      by_contra differs
      have here : slot.offset + place = index := (onlyThere _).mp differs
      exact foreign ⟨by omega, by omega⟩
    · rw [if_neg inside, if_neg inside]
  · rintro ⟨start, stop⟩ same
    have inside : index - slot.offset < slot.width := by omega
    have here : slot.offset + (index - slot.offset) = index := by omega
    have bytes := congrArg (·[index - slot.offset]?) same
    simp only [getElem?_bytes, inside, here, ↓reduceIte] at bytes
    exact (onlyThere index).mpr rfl bytes

end

section

/-! The slots tile the record: every byte belongs to one of them, and to no other. -/

theorem exists_owns
    {index : Nat}
    (inside : index < recordSize) :
    ∃ slot : Slot, slot.Owns index := by
  have covered : ∀ index < recordSize, ∃ slot ∈ all, slot.Owns index := by
    decide
  obtain ⟨slot, -, owned⟩ := covered index inside
  exact ⟨slot, owned⟩

/-- The bytes of one slot end before those of the other begin. -/
def Apart (left right : Slot) : Prop :=
  left.offset + left.width ≤ right.offset ∨ right.offset + right.width ≤ left.offset

instance (left right : Slot) : Decidable (Apart left right) :=
  inferInstanceAs (Decidable (_ ∨ _))

instance : Std.Symm Apart :=
  ⟨fun _ _ => Or.symm⟩

theorem apart_of_ne
    {left right : Slot}
    (different : left ≠ right) :
    Apart left right := by
  have pairwise : all.Pairwise Apart := by
    decide
  exact pairwise.forall (mem_all left) (mem_all right) different

theorem eq_of_owns
    {left right : Slot}
    {index : Nat}
    (leftOwns : left.Owns index)
    (rightOwns : right.Owns index) :
    left = right := by
  by_contra different
  obtain ⟨leftStart, leftStop⟩ := leftOwns
  obtain ⟨rightStart, rightStop⟩ := rightOwns
  rcases apart_of_ne different with before | behind
  · omega
  · omega

theorem lt_recordSize_of_owns
    {slot : Slot}
    {index : Nat}
    (owns : slot.Owns index) :
    index < recordSize :=
  Nat.lt_of_lt_of_le owns.2 slot.end_le

end

/-- What a slot holds is a part of what its field holds. -/
theorem value_congr
    {left right : Report}
    {slot : Slot}
    (same : left.get slot.field = right.get slot.field) :
    slot.value left = slot.value right := by
  cases slot with
  | mute channel =>
      exact congrArg (fun values : PerChannel Int8 => FixedWidth.toInt (values.get channel)) same
  | volume channel =>
      exact congrArg (fun values : PerChannel Int16 => FixedWidth.toInt (values.get channel)) same
  | sampleRate => exact congrArg (FixedWidth.toInt (α := UInt32)) same
  | altSetting => exact congrArg (FixedWidth.toInt (α := UInt8)) same
  | fifoSize => exact congrArg (FixedWidth.toInt (α := UInt16)) same
  | fifoCount => exact congrArg (FixedWidth.toInt (α := UInt16)) same
  | fifoAverage => exact congrArg (FixedWidth.toInt (α := UInt16)) same

end Slot

/-- A field holds what its slots hold. -/
theorem get_eq_iff
    {left right : Report}
    {field : Field} :
    left.get field = right.get field ↔
      ∀ slot : Slot, slot.field = field → slot.value left = slot.value right := by
  constructor
  · rintro same slot rfl
    exact Slot.value_congr same
  · intro same
    cases field with
    | mute =>
        exact PerChannel.ext_get fun channel =>
          FixedWidth.toInt_inj.mp (same (.mute channel) rfl)
    | volume =>
        exact PerChannel.ext_get fun channel =>
          FixedWidth.toInt_inj.mp (same (.volume channel) rfl)
    | sampleRate => exact FixedWidth.toInt_inj (α := UInt32).mp (same .sampleRate rfl)
    | altSetting => exact FixedWidth.toInt_inj (α := UInt8).mp (same .altSetting rfl)
    | fifoSize => exact FixedWidth.toInt_inj (α := UInt16).mp (same .fifoSize rfl)
    | fifoCount => exact FixedWidth.toInt_inj (α := UInt16).mp (same .fifoCount rfl)
    | fifoAverage => exact FixedWidth.toInt_inj (α := UInt16).mp (same .fifoAverage rfl)

/-- Two reports that differ in one slot, and so in its field, and nowhere else. -/
structure DifferOnlyIn
    (slot : Slot)
    (left right : Report) :
    Prop where
  value_ne_iff : ∀ other : Slot, other.value left ≠ other.value right ↔ other = slot
  get_ne_iff : ∀ field, left.get field ≠ right.get field ↔ field = slot.field

theorem DifferOnlyIn.of_value_ne_iff
    {slot : Slot}
    {left right : Report}
    (different : ∀ other : Slot, other.value left ≠ other.value right ↔ other = slot) :
    DifferOnlyIn slot left right where
  value_ne_iff := different
  get_ne_iff field := by
    constructor
    · intro fields
      rw [Ne, get_eq_iff] at fields
      push Not at fields
      obtain ⟨other, rfl, values⟩ := fields
      rw [(different other).mp values]
    · rintro rfl same
      exact (different slot).mpr rfl (Slot.value_congr same)

theorem eq_of_values
    {left right : Report}
    (same : ∀ slot : Slot, slot.value left = slot.value right) :
    left = right :=
  ext_get fun _ => get_eq_iff.mpr fun slot _ => same slot

section OneByte

/-! Two buffers that differ in one byte only, and what their reports differ in. -/

variable
  {left right : List UInt8}
  {leftReport rightReport : Report}
  {index : Nat}

/-- A slot tells the two buffers apart if it owns the byte, and otherwise not. -/
theorem Slot.value_ne_iff_owns
    (leftDecoded : decode left = .ok leftReport)
    (rightDecoded : decode right = .ok rightReport)
    (leftEnough : recordSize ≤ left.length)
    (rightEnough : recordSize ≤ right.length)
    (onlyThere : ∀ place, left[place]? ≠ right[place]? ↔ place = index)
    (slot : Slot) :
    slot.value leftReport ≠ slot.value rightReport ↔ slot.Owns index := by
  rw [Ne, value_eq_iff_bytes_eq leftDecoded rightDecoded leftEnough rightEnough]
  exact bytes_ne_iff_owns onlyThere slot

variable
  (tells : ∀ slot : Slot, slot.value leftReport ≠ slot.value rightReport ↔ slot.Owns index)

include tells

/-- A byte of the record is seen in the slot that it belongs to, and in no other. -/
theorem exists_differOnlyIn_of_lt
    (inside : index < recordSize) :
    ∃ owner : Slot,
      owner.Owns index ∧
      (∀ slot : Slot, slot.Owns index → slot = owner) ∧
      DifferOnlyIn owner leftReport rightReport := by
  obtain ⟨owner, owned⟩ := Slot.exists_owns inside
  have only (slot : Slot) : slot.Owns index ↔ slot = owner := by
    constructor
    · intro owns
      exact Slot.eq_of_owns owns owned
    · rintro rfl
      exact owned
  refine ⟨owner, owned, fun slot => (only slot).mp, ?_⟩
  exact DifferOnlyIn.of_value_ne_iff fun slot => (tells slot).trans (only slot)

/-- A byte behind the record is not seen. -/
theorem eq_of_recordSize_le
    (outside : recordSize ≤ index) :
    leftReport = rightReport := by
  refine eq_of_values fun slot => ?_
  by_contra different
  have inside := Slot.lt_recordSize_of_owns ((tells slot).mp different)
  exact absurd outside (Nat.not_le.mpr inside)

end OneByte

/--
The decoded fields are what their bytes spell, in the plain reading of a record
as little-endian numbers with the two's complement where a field is signed.  So
if a buffer of the same length differs in one byte only, its report differs in
the one slot, and the one field, that the byte belongs to, and not at all if the
byte is padding.
-/
theorem decode_reads_fields
    {buffer : List UInt8}
    (enough : recordSize ≤ buffer.length) :
    ∃ report,
      decode buffer = .ok report ∧
      report.sampleRate.toNat = ∑ place ∈ Finset.range 4, byteAt buffer place * 256 ^ place ∧
      report.altSetting.toNat = byteAt buffer 4 ∧
      (∀ channel,
        (report.mute.get channel).toInt =
          twosComplement 8 (byteAt buffer (5 + channel.index))) ∧
      (∀ channel,
        (report.volume.get channel).toInt =
          twosComplement 16
            (byteAt buffer (8 + 2 * channel.index) +
              256 * byteAt buffer (9 + 2 * channel.index))) ∧
      report.fifoSize.toNat = byteAt buffer 14 + 256 * byteAt buffer 15 ∧
      report.fifoCount.toNat = byteAt buffer 16 + 256 * byteAt buffer 17 ∧
      report.fifoAverage.toNat = byteAt buffer 18 + 256 * byteAt buffer 19 ∧
      ∀ (other : List UInt8) (index : Nat),
        other.length = buffer.length →
        (∀ place, other[place]? ≠ buffer[place]? ↔ place = index) →
        ∃ changed,
          decode other = .ok changed ∧
          (index < 20 →
            ∃ owner : Slot,
              owner.Owns index ∧
              (∀ slot : Slot, slot.Owns index → slot = owner) ∧
              DifferOnlyIn owner changed report) ∧
          (20 ≤ index → changed = report) := by
  obtain ⟨report, decoded⟩ := exists_decode_of_le enough
  have meaning (slot : Slot) :
      slot.value report =
        slot.format.reading
          (∑ place ∈ Finset.range slot.width, byteAt buffer (slot.offset + place) * 256 ^ place) := by
    rw [Slot.value_of_decode decoded, Slot.littleEndian_bytes enough]
  have one (offset : Nat) :
      ∑ place ∈ Finset.range 1, byteAt buffer (offset + place) * 256 ^ place =
        byteAt buffer offset := by
    simp
  have two (offset : Nat) :
      ∑ place ∈ Finset.range 2, byteAt buffer (offset + place) * 256 ^ place =
        byteAt buffer offset + 256 * byteAt buffer (offset + 1) := by
    simp [Finset.sum_range_succ, Nat.mul_comm]
  have four :
      ∑ place ∈ Finset.range 4, byteAt buffer (0 + place) * 256 ^ place =
        ∑ place ∈ Finset.range 4, byteAt buffer place * 256 ^ place := by
    simp
  -- Unsigned words are compared as the integers that they stand for.
  refine ⟨report, decoded, ?_, ?_, ?_, ?_, ?_, ?_, ?_, ?_⟩
  · exact Int.ofNat.inj ((meaning .sampleRate).trans (congrArg Int.ofNat four))
  · exact Int.ofNat.inj ((meaning .altSetting).trans (congrArg Int.ofNat (one 4)))
  · intro channel
    exact (meaning (.mute channel)).trans (congrArg (twosComplement 8) (one _))
  · intro channel
    have next : 8 + 2 * channel.index + 1 = 9 + 2 * channel.index := by omega
    rw [← next]
    exact (meaning (.volume channel)).trans (congrArg (twosComplement 16) (two _))
  · exact Int.ofNat.inj ((meaning .fifoSize).trans (congrArg Int.ofNat (two 14)))
  · exact Int.ofNat.inj ((meaning .fifoCount).trans (congrArg Int.ofNat (two 16)))
  · exact Int.ofNat.inj ((meaning .fifoAverage).trans (congrArg Int.ofNat (two 18)))
  · intro other index sameLength onlyThere
    have otherEnough : recordSize ≤ other.length := by
      rwa [sameLength]
    obtain ⟨changed, otherDecoded⟩ := exists_decode_of_le otherEnough
    have tells :=
      Slot.value_ne_iff_owns otherDecoded decoded otherEnough enough onlyThere
    exact ⟨changed, otherDecoded, exists_differOnlyIn_of_lt tells, eq_of_recordSize_le tells⟩

/-- A record with negative values, and some padding. -/
def paddedRecord : List UInt8 :=
  [0x44, 0xAC, 0, 0, 2, 0, 1, 0xFF, 0, 0, 0, 0xCE, 0, 0x0A, 0, 4, 1, 2, 0xFF, 1, 0xAA, 0xAA]

/-- The high byte of a volume has the sign, and the change of it is seen in this volume only. -/
theorem decode_reads_fields_paddedRecord :
    recordSize ≤ paddedRecord.length ∧
      ∃ report changed,
        decode paddedRecord = .ok report ∧
          report.sampleRate.toNat = 44100 ∧
          (report.mute.get .second).toInt = -1 ∧
          (report.volume.get .first).toInt = -12800 ∧
          decode (paddedRecord.set 11 0x4E) = .ok changed ∧
          DifferOnlyIn (.volume .first) changed report := by
  have enough : recordSize ≤ paddedRecord.length := by
    decide
  obtain ⟨report, decoded, rate, -, mute, volume, -, -, -, ownership⟩ :=
    decode_reads_fields enough
  have onlyThere (place : Nat) :
      (paddedRecord.set 11 0x4E)[place]? ≠ paddedRecord[place]? ↔ place = 11 := by
    rw [List.getElem?_set]
    split
    · next here =>
      subst here
      decide
    · next elsewhere =>
      simp only [ne_eq, not_true_eq_false, false_iff]
      exact fun here => elsewhere here.symm
  obtain ⟨changed, changedDecoded, changedAt, -⟩ :=
    ownership (paddedRecord.set 11 0x4E) 11 (by simp) onlyThere
  obtain ⟨owner, -, only, differ⟩ := changedAt (by decide)
  have owned : Slot.volume .first = owner := only _ (by decide)
  refine ⟨enough, report, changed, decoded, rate.trans ?_, (mute .second).trans ?_,
    (volume .first).trans ?_, changedDecoded, owned ▸ differ⟩
  · decide
  · decide
  · decide

end Report

end AudioScope
