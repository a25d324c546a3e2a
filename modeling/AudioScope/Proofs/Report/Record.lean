import AudioScope.Report.Layout

namespace AudioScope

/-!
# Records and reports

Words and their bytes determine each other: a word is the number with its bytes
as digits to the base 256.  So a record and its report determine each other too,
and the padding behind the record has no part in it.  `Report.decodeAt?` finds
every byte that it looks for, and agrees with `Report.decode`.
-/

section Words

/-- Digits are put above a number that does not reach up to them. -/
theorem or_shiftLeft_of_lt
    {low places : Nat}
    (small : low < Nat.pow 2 places)
    (high : Nat) :
    low ||| high <<< places = low + Nat.pow 2 places * high := by
  have above := Nat.shiftLeft_add_eq_or_of_lt small high
  rw [Nat.or_comm, ← above, Nat.shiftLeft_eq, Nat.mul_comm, Nat.add_comm]
  rfl

/-- A word of two bytes is the number with these digits. -/
theorem toNat_word16 (low high : UInt8) :
    (word16 low high).toNat = low.toNat + 256 * high.toNat := by
  have highSmall := high.toNat_lt
  have shifted : high.toNat <<< 8 % 65536 = high.toNat <<< 8 := by
    rw [Nat.shiftLeft_eq]
    omega
  calc
    (word16 low high).toNat = low.toNat ||| high.toNat <<< 8 % 65536 := by
      simp [word16]
    _ = low.toNat ||| high.toNat <<< 8 := by
      rw [shifted]
    _ = low.toNat + 256 * high.toNat :=
      or_shiftLeft_of_lt low.toNat_lt high.toNat

/-- A word of four bytes is the number with these digits. -/
theorem toNat_word32 (b0 b1 b2 b3 : UInt8) :
    (word32 b0 b1 b2 b3).toNat =
      b0.toNat + 256 * b1.toNat + 65536 * b2.toNat + 16777216 * b3.toNat := by
  have small0 := b0.toNat_lt
  have small1 := b1.toNat_lt
  have small2 := b2.toNat_lt
  have small3 := b3.toNat_lt
  have shifted1 : b1.toNat <<< 8 % 4294967296 = b1.toNat <<< 8 := by
    rw [Nat.shiftLeft_eq]
    omega
  have shifted2 : b2.toNat <<< 16 % 4294967296 = b2.toNat <<< 16 := by
    rw [Nat.shiftLeft_eq]
    omega
  have shifted3 : b3.toNat <<< 24 % 4294967296 = b3.toNat <<< 24 := by
    rw [Nat.shiftLeft_eq]
    omega
  -- Each byte is put above the number that the bytes before it make up.
  have upTo1 : b0.toNat ||| b1.toNat <<< 8 = b0.toNat + 256 * b1.toNat :=
    or_shiftLeft_of_lt small0 b1.toNat
  have upTo2 :
      b0.toNat + 256 * b1.toNat ||| b2.toNat <<< 16 =
        b0.toNat + 256 * b1.toNat + 65536 * b2.toNat :=
    or_shiftLeft_of_lt (show _ < 65536 by omega) b2.toNat
  have upTo3 :
      b0.toNat + 256 * b1.toNat + 65536 * b2.toNat ||| b3.toNat <<< 24 =
        b0.toNat + 256 * b1.toNat + 65536 * b2.toNat + 16777216 * b3.toNat :=
    or_shiftLeft_of_lt (show _ < 16777216 by omega) b3.toNat
  calc
    (word32 b0 b1 b2 b3).toNat =
        b0.toNat ||| b1.toNat <<< 8 % 4294967296 ||| b2.toNat <<< 16 % 4294967296 |||
          b3.toNat <<< 24 % 4294967296 := by
      simp [word32]
    _ = b0.toNat + 256 * b1.toNat + 65536 * b2.toNat + 16777216 * b3.toNat := by
      rw [shifted1, shifted2, shifted3, upTo1, upTo2, upTo3]

/-- A word has the bytes that it was made of. -/
theorem word16_inj {low high low' high' : UInt8} :
    word16 low high = word16 low' high' ↔ low = low' ∧ high = high' := by
  constructor
  · intro same
    have numbers := congrArg UInt16.toNat same
    rw [toNat_word16, toNat_word16] at numbers
    have lowSmall := low.toNat_lt
    have lowSmall' := low'.toNat_lt
    exact ⟨UInt8.toNat_inj.mp (by omega), UInt8.toNat_inj.mp (by omega)⟩
  · rintro ⟨rfl, rfl⟩
    rfl

@[inherit_doc word16_inj]
theorem word32_inj {b0 b1 b2 b3 c0 c1 c2 c3 : UInt8} :
    word32 b0 b1 b2 b3 = word32 c0 c1 c2 c3 ↔ b0 = c0 ∧ b1 = c1 ∧ b2 = c2 ∧ b3 = c3 := by
  constructor
  · intro same
    have numbers := congrArg UInt32.toNat same
    rw [toNat_word32, toNat_word32] at numbers
    have small0 := b0.toNat_lt
    have small1 := b1.toNat_lt
    have small2 := b2.toNat_lt
    have small0' := c0.toNat_lt
    have small1' := c1.toNat_lt
    have small2' := c2.toNat_lt
    exact ⟨UInt8.toNat_inj.mp (by omega), UInt8.toNat_inj.mp (by omega),
      UInt8.toNat_inj.mp (by omega), UInt8.toNat_inj.mp (by omega)⟩
  · rintro ⟨rfl, rfl, rfl, rfl⟩
    rfl

/-- The bytes of a word make up the word. -/
theorem word16_bytes (word : UInt16) :
    word16 word.toUInt8 (word >>> 8).toUInt8 = word := by
  have small := word.toNat_lt
  apply UInt16.toNat_inj.mp
  rw [toNat_word16]
  simp [Nat.shiftRight_eq_div_pow]
  omega

@[inherit_doc word16_bytes]
theorem word32_bytes (word : UInt32) :
    word32 word.toUInt8 (word >>> 8).toUInt8 (word >>> 16).toUInt8 (word >>> 24).toUInt8 =
      word := by
  have small := word.toNat_lt
  apply UInt32.toNat_inj.mp
  rw [toNat_word32]
  simp [Nat.shiftRight_eq_div_pow]
  omega

theorem bytes16_word16 (low high : UInt8) :
    bytes16 (word16 low high) = [low, high] := by
  obtain ⟨first, second⟩ := word16_inj.mp (word16_bytes (word16 low high))
  rw [bytes16, first, second]

theorem bytes32_word32 (b0 b1 b2 b3 : UInt8) :
    bytes32 (word32 b0 b1 b2 b3) = [b0, b1, b2, b3] := by
  obtain ⟨first, second, third, fourth⟩ := word32_inj.mp (word32_bytes (word32 b0 b1 b2 b3))
  rw [bytes32, first, second, third, fourth]

end Words

namespace Report

/-- A report is found in its record, whatever follows the record. -/
theorem decode_encode_append
    (report : Report)
    (padding : List UInt8) :
    decode (encode report ++ padding) = .ok report := by
  obtain ⟨rate, setting, ⟨_, _, _⟩, ⟨_, _, _⟩, size, count, average⟩ := report
  simp only [encode, bytes32, bytes16, PerChannel.toList, List.map_cons, List.map_nil,
    List.flatMap_cons, List.flatMap_nil, List.cons_append, List.nil_append, decode,
    word32_bytes, word16_bytes, Int8.toInt8_toUInt8, Int16.toInt16_toUInt16]

/-- A decoded report has the record that it was decoded from. -/
theorem encode_of_decode
    {buffer : List UInt8}
    {report : Report}
    (decoded : decode buffer = .ok report) :
    encode report = buffer.take recordSize := by
  unfold decode at decoded
  split at decoded
  · cases decoded
    simp only [encode, bytes32_word32, bytes16_word16, PerChannel.toList, List.map_cons,
      List.map_nil, List.flatMap_cons, List.flatMap_nil, List.cons_append, List.nil_append,
      UInt8.toUInt8_toInt8, UInt16.toUInt16_toInt16]
    rfl
  · cases decoded

/-- Reports with the same record are the same. -/
theorem encode_inj {left right : Report} :
    encode left = encode right ↔ left = right := by
  constructor
  · intro same
    have decodedLeft := decode_encode_append left []
    rw [same, decode_encode_append] at decodedLeft
    exact (Except.ok.inj decodedLeft).symm
  · rintro rfl
    rfl

/-- Buffers that start with the same record hold the same report, and no others do. -/
theorem decode_eq_decode_iff
    {left right : List UInt8}
    (enoughLeft : recordSize ≤ left.length)
    (enoughRight : recordSize ≤ right.length) :
    decode left = decode right ↔ left.take recordSize = right.take recordSize := by
  obtain ⟨leftReport, leftDecoded⟩ := exists_decode_of_le enoughLeft
  obtain ⟨rightReport, rightDecoded⟩ := exists_decode_of_le enoughRight
  rw [leftDecoded, rightDecoded, ← encode_of_decode leftDecoded,
    ← encode_of_decode rightDecoded, encode_inj, Except.ok.injEq]

/-- Nothing of a record is lost if a buffer is cut behind it. -/
theorem decode_take
    {count : Nat}
    (enough : recordSize ≤ count)
    (buffer : List UInt8) :
    decode (buffer.take count) = decode buffer := by
  rcases Nat.lt_or_ge buffer.length recordSize with short | long
  · rw [List.take_of_length_le (by omega)]
  · have cut : recordSize ≤ (buffer.take count).length := by
      rw [List.length_take]
      exact Nat.le_min.mpr ⟨enough, long⟩
    rw [decode_eq_decode_iff cut long, List.take_take, Nat.min_eq_left enough]

/-- Every byte that the decoder looks for lies within the buffer. -/
theorem decodeAt?_eq_some (buffer : List UInt8) :
    decodeAt? buffer = some (decode buffer) := by
  by_cases short : buffer.length < recordSize
  · rw [decode_of_lt short, decodeAt?, if_pos short]
  · obtain ⟨report, decoded⟩ := exists_decode_of_le (Nat.le_of_not_lt short)
    unfold decode at decoded ⊢
    split at decoded
    · rfl
    · cases decoded

/--
Records and reports determine each other, whatever padding follows a record: a
report is decoded from its own record, and a buffer with room for a record
starts with the record of the report that it holds.  A shorter buffer is refused
with its length, and on no buffer a byte outside of it is looked at.
-/
theorem decode_encode_bijection :
    recordSize = 20 ∧
      (∀ report padding, decode (encode report ++ padding) = .ok report) ∧
      (∀ buffer : List UInt8,
        recordSize ≤ buffer.length →
        ∃ report,
          decode buffer = .ok report ∧ encode report = buffer.take recordSize) ∧
      (∀ left right : List UInt8,
        recordSize ≤ left.length →
        recordSize ≤ right.length →
        (decode left = decode right ↔ left.take recordSize = right.take recordSize)) ∧
      (∀ buffer : List UInt8,
        buffer.length < recordSize →
        decode buffer = .error { expected := recordSize, actual := buffer.length }) ∧
      ∀ buffer, decodeAt? buffer = some (decode buffer) := by
  refine ⟨rfl, decode_encode_append, ?_, ?_, ?_, decodeAt?_eq_some⟩
  · intro buffer enough
    obtain ⟨report, decoded⟩ := exists_decode_of_le enough
    exact ⟨report, decoded, encode_of_decode decoded⟩
  · intro left right enoughLeft enoughRight
    exact decode_eq_decode_iff enoughLeft enoughRight
  · intro buffer short
    exact decode_of_lt short

end Report

end AudioScope
