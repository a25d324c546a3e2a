import AudioScope.Proofs.Json.Number
import AudioScope.Proofs.Report.Text
import AudioScope.Report.Json.FieldValue

namespace AudioScope.Report.Json

/-!
# Field values read back

The text of a word, or of a word for each channel, is read back as what it was
written for, up to where the text goes on with something else.
-/

open AudioScope.Json

/-- A text at whose front an element of an array may stand. -/
def StartsElement (text : List Char) : Prop :=
  ∃ char rest, text = char :: rest ∧ isBlank char = false ∧ char ≠ ']'

section Elements

variable {α : Type} {wanted : Wanted} {read : List Char → Reading α} {text : List Char}

theorem readElement_zero (starts : StartsElement text) :
    readElement wanted 0 read text = read text := by
  obtain ⟨char, rest, rfl, notBlank, notClosing⟩ := starts
  simp [readElement, nextElement, skipBlanks_cons notBlank, notClosing]

/-- Every element but the first one stands behind a comma. -/
theorem readElement_comma
    (starts : StartsElement text)
    {index : Nat}
    (behind : 0 < index) :
    readElement wanted index read (',' :: text) = read text := by
  obtain ⟨char, rest, rfl, notBlank, notClosing⟩ := starts
  have comma : skipBlanks (',' :: char :: rest) = ',' :: char :: rest := by
    rfl
  have notFirst : (index == 0) = false := by
    simp only [beq_eq_false_iff_ne, ne_eq]
    omega
  simp [readElement, nextElement, comma, notFirst, skipBlanks_cons notBlank, notClosing]

end Elements

section Words

variable {α : Type} [FixedWidth α]

/-- A word of 64 bits at most stands for an integer that a JSON number can be. -/
theorem toInt_within
    (narrow : (FixedWidth.format α).bits ≤ 64)
    (word : α) :
    -Nat.pow 2 63 ≤ FixedWidth.toInt word ∧ FixedWidth.toInt word ≤ maxSignificand := by
  have low := FixedWidth.lowest_le_toInt word
  have high := FixedWidth.toInt_le_highest word
  have whole : Nat.pow 2 (FixedWidth.format α).bits ≤ maxSignificand + 1 :=
    Nat.pow_le_pow_right (by decide) narrow
  have half : Nat.pow 2 ((FixedWidth.format α).bits - 1) ≤ Nat.pow 2 63 :=
    Nat.pow_le_pow_right (by decide) (by omega)
  have signed := pow_le_maxSignificand
  simp only [WordFormat.lowest, WordFormat.highest] at low high
  split at low <;> split at high <;> omega

theorem text_eq_cons (word : α) :
    ∃ first more, (FixedWidth.text word).toList = first :: more ∧ isNumeral first = true := by
  have nonempty : (FixedWidth.text word).toList ≠ [] := by
    intro empty
    by_cases nonneg : 0 ≤ FixedWidth.toInt word
    · rw [FixedWidth.text, toList_toString_of_nonneg nonneg] at empty
      exact Nat.toDigits_ne_nil empty
    · rw [FixedWidth.text, toList_toString_of_neg (Int.not_le.mp nonneg)] at empty
      cases empty
  obtain ⟨first, more, shape⟩ := List.exists_cons_of_ne_nil nonempty
  exact ⟨first, more, shape, isNumeral_of_mem_toString (shape ▸ List.mem_cons_self)⟩

theorem startsElement_text
    (word : α)
    (rest : List Char) :
    StartsElement ((FixedWidth.text word).toList ++ rest) := by
  obtain ⟨first, more, shape, numeral⟩ := text_eq_cons word
  refine ⟨first, more ++ rest, by rw [shape, List.cons_append], isBlank_of_isNumeral numeral, ?_⟩
  rintro rfl
  cases numeral

/-- A word is read back from its text. -/
theorem readWord_text
    (narrow : (FixedWidth.format α).bits ≤ 64)
    {rest : List Char}
    (ends : endsNumber rest = true)
    (word : α) :
    readWord α ((FixedWidth.text word).toList ++ rest) = .ok (word, rest) := by
  obtain ⟨low, high⟩ := toInt_within narrow word
  have number :
      readNumber ((FixedWidth.text word).toList ++ rest) =
        .ok (.integer (FixedWidth.toInt word), rest) :=
    readNumber_toString ends low high
  obtain ⟨first, more, shape, numeral⟩ := text_eq_cons word
  rw [shape, List.cons_append] at number ⊢
  have starts : startsNumber (first :: (more ++ rest)) = true := numeral
  simp only [readWord, skipBlanks_cons (isBlank_of_isNumeral numeral), starts, number, wordOf,
    FixedWidth.ofInt?_toInt]
  rfl

/-- Three elements between brackets are the words of all channels. -/
theorem readPerChannel_of_elements
    {text text0 text1 text2 text3 rest : List Char}
    {values : PerChannel α}
    (bracket : skipBlanks text = '[' :: text0)
    (master :
      readElement .perChannel 0 (readWord α) text0 = .ok (values.master, text1))
    (first :
      readElement .perChannel 1 (readWord α) text1 = .ok (values.first, text2))
    (second :
      readElement .perChannel 2 (readWord α) text2 = .ok (values.second, text3))
    (closed : closeArray text3 = .ok rest) :
    readPerChannel α text = .ok (values, rest) := by
  simp only [readPerChannel, bracket, master, first, second, closed, bind, Except.bind]
  rfl

/-- The words of all channels are read back from their text. -/
theorem readPerChannel_text
    (narrow : (FixedWidth.format α).bits ≤ 64)
    (values : PerChannel α)
    (rest : List Char) :
    readPerChannel α ((values.text ",").toList ++ rest) = .ok (values, rest) := by
  have first {word : α} {char : Char} {behind : List Char}
      (ends : endsNumber (char :: behind) = true) :
      readElement .perChannel 0 (readWord α) ((FixedWidth.text word).toList ++ char :: behind) =
        .ok (word, char :: behind) := by
    rw [readElement_zero (startsElement_text word _), readWord_text narrow ends]
  have later {index : Nat} {word : α} {char : Char} {behind : List Char}
      (positive : 0 < index)
      (ends : endsNumber (char :: behind) = true) :
      readElement .perChannel index (readWord α)
          (',' :: ((FixedWidth.text word).toList ++ char :: behind)) =
        .ok (word, char :: behind) := by
    rw [readElement_comma (startsElement_text word _) positive, readWord_text narrow ends]
  have comma (text : List Char) : ",".toList ++ text = ',' :: text := by
    rfl
  rw [PerChannel.toList_text]
  simp only [List.cons_append, List.append_assoc, List.nil_append, comma]
  exact readPerChannel_of_elements rfl (first rfl) (later (by decide) rfl)
    (later (by decide) rfl) rfl

end Words

/-- The value of a field is read back from its text. -/
theorem readValue_fieldText
    {rest : List Char}
    (ends : endsNumber rest = true)
    (report : Report)
    (field : Field) :
    readValue field ((report.fieldText "," field).toList ++ rest) =
      .ok (report.get field, rest) := by
  cases field with
  | sampleRate => exact readWord_text (α := UInt32) (by decide) ends report.sampleRate
  | altSetting => exact readWord_text (α := UInt8) (by decide) ends report.altSetting
  | mute => exact readPerChannel_text (α := Int8) (by decide) report.mute rest
  | volume => exact readPerChannel_text (α := Int16) (by decide) report.volume rest
  | fifoSize => exact readWord_text (α := UInt16) (by decide) ends report.fifoSize
  | fifoCount => exact readWord_text (α := UInt16) (by decide) ends report.fifoCount
  | fifoAverage => exact readWord_text (α := UInt16) (by decide) ends report.fifoAverage

end AudioScope.Report.Json
