import AudioScope.Proofs.Json.Spelling
import AudioScope.Proofs.Report.Json.FieldValue
import AudioScope.Report.Json.Form

namespace AudioScope.Report.Json

/-!
# Forms of field values

The readers of field values succeed exactly on the values of the right form
(`accepts_readValue`): they give what the form says and leave what follows the value.
Why the others are refused plays no part here, so readings are compared as options.
-/

open AudioScope.Json

section Options

variable {ε α β : Type}

theorem toOption_bind
    (result : Except ε α)
    (next : α → Except ε β) :
    (result.bind next).toOption = result.toOption.bind fun value => (next value).toOption := by
  cases result <;> rfl

theorem toOption_map
    (result : Except ε α)
    (change : α → β) :
    (result.map change).toOption = result.toOption.map change := by
  cases result <;> rfl

theorem toOption_eq_some
    {result : Except ε α}
    {value : α} :
    result.toOption = some value ↔ result = .ok value := by
  cases result <;> simp [Except.toOption]

end Options

/--
A reader gives what a form says of a value, and leaves what follows the value.  Where
the value does not have the form, the reader refuses it.
-/
def Accepts
    {α : Type}
    (read : List Char → Reading α)
    (form? : Value → Option α) : Prop :=
  ∀ (value : Value) (blanks : List Blank) {rest : List Char},
    endsNumber rest = true →
      (read (blankText blanks ++ (value.text ++ rest))).toOption =
        (form? value).map fun found => (found, rest)

section Elements

variable {α : Type} {read : List Char → Reading α} {form : Value → Option α}

/-- An element begins behind its comma, if it is not the first one, and its blanks. -/
theorem nextElement_comma
    (first : Bool)
    (blanks before : List Blank)
    {char : Char}
    (notBlank : isBlank char = false)
    (notClosing : char ≠ ']')
    (rest : List Char) :
    nextElement first (blankText blanks ++ (comma first ++ (blankText before ++ char :: rest))) =
      .ok (.item (char :: rest)) := by
  have found : skipBlanks (blankText before ++ char :: rest) = char :: rest :=
    skipBlanks_blankText_cons before notBlank rest
  cases first with
  | true => simp [nextElement, comma, skipBlanks_blankText, found, notClosing]
  | false =>
      have separated (rest : List Char) :
          skipBlanks (blankText blanks ++ ',' :: rest) = ',' :: rest :=
        skipBlanks_blankText_cons blanks (by rfl) rest
      simp [nextElement, comma, separated, found, notClosing]

/-- An element is found behind the comma that stands in front of it. -/
theorem nextElement_cons
    (first : Bool)
    (blanks : List Blank)
    (element : Element)
    (elements : List Element)
    (rest : List Char) :
    nextElement first (blankText blanks ++ (elementsText first (element :: elements) ++ rest)) =
      .ok (.item (element.value.text ++
        (blankText element.behind ++ (elementsText false elements ++ rest)))) := by
  obtain ⟨char, more, shape, notBlank, notClosing⟩ := element.value.text_eq_cons
  have items :
      elementsText first (element :: elements) ++ rest =
        comma first ++ (blankText element.before ++ (element.value.text ++
          (blankText element.behind ++ (elementsText false elements ++ rest)))) := by
    rw [elementsText, comma, List.append_assoc, List.append_assoc, Element.text_append]
  rw [items, shape]
  exact nextElement_comma first blanks element.before notBlank notClosing _

theorem nextElement_end
    (first : Bool)
    (blanks : List Blank)
    (rest : List Char) :
    nextElement first (blankText blanks ++ ']' :: rest) = .ok (.closed rest) := by
  rw [nextElement, skipBlanks_blankText_cons blanks (by rfl)]
  simp

/-- What is read as an element of an array, and what is left behind it. -/
def elementForm?
    (form : Value → Option α)
    (rest : List Char) :
    List Element → Option (α × List Char)
  | [] => none
  | element :: elements =>
      (form element.value).map fun found =>
        (found, blankText element.behind ++ (elementsText false elements ++ ']' :: rest))

/-- Reading an element is reading its value, if there is one more element. -/
theorem Accepts.readElement
    (accepts : Accepts read form)
    (wanted : Wanted)
    (index : Nat)
    (blanks : List Blank)
    (elements : List Element)
    (rest : List Char) :
    (readElement wanted index read
        (blankText blanks ++ (elementsText (index == 0) elements ++ ']' :: rest))).toOption =
      elementForm? form rest elements := by
  cases elements with
  | nil =>
      rw [elementsText_nil, List.nil_append, Json.readElement, nextElement_end]
      rfl
  | cons element elements =>
      rw [Json.readElement, nextElement_cons]
      have ends : endsNumber (elementsText false elements ++ ']' :: rest) = true :=
        endsNumber_elementsText elements (by rfl)
      exact accepts element.value [] (endsNumber_blankText element.behind ends)

/-- An array is closed where no elements are left. -/
theorem toOption_closeArray
    (first : Bool)
    (blanks : List Blank)
    (elements : List Element)
    (rest : List Char) :
    (closeArray (blankText blanks ++ (elementsText first elements ++ ']' :: rest))).toOption =
      if elements.isEmpty then some rest else none := by
  cases elements with
  | nil =>
      rw [elementsText_nil, List.nil_append, closeArray, skipBlanks_blankText_cons blanks (by rfl)]
      rfl
  | cons element elements =>
      cases first with
      | true =>
          obtain ⟨char, more, shape, notBlank, notClosing⟩ := element.value.text_eq_cons
          rw [(elementsText_cons element elements _).1, closeArray, Element.skipBlanks_text, shape,
            List.cons_append]
          split
          · next empty => cases empty
          · next closing => exact absurd (List.cons.inj closing).1 notClosing
          · rfl
      | false =>
          rw [(elementsText_cons element elements _).2, closeArray,
            skipBlanks_blankText_cons blanks (by rfl)]
          rfl

end Elements

section Words

variable {α : Type} [FixedWidth α]

/-- A number that has the form of a word is read as the integer of the word. -/
theorem readNumber_of_wordForm?
    (narrow : (FixedWidth.format α).bits ≤ 64)
    {number : Number}
    {word : α}
    (form : wordForm? α (.number number) = some word)
    {rest : List Char}
    (ends : endsNumber rest = true) :
    readNumber (number.text ++ rest) = .ok (.integer (FixedWidth.toInt word), rest) := by
  obtain ⟨value, spells, fits⟩ := Option.bind_eq_some_iff.mp form
  obtain rfl := FixedWidth.toInt_of_ofInt? fits
  obtain ⟨low, high⟩ := toInt_within narrow word
  exact readNumber_of_integer? ends spells low high

/-- A number that is not read as an integer does not have the form of a word. -/
theorem wordForm?_eq_none
    (narrow : (FixedWidth.format α).bits ≤ 64)
    {number : Number}
    {rest : List Char}
    (ends : endsNumber rest = true)
    (different : ∀ value, readNumber (number.text ++ rest) ≠ .ok (.integer value, rest)) :
    wordForm? α (.number number) = none := by
  rw [Option.eq_none_iff_forall_ne_some]
  exact fun word form => different _ (readNumber_of_wordForm? narrow form ends)

theorem accepts_readWord (narrow : (FixedWidth.format α).bits ≤ 64) :
    Accepts (readWord α) (wordForm? α) := by
  intro value blanks rest ends
  simp only [readWord, Value.skipBlanks_text]
  cases value with
  | number number =>
      have starts : startsNumber (number.text ++ rest) = true := by
        obtain ⟨first, more, shape, numeral⟩ := number.text_eq_cons
        rw [shape]
        exact numeral
      rw [Value.text, if_pos starts]
      cases read : readNumber (number.text ++ rest) with
      | error flaw =>
          rw [wordForm?_eq_none narrow ends fun value => by simp [read]]
          rfl
      | ok reading =>
          obtain ⟨numeral, behind⟩ := reading
          cases numeral with
          | integer value =>
              obtain ⟨spells, rfl⟩ := integer_of_readNumber ends read
              simp only [wordForm?, spells, Option.bind_some, wordOf]
              cases (FixedWidth.ofInt? value : Option α) <;> rfl
          | decimal value =>
              rw [wordForm?_eq_none narrow ends fun value => by simp [read]]
              rfl
  | null => rw [Value.text]; rfl
  | boolean value => cases value <;> (rw [Value.text]; rfl)
  | string pieces => rw [Value.text]; rfl
  | array inner elements => rw [Value.text]; rfl
  | object inner members => rw [Value.text]; rfl

/-- Nothing but an array is taken for the values of all channels. -/
theorem toOption_readPerChannel_of_ne
    {value : Value}
    (noArray : ∀ inner elements, value ≠ .array inner elements)
    (blanks : List Blank)
    (rest : List Char) :
    (readPerChannel α (blankText blanks ++ (value.text ++ rest))).toOption = none := by
  rw [readPerChannel, Value.skipBlanks_text]
  cases value with
  | number number =>
    obtain ⟨first, more, shape, numeral⟩ := number.text_eq_cons
    rw [Value.text, shape, List.cons_append]
    split
    · next bracket => cases bracket; cases numeral
    · rfl
  | null => rw [Value.text]; rfl
  | boolean value => cases value <;> (rw [Value.text]; rfl)
  | string pieces => rw [Value.text]; rfl
  | array inner elements => exact absurd rfl (noArray inner elements)
  | object inner members => rw [Value.text]; rfl

theorem accepts_readPerChannel (narrow : (FixedWidth.format α).bits ≤ 64) :
    Accepts (readPerChannel α) (perChannelForm? α) := by
  intro value blanks rest ends
  cases value with
  | array inner elements =>
      have found := Value.skipBlanks_array blanks inner elements rest
      have words := accepts_readWord (α := α) narrow
      have master (blanks : List Blank) (elements : List Element) :=
        words.readElement .perChannel 0 blanks elements rest
      have first (blanks : List Blank) (elements : List Element) :=
        words.readElement .perChannel 1 blanks elements rest
      have second (blanks : List Blank) (elements : List Element) :=
        words.readElement .perChannel 2 blanks elements rest
      simp only [beq_self_eq_true, Nat.reduceBEq] at master first second
      simp only [readPerChannel, found, bind, toOption_bind, master]
      -- Nothing but three elements is read to the end and then closed.
      rcases elements with _ | ⟨one, _ | ⟨two, _ | ⟨three, _ | ⟨four, more⟩⟩⟩⟩
      case cons.cons.cons.nil =>
        simp only [elementForm?, Option.bind_map, Function.comp_def, first, second,
          toOption_closeArray, perChannelForm?]
        cases wordForm? α one.value <;> cases wordForm? α two.value <;>
          cases wordForm? α three.value <;> rfl
      all_goals
        simp [elementForm?, Option.bind_map, first, second, toOption_closeArray, perChannelForm?]
  | _ =>
      exact toOption_readPerChannel_of_ne (fun _ _ array => by cases array) blanks rest

end Words

/-- The reader of a field accepts the form of the field. -/
theorem accepts_readValue (field : Field) : Accepts (readValue field) (form? field) := by
  cases field with
  | sampleRate => exact accepts_readWord (α := UInt32) (by decide)
  | altSetting => exact accepts_readWord (α := UInt8) (by decide)
  | mute => exact accepts_readPerChannel (α := Int8) (by decide)
  | volume => exact accepts_readPerChannel (α := Int16) (by decide)
  | fifoSize => exact accepts_readWord (α := UInt16) (by decide)
  | fifoCount => exact accepts_readWord (α := UInt16) (by decide)
  | fifoAverage => exact accepts_readWord (α := UInt16) (by decide)

end AudioScope.Report.Json
