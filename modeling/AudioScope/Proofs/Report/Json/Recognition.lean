import AudioScope.Proofs.Json.Recognition
import AudioScope.Proofs.Report.Json.Entering

namespace AudioScope.Report.Json

/-!
# What is read is a report's JSON

Where the readers of field values succeed they have read the text of a value of the
field's form, and where reading the members of an object succeeds these are members that
can be entered one after the other (`exists_members`).
-/

open AudioScope.Json

/-- What a reader reads is the text of a value, of which a form gives what has been read. -/
def Recognizes
    {α : Type}
    (read : List Char → Reading α)
    (form? : Value → Option α) : Prop :=
  ∀ {text rest : List Char} {found : α},
    read text = .ok (found, rest) →
      ∃ (blanks : List Blank) (value : Value),
        text = blankText blanks ++ (value.text ++ rest) ∧ form? value = some found

section Values

variable {α : Type} {text rest : List Char}

/-- An element begins behind its comma, if it is not the first one, and its blanks. -/
theorem exists_element
    {first : Bool}
    {item : List Char}
    (next : nextElement first text = .ok (.item item)) :
    ∃ blanks before, text = blankText blanks ++ (comma first ++ (blankText before ++ item)) := by
  obtain ⟨blanks, same⟩ := exists_blankText text
  unfold nextElement at next
  split at next
  · cases next
  · next char tail found =>
    rw [found] at same
    split at next
    · cases next
    · split at next
      · next isFirst =>
        cases next
        exact ⟨blanks, [], by rw [same, isFirst]; rfl⟩
      · next notFirst =>
        split at next
        · next isComma =>
          obtain ⟨before, sameTail⟩ := exists_blankText tail
          split at next
          · cases next
          · next found' =>
            split at next
            · cases next
            · cases next
              refine ⟨blanks, before, ?_⟩
              rw [same, isComma, Bool.eq_false_iff.mpr notFirst, sameTail, found']
              rfl
        · cases next

theorem Recognizes.readElement
    {read : List Char → Reading α}
    {form? : Value → Option α}
    (recognizes : Recognizes read form?)
    {wanted : Wanted}
    {index : Nat}
    {found : α}
    (element : readElement wanted index read text = .ok (found, rest)) :
    ∃ blanks before value,
      text =
          blankText blanks ++ (comma (index == 0) ++ (blankText before ++ (value.text ++ rest))) ∧
        form? value = some found := by
  unfold Json.readElement at element
  split at element
  · cases element
  · cases element
  · next item next =>
    obtain ⟨blanks, before, rfl⟩ := exists_element next
    obtain ⟨more, value, rfl, form⟩ := recognizes element
    refine ⟨blanks, before ++ more, value, ?_, form⟩
    simp [blankText]

theorem exists_closing (closed : closeArray text = .ok rest) :
    ∃ blanks, text = blankText blanks ++ ']' :: rest := by
  obtain ⟨blanks, same⟩ := exists_blankText text
  unfold closeArray at closed
  split at closed
  · cases closed
  · next found =>
    cases closed
    exact ⟨blanks, by rw [same, found]⟩
  · cases closed

variable [FixedWidth α]

theorem recognizes_readWord : Recognizes (readWord α) (wordForm? α) := by
  intro text rest word read
  obtain ⟨blanks, same⟩ := exists_blankText text
  simp only [readWord] at read
  split at read
  · split at read
    · cases read
    · next numeral behind number =>
      cases numeral with
      | decimal value => cases read
      | integer value =>
          cases fits : (FixedWidth.ofInt? value : Option α) with
          | none => simp only [wordOf, fits] at read; cases read
          | some found =>
              simp only [wordOf, fits] at read
              cases read
              obtain ⟨number, shape, spells⟩ := exists_integer number
              refine ⟨blanks, .number number, ?_, ?_⟩
              · rw [Value.text, ← shape]
                exact same
              · rw [wordForm?, spells, Option.bind_some, fits]
  · cases read

theorem recognizes_readPerChannel : Recognizes (readPerChannel α) (perChannelForm? α) := by
  intro text rest values read
  obtain ⟨blanks, same⟩ := exists_blankText text
  unfold readPerChannel at read
  split at read
  · next tail found =>
    simp only [bind, Except.bind] at read
    split at read
    · cases read
    · next master element0 =>
      split at read
      · cases read
      · next first element1 =>
        split at read
        · cases read
        · next second element2 =>
          split at read
          · cases read
          · next closed =>
            cases read
            have words : Recognizes (readWord α) (wordForm? α) := recognizes_readWord
            obtain ⟨inner, front0, value0, tailSame, form0⟩ := words.readElement element0
            obtain ⟨behind0, front1, value1, left0, form1⟩ := words.readElement element1
            obtain ⟨behind1, front2, value2, left1, form2⟩ := words.readElement element2
            obtain ⟨behind2, left2⟩ := exists_closing closed
            refine ⟨blanks, .array inner [⟨front0, value0, behind0⟩, ⟨front1, value1, behind1⟩,
              ⟨front2, value2, behind2⟩], ?_, ?_⟩
            · rw [same, found, tailSame, left0, left1, left2]
              simp [Value.text, elementsText, Element.text, comma]
            · simp [perChannelForm?, form0, form1, form2]
  · cases read

end Values

/-- What is read as the value of a field is a value of the field's form. -/
theorem recognizes_readValue (field : Field) : Recognizes (readValue field) (form? field) := by
  cases field with
  | sampleRate => exact recognizes_readWord (α := UInt32)
  | altSetting => exact recognizes_readWord (α := UInt8)
  | mute => exact recognizes_readPerChannel (α := Int8)
  | volume => exact recognizes_readPerChannel (α := Int16)
  | fifoSize => exact recognizes_readWord (α := UInt16)
  | fifoCount => exact recognizes_readWord (α := UInt16)
  | fifoAverage => exact recognizes_readWord (α := UInt16)

section Members

variable {draft filled : Draft} {text rest : List Char}

/-- A key begins behind its comma, if it is not the first one, and its blanks. -/
theorem exists_nextKey
    {first : Bool}
    {key : List Char}
    (next : nextKey first text = .ok (.item key)) :
    ∃ blanks before,
      text = blankText blanks ++ (comma first ++ (blankText before ++ '"' :: key)) := by
  obtain ⟨blanks, same⟩ := exists_blankText text
  unfold nextKey at next
  split at next
  · cases next
  · cases next
  · next found =>
    split at next
    · next isFirst =>
      cases next
      exact ⟨blanks, [], by rw [same, found, isFirst]; rfl⟩
    · cases next
  · next tail found =>
    split at next
    · cases next
    · next notFirst =>
      obtain ⟨before, sameTail⟩ := exists_blankText tail
      split at next
      · cases next
      · next found' =>
        cases next
        refine ⟨blanks, before, ?_⟩
        rw [same, found, Bool.eq_false_iff.mpr notFirst, sameTail, found']
        rfl
      · cases next
  · cases next

theorem exists_nextEnd
    {first : Bool}
    (next : nextKey first text = .ok (.closed rest)) :
    ∃ blanks, text = blankText blanks ++ '\x7d' :: rest := by
  obtain ⟨blanks, same⟩ := exists_blankText text
  unfold nextKey at next
  split at next
  · cases next
  · next found =>
    cases next
    exact ⟨blanks, by rw [same, found]⟩
  · split at next <;> cases next
  · split at next
    · cases next
    · split at next <;> cases next
  · cases next

/-- Behind its key a field is entered that was not known. -/
theorem exists_fieldValue
    {field : Field}
    (read : readField draft field text = .ok (filled, rest)) :
    ∃ behind front value,
      text = blankText behind ++ ':' :: (blankText front ++ (Value.text value ++ rest)) ∧
        (enterValue? field (draft field) value).map (draft.put field) = some filled := by
  unfold readField at read
  split at read
  · cases read
  · next unknown =>
    split at read
    · cases read
    · next start colon =>
      obtain ⟨behind, rfl⟩ := exists_colon colon
      split at read
      · cases read
      · next found valueRead =>
        simp only [Except.ok.injEq, Prod.mk.injEq] at read
        obtain ⟨rfl, rfl⟩ := read
        obtain ⟨front, value, rfl, form⟩ := recognizes_readValue field valueRead
        exact ⟨behind, front, value, rfl, by rw [enterValue?, if_neg unknown, form]; rfl⟩

/-- What is read behind a quote is a member that can be entered, with any blanks around it. -/
theorem exists_member
    (read : readMember draft text = .ok (filled, rest))
    (before after : List Blank)
    {left : List Char}
    (same : rest = blankText after ++ left) :
    ∃ member : NamedMember,
      member.before = before ∧ text = member.opened left ∧ enter? draft member = some filled := by
  unfold readMember at read
  split at read
  · cases read
  · next chars behindKey string =>
    obtain ⟨key, spelled, rfl⟩ := exists_pieces_of_readString string
    let memberOf (behind front : List Blank) (value : Value) : NamedMember :=
      ⟨⟨before, key, behind, ⟨front, value, after⟩⟩, chars, spelled⟩
    split at read
    · next field named =>
      obtain ⟨behind, front, value, rfl, entered⟩ := exists_fieldValue read
      have key : Field.ofKey? (memberOf behind front value).name = some field := named
      refine ⟨memberOf behind front value, rfl, ?_, by rw [enter?_of_key key]; exact entered⟩
      simp [memberOf, Member.opened, Element.text, same]
    · next foreign =>
      split at read
      · cases read
      · next skipped =>
        simp only [Except.ok.injEq, Prod.mk.injEq] at read
        obtain ⟨rfl, rfl⟩ := read
        unfold skipMember at skipped
        split at skipped
        · cases skipped
        · next colon =>
          obtain ⟨behind, rfl⟩ := exists_colon colon
          obtain ⟨front, value, rfl⟩ := exists_value_of_skipValue skipped
          have key : Field.ofKey? (memberOf behind front value).name = none := foreign
          refine ⟨memberOf behind front value, rfl, ?_, enter?_of_foreign key draft⟩
          simp [memberOf, Member.opened, Element.text, same]

/-- What is read within the brackets of an object are members that can be entered. -/
theorem exists_members
    {first : Bool}
    (read : readMembers first draft text = .ok (filled, rest)) :
    ∃ (blanks : List Blank) (members : List NamedMember),
      text =
          blankText blanks ++
            (membersText first (members.map NamedMember.toMember) ++ '\x7d' :: rest) ∧
        members.foldlM enter? draft = some filled := by
  fun_induction readMembers first draft text with
  | case1 => cases read
  | case2 first draft text behind next =>
      cases read
      obtain ⟨blanks, rfl⟩ := exists_nextEnd next
      exact ⟨blanks, [], by rw [List.map_nil, membersText_nil, List.nil_append], rfl⟩
  | case3 => cases read
  | case4 first draft text key next known behind memberRead inductionHypothesis =>
      obtain ⟨blanks, before, rfl⟩ := exists_nextKey next
      obtain ⟨after, members, same, entered⟩ := inductionHypothesis read
      obtain ⟨member, rfl, rfl, enteredFirst⟩ := exists_member memberRead before after same
      refine ⟨blanks, member :: members, ?_, ?_⟩
      · rw [← Member.text_append, List.map_cons, membersText, comma]
        simp
      · rw [List.foldlM_cons, enteredFirst]
        exact entered

end Members

end AudioScope.Report.Json
