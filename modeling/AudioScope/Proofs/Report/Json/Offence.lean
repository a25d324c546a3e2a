import AudioScope.Proofs.Json.Numeral
import AudioScope.Proofs.Report.Json.Entering
import AudioScope.Report.Json.Offence

namespace AudioScope.Report

/-!
# Refused at what is wrong

Reading stops at a text that shows a problem, whatever stands behind it: where a word
should stand (`SpoilsWord.stops`), where the value of a field should stand
(`Spoils.stops`), and behind the members of an object (`Offends.readReport`).
-/

namespace Draft

/-- Requiring a field fails, or what comes next does, with the first one that is missing. -/
theorem require_bind_of_find?
    {α : Type}
    {draft : Draft}
    {field missing : Field}
    {fields : List Field}
    {next : field.Value → Except Field α}
    (first : (field :: fields).find? (fun field => (draft field).isNone) = some missing)
    (later :
      ∀ value, fields.find? (fun field => (draft field).isNone) = some missing →
        next value = .error missing) :
    (draft.require field >>= next) = .error missing := by
  unfold require
  cases known : draft field with
  | none =>
      rw [List.find?_cons_of_pos (by rw [known]; rfl)] at first
      cases first
      rfl
  | some value =>
      rw [List.find?_cons_of_neg (by rw [known]; exact Bool.false_ne_true)] at first
      exact later value first

/-- A draft is refused for the first field that it does not know. -/
theorem report?_of_find?
    {draft : Draft}
    {missing : Field}
    (first : Field.all.find? (fun field => (draft field).isNone) = some missing) :
    draft.report? = .error missing := by
  refine require_bind_of_find? first fun _ first => ?_
  refine require_bind_of_find? first fun _ first => ?_
  refine require_bind_of_find? first fun _ first => ?_
  refine require_bind_of_find? first fun _ first => ?_
  refine require_bind_of_find? first fun _ first => ?_
  refine require_bind_of_find? first fun _ first => ?_
  refine require_bind_of_find? first fun _ first => ?_
  cases first

end Draft

namespace Json

open AudioScope.Json

/-- A text at which reading stops with a refusal, whatever stands behind it. -/
def Stops
    {α : Type}
    (read : List Char → Reading α)
    (text : List Char)
    (refusal : Refusal) : Prop :=
  ∀ (blanks : List Blank) (rest : List Char),
    read (blankText blanks ++ (text ++ rest)) = .error refusal

section Shown

variable {text : List Char} {found : Except Flaw Found}

/-- A number in front of the character that ends it. -/
theorem readNumber_delimited
    {number : Number}
    {delimiter : Char}
    (ends : number.continues delimiter = false)
    (rest : List Char) :
    readNumber (number.text ++ delimiter :: rest) =
      number.numeral.map fun numeral => (numeral, delimiter :: rest) := by
  have endsHere : number.EndsAt (delimiter :: rest) := ends
  rw [readNumber_append number endsHere, Number.numeral]
  cases readNumber number.text <;> rfl

/-- What shows a value begins neither with a blank nor with the end of an array. -/
theorem Shows.text_eq_cons (shows : Shows text found) :
    ∃ first more, text = first :: more ∧ isBlank first = false ∧ first ≠ ']' := by
  cases shows with
  | null => exact Value.null.text_eq_cons
  | boolean value => exact (Value.boolean value).text_eq_cons
  | string spelled => exact ⟨_, _, rfl, rfl, by decide⟩
  | surrogate lone => exact ⟨_, _, rfl, rfl, by decide⟩
  | number number ends =>
      obtain ⟨first, more, shape, notBlank, notClosing⟩ := (Value.number number).text_eq_cons
      rw [Value.text] at shape
      exact ⟨first, _, by rw [shape, List.cons_append], notBlank, notClosing⟩
  | sequence => exact ⟨_, _, rfl, rfl, by decide⟩
  | map => exact ⟨_, _, rfl, rfl, by decide⟩

theorem Shows.skipBlanks_text
    (shows : Shows text found)
    (blanks : List Blank)
    (rest : List Char) :
    skipBlanks (blankText blanks ++ (text ++ rest)) = text ++ rest := by
  obtain ⟨first, more, rfl, notBlank, -⟩ := shows.text_eq_cons
  exact skipBlanks_blankText_cons blanks notBlank (more ++ rest)

/-- A string is refused for the text that it spells, or because it spells none. -/
theorem refuse_quotedText
    (wanted : Wanted)
    (pieces : List Piece)
    (rest : List Char) :
    refuse wanted (quotedText pieces ++ rest) =
      match spelled? pieces with
      | some chars => .content (.wrongType (.text (String.ofList chars)) wanted)
      | none => .text .malformed := by
  rw [quotedText, List.cons_append, List.append_assoc, List.singleton_append, refuse,
    readString_pieces]
  cases spelled? pieces <;> rfl

/-- A number is refused for what it is read as, or for its flaw. -/
theorem refuse_number
    (wanted : Wanted)
    (number : Number)
    {delimiter : Char}
    (ends : number.continues delimiter = false)
    (rest : List Char) :
    refuse wanted (number.text ++ delimiter :: rest) =
      wanted.refusal (number.numeral.map .ofNumeral) := by
  have read := readNumber_delimited ends rest
  obtain ⟨first, more, shape, numeral⟩ := number.text_eq_cons
  rw [shape, List.cons_append] at read ⊢
  unfold refuse
  split
  · next empty => cases empty
  -- No number begins with a character that another value begins with.
  iterate 6 next other => cases other; cases numeral
  · next same =>
    cases same
    have starts : (first == '-' || first.isDigit) = true := numeral
    rw [if_pos starts, read]
    cases number.numeral <;> rfl

/-- A value that cannot be what is wanted is refused for what it is found to be. -/
theorem Shows.refuse
    (shows : Shows text found)
    (wanted : Wanted)
    (rest : List Char) :
    refuse wanted (text ++ rest) = wanted.refusal found := by
  cases shows with
  | null => rw [Value.text]; rfl
  | boolean value => cases value <;> (rw [Value.text]; rfl)
  | string spelled => rw [refuse_quotedText, spelled]; rfl
  | surrogate lone => rw [refuse_quotedText, lone]; rfl
  | number number ends => rw [List.append_assoc]; exact refuse_number wanted number ends rest
  | sequence => rfl
  | map => rfl

end Shown

section Words

variable {α : Type} [FixedWidth α] {text : List Char} {refusal : Refusal}

/-- A number that has been ended is turned into a word, if it is not flawed. -/
theorem readWord_delimited
    {number : Number}
    {delimiter : Char}
    (ends : number.continues delimiter = false)
    (blanks : List Blank)
    (rest : List Char) :
    readWord α (blankText blanks ++ ((number.text ++ [delimiter]) ++ rest)) =
      match number.numeral with
      | .error flaw => .error (.text flaw)
      | .ok numeral => (wordOf α numeral).map fun word => (word, delimiter :: rest) := by
  have starts : startsNumber (number.text ++ delimiter :: rest) = true := by
    obtain ⟨first, more, shape, numeral⟩ := number.text_eq_cons
    rw [shape]
    exact numeral
  have found := (Shows.number number ends).skipBlanks_text blanks rest
  rw [List.append_assoc, List.singleton_append] at found ⊢
  simp only [readWord, found, starts, if_true, readNumber_delimited ends]
  cases number.numeral <;> rfl

/-- An integer is refused that no word stands for. -/
theorem Shows.readWord_of_integer
    {value : Int}
    (shows : Shows text (.ok (.integer value)))
    (outside : (FixedWidth.ofInt? value : Option α) = none) :
    Stops (readWord α) text (.content (.outOfRange value (FixedWidth.format α))) := by
  intro blanks rest
  generalize integer : Except.ok (Found.integer value) = found at shows
  cases shows with
  | @number number delimiter ends =>
      rw [readWord_delimited ends]
      cases read : number.numeral with
      | error flaw => rw [read] at integer; cases integer
      | ok numeral =>
          rw [read] at integer
          cases numeral with
          | integer same =>
              cases integer
              simp only [wordOf, outside]
              rfl
          | decimal => cases integer
  | _ => cases integer

/-- Anything but an integer is refused where a word should stand. -/
theorem Shows.readWord_of_ne
    {found : Except Flaw Found}
    (shows : Shows text found)
    (noInteger : ∀ value, found ≠ .ok (.integer value)) :
    Stops (readWord α) text ((Wanted.word (FixedWidth.format α)).refusal found) := by
  intro blanks rest
  have refused := shows.refuse (.word (FixedWidth.format α)) rest
  have foreign (noNumber : startsNumber (text ++ rest) = false) :
      readWord α (blankText blanks ++ (text ++ rest)) =
        .error ((Wanted.word (FixedWidth.format α)).refusal found) := by
    simp only [readWord, shows.skipBlanks_text, noNumber, refused]
    rfl
  cases shows with
  | null => exact foreign (by rw [Value.text]; rfl)
  | boolean value => exact foreign (by cases value <;> (rw [Value.text]; rfl))
  | string spelled => exact foreign rfl
  | surrogate lone => exact foreign rfl
  | number number ends =>
      rw [readWord_delimited ends]
      cases read : number.numeral with
      | error flaw => rfl
      | ok numeral =>
          cases numeral with
          | integer value => exact absurd (by rw [read]; rfl) (noInteger value)
          | decimal value => rfl
  | sequence => exact foreign rfl
  | map => exact foreign rfl

/-- A word is refused for what is found in its place. -/
theorem SpoilsWord.stops (spoils : SpoilsWord α text refusal) :
    Stops (readWord α) text refusal := by
  cases spoils with
  | outOfRange shows outside =>
      exact shows.readWord_of_integer (FixedWidth.ofInt?_eq_none_iff.mpr outside)
  | foreign shows noInteger => exact shows.readWord_of_ne noInteger

end Words

section Arrays

variable {α : Type} [FixedWidth α] {text : List Char} {refusal : Refusal}

theorem SpoilsWord.text_eq_cons (spoils : SpoilsWord α text refusal) :
    ∃ first more, text = first :: more ∧ isBlank first = false ∧ first ≠ ']' := by
  cases spoils with
  | outOfRange shows => exact shows.text_eq_cons
  | foreign shows => exact shows.text_eq_cons

/-- An element is read that has the form of a word. -/
theorem readElement_word
    (narrow : (FixedWidth.format α).bits ≤ 64)
    (wanted : Wanted)
    (index : Nat)
    (blanks : List Blank)
    {element : Element}
    {word : α}
    (form : wordForm? α element.value = some word)
    {elements : List Element}
    {rest : List Char}
    (ends : endsNumber (elementsText false elements ++ rest) = true) :
    readElement wanted index (readWord α)
        (blankText blanks ++ (elementsText (index == 0) (element :: elements) ++ rest)) =
      .ok (word, blankText element.behind ++ (elementsText false elements ++ rest)) := by
  have read :=
    accepts_readWord narrow element.value [] (endsNumber_blankText element.behind ends)
  rw [form] at read
  rw [readElement, nextElement_cons]
  exact toOption_eq_some.mp read

/-- Reading stops at an element that should be there. -/
theorem readElement_closed
    (wanted : Wanted)
    (index : Nat)
    (blanks : List Blank)
    (rest : List Char) :
    readElement wanted index (readWord α) (blankText blanks ++ ([']'] ++ rest)) =
      .error (.content (.tooShort index wanted)) := by
  rw [readElement, List.singleton_append, nextElement_end]

/-- Reading stops at an element that is no word. -/
theorem SpoilsWord.readElement
    (spoils : SpoilsWord α text refusal)
    (wanted : Wanted)
    (index : Nat)
    (blanks before : List Blank)
    (rest : List Char) :
    readElement wanted index (readWord α)
        (blankText blanks ++ (comma (index == 0) ++ (blankText before ++ text) ++ rest)) =
      .error refusal := by
  have stopped := spoils.stops [] rest
  obtain ⟨first, more, rfl, notBlank, notClosing⟩ := spoils.text_eq_cons
  rw [Json.readElement, List.append_assoc, List.append_assoc, List.cons_append,
    nextElement_comma (index == 0) blanks before notBlank notClosing]
  exact stopped

/-- An array is refused where reading its elements stops. -/
theorem Beginning.stops
    (narrow : (FixedWidth.format α).bits ≤ 64)
    {elements : List Element}
    (beginning : Beginning α elements)
    {tail : List Char}
    (ends : elements ≠ [] → ∀ rest, endsNumber (tail ++ rest) = true)
    (halts :
      ∀ blanks rest,
        readElement .perChannel elements.length (readWord α) (blankText blanks ++ (tail ++ rest)) =
          .error refusal)
    (inner : List Blank) :
    Stops (readPerChannel α) ('[' :: (blankText inner ++ (elementsText true elements ++ tail)))
      refusal := by
  intro blanks rest
  obtain ⟨words, few⟩ := beginning
  have bracket (rest : List Char) : skipBlanks (blankText blanks ++ '[' :: rest) = '[' :: rest :=
    skipBlanks_blankText_cons blanks (by rfl) rest
  have word {element : Element} (member : element ∈ elements) :=
    Option.isSome_iff_exists.mp (words element member)
  have endsBehind (some : elements ≠ []) (others : List Element) :
      endsNumber (elementsText false others ++ (tail ++ rest)) = true :=
    endsNumber_elementsText others (ends some rest)
  simp only [readPerChannel, List.cons_append, List.append_assoc, bracket, bind, Except.bind]
  -- The elements in front are read as words, one reading for each, and then reading stops.
  rcases elements with _ | ⟨one, _ | ⟨two, _ | ⟨three, others⟩⟩⟩
  · have stopped := halts inner rest
    rw [elementsText_nil, List.nil_append]
    rw [List.length_nil] at stopped
    rw [stopped]
  · obtain ⟨master, masterForm⟩ := word (List.mem_singleton_self one)
    have endsFirst := endsBehind (List.cons_ne_nil one []) []
    have first := readElement_word narrow .perChannel 0 inner masterForm endsFirst
    have stopped := halts one.behind rest
    simp only [beq_self_eq_true, elementsText_nil, List.nil_append] at first
    rw [List.length_singleton] at stopped
    simp only [first, stopped]
  · obtain ⟨master, masterForm⟩ := word List.mem_cons_self
    obtain ⟨left, leftForm⟩ := word (List.mem_cons_of_mem one (List.mem_singleton_self two))
    have endsFirst := endsBehind (List.cons_ne_nil one [two]) [two]
    have endsSecond := endsBehind (List.cons_ne_nil one [two]) []
    have first := readElement_word narrow .perChannel 0 inner masterForm endsFirst
    have second := readElement_word narrow .perChannel 1 one.behind leftForm endsSecond
    have stopped := halts two.behind rest
    simp only [Nat.reduceBEq, beq_self_eq_true, elementsText_nil, List.nil_append] at first second
    simp only [List.length_cons, List.length_nil] at stopped
    simp only [first, second, stopped]
  · simp only [List.length_cons, PerChannel.slots, channelCount] at few
    omega

/-- The values of all channels are refused for what is found in their place. -/
theorem SpoilsPerChannel.stops
    (narrow : (FixedWidth.format α).bits ≤ 64)
    (spoils : SpoilsPerChannel α text refusal) :
    Stops (readPerChannel α) text refusal := by
  cases spoils with
  | @foreign _ found shows noSequence =>
      intro blanks rest
      have refused := shows.refuse .perChannel rest
      rw [readPerChannel, shows.skipBlanks_text]
      split
      · next bracket =>
        rw [bracket] at refused
        cases found with
        | error flaw => cases refused
        | ok found => cases refused; exact absurd rfl noSequence
      · rw [refused]
  | tooShort inner beginning =>
      exact beginning.stops narrow (fun _ _ => rfl) (readElement_closed .perChannel _) inner
  | @element inner elements beginning before text refusal spoils =>
      have first : elements.isEmpty = (elements.length == 0) := by
        cases elements <;> rfl
      refine beginning.stops narrow (fun some rest => ?_) (fun blanks rest => ?_) inner
      · rw [List.isEmpty_eq_false_iff.mpr some]
        rfl
      · rw [first]
        exact spoils.readElement .perChannel elements.length blanks before rest

end Arrays

/-- The value of a field is refused for what is found in its place. -/
theorem Spoils.stops
    {field : Field}
    {text : List Char}
    {refusal : Refusal}
    (spoils : Spoils field text refusal) :
    Stops (readValue field) text refusal := by
  cases field with
  | sampleRate => exact SpoilsWord.stops (α := UInt32) spoils
  | altSetting => exact SpoilsWord.stops (α := UInt8) spoils
  | mute => exact SpoilsPerChannel.stops (α := Int8) (by decide) spoils
  | volume => exact SpoilsPerChannel.stops (α := Int16) (by decide) spoils
  | fifoSize => exact SpoilsWord.stops (α := UInt16) spoils
  | fifoCount => exact SpoilsWord.stops (α := UInt16) spoils
  | fifoAverage => exact SpoilsWord.stops (α := UInt16) spoils

section Members

variable {members : List NamedMember} {text : List Char} {refusal : Refusal}

/-- Members in order can all be entered, and what is known then are the fields they give. -/
theorem InOrder.entered (inOrder : InOrder members) :
    ∃ filled,
      members.foldlM enter? .blank = some filled ∧
        ∀ field, (filled field).isNone = (valuesAt field.key members).isEmpty := by
  let filled : Draft := fun field => (valuesAt field.key members).head?.bind (form? field)
  refine ⟨filled, foldlM_enter?_eq_some.mpr fun field => ?_, fun field => ?_⟩
  · show enterValues? field none (valuesAt field.key members) =
      some ((valuesAt field.key members).head?.bind (form? field))
    rcases inOrder field with none | ⟨value, single, fits⟩
    · rw [none]
      rfl
    · obtain ⟨found, form⟩ := Option.isSome_iff_exists.mp fits
      rw [single, List.head?_cons, Option.bind_some, form]
      exact enterValues?_eq_some.mpr ⟨value, rfl, form⟩
  · show ((valuesAt field.key members).head?.bind (form? field)).isNone = _
    rcases inOrder field with none | ⟨value, single, fits⟩
    · rw [none]
      rfl
    · rw [single, List.head?_cons, Option.bind_some, ← Option.not_isSome, fits]
      rfl

/-- Behind members that can be entered reading goes on with what they make known. -/
theorem readMembers_entered
    (first : Bool)
    {draft filled : Draft}
    (blanks : List Blank)
    (entered : members.foldlM enter? draft = some filled)
    {rest : List Char}
    (ends : members ≠ [] → endsNumber rest = true) :
    ∃ left : List Blank,
      readMembers first draft
          (blankText blanks ++ (membersText first (members.map NamedMember.toMember) ++ rest)) =
        readMembers (first && members.isEmpty) filled (blankText left ++ rest) := by
  induction members generalizing first draft blanks with
  | nil =>
      cases entered
      refine ⟨blanks, ?_⟩
      rw [List.map_nil, membersText_nil, List.nil_append, List.isEmpty_nil, Bool.and_true]
  | cons member members inductionHypothesis =>
      let others := members.map NamedMember.toMember
      have endsLater := ends (List.cons_ne_nil member members)
      rw [List.foldlM_cons] at entered
      obtain ⟨known, enteredFirst, enteredOthers⟩ := Option.bind_eq_some_iff.mp entered
      have read := toOption_readMember draft member (endsNumber_membersText others endsLater)
      rw [enteredFirst] at read
      obtain ⟨left, readOthers⟩ :=
        inductionHypothesis false member.element.behind enteredOthers fun _ => endsLater
      refine ⟨left, ?_⟩
      rw [List.map_cons, readMembers_of_item (nextKey_cons first blanks member.toMember others _),
        toOption_eq_some.mp read, List.isEmpty_cons, Bool.and_false]
      exact readOthers

/-- Behind the key of a field its value is read. -/
theorem readMembers_furtherKey
    (draft : Draft)
    (blanks before : List Blank)
    {key : List Piece}
    {field : Field}
    (spelled : spelled? key = some field.key.toList)
    (rest : List Char) :
    readMembers members.isEmpty draft
        (blankText blanks ++ (furtherKey members before key ++ rest)) =
      (readField draft field rest).bind fun (filled, rest) => readMembers false filled rest := by
  have next :=
    nextKey_comma members.isEmpty blanks before (key.flatMap Piece.text ++ '"' :: rest)
  have shape :
      furtherKey members before key ++ rest =
        comma members.isEmpty ++
          (blankText before ++ '"' :: (key.flatMap Piece.text ++ '"' :: rest)) := by
    simp [furtherKey, quotedText]
  rw [shape, readMembers_of_item next, readMember, readString_spelled spelled]
  simp only [String.ofList_toList, Field.ofKey?_key]

/-- A draft in which a field is missing cannot be completed. -/
theorem complete_of_missing
    {draft : Draft}
    {field : Field}
    (first : Field.all.find? (fun field => (draft field).isNone) = some field) :
    complete draft = .error (.content (.missing field)) := by
  rw [complete, Draft.report?_of_find? first]

/-- What follows some members and is wrong with their object ends a number. -/
theorem Offends.endsNumber
    (offends : Offends members text refusal)
    (some : members ≠ [])
    (rest : List Char) :
    endsNumber (text ++ rest) = true := by
  have further (before : List Blank) (key : List Piece) (rest : List Char) :
      Json.endsNumber (furtherKey members before key ++ rest) = true := by
    rw [furtherKey, List.isEmpty_eq_false_iff.mpr some]
    rfl
  cases offends with
  | duplicate known before spelled => exact further before _ rest
  | value unknown before spelled behind front spoils =>
      rw [List.append_assoc]
      exact further before _ _
  | missing first => rfl

/-- Behind members in order an object is refused for what is wrong first. -/
theorem Offends.readReport
    (offends : Offends members text refusal)
    (inOrder : InOrder members)
    (before inner : List Blank)
    (rest : List Char) :
    readReport (openingText before inner members ++ (text ++ rest)) =
      .error refusal := by
  obtain ⟨filled, entered, known⟩ := inOrder.entered
  obtain ⟨left, read⟩ :=
    readMembers_entered true inner entered fun some => offends.endsNumber some rest
  have bracket (rest : List Char) : skipBlanks (blankText before ++ '{' :: rest) = '{' :: rest :=
    skipBlanks_blankText_cons before (by rfl) rest
  rw [Bool.true_and] at read
  simp only [Json.readReport, openingText, List.append_assoc, List.cons_append, bracket, read,
    bind]
  have unknown {field : Field} (nothing : valuesAt field.key members = []) :
      (filled field).isSome = false := by
    rw [← Option.not_isNone, known, nothing]
    rfl
  have given {field : Field} (values : valuesAt field.key members ≠ []) :
      (filled field).isSome = true := by
    rw [← Option.not_isNone, known, List.isEmpty_eq_false_iff.mpr values]
    rfl
  cases offends with
  | duplicate values before spelled =>
      rw [readMembers_furtherKey filled left before spelled, readField, if_pos (given values)]
      rfl
  | @value field nothing before key spelled behind front text refusal spoils =>
      have refused := spoils.stops front rest
      rw [List.append_assoc, readMembers_furtherKey filled left before spelled,
        List.append_assoc, List.cons_append, List.append_assoc,
        readField_of_unknown (unknown nothing) (skipColon_blankText behind _), refused]
      rfl
  | missing first =>
      simp only [firstMissing?, ← known] at first
      have incomplete := complete_of_missing first
      rw [List.singleton_append, readMembers_of_closed (nextKey_end _ left rest)]
      simp only [Except.bind, incomplete]

end Members

end Json

end AudioScope.Report
