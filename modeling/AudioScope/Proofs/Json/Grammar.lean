import AudioScope.Json.Grammar
import AudioScope.Proofs.Json.Number

namespace AudioScope.Json

/-!
# Texts of syntax trees

How the texts of syntax trees begin, and how what follows them begins: readers
look at nothing else to tell what they have before them.
-/

theorem isBlank_char (blank : Blank) : isBlank blank.char = true := by
  cases blank <;> rfl

/-- Blanks are skipped, however many there are. -/
theorem skipBlanks_blankText
    (blanks : List Blank)
    (rest : List Char) :
    skipBlanks (blankText blanks ++ rest) = skipBlanks rest := by
  induction blanks with
  | nil =>
      rfl
  | cons blank blanks inductionHypothesis =>
      rw [← inductionHypothesis]
      simp [skipBlanks, blankText, isBlank_char]

/-- The first character behind blanks is what is found there. -/
theorem skipBlanks_blankText_cons
    (blanks : List Blank)
    {char : Char}
    (notBlank : isBlank char = false)
    (rest : List Char) :
    skipBlanks (blankText blanks ++ char :: rest) = char :: rest := by
  rw [skipBlanks_blankText, skipBlanks_cons notBlank]

section Numbers

variable {rest : List Char}

theorem Digits.isDigit_of_mem
    (digits : Digits)
    {char : Char}
    (member : char ∈ digits.text) :
    char.isDigit = true := by
  have decimal : ∀ digit : Fin 10, (Nat.digitChar digit).isDigit = true := by
    decide
  obtain ⟨digit, -, rfl⟩ := List.mem_map.mp member
  exact decimal digit

theorem Digits.startsWithDigit_text
    (digits : Digits)
    (rest : List Char) :
    startsWithDigit (digits.text ++ rest) = true :=
  digits.isDigit_of_mem List.mem_cons_self

/-- Digits are dropped up to where they end. -/
theorem Digits.dropWhile_text
    (digits : Digits)
    (stops : startsWithDigit rest = false) :
    (digits.text ++ rest).dropWhile Char.isDigit = rest := by
  rw [List.dropWhile_append_of_pos fun _ => digits.isDigit_of_mem, dropWhile_of_stops stops]

/-- An exponent is no continuation of digits. -/
theorem startsWithDigit_exponent
    (exponent : Option Exponent)
    (stops : startsWithDigit rest = false) :
    startsWithDigit (exponent.elim [] Exponent.text ++ rest) = false := by
  cases exponent with
  | none => exact stops
  | some exponent =>
      obtain ⟨capital, sign, digits⟩ := exponent
      cases capital <;> rfl

/-- The digits of the integer part end where the tail begins. -/
theorem Number.startsWithDigit_tail
    (number : Number)
    (stops : startsWithDigit rest = false) :
    startsWithDigit (number.tail ++ rest) = false := by
  unfold Number.tail
  cases number.fraction with
  | none => exact startsWithDigit_exponent number.exponent stops
  | some digits => rfl

/-- A number begins with a minus sign or a digit. -/
theorem Number.text_eq_cons (number : Number) :
    ∃ first more, number.text = first :: more ∧ isNumeral first = true := by
  obtain ⟨first, more, shape⟩ :=
    List.exists_cons_of_ne_nil (Nat.toDigits_ne_nil (b := 10) (n := number.whole))
  have firstDigit : first.isDigit = true :=
    isDigit_of_mem_toDigits (shape ▸ List.mem_cons_self)
  unfold Number.text
  cases number.negative with
  | false =>
      exact ⟨first, more ++ number.tail, by rw [shape]; rfl, by simp [isNumeral, firstDigit]⟩
  | true =>
      exact ⟨'-', _, rfl, rfl⟩

end Numbers

/-- A value begins with a character that is no blank and closes no array. -/
theorem Value.text_eq_cons (value : Value) :
    ∃ first more, value.text = first :: more ∧ isBlank first = false ∧ first ≠ ']' := by
  cases value with
  | null => exact ⟨_, _, by rw [Value.text], rfl, by decide⟩
  | boolean value => cases value <;> exact ⟨_, _, by rw [Value.text], rfl, by decide⟩
  | number number =>
      obtain ⟨first, more, shape, numeral⟩ := number.text_eq_cons
      refine ⟨first, more, by rw [Value.text, shape], isBlank_of_isNumeral numeral, ?_⟩
      rintro rfl
      cases numeral
  | string pieces => exact ⟨_, _, by rw [Value.text, quotedText], rfl, by decide⟩
  | array inner elements => exact ⟨_, _, by rw [Value.text], rfl, by decide⟩
  | object inner members => exact ⟨_, _, by rw [Value.text], rfl, by decide⟩

/-- Nothing of a value is skipped in front of it. -/
theorem Value.skipBlanks_text
    (blanks : List Blank)
    (value : Value)
    (rest : List Char) :
    skipBlanks (blankText blanks ++ (value.text ++ rest)) = value.text ++ rest := by
  obtain ⟨first, more, shape, notBlank, -⟩ := value.text_eq_cons
  rw [shape, List.cons_append, skipBlanks_blankText_cons blanks notBlank]

section Lists

theorem Element.text_append
    (element : Element)
    (rest : List Char) :
    element.text ++ rest =
      blankText element.before ++ (element.value.text ++ (blankText element.behind ++ rest)) := by
  obtain ⟨before, value, behind⟩ := element
  rw [Element.text, List.append_assoc, List.append_assoc]

/-- Blanks in front of an element are skipped together with its own. -/
theorem Element.skipBlanks_text
    (blanks : List Blank)
    (element : Element)
    (rest : List Char) :
    skipBlanks (blankText blanks ++ (element.text ++ rest)) =
      element.value.text ++ (blankText element.behind ++ rest) := by
  rw [Element.text_append, skipBlanks_blankText, Value.skipBlanks_text]

/-- An array begins with its bracket. -/
theorem Value.skipBlanks_array
    (blanks inner : List Blank)
    (elements : List Element)
    (rest : List Char) :
    skipBlanks (blankText blanks ++ ((Value.array inner elements).text ++ rest)) =
      '[' :: (blankText inner ++ (elementsText true elements ++ ']' :: rest)) := by
  rw [Value.skipBlanks_text, Value.text]
  simp

/-- An object begins with its bracket. -/
theorem Value.skipBlanks_object
    (blanks inner : List Blank)
    (members : List Member)
    (rest : List Char) :
    skipBlanks (blankText blanks ++ ((Value.object inner members).text ++ rest)) =
      '{' :: (blankText inner ++ (membersText true members ++ '}' :: rest)) := by
  rw [Value.skipBlanks_text, Value.text]
  simp

/-- A member behind the opening quote of its key, and what follows it. -/
def Member.opened
    (member : Member)
    (rest : List Char) :
    List Char :=
  member.key.flatMap Piece.text ++
    '"' :: (blankText member.behind ++ ':' :: (member.element.text ++ rest))

theorem Member.text_append
    (member : Member)
    (rest : List Char) :
    member.text ++ rest = blankText member.before ++ '"' :: member.opened rest := by
  obtain ⟨before, key, behind, element⟩ := member
  simp [Member.text, quotedText, Member.opened]

/-- A member begins with the quote of its key. -/
theorem Member.skipBlanks_text
    (blanks : List Blank)
    (member : Member)
    (rest : List Char) :
    skipBlanks (blankText blanks ++ (member.text ++ rest)) = '"' :: member.opened rest := by
  rw [Member.text_append, skipBlanks_blankText, skipBlanks_blankText_cons member.before (by rfl)]

theorem elementsText_nil (first : Bool) : elementsText first [] = [] := by
  rw [elementsText]

theorem membersText_nil (first : Bool) : membersText first [] = [] := by
  rw [membersText]

/-- A first element stands where it is, and any other one behind a comma. -/
theorem elementsText_cons
    (element : Element)
    (elements : List Element)
    (rest : List Char) :
    elementsText true (element :: elements) ++ rest =
        element.text ++ (elementsText false elements ++ rest) ∧
      elementsText false (element :: elements) ++ rest =
        ',' :: (element.text ++ (elementsText false elements ++ rest)) := by
  constructor <;> rw [elementsText] <;> simp

@[inherit_doc elementsText_cons]
theorem membersText_cons
    (member : Member)
    (members : List Member)
    (rest : List Char) :
    membersText true (member :: members) ++ rest =
        member.text ++ (membersText false members ++ rest) ∧
      membersText false (member :: members) ++ rest =
        ',' :: (member.text ++ (membersText false members ++ rest)) := by
  constructor <;> rw [membersText] <;> simp

end Lists

section Ends

variable {rest : List Char}

theorem endsNumber_blankText
    (blanks : List Blank)
    (ends : endsNumber rest = true) :
    endsNumber (blankText blanks ++ rest) = true := by
  cases blanks with
  | nil => exact ends
  | cons blank blanks => cases blank <;> rfl

/-- What follows an element of an array ends a number if what follows all elements does. -/
theorem endsNumber_elementsText
    (elements : List Element)
    (ends : endsNumber rest = true) :
    endsNumber (elementsText false elements ++ rest) = true := by
  cases elements with
  | nil => rw [elementsText_nil]; exact ends
  | cons element elements => rw [(elementsText_cons element elements _).2]; rfl

/-- What follows a member of an object ends a number if what follows all members does. -/
theorem endsNumber_membersText
    (members : List Member)
    (ends : endsNumber rest = true) :
    endsNumber (membersText false members ++ rest) = true := by
  cases members with
  | nil => rw [membersText_nil]; exact ends
  | cons member members => rw [(membersText_cons member members _).2]; rfl

end Ends

end AudioScope.Json
