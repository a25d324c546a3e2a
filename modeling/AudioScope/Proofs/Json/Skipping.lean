import AudioScope.Json.Value
import AudioScope.Proofs.Json.Grammar

namespace AudioScope.Json

/-!
# Passing over any value

Whatever value a syntax tree describes, `skipWithin` passes over its text and goes on
with what stands behind it.  How deep the value is nested does not matter: the brackets
that it opens are all closed when it ends.
-/

section Numbers

variable {rest : List Char}

/-- A digit is no sign. -/
theorem readSign_of_startsWithDigit
    {text : List Char}
    (starts : startsWithDigit text = true) :
    readSign text = (false, text) := by
  unfold readSign
  split
  · cases starts
  · cases starts
  · rfl

theorem readSign_sign
    (sign : ExponentSign)
    (digits : Digits)
    (rest : List Char) :
    (readSign (sign.text ++ (digits.text ++ rest))).2 = digits.text ++ rest := by
  cases sign with
  | absent =>
      rw [ExponentSign.text, List.nil_append,
        readSign_of_startsWithDigit (digits.startsWithDigit_text rest)]
  | plus => rfl
  | minus => rfl

theorem skipPower_exponent
    (exponent : Option Exponent)
    (ends : endsNumber rest = true) :
    skipPower (exponent.elim [] Exponent.text ++ rest) = .ok rest := by
  cases exponent with
  | none =>
      cases rest with
      | nil =>
          rfl
      | cons char rest =>
          simp [skipPower, (endsNumber_cons.mp ends).2.2]
  | some exponent =>
      obtain ⟨capital, sign, digits⟩ := exponent
      have mark : isExponentMark (if capital then 'E' else 'e') = true := by
        cases capital <;> rfl
      rw [Option.elim_some, Exponent.text, List.cons_append, List.append_assoc, skipPower,
        if_pos mark]
      simp only [readSign_sign, digits.startsWithDigit_text, if_true,
        digits.dropWhile_text (startsWithDigit_of_endsNumber ends)]

/-- Neither an exponent nor what ends a number begins with a point. -/
theorem exponent_ne_point
    (exponent : Option Exponent)
    (ends : endsNumber rest = true)
    (text : List Char) :
    exponent.elim [] Exponent.text ++ rest ≠ '.' :: text := by
  intro point
  cases exponent with
  | none =>
      rw [Option.elim_none, List.nil_append] at point
      rw [point] at ends
      cases ends
  | some exponent =>
      obtain ⟨capital, sign, digits⟩ := exponent
      cases capital <;> cases (List.cons.inj point).1

theorem skipTail_tail
    (number : Number)
    (ends : endsNumber rest = true) :
    skipTail (number.tail ++ rest) = .ok rest := by
  have power := skipPower_exponent number.exponent ends
  have stops := startsWithDigit_of_endsNumber ends
  unfold Number.tail
  cases number.fraction with
  | none =>
      rw [Option.elim_none, List.nil_append]
      unfold skipTail
      split
      · next point => exact absurd point (exponent_ne_point number.exponent ends _)
      · exact power
  | some digits =>
      rw [Option.elim_some, List.cons_append, List.cons_append, List.append_assoc, skipTail,
        if_pos (digits.startsWithDigit_text _),
        digits.dropWhile_text (startsWithDigit_exponent number.exponent stops), power]

/-- The integer part is passed over. -/
theorem skipMagnitude_toDigits
    (number : Nat)
    (stops : startsWithDigit rest = false) :
    skipMagnitude (Nat.toDigits 10 number ++ rest) = skipTail rest := by
  rcases Nat.eq_zero_or_pos number with rfl | positive
  · rw [Nat.toDigits_zero, List.singleton_append, skipMagnitude, if_pos rfl, stops]
    rfl
  · obtain ⟨first, more, shape, nonzero⟩ := toDigits_of_pos positive
    obtain ⟨firstDigit, moreDigits⟩ : first.isDigit = true ∧ ∀ char ∈ more, char.isDigit = true :=
      List.forall_mem_cons.mp fun _ member => isDigit_of_mem_toDigits (shape ▸ member)
    rw [shape, List.cons_append, skipMagnitude, if_neg nonzero, if_pos firstDigit,
      List.dropWhile_append_of_pos moreDigits, dropWhile_of_stops stops]

/-- Any number is passed over up to its end. -/
theorem skipNumber_text
    (number : Number)
    (ends : endsNumber rest = true) :
    skipNumber (number.text ++ rest) = .ok rest := by
  have magnitude :
      skipMagnitude (Nat.toDigits 10 number.whole ++ (number.tail ++ rest)) = .ok rest := by
    have stops := startsWithDigit_of_endsNumber ends
    rw [skipMagnitude_toDigits number.whole (number.startsWithDigit_tail stops),
      skipTail_tail number ends]
  rw [← magnitude, Number.text, List.append_assoc, List.append_assoc]
  cases number.negative with
  | false =>
      rw [if_neg Bool.false_ne_true, List.nil_append, skipNumber]
      exact toDigits_ne_minus number.whole _
  | true => rfl

end Numbers

section Strings

theorem skipEscape_short
    (escape : ShortEscape)
    (rest : List Char) :
    skipEscape (escape.letter :: rest) = .ok rest := by
  cases escape <;> rfl

theorem hexDigit?_char (digit : HexDigit) : hexDigit? digit.char = some digit.value.val := by
  have checked :
      ∀ value : Fin 16, ∀ capital : Bool,
        hexDigit? (HexDigit.char ⟨value, capital⟩) = some value.val := by
    decide
  exact checked digit.value digit.capital

theorem readCodeUnit_text
    (unit : CodeUnit)
    (rest : List Char) :
    readCodeUnit (unit.text ++ rest) = .ok (unit.value, rest) := by
  simp [readCodeUnit, CodeUnit.text, codeUnit?, hexDigit?_char, CodeUnit.value]

theorem skipEscape_unit
    (unit : CodeUnit)
    (rest : List Char) :
    skipEscape ('u' :: (unit.text ++ rest)) = .ok rest := by
  rw [skipEscape, readCodeUnit_text]
  rfl

theorem skipString_escape
    {escape rest : List Char}
    (skipped : skipEscape escape = .ok rest) :
    skipString ('\\' :: escape) = skipString rest := by
  rw [skipString.eq_def]
  split
  · next shape => cases shape
  · next shape => cases (List.cons.inj shape).1
  · next shape =>
    cases shape
    split <;> simp_all
  · next notEscape shape => exact absurd (List.cons.inj shape).1.symm notEscape

theorem skipString_plain
    {char : Char}
    (allowed : char ≠ '"' ∧ char ≠ '\\' ∧ 0x20 ≤ char.toNat)
    (rest : List Char) :
    skipString (char :: rest) = skipString rest := by
  have notControl : isControl char = false := by
    simpa [isControl] using allowed.2.2
  rw [skipString.eq_def]
  split <;> simp_all

/-- Any string is passed over, also where it spells no text. -/
theorem skipString_pieces
    (pieces : List Piece)
    (rest : List Char) :
    skipString (pieces.flatMap Piece.text ++ '"' :: rest) = .ok rest := by
  induction pieces with
  | nil => rw [List.flatMap_nil, List.nil_append, skipString]
  | cons piece pieces inductionHypothesis =>
      rw [List.flatMap_cons, List.append_assoc, ← inductionHypothesis]
      cases piece with
      | plain char allowed => exact skipString_plain allowed _
      | short escape => exact skipString_escape (skipEscape_short escape _)
      | unit digits => exact skipString_escape (skipEscape_unit digits _)

end Strings

/-- What is passed over as a scalar is passed over as a value. -/
theorem skipWithin_of_skipScalar
    {enclosing : List Bracket}
    {text value rest : List Char}
    (found : skipBlanks text = value)
    (skipped : skipScalar value = .ok rest) :
    skipWithin enclosing text = skipAfter enclosing rest := by
  subst found
  rw [skipWithin_scalar, skipped]
  · rfl
  · intro _ square
    rw [square] at skipped
    cases skipped
  · intro _ curly
    rw [curly] at skipped
    cases skipped

theorem skipScalar_number
    (number : Number)
    {rest : List Char}
    (ends : endsNumber rest = true) :
    skipScalar (number.text ++ rest) = .ok rest := by
  have skipped := skipNumber_text number ends
  obtain ⟨first, more, shape, numeral⟩ := number.text_eq_cons
  rw [shape, List.cons_append] at skipped ⊢
  unfold skipScalar
  split
  · next empty => cases empty
  · next other => cases other; cases numeral
  · next other => cases other; cases numeral
  · next other => cases other; cases numeral
  · next other => cases other; cases numeral
  · next same =>
    cases same
    exact (if_pos numeral).trans skipped

theorem skipColon_blankText
    (blanks : List Blank)
    (rest : List Char) :
    skipColon (blankText blanks ++ ':' :: rest) = .ok rest := by
  rw [skipColon, skipBlanks_blankText_cons blanks (by rfl)]
  rfl

/-- A key is passed over together with its colon. -/
theorem skipKey_opened
    {member : Member}
    {text rest : List Char}
    (found : skipBlanks text = '"' :: member.opened rest) :
    skipKey .curly text = .ok (member.element.text ++ rest) := by
  rw [skipKey, found, Member.opened]
  simp only [skipString_pieces, skipColon_blankText]

section Brackets

variable (enclosing : List Bracket) (blanks : List Blank) (rest : List Char)

/-- An empty bracket is passed over. -/
theorem skipFirst_end (bracket : Bracket) :
    skipFirst bracket enclosing (blankText blanks ++ bracket.closing :: rest) =
      skipAfter enclosing rest := by
  have notBlank : isBlank bracket.closing = false := by
    cases bracket <;> rfl
  exact skipFirst_closing (skipBlanks_blankText_cons blanks notBlank rest)

/-- A bracket is closed behind its last value. -/
theorem skipAfter_end (bracket : Bracket) :
    skipAfter (bracket :: enclosing) (blankText blanks ++ bracket.closing :: rest) =
      skipAfter enclosing rest := by
  have notBlank : isBlank bracket.closing = false := by
    cases bracket <;> rfl
  exact skipAfter_closing (skipBlanks_blankText_cons blanks notBlank rest)

/-- Behind the bracket of an array its first value is passed over. -/
theorem skipFirst_element (element : Element) :
    skipFirst .square enclosing (blankText blanks ++ (element.text ++ rest)) =
      skipWithin (.square :: enclosing)
        (element.value.text ++ (blankText element.behind ++ rest)) := by
  obtain ⟨first, more, shape, notBlank, notClosing⟩ := element.value.text_eq_cons
  have found :
      skipBlanks (blankText blanks ++ (element.text ++ rest)) =
        first :: (more ++ (blankText element.behind ++ rest)) := by
    rw [Element.skipBlanks_text, shape, List.cons_append]
  have inside : first ≠ Bracket.square.closing := notClosing
  rw [skipFirst_item found inside, shape, List.cons_append]
  rfl

/-- Behind a comma the next value of an array is passed over. -/
theorem skipAfter_element (element : Element) :
    skipAfter (.square :: enclosing) (blankText blanks ++ ',' :: (element.text ++ rest)) =
      skipWithin (.square :: enclosing) (element.text ++ rest) := by
  rw [skipAfter_comma (skipBlanks_blankText_cons blanks (by rfl) _)]
  rfl

/-- Behind the bracket of an object its first key is passed over, then its value. -/
theorem skipFirst_member (member : Member) :
    skipFirst .curly enclosing (blankText blanks ++ (member.text ++ rest)) =
      skipWithin (.curly :: enclosing) (member.element.text ++ rest) := by
  have quote := member.skipBlanks_text blanks rest
  have keyFound : skipBlanks ('"' :: member.opened rest) = '"' :: member.opened rest := by
    rfl
  rw [skipFirst_item quote (by decide), skipKey_opened keyFound]
  rfl

/-- Behind a comma the next key of an object is passed over, then its value. -/
theorem skipAfter_member (member : Member) :
    skipAfter (.curly :: enclosing) (blankText blanks ++ ',' :: (member.text ++ rest)) =
      skipWithin (.curly :: enclosing) (member.element.text ++ rest) := by
  have keyFound : skipBlanks (member.text ++ rest) = '"' :: member.opened rest :=
    member.skipBlanks_text [] rest
  rw [skipAfter_comma (skipBlanks_blankText_cons blanks (by rfl) _), skipKey_opened keyFound]
  rfl

end Brackets

-- Each value within an array or an object is followed by the others, so passing over one value
-- and passing over what follows it are shown together, along the tree.
mutual

/-- A value is passed over, within any brackets. -/
theorem skipWithin_value
    (value : Value)
    (enclosing : List Bracket)
    (blanks : List Blank)
    {rest : List Char}
    (ends : endsNumber rest = true) :
    skipWithin enclosing (blankText blanks ++ (value.text ++ rest)) = skipAfter enclosing rest := by
  have found := value.skipBlanks_text blanks rest
  match value with
  | .null =>
      rw [Value.text] at found ⊢
      exact skipWithin_of_skipScalar found rfl
  | .boolean true =>
      rw [Value.text] at found ⊢
      exact skipWithin_of_skipScalar found rfl
  | .boolean false =>
      rw [Value.text] at found ⊢
      exact skipWithin_of_skipScalar found rfl
  | .number number =>
      rw [Value.text] at found ⊢
      exact skipWithin_of_skipScalar found (skipScalar_number number ends)
  | .string pieces =>
      rw [Value.text] at found ⊢
      refine skipWithin_of_skipScalar found ?_
      rw [quotedText, List.cons_append, List.append_assoc]
      exact skipString_pieces pieces rest
  | .array inner elements =>
      rw [skipWithin_square (Value.skipBlanks_array blanks inner elements rest)]
      match elements with
      | [] => exact skipFirst_end enclosing inner rest .square
      | ⟨before, value, behind⟩ :: elements =>
          rw [(elementsText_cons _ elements _).1, skipFirst_element]
          have endsHere : endsNumber (elementsText false elements ++ ']' :: rest) = true :=
            endsNumber_elementsText elements (by rfl)
          have first :=
            skipWithin_value value (.square :: enclosing) []
              (endsNumber_blankText behind endsHere)
          exact first.trans (skipAfter_elements elements enclosing behind rest)
  | .object inner members =>
      rw [skipWithin_curly (Value.skipBlanks_object blanks inner members rest)]
      match members with
      | [] => exact skipFirst_end enclosing inner rest .curly
      | ⟨before, key, middle, ⟨front, value, behind⟩⟩ :: members =>
          rw [(membersText_cons _ members _).1, skipFirst_member, Element.text_append]
          have endsHere : endsNumber (membersText false members ++ '}' :: rest) = true :=
            endsNumber_membersText members (by rfl)
          have first :=
            skipWithin_value value (.curly :: enclosing) front
              (endsNumber_blankText behind endsHere)
          exact first.trans (skipAfter_members members enclosing behind rest)

/-- The rest of an array is passed over up to its bracket. -/
theorem skipAfter_elements
    (elements : List Element)
    (enclosing : List Bracket)
    (blanks : List Blank)
    (rest : List Char) :
    skipAfter (.square :: enclosing)
        (blankText blanks ++ (elementsText false elements ++ ']' :: rest)) =
      skipAfter enclosing rest := by
  match elements with
  | [] => exact skipAfter_end enclosing blanks rest .square
  | ⟨before, value, behind⟩ :: elements =>
      rw [(elementsText_cons _ elements _).2, skipAfter_element, Element.text_append]
      have endsHere : endsNumber (elementsText false elements ++ ']' :: rest) = true :=
        endsNumber_elementsText elements (by rfl)
      have first :=
        skipWithin_value value (.square :: enclosing) before
          (endsNumber_blankText behind endsHere)
      exact first.trans (skipAfter_elements elements enclosing behind rest)

/-- The rest of an object is passed over up to its bracket. -/
theorem skipAfter_members
    (members : List Member)
    (enclosing : List Bracket)
    (blanks : List Blank)
    (rest : List Char) :
    skipAfter (.curly :: enclosing)
        (blankText blanks ++ (membersText false members ++ '}' :: rest)) =
      skipAfter enclosing rest := by
  match members with
  | [] => exact skipAfter_end enclosing blanks rest .curly
  | ⟨before, key, middle, ⟨front, value, behind⟩⟩ :: members =>
      rw [(membersText_cons _ members _).2, skipAfter_member, Element.text_append]
      have endsHere : endsNumber (membersText false members ++ '}' :: rest) = true :=
        endsNumber_membersText members (by rfl)
      have first :=
        skipWithin_value value (.curly :: enclosing) front
          (endsNumber_blankText behind endsHere)
      exact first.trans (skipAfter_members members enclosing behind rest)

end

/-- A value and the blanks in front of it are passed over, whatever follows that ends a number. -/
theorem skipValue_element
    (element : Element)
    {rest : List Char}
    (ends : endsNumber rest = true) :
    skipValue (element.text ++ rest) = .ok (blankText element.behind ++ rest) := by
  rw [skipValue, Element.text_append,
    skipWithin_value element.value [] element.before (endsNumber_blankText element.behind ends),
    skipAfter_nil]

end AudioScope.Json
