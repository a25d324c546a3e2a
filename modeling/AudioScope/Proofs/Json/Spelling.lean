import AudioScope.Proofs.Json.Skipping
import AudioScope.Proofs.Json.Text

namespace AudioScope.Json

/-!
# Strings and numbers as they are spelled

A key is read as the text that it spells.  A number is read as an integer exactly
where it spells one: behind a point or an exponent, with a minus sign in front of a
zero, and beyond 64 bits there are only floating-point numbers.
-/

section Strings

variable {rest chars : List Char}

/-- A character is read from its escape, and then the characters behind it. -/
theorem readString_escape
    {escape behind : List Char}
    {char : Char}
    (first : readEscape escape = .ok (char, behind)) :
    readString ('\\' :: escape) =
      (readString behind).map fun (chars, rest) => (char :: chars, rest) := by
  rw [readString.eq_def]
  split
  · next shape => cases shape
  · next shape => cases (List.cons.inj shape).1
  · next shape =>
    cases shape
    split
    · next failed => cases first.symm.trans failed
    · next found =>
      cases first.symm.trans found
      rfl
  · next notEscape shape => exact absurd (List.cons.inj shape).1.symm notEscape

/-- A string is as flawed as its first escape. -/
theorem readString_escape_error
    {escape : List Char}
    {flaw : Flaw}
    (first : readEscape escape = .error flaw) :
    readString ('\\' :: escape) = .error flaw := by
  rw [readString.eq_def]
  split
  · next shape => cases shape
  · next shape => cases (List.cons.inj shape).1
  · next shape =>
    cases shape
    split
    · next failed => cases first.symm.trans failed; rfl
    · next found => cases first.symm.trans found
  · next notEscape shape => exact absurd (List.cons.inj shape).1.symm notEscape

theorem readEscape_short
    (escape : ShortEscape)
    (rest : List Char) :
    readEscape (escape.letter :: rest) = .ok (escape.char, rest) := by
  cases escape <;> rfl

/-- A code unit that is no surrogate is a character by itself. -/
theorem readEscape_unit
    {unit : CodeUnit}
    (notTrailing : isTrailing unit.value = false)
    (notLeading : isLeading unit.value = false)
    (rest : List Char) :
    readEscape ('u' :: (unit.text ++ rest)) = .ok (Char.ofNat unit.value, rest) := by
  simp [readEscape, readCodeUnit_text, notTrailing, notLeading]

theorem skipWord_unitMark (text : List Char) :
    skipWord ['\\', 'u'] ('\\' :: 'u' :: text) = .ok text := by
  rfl

/-- Two surrogates are one character. -/
theorem readEscape_pair
    {unit partner : CodeUnit}
    (notTrailing : isTrailing unit.value = false)
    (leading : isLeading unit.value = true)
    (trailing : isTrailing partner.value = true)
    (rest : List Char) :
    readEscape ('u' :: (unit.text ++ '\\' :: 'u' :: (partner.text ++ rest))) =
      .ok (pairedChar unit.value partner.value, rest) := by
  simp only [readEscape, readCodeUnit_text, notTrailing, leading, Bool.false_eq_true, if_false,
    if_true, readPartner, skipWord_unitMark, trailing, bind, Except.bind]

theorem isPlain_iff {char : Char} :
    isPlain char = true ↔ char ≠ '"' ∧ char ≠ '\\' ∧ 0x20 ≤ char.toNat := by
  simp [isPlain, isControl, and_assoc]

/-- A surrogate without the first half of a pair in front of it is refused. -/
theorem readEscape_trailing
    {unit : CodeUnit}
    (trailing : isTrailing unit.value = true)
    (rest : List Char) :
    readEscape ('u' :: (unit.text ++ rest)) = .error .malformed := by
  simp [readEscape, readCodeUnit_text, trailing]

/-- A surrogate without the second half of a pair behind it is refused. -/
theorem readEscape_leading
    {unit : CodeUnit}
    (notTrailing : isTrailing unit.value = false)
    (leading : isLeading unit.value = true)
    {behind : List Char}
    (alone : readPartner unit.value behind = .error .malformed) :
    readEscape ('u' :: (unit.text ++ behind)) = .error .malformed := by
  simp [readEscape, readCodeUnit_text, notTrailing, leading, alone]

/-- What no code unit begins is no second half of a pair. -/
theorem readPartner_of_ne
    {pieces : List Piece}
    (noUnit : ∀ partner others, pieces ≠ .unit partner :: others)
    (leading : Nat)
    (rest : List Char) :
    readPartner leading (pieces.flatMap Piece.text ++ '"' :: rest) = .error .malformed := by
  cases pieces with
  | nil => rfl
  | cons piece pieces =>
      cases piece with
      | plain char allowed =>
          simp [Piece.text, readPartner, skipWord, allowed.2.1, bind, Except.bind]
      | short escape => cases escape <;> rfl
      | unit partner => exact absurd rfl (noUnit partner pieces)

/-- A string is read as the text that it spells, and refused where it spells none. -/
theorem readString_pieces
    (pieces : List Piece)
    (rest : List Char) :
    readString (pieces.flatMap Piece.text ++ '"' :: rest) =
      match spelled? pieces with
      | some chars => .ok (chars, rest)
      | none => .error .malformed := by
  fun_induction spelled? pieces with
  | case1 => rw [List.flatMap_nil, List.nil_append, readString]
  | case2 char allowed pieces inductionHypothesis =>
      rw [List.flatMap_cons, Piece.text, List.append_assoc, List.singleton_append,
        readString_cons_of_plain (isPlain_iff.mpr allowed), inductionHypothesis]
      cases spelled? pieces <;> rfl
  | case3 escape pieces inductionHypothesis =>
      have first := readEscape_short escape (pieces.flatMap Piece.text ++ '"' :: rest)
      simp only [List.flatMap_cons, Piece.text, List.cons_append, List.nil_append,
        readString_escape first, inductionHypothesis]
      cases spelled? pieces <;> rfl
  | case4 unit pieces trailing =>
      have first := readEscape_trailing trailing (pieces.flatMap Piece.text ++ '"' :: rest)
      simp only [List.flatMap_cons, Piece.text, List.cons_append, List.append_assoc,
        readString_escape_error first]
  | case5 unit notTrailing leading partner pieces trailing inductionHypothesis =>
      have first := readEscape_pair (Bool.eq_false_iff.mpr notTrailing) leading trailing
        (pieces.flatMap Piece.text ++ '"' :: rest)
      simp only [List.flatMap_cons, Piece.text, List.cons_append, List.append_assoc,
        readString_escape first, inductionHypothesis]
      cases spelled? pieces <;> rfl
  | case6 unit notTrailing leading partner pieces notPartner =>
      have alone :
          readPartner unit.value
              ('\\' :: 'u' :: (partner.text ++ (pieces.flatMap Piece.text ++ '"' :: rest))) =
            .error .malformed := by
        simp [readPartner, skipWord_unitMark, readCodeUnit_text, notPartner, bind, Except.bind]
      have first := readEscape_leading (Bool.eq_false_iff.mpr notTrailing) leading alone
      simp only [List.flatMap_cons, Piece.text, List.cons_append, List.append_assoc,
        readString_escape_error first]
  | case7 unit pieces notTrailing leading noUnit =>
      have alone :=
        readPartner_of_ne (fun partner others same => noUnit partner others same) unit.value rest
      have first := readEscape_leading (Bool.eq_false_iff.mpr notTrailing) leading alone
      simp only [List.flatMap_cons, Piece.text, List.cons_append, List.append_assoc,
        readString_escape_error first]
  | case8 unit pieces notTrailing notLeading inductionHypothesis =>
      have first :=
        readEscape_unit (Bool.eq_false_iff.mpr notTrailing) (Bool.eq_false_iff.mpr notLeading)
          (pieces.flatMap Piece.text ++ '"' :: rest)
      simp only [List.flatMap_cons, Piece.text, List.cons_append, List.append_assoc,
        readString_escape first, inductionHypothesis]
      cases spelled? pieces <;> rfl

/-- A string that spells a text is read as this text. -/
theorem readString_spelled
    {pieces : List Piece}
    (spelled : spelled? pieces = some chars)
    (rest : List Char) :
    readString (pieces.flatMap Piece.text ++ '"' :: rest) = .ok (chars, rest) := by
  rw [readString_pieces, spelled]

/-- Characters that stand for themselves spell the text that they are. -/
theorem spelled?_plain
    (chars : List Char)
    (allowed : ∀ char ∈ chars, char ≠ '"' ∧ char ≠ '\\' ∧ 0x20 ≤ char.toNat) :
    spelled? (chars.pmap Piece.plain allowed) = some chars := by
  induction chars with
  | nil => rfl
  | cons char chars inductionHypothesis =>
      rw [List.pmap_cons, spelled?, inductionHypothesis, Option.map_some]

/-- A member without blanks around a key that needs no escapes. -/
def NamedMember.plain
    (chars : List Char)
    (plain : chars.all isPlain = true)
    (element : Element) :
    NamedMember where
  before := []
  key := chars.pmap Piece.plain fun char member =>
    isPlain_iff.mp (List.all_eq_true.mp plain char member)
  behind := []
  element := element
  chars := chars
  spelled := spelled?_plain chars _

end Strings

section Decimals

variable {negative : Bool} {significand : Nat} {power value : Int} {text rest : List Char}

theorem readDecimal_ne_integer :
    readDecimal negative significand power text ≠ .ok (.integer value, rest) := by
  unfold readDecimal
  cases scale (Float.ofNat significand) power <;> simp [Except.map]

theorem readExponent_ne_integer :
    readExponent negative significand power text ≠ .ok (.integer value, rest) := by
  simp only [readExponent]
  split
  · exact fun failed => by cases failed
  · split
    · exact readDecimal_ne_integer
    · exact fun failed => by cases failed

theorem readFraction_ne_integer :
    readFraction negative significand power text ≠ .ok (.integer value, rest) := by
  simp only [readFraction]
  split
  · exact fun failed => by cases failed
  · split
    · unfold readPower
      split
      · exact readDecimal_ne_integer
      · split
        · exact readExponent_ne_integer
        · exact readDecimal_ne_integer
    · exact fun failed => by cases failed

end Decimals

section Numbers

variable {negative : Bool} {value : Int} {rest behind : List Char}

/-- Behind the digits of an integer there is neither a point nor an exponent. -/
theorem integer_of_readTail
    {significand excess : Nat}
    {text : List Char}
    (read : readTail negative significand excess text = .ok (.integer value, behind)) :
    excess = 0 ∧ wholeNumber negative significand = .integer value ∧ behind = text ∧
      text.head? ≠ some '.' ∧ text.head?.any isExponentMark = false := by
  unfold readTail at read
  split at read
  · exact absurd read readFraction_ne_integer
  · next notPoint =>
    split at read
    · exact absurd read readExponent_ne_integer
    · next notMark =>
      split at read
      · next noExcess =>
        simp only [Except.ok.injEq, Prod.mk.injEq] at read
        refine ⟨noExcess, read.1, read.2.symm, ?_, Bool.eq_false_iff.mpr notMark⟩
        intro point
        obtain ⟨tail, shape⟩ := List.head?_eq_some_iff.mp point
        exact notPoint tail shape
      · exact absurd read readDecimal_ne_integer

/-- Where nothing of a run of digits is left over, its whole value fits the significand. -/
theorem fits_of_absorb
    {digits : List Char}
    {significand : Nat}
    (allDigits : ∀ char ∈ digits, char.isDigit = true)
    (bound : significand ≤ maxSignificand)
    (nothingLeft : startsWithDigit (absorb significand (digits ++ rest)).rest = false) :
    Nat.ofDigitChars 10 digits significand ≤ maxSignificand := by
  induction digits generalizing significand with
  | nil => exact bound
  | cons digit digits inductionHypothesis =>
      obtain ⟨isDigit, restDigits⟩ := List.forall_mem_cons.mp allDigits
      have grown :
          10 * significand + (digit.toNat - '0'.toNat) =
            significand * 10 + digitValue digit := by
        rw [Nat.mul_comm]
        rfl
      rw [Nat.ofDigitChars_cons, grown]
      by_cases small : significand * 10 + digitValue digit ≤ maxSignificand
      · refine inductionHypothesis restDigits small ?_
        simpa [absorb, isDigit, small] using nothingLeft
      · have left : startsWithDigit (digit :: (digits ++ rest)) = false := by
          simpa [absorb, small] using nothingLeft
        rw [startsWithDigit, List.head?_cons, Option.any_some, isDigit] at left
        cases left

theorem startsWithDigit_of_takeWhile
    {text : List Char}
    (none : (text.takeWhile Char.isDigit).length = 0) :
    startsWithDigit text = false := by
  cases text with
  | nil => rfl
  | cons char rest =>
      cases digit : char.isDigit with
      | false => exact digit
      | true => simp [digit] at none

/-- The integer part is all that is read, up to something that neither a fraction nor an
exponent begins with. -/
theorem integer_of_readMagnitude
    {number : Nat}
    {tail : List Char}
    (stops : startsWithDigit tail = false)
    (read :
      readMagnitude negative (Nat.toDigits 10 number ++ tail) = .ok (.integer value, behind)) :
    wholeNumber negative number = .integer value ∧ behind = tail ∧
      tail.head? ≠ some '.' ∧ tail.head?.any isExponentMark = false := by
  rcases Nat.eq_zero_or_pos number with rfl | positive
  · rw [Nat.toDigits_zero, List.singleton_append, readMagnitude, if_pos rfl, stops,
      if_neg Bool.false_ne_true] at read
    exact (integer_of_readTail read).2
  · obtain ⟨first, more, shape, nonzero⟩ := toDigits_of_pos positive
    have allDigits : ∀ char ∈ first :: more, char.isDigit = true :=
      fun _ member => isDigit_of_mem_toDigits (shape ▸ member)
    rw [shape, List.cons_append, readMagnitude, if_neg nonzero,
      if_pos (allDigits first List.mem_cons_self)] at read
    obtain ⟨noExcess, whole, shown, notPoint, notMark⟩ := integer_of_readTail read
    have fits := fits_of_absorb allDigits (Nat.zero_le _) (startsWithDigit_of_takeWhile noExcess)
    have value : Nat.ofDigitChars 10 (first :: more) 0 = number := by
      rw [← shape, Nat.ofDigitChars_ten_toDigits]
    have absorbed := absorb_digits allDigits fits stops
    rw [List.cons_append, value] at absorbed
    rw [absorbed] at whole shown notPoint notMark
    rw [dropWhile_of_stops stops] at shown notPoint notMark
    exact ⟨whole, shown, notPoint, notMark⟩

/-- Behind its sign a number is its integer part and its tail. -/
theorem readNumber_text
    (number : Number)
    (rest : List Char) :
    readNumber (number.text ++ rest) =
      readMagnitude number.negative (Nat.toDigits 10 number.whole ++ (number.tail ++ rest)) := by
  rw [Number.text, List.append_assoc, List.append_assoc]
  cases number.negative with
  | false =>
      rw [if_neg Bool.false_ne_true, List.nil_append, readNumber_toDigits]
  | true => rfl

/-- What a number without a fraction and an exponent is read as, if it is read as an integer. -/
theorem wholeNumber_eq_integer
    {number : Nat} :
    wholeNumber negative number = .integer value ↔
      (negative = false ∧ (number : Int) = value) ∨
        (negative = true ∧ number ≠ 0 ∧ number ≤ Nat.pow 2 63 ∧ -(number : Int) = value) := by
  cases negative with
  | false => simp [wholeNumber]
  | true =>
      by_cases beyond : number = 0 ∨ Nat.pow 2 63 < number
      · simp only [wholeNumber, beyond, if_true, Bool.not_true, Bool.false_eq_true, if_false]
        constructor
        · exact fun failed => by cases failed
        · rintro (⟨never, -⟩ | ⟨-, nonzero, small, -⟩)
          · cases never
          · exact absurd beyond (by omega)
      · simp only [wholeNumber, beyond, if_false, Bool.not_true, Bool.false_eq_true]
        rw [not_or, Nat.not_lt] at beyond
        simp [beyond]

/-- What a number spells if it spells an integer. -/
theorem integer?_eq_some {number : Number} :
    number.integer? = some value ↔
      number.fraction = none ∧ number.exponent = none ∧
        ((number.negative = false ∧ (number.whole : Int) = value) ∨
          (number.negative = true ∧ number.whole ≠ 0 ∧ -(number.whole : Int) = value)) := by
  obtain ⟨negative, whole, fraction, exponent⟩ := number
  cases fraction <;> cases exponent <;> cases negative <;> simp [Number.integer?]

/-- A number that is read as an integer spells this integer. -/
theorem integer_of_readNumber
    {number : Number}
    (ends : endsNumber rest = true)
    (read : readNumber (number.text ++ rest) = .ok (.integer value, behind)) :
    number.integer? = some value ∧ behind = rest := by
  rw [readNumber_text] at read
  have stops := startsWithDigit_of_endsNumber ends
  obtain ⟨spelled, shown, notPoint, notMark⟩ :=
    integer_of_readMagnitude (number.startsWithDigit_tail stops) read
  obtain ⟨negative, whole, fraction, exponent⟩ := number
  cases fraction with
  | some digits => exact absurd rfl notPoint
  | none =>
      cases exponent with
      | some exponent =>
          obtain ⟨capital, sign, digits⟩ := exponent
          cases capital <;> cases notMark
      | none =>
          refine ⟨integer?_eq_some.mpr ⟨rfl, rfl, ?_⟩, shown⟩
          rcases wholeNumber_eq_integer.mp spelled with positive | ⟨negative, nonzero, -, same⟩
          · exact .inl positive
          · exact .inr ⟨negative, nonzero, same⟩

/-- A number that spells an integer of 64 bits, with a sign or without, is read as it. -/
theorem readNumber_of_integer?
    {number : Number}
    (ends : endsNumber rest = true)
    (spells : number.integer? = some value)
    (low : -Nat.pow 2 63 ≤ value)
    (high : value ≤ maxSignificand) :
    readNumber (number.text ++ rest) = .ok (.integer value, rest) := by
  have signed := pow_le_maxSignificand
  obtain ⟨noFraction, noExponent, spelled⟩ := integer?_eq_some.mp spells
  have tail : number.tail = [] := by
    rw [Number.tail, noFraction, noExponent]
    rfl
  have fits : number.whole ≤ maxSignificand := by
    omega
  have whole : wholeNumber number.negative number.whole = .integer value := by
    rw [wholeNumber_eq_integer]
    rcases spelled with ⟨positive, same⟩ | ⟨negative, nonzero, same⟩
    · exact .inl ⟨positive, same⟩
    · exact .inr ⟨negative, nonzero, by omega, same⟩
  rw [readNumber_text, tail, List.nil_append, readMagnitude_toDigits ends number.negative fits,
    whole]

end Numbers

end AudioScope.Json
