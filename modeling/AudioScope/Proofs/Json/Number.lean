import AudioScope.Json.Number
import AudioScope.Proofs.FixedWidth.Text

namespace AudioScope.Json

/-!
# Integers as JSON numbers

The decimal text of an integer that fits 64 bits is read as this integer, up to
the first character with which no number goes on.
-/

/-- Whether a number goes on with a character. -/
def continuesNumber (char : Char) : Bool :=
  char.isDigit || char == '.' || isExponentMark char

/-- Whether a number ends where a text begins. -/
def endsNumber (rest : List Char) : Bool :=
  !rest.head?.any continuesNumber

theorem endsNumber_cons
    {char : Char}
    {rest : List Char} :
    endsNumber (char :: rest) = true ↔
      char.isDigit = false ∧ char ≠ '.' ∧ isExponentMark char = false := by
  simp [endsNumber, continuesNumber, and_assoc]

/-- No character of an integer is skipped in front of it. -/
theorem isBlank_of_isNumeral
    {char : Char}
    (numeral : isNumeral char = true) :
    isBlank char = false := by
  cases blank : isBlank char with
  | false =>
      rfl
  | true =>
      simp only [isBlank, Bool.or_eq_true, beq_iff_eq] at blank
      rcases blank with ((rfl | rfl) | rfl) | rfl <;> cases numeral

theorem startsWithDigit_of_endsNumber
    {rest : List Char}
    (ends : endsNumber rest = true) :
    startsWithDigit rest = false := by
  cases rest with
  | nil =>
      rfl
  | cons char rest =>
      exact (endsNumber_cons.mp ends).1

/-- All digits of a number that fits are taken into the significand. -/
theorem absorb_digits
    {digits rest : List Char}
    {significand : Nat}
    (allDigits : ∀ char ∈ digits, char.isDigit = true)
    (fits : Nat.ofDigitChars 10 digits significand ≤ maxSignificand)
    (stops : startsWithDigit rest = false) :
    absorb significand (digits ++ rest) =
      ⟨Nat.ofDigitChars 10 digits significand, digits.length, rest⟩ := by
  induction digits generalizing significand with
  | nil =>
      cases rest with
      | nil =>
          simp [absorb]
      | cons char rest =>
          have foreign : char.isDigit = false := stops
          simp [absorb, foreign]
  | cons digit digits inductionHypothesis =>
      obtain ⟨isDigit, restDigits⟩ := List.forall_mem_cons.mp allDigits
      have grown :
          10 * significand + (digit.toNat - '0'.toNat) =
            significand * 10 + digitValue digit := by
        rw [Nat.mul_comm]
        rfl
      rw [Nat.ofDigitChars_cons, grown] at fits ⊢
      have small : significand * 10 + digitValue digit ≤ maxSignificand :=
        Nat.le_trans (le_ofDigitChars digits _) fits
      simp [absorb, isDigit, small, inductionHypothesis restDigits fits]

/-- A positive number does not start with a zero. -/
theorem toDigits_of_pos
    {number : Nat}
    (positive : 0 < number) :
    ∃ first more, Nat.toDigits 10 number = first :: more ∧ first ≠ '0' := by
  induction number using Nat.strongRecOn with
  | ind number inductionHypothesis =>
    by_cases small : number < 10
    · refine ⟨_, _, Nat.toDigits_of_lt_base small, ?_⟩
      intro zero
      have values := congrArg Char.toNat zero
      rw [Nat.toNat_digitChar_of_lt_ten small] at values
      have zeroCode : '0'.toNat = 48 := rfl
      omega
    · -- The last digit is taken away, and there is a digit in front of it.
      have large := Nat.le_of_not_lt small
      obtain ⟨first, more, shape, nonzero⟩ :=
        inductionHypothesis (number / 10) (by omega) (by omega)
      refine ⟨first, more ++ [Nat.digitChar (number % 10)], ?_, nonzero⟩
      rw [Nat.toDigits_of_base_le (by decide) large, shape, List.cons_append]

section

variable {rest : List Char}

/-- Nothing more is read where a number ends. -/
theorem readTail_of_endsNumber
    (ends : endsNumber rest = true)
    (negative : Bool)
    (significand : Nat) :
    readTail negative significand 0 rest = .ok (wholeNumber negative significand, rest) := by
  cases rest with
  | nil =>
      rfl
  | cons char rest =>
      obtain ⟨-, notPoint, notMark⟩ := endsNumber_cons.mp ends
      unfold readTail
      split
      · next shape =>
        exact absurd (List.cons.inj shape).1 notPoint
      · simp [notMark]

/-- The digits of a number are read to their end. -/
theorem readMagnitude_toDigits
    (ends : endsNumber rest = true)
    (negative : Bool)
    {number : Nat}
    (fits : number ≤ maxSignificand) :
    readMagnitude negative (Nat.toDigits 10 number ++ rest) =
      .ok (wholeNumber negative number, rest) := by
  have stops := startsWithDigit_of_endsNumber ends
  have ending := readTail_of_endsNumber ends negative
  rcases Nat.eq_zero_or_pos number with rfl | positive
  · rw [Nat.toDigits_zero, List.singleton_append]
    simp [readMagnitude, stops, ending]
  · obtain ⟨first, more, shape, nonzero⟩ := toDigits_of_pos positive
    have firstDigit : first.isDigit = true :=
      isDigit_of_mem_toDigits (shape ▸ List.mem_cons_self)
    have absorbed :
        absorb 0 (first :: (more ++ rest)) = ⟨number, (first :: more).length, rest⟩ := by
      rw [← List.cons_append, ← shape]
      have value : Nat.ofDigitChars 10 (Nat.toDigits 10 number) 0 = number :=
        Nat.ofDigitChars_ten_toDigits
      rw [absorb_digits (fun _ member => isDigit_of_mem_toDigits member) (by rwa [value]) stops,
        value]
    rw [shape, List.cons_append, readMagnitude, if_neg nonzero, if_pos firstDigit, absorbed]
    simp only [takeWhile_of_stops stops, dropWhile_of_stops stops, List.length_nil, ending]

/-- The first digit of a number is no minus sign. -/
theorem toDigits_ne_minus
    (number : Nat)
    (rest text : List Char) :
    Nat.toDigits 10 number ++ rest ≠ '-' :: text := by
  intro minus
  obtain ⟨first, more, shape⟩ :=
    List.exists_cons_of_ne_nil (Nat.toDigits_ne_nil (b := 10) (n := number))
  have firstDigit : first.isDigit = true :=
    isDigit_of_mem_toDigits (shape ▸ List.mem_cons_self)
  rw [shape, List.cons_append] at minus
  rw [(List.cons.inj minus).1] at firstDigit
  cases firstDigit

/-- Without a minus sign a number is its magnitude. -/
theorem readNumber_toDigits
    (number : Nat)
    (rest : List Char) :
    readNumber (Nat.toDigits 10 number ++ rest) =
      readMagnitude false (Nat.toDigits 10 number ++ rest) := by
  rw [readNumber]
  exact toDigits_ne_minus number rest

/-- The magnitude of the least integer is kept as a significand. -/
theorem pow_le_maxSignificand : Nat.pow 2 63 ≤ maxSignificand := by
  decide

theorem wholeNumber_of_neg
    {value : Int}
    (negative : value < 0)
    (low : -Nat.pow 2 63 ≤ value) :
    wholeNumber true (-value).toNat = .integer value := by
  have magnitude : ((-value).toNat : Int) = -value := Int.toNat_of_nonneg (by omega)
  have fits : ¬((-value).toNat = 0 ∨ Nat.pow 2 63 < (-value).toNat) := by
    omega
  simp only [wholeNumber, Bool.not_true, Bool.false_eq_true, ↓reduceIte, fits, magnitude,
    Int.neg_neg]

/-- An integer of 64 bits, with a sign or without, is read from its decimal text. -/
theorem readNumber_toString
    (ends : endsNumber rest = true)
    {value : Int}
    (low : -Nat.pow 2 63 ≤ value)
    (high : value ≤ maxSignificand) :
    readNumber ((toString value).toList ++ rest) = .ok (.integer value, rest) := by
  by_cases nonneg : 0 ≤ value
  · have fits : value.toNat ≤ maxSignificand := by
      omega
    rw [toList_toString_of_nonneg nonneg, readNumber_toDigits,
      readMagnitude_toDigits ends false fits, ← Int.toNat_of_nonneg nonneg]
    rfl
  · have negative := Int.not_le.mp nonneg
    have signed := pow_le_maxSignificand
    have fits : (-value).toNat ≤ maxSignificand := by
      omega
    rw [toList_toString_of_neg negative, List.cons_append, readNumber,
      readMagnitude_toDigits ends true fits, wholeNumber_of_neg negative low]

end

end AudioScope.Json
