import AudioScope.CommandLine.Value
import AudioScope.Proofs.FixedWidth.Text

namespace AudioScope.CommandLine

/-!
# Values as they are written

A number may be written with a plus sign and with zeros in front, and is read as
the same number however it is written (`readNumber_text`).  A text is taken for a
name exactly if it has the shape of an identifier of C (`IsIdentifier`).
-/

/-- A number as it is written: with a plus sign or without, and with zeros in front. -/
structure Numeral where
  value : UInt32
  plus : Bool
  zeros : Nat
  deriving Repr, DecidableEq

namespace Numeral

/-- The digits of a numeral, the zeros in front included. -/
def digits (numeral : Numeral) : List Char :=
  List.replicate numeral.zeros '0' ++ Nat.toDigits 10 numeral.value.toNat

/-- The text of a numeral. -/
def text (numeral : Numeral) : String :=
  String.ofList ((if numeral.plus then ['+'] else []) ++ numeral.digits)

theorem isDigit_of_mem_digits
    (numeral : Numeral)
    {char : Char}
    (member : char ∈ numeral.digits) :
    char.isDigit = true := by
  rcases List.mem_append.mp member with zero | digit
  · rw [List.eq_of_mem_replicate zero]
    rfl
  · exact isDigit_of_mem_toDigits digit

/-- Zeros in front of a number do not change it. -/
theorem ofDigitChars_digits (numeral : Numeral) :
    Nat.ofDigitChars 10 numeral.digits 0 = numeral.value.toNat := by
  have zeros : Nat.ofDigitChars 10 (List.replicate numeral.zeros '0') 0 = 0 := by
    induction numeral.zeros with
    | zero =>
        rfl
    | succ zeros inductionHypothesis =>
        rw [List.replicate_succ, Nat.ofDigitChars_cons]
        exact inductionHypothesis
  rw [digits, Nat.ofDigitChars_append, zeros, Nat.ofDigitChars_ten_toDigits]

theorem digits_eq_cons (numeral : Numeral) :
    ∃ first more, numeral.digits = first :: more ∧ first.isDigit = true := by
  obtain ⟨first, more, shape⟩ : ∃ first more, numeral.digits = first :: more := by
    refine List.exists_cons_of_ne_nil fun empty => ?_
    exact Nat.toDigits_ne_nil (List.append_eq_nil_iff.mp empty).2
  refine ⟨first, more, shape, numeral.isDigit_of_mem_digits ?_⟩
  rw [shape]
  exact List.mem_cons_self

/-- A numeral does not begin with a dash. -/
theorem undashed (numeral : Numeral) : numeral.text.toList.head? ≠ some '-' := by
  obtain ⟨first, more, shape, isDigit⟩ := numeral.digits_eq_cons
  rw [text, String.toList_ofList, shape]
  cases numeral.plus with
  | true =>
      exact fun dash => absurd (Option.some.inj dash) (by decide)
  | false =>
      intro dash
      obtain rfl : first = '-' := Option.some.inj dash
      cases isDigit

end Numeral

/-- Digits are read to the end if their number is within the limit. -/
theorem readDigits_of_digits
    {limit value : Nat}
    (overflow : ValueFlaw)
    {digits : List Char}
    (allDigits : ∀ char ∈ digits, char.isDigit = true)
    (fits : Nat.ofDigitChars 10 digits value ≤ limit) :
    readDigits limit overflow value digits = .ok (Nat.ofDigitChars 10 digits value) := by
  induction digits generalizing value with
  | nil =>
      rfl
  | cons digit digits inductionHypothesis =>
      obtain ⟨isDigit, restDigits⟩ := List.forall_mem_cons.mp allDigits
      rw [Nat.ofDigitChars_cons, Nat.mul_comm] at fits ⊢
      have small : ¬ limit < value * 10 + (digit.toNat - '0'.toNat) :=
        Nat.not_lt.mpr (Nat.le_trans (le_ofDigitChars digits _) fits)
      simp only [readDigits, isDigit, ↓reduceIte, small]
      exact inductionHypothesis restDigits fits

section

variable {first : Char} {more : List Char} {value : Nat}

/-- Digits that can be read are an integer, -/
theorem readInteger_of_digits
    (isDigit : first.isDigit = true)
    (read : readDigits (Nat.pow 2 63 - 1) .tooLarge 0 (first :: more) = .ok value) :
    readInteger (first :: more) = .ok value := by
  have notPlus : first ≠ '+' := by
    rintro rfl
    cases isDigit
  have notMinus : first ≠ '-' := by
    rintro rfl
    cases isDigit
  simp [readInteger, notPlus, notMinus, read, Except.map, bind, Except.bind, pure, Except.pure]

/-- and so they are behind a plus sign. -/
theorem readInteger_of_plus
    (read : readDigits (Nat.pow 2 63 - 1) .tooLarge 0 (first :: more) = .ok value) :
    readInteger ('+' :: first :: more) = .ok value := by
  simp only [readInteger, read]
  rfl

end

/-- The integer of a numeral is read, whether it has a sign or not. -/
theorem readInteger_text (numeral : Numeral) :
    readInteger numeral.text.toList = .ok numeral.value.toNat := by
  have fits : Nat.ofDigitChars 10 numeral.digits 0 ≤ Nat.pow 2 63 - 1 := by
    rw [numeral.ofDigitChars_digits]
    exact Nat.le_trans (Nat.le_of_lt numeral.value.toNat_lt) (by decide)
  have read :=
    readDigits_of_digits .tooLarge (fun _ => numeral.isDigit_of_mem_digits) fits
  obtain ⟨first, more, shape, isDigit⟩ := numeral.digits_eq_cons
  rw [numeral.ofDigitChars_digits, shape] at read
  rw [Numeral.text, String.toList_ofList, shape]
  cases numeral.plus with
  | true =>
      exact readInteger_of_plus read
  | false =>
      exact readInteger_of_digits isDigit read

/-- A number is read off its text, however it is written. -/
theorem readNumber_text (numeral : Numeral) :
    readNumber numeral.text = .ok numeral.value := by
  have range : (0 : Int) ≤ numeral.value.toNat ∧ (numeral.value.toNat : Int) ≤ maxNumber :=
    ⟨Int.natCast_nonneg _, Int.ofNat_le.mpr (Nat.le_sub_one_of_lt numeral.value.toNat_lt)⟩
  simp only [readNumber, readInteger_text, range, and_self, ↓reduceIte, Int.toNat_natCast,
    UInt32.ofNat_toNat]

/-- Whether a character is an ASCII letter. -/
def IsLetter (char : Char) : Prop :=
  ('a' ≤ char ∧ char ≤ 'z') ∨ ('A' ≤ char ∧ char ≤ 'Z')

/--
A text has the shape of an identifier: an ASCII letter or an underscore, and behind
it any number of ASCII letters, digits and underscores.
-/
def IsIdentifier (text : String) : Prop :=
  ∃ first rest,
    text.toList = first :: rest ∧
      (IsLetter first ∨ first = '_') ∧
      ∀ char ∈ rest, IsLetter char ∨ ('0' ≤ char ∧ char ≤ '9') ∨ char = '_'

theorem isDigit_iff {char : Char} : char.isDigit = true ↔ '0' ≤ char ∧ char ≤ '9' :=
  Bool.and_eq_true_iff.trans (and_congr decide_eq_true_iff decide_eq_true_iff)

theorem isAlpha_iff {char : Char} : char.isAlpha = true ↔ IsLetter char := by
  have upper : char.isUpper = true ↔ 'A' ≤ char ∧ char ≤ 'Z' := decide_eq_true_iff
  have lower : char.isLower = true ↔ 'a' ≤ char ∧ char ≤ 'z' :=
    Bool.and_eq_true_iff.trans (and_congr decide_eq_true_iff decide_eq_true_iff)
  calc
    char.isAlpha = true ↔ char.isUpper = true ∨ char.isLower = true := Bool.or_eq_true_iff
    _ ↔ char.isLower = true ∨ char.isUpper = true := or_comm
    _ ↔ IsLetter char := or_congr lower upper

/-- A text is taken for a name exactly if it has the shape of an identifier. -/
theorem isIdentifier_iff {text : String} :
    isIdentifier text.toList = true ↔ IsIdentifier text := by
  have start {char : Char} :
      isIdentifierStart char = true ↔ IsLetter char ∨ char = '_' := by
    rw [isIdentifierStart, Bool.or_eq_true, isAlpha_iff, beq_iff_eq]
  have continued {char : Char} :
      isIdentifierRest char = true ↔
        IsLetter char ∨ ('0' ≤ char ∧ char ≤ '9') ∨ char = '_' := by
    rw [isIdentifierRest, Char.isAlphanum, Bool.or_eq_true, Bool.or_eq_true, isAlpha_iff,
      isDigit_iff, beq_iff_eq, or_assoc]
  unfold IsIdentifier
  cases text.toList with
  | nil =>
      simp [isIdentifier]
  | cons first rest =>
      rw [isIdentifier, Bool.and_eq_true, List.all_eq_true, start]
      simp only [continued]
      constructor
      · rintro ⟨starts, continues⟩
        exact ⟨first, rest, rfl, starts, continues⟩
      · rintro ⟨_, _, shape, starts, continues⟩
        obtain ⟨rfl, rfl⟩ := List.cons.inj shape
        exact ⟨starts, continues⟩

end AudioScope.CommandLine
