import AudioScope.FixedWidth

namespace AudioScope

/-!
# Decimal texts

An integer is written with digits and perhaps a minus sign in front of them, and
`decimalValue` reads it off its text.  So no two words have the same text, and a
text that starts with a word and goes on otherwise can be taken apart in one way
only (`FixedWidth.text_append_inj`).
-/

/-- Whether a character may stand in the text of an integer. -/
def isNumeral (char : Char) : Bool :=
  char == '-' || char.isDigit

/-- The integer that a decimal text stands for. -/
def decimalValue : List Char → Int
  | '-' :: digits => -(Nat.ofDigitChars 10 digits 0 : Int)
  | digits => Nat.ofDigitChars 10 digits 0

theorem isDigit_of_mem_toDigits
    {number : Nat}
    {char : Char}
    (member : char ∈ Nat.toDigits 10 number) :
    char.isDigit = true :=
  Nat.isDigit_of_mem_toDigits (by decide) (by decide) member

theorem decimalValue_toDigits (number : Nat) :
    decimalValue (Nat.toDigits 10 number) = number := by
  unfold decimalValue
  split
  · next digits shape =>
    have sign : '-' ∈ Nat.toDigits 10 number := by
      rw [shape]
      exact List.mem_cons_self
    exact absurd (isDigit_of_mem_toDigits sign) (by decide)
  · rw [Nat.ofDigitChars_ten_toDigits]

/-- More digits make no number smaller. -/
theorem le_ofDigitChars
    (digits : List Char)
    (significand : Nat) :
    significand ≤ Nat.ofDigitChars 10 digits significand := by
  rw [Nat.ofDigitChars_eq_ofDigitChars_zero]
  have scaled :=
    Nat.le_mul_of_pos_left significand (Nat.pow_pos (n := digits.length) (show 0 < 10 by decide))
  omega

section

variable {value : Int}

/-- The text of an integer without a sign is its digits. -/
theorem toList_toString_of_nonneg (nonneg : 0 ≤ value) :
    (toString value).toList = Nat.toDigits 10 value.toNat := by
  rw [Int.toString_eq_repr, Int.repr_eq_if, if_pos nonneg, Nat.toList_repr]

/-- The text of a negative integer is a minus sign and the digits of its magnitude. -/
theorem toList_toString_of_neg (negative : value < 0) :
    (toString value).toList = '-' :: Nat.toDigits 10 (-value).toNat := by
  rw [Int.toString_eq_repr, Int.repr_eq_if, if_neg (Int.not_le.mpr negative),
    String.toList_append, Nat.toList_repr]
  rfl

theorem isNumeral_of_mem_toString
    {char : Char}
    (member : char ∈ (toString value).toList) :
    isNumeral char = true := by
  by_cases nonneg : 0 ≤ value
  · rw [toList_toString_of_nonneg nonneg] at member
    simp [isNumeral, isDigit_of_mem_toDigits member]
  · rw [toList_toString_of_neg (Int.not_le.mp nonneg)] at member
    rcases List.mem_cons.mp member with sign | digit
    · simp [isNumeral, sign]
    · simp [isNumeral, isDigit_of_mem_toDigits digit]

end

/-- An integer can be read off its text. -/
theorem decimalValue_toString (value : Int) :
    decimalValue (toString value).toList = value := by
  by_cases nonneg : 0 ≤ value
  · rw [toList_toString_of_nonneg nonneg, decimalValue_toDigits, Int.toNat_of_nonneg nonneg]
  · have negative := Int.not_le.mp nonneg
    rw [toList_toString_of_neg negative, decimalValue, Nat.ofDigitChars_ten_toDigits]
    omega

section Spans

variable {inClass : Char → Bool} {rest : List Char}

theorem takeWhile_of_stops (stops : rest.head?.any inClass = false) :
    rest.takeWhile inClass = [] := by
  cases rest with
  | nil =>
      rfl
  | cons char rest =>
      have foreign : inClass char = false := stops
      rw [List.takeWhile_cons, foreign]
      rfl

theorem dropWhile_of_stops (stops : rest.head?.any inClass = false) :
    rest.dropWhile inClass = rest := by
  have whole : rest.takeWhile inClass ++ rest.dropWhile inClass = rest :=
    List.takeWhile_append_dropWhile
  rwa [takeWhile_of_stops stops, List.nil_append] at whole

/-- What all characters of one class are followed by can be split off in one way only. -/
theorem append_inj_of_span
    {left right leftRest rightRest : List Char}
    (leftIn : ∀ char ∈ left, inClass char = true)
    (rightIn : ∀ char ∈ right, inClass char = true)
    (leftStops : leftRest.head?.any inClass = false)
    (rightStops : rightRest.head?.any inClass = false)
    (same : left ++ leftRest = right ++ rightRest) :
    left = right ∧ leftRest = rightRest := by
  have spans := congrArg (List.takeWhile inClass) same
  rw [List.takeWhile_append_of_pos leftIn, List.takeWhile_append_of_pos rightIn,
    takeWhile_of_stops leftStops, takeWhile_of_stops rightStops, List.append_nil,
    List.append_nil] at spans
  subst spans
  exact ⟨rfl, List.append_cancel_left same⟩

end Spans

namespace FixedWidth

variable {α : Type} [FixedWidth α]

/-- A character of another kind does not occur in the text of a word. -/
theorem notMem_text
    {char : Char}
    (foreign : isNumeral char = false)
    (word : α) :
    char ∉ (text word).toList := by
  intro member
  rw [isNumeral_of_mem_toString member] at foreign
  cases foreign

/-- Different words have different texts. -/
theorem text_inj {left right : α} : text left = text right ↔ left = right := by
  constructor
  · intro same
    have values := congrArg (fun chars => decimalValue chars.toList) same
    simp only [text, decimalValue_toString] at values
    exact toInt_inj.mp values
  · rintro rfl
    rfl

/-- A text that starts with a word and goes on otherwise does so in one way only. -/
theorem text_append_inj
    {left right : α}
    {leftRest rightRest : List Char}
    (leftStops : leftRest.head?.any isNumeral = false)
    (rightStops : rightRest.head?.any isNumeral = false)
    (same : (text left).toList ++ leftRest = (text right).toList ++ rightRest) :
    left = right ∧ leftRest = rightRest := by
  obtain ⟨texts, rests⟩ :=
    append_inj_of_span (fun _ => isNumeral_of_mem_toString) (fun _ => isNumeral_of_mem_toString)
      leftStops rightStops same
  exact ⟨text_inj.mp (String.toList_injective texts), rests⟩

end FixedWidth

end AudioScope
