namespace AudioScope

/-!
# Integers of fixed width

The fields of a debug report are machine words, signed or unsigned.  A word is
read and written as the integer it stands for, so everything that handles words
goes through two maps: `FixedWidth.toInt` gives the integer, and
`FixedWidth.ofInt?` gives the word of an integer that fits.  The two are inverse
to each other (`FixedWidth.ofInt?_toInt`, `FixedWidth.toInt_of_ofInt?`).
-/

/-- How a word is read as an integer: with or without a sign, and from how many bits. -/
structure WordFormat where
  signed : Bool
  bits : Nat
  deriving Repr, DecidableEq

namespace WordFormat

/-- The least integer of a format. -/
def lowest (format : WordFormat) : Int :=
  if format.signed then -Nat.pow 2 (format.bits - 1) else 0

/-- The greatest integer of a format. -/
def highest (format : WordFormat) : Int :=
  if format.signed then Nat.pow 2 (format.bits - 1) - 1 else Nat.pow 2 format.bits - 1

/-- The short name of a format: its kind of sign, then its number of bits. -/
def name (format : WordFormat) : String :=
  (if format.signed then "i" else "u") ++ toString format.bits

end WordFormat

/-- A type of machine words, each of which stands for one integer of the type's format. -/
class FixedWidth (α : Type) where
  format : WordFormat
  toInt : α → Int
  ofInt : Int → α
  ofInt_toInt : ∀ word, ofInt (toInt word) = word
  toInt_ofInt :
    ∀ value, format.lowest ≤ value → value ≤ format.highest → toInt (ofInt value) = value
  lowest_le_toInt : ∀ word, format.lowest ≤ toInt word
  toInt_le_highest : ∀ word, toInt word ≤ format.highest

namespace FixedWidth

/-- The word of an integer, if the integer lies in the range of the format. -/
def ofInt?
    {α : Type}
    [FixedWidth α]
    (value : Int) :
    Option α :=
  if (format α).lowest ≤ value ∧ value ≤ (format α).highest then
    some (ofInt value)
  else
    none

theorem ofInt?_toInt
    {α : Type}
    [FixedWidth α]
    (word : α) :
    ofInt? (toInt word) = some word := by
  simp [ofInt?, lowest_le_toInt, toInt_le_highest, ofInt_toInt]

/-- Different words stand for different integers. -/
theorem toInt_inj
    {α : Type}
    [FixedWidth α]
    {left right : α} :
    toInt left = toInt right ↔ left = right := by
  constructor
  · intro same
    rw [← ofInt_toInt left, same, ofInt_toInt]
  · rintro rfl
    rfl

theorem toInt_of_ofInt?
    {α : Type}
    [FixedWidth α]
    {value : Int}
    {word : α}
    (found : ofInt? value = some word) :
    toInt word = value := by
  unfold ofInt? at found
  split at found
  · next inRange =>
    cases found
    exact toInt_ofInt value inRange.1 inRange.2
  · cases found

theorem ofInt?_eq_none_iff
    {α : Type}
    [FixedWidth α]
    {value : Int} :
    (ofInt? value : Option α) = none ↔
      value < (format α).lowest ∨ (format α).highest < value := by
  unfold ofInt?
  split <;> simp <;> omega

/-- The decimal text of a word. -/
def text
    {α : Type}
    [FixedWidth α]
    (word : α) :
    String :=
  toString (toInt word)

end FixedWidth

instance : FixedWidth UInt8 where
  format := ⟨false, 8⟩
  toInt word := word.toNat
  ofInt value := UInt8.ofNat value.toNat
  ofInt_toInt word := by simp
  toInt_ofInt value low high := by
    simp [WordFormat.lowest, WordFormat.highest] at low high
    simp
    omega
  lowest_le_toInt word := by simp [WordFormat.lowest]
  toInt_le_highest word := by
    have := word.toNat_lt
    simp [WordFormat.highest]
    omega

instance : FixedWidth UInt16 where
  format := ⟨false, 16⟩
  toInt word := word.toNat
  ofInt value := UInt16.ofNat value.toNat
  ofInt_toInt word := by simp
  toInt_ofInt value low high := by
    simp [WordFormat.lowest, WordFormat.highest] at low high
    simp
    omega
  lowest_le_toInt word := by simp [WordFormat.lowest]
  toInt_le_highest word := by
    have := word.toNat_lt
    simp [WordFormat.highest]
    omega

instance : FixedWidth UInt32 where
  format := ⟨false, 32⟩
  toInt word := word.toNat
  ofInt value := UInt32.ofNat value.toNat
  ofInt_toInt word := by simp
  toInt_ofInt value low high := by
    simp [WordFormat.lowest, WordFormat.highest] at low high
    simp
    omega
  lowest_le_toInt word := by simp [WordFormat.lowest]
  toInt_le_highest word := by
    have := word.toNat_lt
    simp [WordFormat.highest]
    omega

instance : FixedWidth Int8 where
  format := ⟨true, 8⟩
  toInt word := word.toInt
  ofInt value := Int8.ofInt value
  ofInt_toInt word := by simp
  toInt_ofInt value low high := by
    simp [WordFormat.lowest, WordFormat.highest] at low high
    exact Int8.toInt_ofInt_of_le (by omega) (by omega)
  lowest_le_toInt word := by
    have := word.le_toInt
    simp [WordFormat.lowest]
    omega
  toInt_le_highest word := by
    have := word.toInt_lt
    simp [WordFormat.highest]
    omega

instance : FixedWidth Int16 where
  format := ⟨true, 16⟩
  toInt word := word.toInt
  ofInt value := Int16.ofInt value
  ofInt_toInt word := by simp
  toInt_ofInt value low high := by
    simp [WordFormat.lowest, WordFormat.highest] at low high
    exact Int16.toInt_ofInt_of_le (by omega) (by omega)
  lowest_le_toInt word := by
    have := word.le_toInt
    simp [WordFormat.lowest]
    omega
  toInt_le_highest word := by
    have := word.toInt_lt
    simp [WordFormat.highest]
    omega

end AudioScope
