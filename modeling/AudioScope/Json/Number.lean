import AudioScope.Decimal.Shortest
import AudioScope.Json.Basic

namespace AudioScope.Json

/-!
# Numbers

`readNumber` reads a number.  Without a fraction and an exponent it is an
integer, as long as it fits 64 bits; every other number is a floating-point
number, and so is a zero with a minus sign.  A number beyond the range of
floating-point numbers is malformed.

`skipNumber` passes over a number whose value nobody needs, of any size.
-/

/-- A number that has been read. -/
inductive Numeral where
  | integer (value : Int)
  | decimal (value : Decimal)
  deriving Repr, DecidableEq

/-- The value of a digit. -/
def digitValue (char : Char) : Nat :=
  char.toNat - '0'.toNat

/-- Whether a text begins with a digit. -/
def startsWithDigit (text : List Char) : Bool :=
  text.head?.any Char.isDigit

/-- The greatest significand: digits beyond it are not kept. -/
def maxSignificand : Nat := Nat.pow 2 64 - 1

/-- A significand, the number of digits that went into it, and the text behind them. -/
structure Absorbed where
  significand : Nat
  count : Nat
  rest : List Char
  deriving Repr, DecidableEq

/-- Take digits into a significand as long as they fit. -/
def absorb (significand : Nat) : List Char → Absorbed
  | [] => ⟨significand, 0, []⟩
  | char :: rest =>
      let grown := significand * 10 + digitValue char
      if char.isDigit && grown ≤ maxSignificand then
        let more := absorb grown rest
        { more with count := more.count + 1 }
      else
        ⟨significand, 0, char :: rest⟩

/-- The digits that were taken are gone. -/
theorem length_absorb
    (significand : Nat)
    (text : List Char) :
    (absorb significand text).count + (absorb significand text).rest.length = text.length := by
  induction text generalizing significand with
  | nil => rfl
  | cons char rest inductionHypothesis =>
      simp only [absorb]
      split
      · have tail := inductionHypothesis (significand * 10 + digitValue char)
        simp only [List.length_cons]
        omega
      · simp

/-- A power of ten. -/
def powerOfTen (power : Nat) : Float :=
  Float.ofScientific 1 false power

/-- The greatest power of ten that is a floating-point number. -/
def maxPower : Nat := 308

/--
A number times a power of ten, in one multiplication or division where that
power is a floating-point number.  Beyond the range the number is malformed.
-/
def scale
    (value : Float)
    (power : Int) :
    Except Flaw Float :=
  if power < -maxPower then
    if value == 0 then .ok value else scale (value / powerOfTen maxPower) (power + maxPower)
  else if power < 0 then
    .ok (value / powerOfTen power.natAbs)
  else if maxPower < power then
    if value == 0 then .ok value else .error .malformed
  else
    let scaled := value * powerOfTen power.natAbs
    if scaled.isInf then .error .malformed else .ok scaled
termination_by power.natAbs
decreasing_by
  simp only [maxPower] at *
  omega

/-- A number with a fraction or an exponent. -/
def readDecimal
    (negative : Bool)
    (significand : Nat)
    (power : Int)
    (rest : List Char) :
    Except Flaw (Numeral × List Char) :=
  (scale (Float.ofNat significand) power).map fun value =>
    (.decimal (Decimal.ofFloat (if negative then -value else value)), rest)

/-- A number without a fraction and an exponent. -/
def wholeNumber
    (negative : Bool)
    (significand : Nat) :
    Numeral :=
  if !negative then
    .integer significand
  else if significand = 0 ∨ Nat.pow 2 63 < significand then
    .decimal (Decimal.ofFloat (-Float.ofNat significand))
  else
    .integer (-significand)

/-- Skip the sign of an exponent and tell whether it is a minus sign. -/
def readSign : List Char → Bool × List Char
  | '+' :: rest => (false, rest)
  | '-' :: rest => (true, rest)
  | text => (false, text)

theorem length_readSign_le (text : List Char) : (readSign text).2.length ≤ text.length := by
  unfold readSign
  split <;> simp

/-- Whether a character announces an exponent. -/
def isExponentMark (char : Char) : Bool :=
  char == 'e' || char == 'E'

/-- Read an exponent behind its mark. -/
def readExponent
    (negative : Bool)
    (significand : Nat)
    (power : Int)
    (text : List Char) :
    Except Flaw (Numeral × List Char) :=
  let (down, text) := readSign text
  if text.isEmpty then
    .error .unfinished
  else if startsWithDigit text then
    let digits := text.takeWhile Char.isDigit
    let exponent : Int := digits.foldl (fun value char => value * 10 + digitValue char) 0
    readDecimal negative significand (if down then power - exponent else power + exponent)
      (text.dropWhile Char.isDigit)
  else
    .error .malformed

/-- Read what follows the digits behind a point. -/
def readPower
    (negative : Bool)
    (significand : Nat)
    (power : Int) :
    List Char → Except Flaw (Numeral × List Char)
  | [] => readDecimal negative significand power []
  | char :: rest =>
      if isExponentMark char then
        readExponent negative significand power rest
      else
        readDecimal negative significand power (char :: rest)

/-- Read a fraction behind its point; digits that do not fit the significand are left out. -/
def readFraction
    (negative : Bool)
    (significand : Nat)
    (power : Int)
    (text : List Char) :
    Except Flaw (Numeral × List Char) :=
  if text.isEmpty then
    .error .unfinished
  else if startsWithDigit text then
    let absorbed := absorb significand text
    readPower negative absorbed.significand (power - absorbed.count)
      (absorbed.rest.dropWhile Char.isDigit)
  else
    .error .malformed

/--
Read what follows the digits of the integer part, of which some may have been
in excess of the significand.
-/
def readTail
    (negative : Bool)
    (significand excess : Nat) :
    List Char → Except Flaw (Numeral × List Char)
  | '.' :: rest => readFraction negative significand excess rest
  | text =>
      if text.head?.any isExponentMark then
        readExponent negative significand excess (text.drop 1)
      else if excess = 0 then
        .ok (wholeNumber negative significand, text)
      else
        readDecimal negative significand excess text

/-- Read a number without a sign. -/
def readMagnitude
    (negative : Bool) :
    List Char → Except Flaw (Numeral × List Char)
  | [] => .error .unfinished
  | char :: rest =>
      if char = '0' then
        if startsWithDigit rest then .error .malformed else readTail negative 0 0 rest
      else if char.isDigit then
        let absorbed := absorb 0 (char :: rest)
        readTail negative absorbed.significand
          (absorbed.rest.takeWhile Char.isDigit).length
          (absorbed.rest.dropWhile Char.isDigit)
      else
        .error .malformed

/-- Read a number. -/
def readNumber : List Char → Except Flaw (Numeral × List Char)
  | '-' :: rest => readMagnitude true rest
  | text => readMagnitude false text

/-- Skip an exponent, if there is one. -/
def skipPower : List Char → Except Flaw (List Char)
  | [] => .ok []
  | char :: rest =>
      if isExponentMark char then
        let text := (readSign rest).2
        if startsWithDigit text then .ok (text.dropWhile Char.isDigit) else .error .malformed
      else
        .ok (char :: rest)

/-- Skip a fraction and an exponent, if there are any. -/
def skipTail : List Char → Except Flaw (List Char)
  | '.' :: rest =>
      if startsWithDigit rest then skipPower (rest.dropWhile Char.isDigit) else .error .malformed
  | text => skipPower text

/-- Skip a number without a sign. -/
def skipMagnitude : List Char → Except Flaw (List Char)
  | [] => .error .malformed
  | char :: rest =>
      if char = '0' then
        if startsWithDigit rest then .error .malformed else skipTail rest
      else if char.isDigit then
        skipTail (rest.dropWhile Char.isDigit)
      else
        .error .malformed

/-- Skip a number; a number that breaks off is malformed. -/
def skipNumber : List Char → Except Flaw (List Char)
  | '-' :: rest => skipMagnitude rest
  | text => skipMagnitude text

theorem length_dropDigits_le (text : List Char) :
    (text.dropWhile Char.isDigit).length ≤ text.length :=
  (List.dropWhile_sublist Char.isDigit).length_le

/-- What is left behind a decimal number is what was handed over. -/
theorem rest_of_readDecimal
    {negative : Bool}
    {significand : Nat}
    {power : Int}
    {text rest : List Char}
    {numeral : Numeral}
    (read : readDecimal negative significand power text = .ok (numeral, rest)) :
    rest = text := by
  unfold readDecimal at read
  cases scaled : scale (Float.ofNat significand) power with
  | error flaw =>
      rw [scaled] at read
      cases read
  | ok value =>
      rw [scaled] at read
      simp only [Except.map, Except.ok.injEq, Prod.mk.injEq] at read
      exact read.2.symm

theorem length_le_of_readExponent
    {negative : Bool}
    {significand : Nat}
    {power : Int}
    {text rest : List Char}
    {numeral : Numeral}
    (read : readExponent negative significand power text = .ok (numeral, rest)) :
    rest.length ≤ text.length := by
  simp only [readExponent] at read
  split at read
  · cases read
  · split at read
    · rw [rest_of_readDecimal read]
      exact Nat.le_trans (length_dropDigits_le _) (length_readSign_le text)
    · cases read

theorem length_le_of_readPower
    {negative : Bool}
    {significand : Nat}
    {power : Int}
    {text rest : List Char}
    {numeral : Numeral}
    (read : readPower negative significand power text = .ok (numeral, rest)) :
    rest.length ≤ text.length := by
  unfold readPower at read
  split at read
  · exact Nat.le_of_eq (congrArg List.length (rest_of_readDecimal read))
  · split at read
    · have shorter := length_le_of_readExponent read
      simp only [List.length_cons]
      omega
    · exact Nat.le_of_eq (congrArg List.length (rest_of_readDecimal read))

theorem length_le_of_readFraction
    {negative : Bool}
    {significand : Nat}
    {power : Int}
    {text rest : List Char}
    {numeral : Numeral}
    (read : readFraction negative significand power text = .ok (numeral, rest)) :
    rest.length ≤ text.length := by
  simp only [readFraction] at read
  split at read
  · cases read
  · split at read
    · have shorter := length_le_of_readPower read
      have dropped := length_dropDigits_le (absorb significand text).rest
      have taken := length_absorb significand text
      omega
    · cases read

theorem length_le_of_readTail
    {negative : Bool}
    {significand excess : Nat}
    {text rest : List Char}
    {numeral : Numeral}
    (read : readTail negative significand excess text = .ok (numeral, rest)) :
    rest.length ≤ text.length := by
  unfold readTail at read
  split at read
  · have shorter := length_le_of_readFraction read
    simp only [List.length_cons]
    omega
  · split at read
    · have shorter := length_le_of_readExponent read
      simp only [List.length_drop] at shorter
      omega
    · split at read
      · cases read
        exact Nat.le_refl _
      · exact Nat.le_of_eq (congrArg List.length (rest_of_readDecimal read))

theorem length_le_of_readMagnitude
    {negative : Bool}
    {text rest : List Char}
    {numeral : Numeral}
    (read : readMagnitude negative text = .ok (numeral, rest)) :
    rest.length ≤ text.length := by
  unfold readMagnitude at read
  split at read
  · cases read
  · next char tail =>
    split at read
    · split at read
      · cases read
      · have shorter := length_le_of_readTail read
        simp only [List.length_cons]
        omega
    · split at read
      · have shorter := length_le_of_readTail read
        have dropped := length_dropDigits_le (absorb 0 (char :: tail)).rest
        have taken := length_absorb 0 (char :: tail)
        omega
      · cases read

theorem length_le_of_readNumber
    {text rest : List Char}
    {numeral : Numeral}
    (read : readNumber text = .ok (numeral, rest)) :
    rest.length ≤ text.length := by
  unfold readNumber at read
  split at read
  · have shorter := length_le_of_readMagnitude read
    simp only [List.length_cons]
    omega
  · exact length_le_of_readMagnitude read

theorem length_le_of_skipPower
    {text rest : List Char}
    (skipped : skipPower text = .ok rest) :
    rest.length ≤ text.length := by
  unfold skipPower at skipped
  split at skipped
  · cases skipped
    exact Nat.le_refl _
  · next char tail =>
    simp only at skipped
    split at skipped
    · split at skipped
      · cases skipped
        have dropped := length_dropDigits_le (readSign tail).2
        have signed := length_readSign_le tail
        simp only [List.length_cons]
        omega
      · cases skipped
    · cases skipped
      exact Nat.le_refl _

theorem length_le_of_skipTail
    {text rest : List Char}
    (skipped : skipTail text = .ok rest) :
    rest.length ≤ text.length := by
  unfold skipTail at skipped
  split at skipped
  · next tail =>
    split at skipped
    · have shorter := length_le_of_skipPower skipped
      have dropped := length_dropDigits_le tail
      simp only [List.length_cons]
      omega
    · cases skipped
  · exact length_le_of_skipPower skipped

theorem length_lt_of_skipMagnitude
    {text rest : List Char}
    (skipped : skipMagnitude text = .ok rest) :
    rest.length < text.length := by
  unfold skipMagnitude at skipped
  split at skipped
  · cases skipped
  · next char tail =>
    split at skipped
    · split at skipped
      · cases skipped
      · have shorter := length_le_of_skipTail skipped
        simp only [List.length_cons]
        omega
    · split at skipped
      · have shorter := length_le_of_skipTail skipped
        have dropped := length_dropDigits_le tail
        simp only [List.length_cons]
        omega
      · cases skipped

theorem length_lt_of_skipNumber
    {text rest : List Char}
    (skipped : skipNumber text = .ok rest) :
    rest.length < text.length := by
  unfold skipNumber at skipped
  split at skipped
  · have shorter := length_lt_of_skipMagnitude skipped
    simp only [List.length_cons]
    omega
  · exact length_lt_of_skipMagnitude skipped

end AudioScope.Json
