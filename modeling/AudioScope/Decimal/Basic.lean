namespace AudioScope

/-!
# Decimal numbers

A decimal number is a sign, a natural number of digits and a power of ten.
`Decimal.text` writes it positionally while its first digit stands between
10^-5 and 10^15, and with an exponent elsewhere.
-/

/-- The number digits · 10^exponent, with a sign that also zero may carry. -/
structure Decimal where
  negative : Bool
  digits : Nat
  exponent : Int
  deriving Repr, DecidableEq

namespace Decimal

/-- The digits of a number, the first one in front, without zeros at the end. -/
def significant (number : Decimal) : List Char :=
  ((Nat.toDigits 10 number.digits).reverse.dropWhile (· == '0')).reverse

/-- How many digits stand in front of the point; none or less for a small fraction. -/
def point (number : Decimal) : Int :=
  (Nat.toDigits 10 number.digits).length + number.exponent

/-- A text of zeros. -/
def zeros (count : Int) : List Char :=
  List.replicate count.toNat '0'

/-- The digits with a point among them, at least one digit on either side of it. -/
def positional
    (digits : List Char)
    (point : Int) :
    List Char :=
  if point ≤ 0 then
    '0' :: '.' :: (zeros (-point) ++ digits)
  else if (digits.length : Int) ≤ point then
    digits ++ zeros (point - digits.length) ++ ['.', '0']
  else
    digits.take point.toNat ++ '.' :: digits.drop point.toNat

/-- The digits with a point after the first one, and the power of ten that belongs to them. -/
def scientific
    (digits : List Char)
    (power : Int) :
    List Char :=
  let mantissa :=
    match digits with
    | first :: second :: rest => first :: '.' :: second :: rest
    | short => short
  let sign := if power < 0 then '-' else '+'
  mantissa ++ 'e' :: sign :: Nat.toDigits 10 power.natAbs

/-- The least power of ten of a first digit that is written positionally. -/
def lowestPositional : Int := -5

/-- The greatest power of ten of a first digit that is written positionally. -/
def highestPositional : Int := 15

/-- The text of a number without its sign. -/
def magnitude (number : Decimal) : List Char :=
  if number.digits = 0 then
    ['0', '.', '0']
  else
    let power := number.point - 1
    if lowestPositional ≤ power ∧ power ≤ highestPositional then
      positional number.significant number.point
    else
      scientific number.significant power

/-- The text of a number. -/
def text (number : Decimal) : String :=
  String.ofList (if number.negative then '-' :: number.magnitude else number.magnitude)

end Decimal

end AudioScope
