import AudioScope.Decimal.Basic

namespace AudioScope

/-!
# Shortest decimals of floating-point numbers

A finite floating-point number stands for all reals that are rounded to it.
`Decimal.ofFloat` picks the decimal number with the fewest digits among them;
of several it takes the nearest, and of two equally near ones the even one.

Everything is computed with natural numbers.  A number m · 2^q and the two ends
of its interval are multiples of 2^(q-2), and these are whole numbers in units
of a suitable power of ten.
-/

namespace Decimal

/-- The reals that are rounded to one floating-point number, in units of a power of ten. -/
structure Interval where
  /-- The number itself. -/
  value : Nat
  low : Nat
  high : Nat
  /-- Whether the ends belong to the interval. -/
  closed : Bool
  /-- The power of ten that is the unit. -/
  exponent : Int
  deriving Repr, DecidableEq

namespace Interval

/--
The interval of m · 2^q.  Half the gap to either neighbour belongs to the
number, and the gap below a power of two is only half as wide.
-/
def ofBinary
    (mantissa : Nat)
    (exponent : Int)
    (narrowBelow : Bool) :
    Interval :=
  let quarter := exponent - 2
  let unit := Nat.pow 2 quarter.toNat * Nat.pow 5 (-quarter).toNat
  { value := 4 * mantissa * unit
    low := (4 * mantissa - if narrowBelow then 1 else 2) * unit
    high := (4 * mantissa + 2) * unit
    closed := mantissa % 2 == 0
    exponent := min quarter 0 }

/-- Whether a number of units lies in the interval. -/
def contains
    (interval : Interval)
    (units : Nat) :
    Bool :=
  if interval.closed then
    interval.low ≤ units && units ≤ interval.high
  else
    interval.low < units && units < interval.high

/-- The multiple of a step that stands for the interval, if there is one next to its number. -/
def multiple?
    (interval : Interval)
    (step : Nat) :
    Option Nat :=
  let below := interval.value / step
  let above := below + 1
  match interval.contains (below * step), interval.contains (above * step) with
  | false, false => none
  | true, false => some below
  | false, true => some above
  | true, true =>
      let toBelow := interval.value - below * step
      let toAbove := above * step - interval.value
      if toBelow < toAbove ∨ (toBelow = toAbove ∧ below % 2 = 0) then some below else some above

/--
The coarsest multiple of a power of ten that stands for the interval, together
with that power, among the powers up to a given one.
-/
def coarsest (interval : Interval) : Nat → Nat × Nat
  | 0 => (interval.value, 0)
  | power + 1 =>
      match interval.multiple? (Nat.pow 10 (power + 1)) with
      | some found => (found, power + 1)
      | none => interval.coarsest power

end Interval

/-- The decimal number with the fewest digits that is rounded to a finite floating-point number. -/
def ofFloat (number : Float) : Decimal :=
  let bits : Nat := number.toBits.toNat
  let negative := bits / Nat.pow 2 63 == 1
  let biased : Nat := bits / Nat.pow 2 52 % Nat.pow 2 11
  let fraction : Nat := bits % Nat.pow 2 52
  let interval :=
    if biased = 0 then
      Interval.ofBinary fraction (-1074) false
    else
      Interval.ofBinary (Nat.pow 2 52 + fraction) (biased - 1075) (fraction == 0 && biased > 1)
  if interval.value = 0 then
    ⟨negative, 0, 0⟩
  else
    let (digits, power) := interval.coarsest ((Nat.toDigits 10 interval.value).length - 1)
    ⟨negative, digits, interval.exponent + power⟩

end Decimal

end AudioScope
