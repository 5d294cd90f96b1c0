import SysExporter.Binary64.Basic

namespace SysExporter.Binary64

-- A positive decimal: digits * 10 ^ exponent.
structure Decimal where
  digits : Nat
  exponent : Int
  deriving DecidableEq, Repr

def ratio (x : Binary64) : Nat × Nat :=
  (x.significand * Nat.pow 2 x.exponent.toNat, Nat.pow 2 (-x.exponent).toNat)

-- The decimals that read back as the number lie between the midpoints to its
-- neighbours. Below a power of two the lower neighbour is half as far. All is
-- counted in quarters of the unit of the last place.
structure Interval where
  low : Nat
  middle : Nat
  high : Nat
  unit : Nat
  closed : Bool

def interval (x : Binary64) : Interval :=
  let m := x.significand
  let scale := Nat.pow 2 x.exponent.toNat
  let lowGap := if x.fraction = 0 && 1 < x.biasedExponent then 1 else 2
  { low := (4 * m - lowGap) * scale
    middle := 4 * m * scale
    high := (4 * m + 2) * scale
    unit := 4 * Nat.pow 2 (-x.exponent).toNat
    closed := m % 2 = 0 }

-- Whether digits * 10 ^ exponent lies in the interval.
def Interval.contains (range : Interval) (digits : Nat) (exponent : Int) : Bool :=
  let value := digits * Nat.pow 10 exponent.toNat * range.unit
  let scale := Nat.pow 10 (-exponent).toNat
  if range.closed then range.low * scale ≤ value && value ≤ range.high * scale
  else range.low * scale < value && value < range.high * scale

-- The decimal exponent of the leading digit, plus one: the smallest power of
-- ten above the number.
def leadingPower (numerator denominator : Nat) : Int :=
  let guess : Int :=
    ((Nat.log2 numerator : Int) - Nat.log2 denominator - 1) * 30103 / 100000
  let above (power : Int) : Bool :=
    numerator * Nat.pow 10 (-power).toNat < denominator * Nat.pow 10 power.toNat
  if above guess then guess
  else if above (guess + 1) then guess + 1
  else if above (guess + 2) then guess + 2
  else guess + 3

-- The better of the two neighbours of the number on the grid of the given
-- exponent, if one of them reads back. A tie goes to the greater.
def onGrid (range : Interval) (exponent : Int) : Option Nat :=
  let scaled := range.middle * Nat.pow 10 (-exponent).toNat
  let unit := range.unit * Nat.pow 10 exponent.toNat
  let below := scaled / unit
  let rest := scaled % unit
  let nearer := if 2 * rest < unit then below else below + 1
  let further := if 2 * rest < unit then below + 1 else below
  if range.contains nearer exponent then some nearer
  else if range.contains further exponent then some further
  else none

def shortestFrom (range : Interval) (power : Int) : Nat → Nat → Option Decimal
  | 0, _ => none
  | more + 1, length =>
    match onGrid range (power - length) with
    | some digits => some ⟨digits, power - length⟩
    | none => shortestFrom range power more (length + 1)

-- The shortest decimal that reads back as the positive finite number, and the
-- nearest of those. Seventeen digits always suffice.
def shortest (x : Binary64) : Decimal :=
  let (numerator, denominator) := x.ratio
  let power := leadingPower numerator denominator
  (shortestFrom x.interval power 17 1).getD ⟨x.significand, x.exponent⟩

end SysExporter.Binary64
