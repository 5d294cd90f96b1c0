import SysExporter.Binary64.Basic

namespace SysExporter.Binary64

-- The quotient rounded to the nearest whole number, a half to the even neighbour.
def divNearest (numerator denominator : Nat) : Nat :=
  let quotient := numerator / denominator
  let rest := numerator % denominator
  if 2 * rest < denominator then quotient
  else if denominator < 2 * rest then quotient + 1
  else quotient + quotient % 2

-- The quotient of a ratio and a power of two, as a ratio.
def scaleDown (numerator denominator : Nat) (power : Int) : Nat × Nat :=
  (numerator * Nat.pow 2 (-power).toNat, denominator * Nat.pow 2 power.toNat)

-- The exponent at which the ratio has a significand of 53 bits, but never
-- below that of the subnormal numbers.
def ratioExponent (numerator denominator : Nat) : Int :=
  let guess : Int := (Nat.log2 numerator : Int) - Nat.log2 denominator - 53
  let (scaled, unit) := scaleDown numerator denominator guess
  let exact := if Nat.pow 2 53 * unit ≤ scaled then guess + 1 else guess
  max exact (-1074)

-- The number nearest to a ratio, ties to the even significand. A significand
-- that rounds up to 2 ^ 53 carries into the exponent field by itself.
def ofRatio (numerator denominator : Nat) : Binary64 :=
  if numerator = 0 then zero
  else
    let power := ratioExponent numerator denominator
    let (scaled, unit) := scaleDown numerator denominator power
    let word := (power + 1074).toNat * Nat.pow 2 52 + divNearest scaled unit
    if 2047 * Nat.pow 2 52 ≤ word then infinity else ⟨word.toUInt64⟩

def ofNat (n : Nat) : Binary64 :=
  ofRatio n 1

-- The number nearest to digits * 10 ^ exponent.
def ofDecimal (digits : Nat) (exponent : Int) : Binary64 :=
  ofRatio (digits * Nat.pow 10 exponent.toNat) (Nat.pow 10 (-exponent).toNat)

-- The number that a single precision word denotes. Every such number is exact.
def ofBinary32 (word : UInt32) : Binary64 :=
  let raw := word.toNat
  let biased := raw / Nat.pow 2 23 % Nat.pow 2 8
  let fraction := raw % Nat.pow 2 23
  let magnitude : Binary64 :=
    if biased = 255 then ⟨(2047 * Nat.pow 2 52 + fraction * Nat.pow 2 29).toUInt64⟩
    else if biased = 0 then ofRatio fraction (Nat.pow 2 149)
    else ofRatio ((Nat.pow 2 23 + fraction) * Nat.pow 2 biased) (Nat.pow 2 150)
  if Nat.pow 2 31 ≤ raw then magnitude.neg else magnitude

end SysExporter.Binary64
