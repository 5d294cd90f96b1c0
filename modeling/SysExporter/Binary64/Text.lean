import SysExporter.Binary64.Shortest

namespace SysExporter.Binary64

def decimalDigits (n : Nat) : List Char :=
  Nat.toDigits 10 n

def dropZeros (text : List Char) : List Char :=
  (text.reverse.dropWhile (· = '0')).reverse

-- Positional notation at any magnitude: no exponent is ever written, and a
-- whole number has no point.
def positional (d : Decimal) : List Char :=
  if 0 ≤ d.exponent then
    decimalDigits d.digits ++ List.replicate d.exponent.toNat '0'
  else
    let places := (-d.exponent).toNat
    let whole := d.digits / Nat.pow 10 places
    let digits := decimalDigits (d.digits % Nat.pow 10 places)
    let padded := List.replicate (places - digits.length) '0' ++ digits
    match dropZeros padded with
    | [] => decimalDigits whole
    | part => decimalDigits whole ++ '.' :: part

def magnitudeText (x : Binary64) : List Char :=
  if x.isZero then ['0'] else positional x.shortest

def text (x : Binary64) : List Char :=
  if x.isNaN then "NaN".toList
  else
    let magnitude := if x.isInfinite then "inf".toList else x.magnitudeText
    if x.isNegative then '-' :: magnitude else magnitude

def toText (x : Binary64) : String :=
  String.ofList x.text

end SysExporter.Binary64
