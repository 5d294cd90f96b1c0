import SysExporter.Binary64.Rounding
import SysExporter.Text.Numeral

namespace SysExporter.Binary64

open Text

-- A number in decimal notation: its digits, how many of them follow the point,
-- and the exponent.
structure Notation where
  digits : List Char
  places : Nat
  exponent : Int
  deriving DecidableEq, Repr

def readExponent (text : List Char) : Option Int :=
  let (isNegative, digits) := match text with
    | '-' :: rest => (true, rest)
    | '+' :: rest => (false, rest)
    | rest => (false, rest)
  if digits.isEmpty || !digits.all isDigit then none
  else some (if isNegative then -(digitsValue digits : Int) else digitsValue digits)

-- Digits with at most one point among them, and an exponent if there is an e.
def Notation.ofText? (text : List Char) : Option Notation := do
  let whole := text.takeWhile isDigit
  let (part, rest) := match text.dropWhile isDigit with
    | '.' :: more => (more.takeWhile isDigit, more.dropWhile isDigit)
    | more => ([], more)
  if whole.isEmpty && part.isEmpty then none
  else match rest with
    | [] => some ⟨whole ++ part, part.length, 0⟩
    | e :: more =>
      if e == 'e' || e == 'E' then
        (readExponent more).map fun exponent => ⟨whole ++ part, part.length, exponent⟩
      else none

-- The nearest number. Beyond some hundred places it is infinity or zero.
def Notation.value (n : Notation) : Binary64 :=
  let power := n.exponent - n.places
  let digits := digitsValue n.digits
  if digits = 0 || power + n.digits.length < -400 then zero
  else if 400 < power then infinity
  else ofDecimal digits power

def ofText? (text : List Char) : Option Binary64 :=
  match text with
  | '-' :: rest => (Notation.ofText? rest).map fun n => n.value.neg
  | '+' :: rest => (Notation.ofText? rest).map Notation.value
  | rest => (Notation.ofText? rest).map Notation.value

end SysExporter.Binary64
