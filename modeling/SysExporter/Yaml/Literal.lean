import SysExporter.Binary64.Reader
import SysExporter.Text.Hexadecimal
import SysExporter.Yaml.Token

namespace SysExporter.Yaml

open Text

-- What a scalar means by the core schema. A whole number that takes more than
-- 64 bits and no more than 128 is wide.
inductive Literal where
  | null
  | boolean (b : Bool)
  | integer (n : Int)
  | wide (n : Int)
  | float (x : Binary64)
  | text (s : List Char)
  deriving DecidableEq, Repr

-- The number that digits of a base write. There has to be one digit at least.
def readRadix (base : Nat) (digits : List Char) : Option Nat :=
  if digits.isEmpty then none
  else digits.foldlM (fun value c => do
    let digit ← hexValue? c
    if digit < base then some (value * base + digit) else none) 0

-- Digits that begin with a needless zero are no number.
def isPaddedDigits (text : List Char) : Bool :=
  let digits := match text with
    | '-' :: rest => rest
    | '+' :: rest => rest
    | rest => rest
  1 < digits.length && digits.head? == some '0' && digits.all isDigit

def readMagnitude (text : List Char) : Option Nat :=
  match text with
  | '0' :: 'x' :: digits => readRadix 16 digits
  | '0' :: 'o' :: digits => readRadix 8 digits
  | '0' :: 'b' :: digits => readRadix 2 digits
  | digits => if isPaddedDigits digits then none else readRadix 10 digits

def readUnsigned (bound : Nat) (text : List Char) : Option Nat :=
  let magnitude := match text with
    | '+' :: rest => readMagnitude rest
    | rest => readMagnitude rest
  magnitude.filter (· < bound)

-- A number with a minus sign, down to the negative of the bound.
def readNegative (bound : Nat) : List Char → Option Int
  | '-' :: rest => ((readMagnitude rest).filter (· ≤ bound)).map fun n => -(n : Int)
  | _ => none

def readInteger (text : List Char) : Option Literal :=
  (readUnsigned UInt64.size text).map (fun n => Literal.integer n) <|>
    (readNegative (Nat.pow 2 63) text).map .integer <|>
    (readUnsigned (Nat.pow 2 128) text).map (fun n => Literal.wide n) <|>
    (readNegative (Nat.pow 2 127) text).map .wide

def isNullWord (text : List Char) : Bool :=
  text == "null".toList || text == "Null".toList || text == "NULL".toList || text == ['~']

def readBoolean (text : List Char) : Option Bool :=
  if text == "true".toList || text == "True".toList || text == "TRUE".toList then some true
  else if text == "false".toList || text == "False".toList || text == "FALSE".toList then
    some false
  else none

def isInfinityWord (text : List Char) : Bool :=
  text == ".inf".toList || text == ".Inf".toList || text == ".INF".toList

def isNanWord (text : List Char) : Bool :=
  text == ".nan".toList || text == ".NaN".toList || text == ".NAN".toList

-- A number that is written as infinite or as no number may be so. One that is
-- only too large may not.
def readFloat (text : List Char) : Option Binary64 :=
  if isInfinityWord text || (text.head? == some '+' && isInfinityWord (text.drop 1)) then
    some .infinity
  else if text.head? == some '-' && isInfinityWord (text.drop 1) then some Binary64.infinity.neg
  else if isNanWord text then some .nan
  else (Binary64.ofText? text).filter fun x => !x.isInfinite

def Literal.ofPlain (text : List Char) : Literal :=
  if text.isEmpty || isNullWord text then .null
  else match readBoolean text with
    | some b => .boolean b
    | none =>
      match readInteger text with
      | some n => n
      | none =>
        if isPaddedDigits text then .text text
        else match readFloat text with
          | some x => .float x
          | none => .text text

-- The tags of the core schema that say what a scalar has to be.
inductive CoreTag where
  | boolean
  | integer
  | float
  | null
  deriving DecidableEq, Repr

def CoreTag.ofTag? (tag : List Char) : Option CoreTag :=
  if tag == "tag:yaml.org,2002:bool".toList then some .boolean
  else if tag == "tag:yaml.org,2002:int".toList then some .integer
  else if tag == "tag:yaml.org,2002:float".toList then some .float
  else if tag == "tag:yaml.org,2002:null".toList then some .null
  else none

def CoreTag.read (tag : CoreTag) (text : List Char) : Option Literal :=
  match tag with
  | .boolean => (readBoolean text).map .boolean
  | .integer => readInteger text
  | .float => (readFloat text).map .float
  | .null => if isNullWord text then some .null else none

-- A tag of the core schema decides, then the quotes. Other tags make a text of
-- a scalar, except for those that are local to an application. The fault is a
-- tag that the text does not fit.
def Literal.ofScalar (tag : Option (List Char)) (text : List Char) (style : Style) :
    Except CoreTag Literal :=
  match tag.bind CoreTag.ofTag? with
  | some core =>
    match core.read text with
    | some l => .ok l
    | none => .error core
  | none =>
    if style == .plain && tag.all (·.head? == some '!') then .ok (.ofPlain text)
    else .ok (.text text)

end SysExporter.Yaml
