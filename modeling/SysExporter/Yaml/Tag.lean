import SysExporter.Text.Hexadecimal
import SysExporter.Text.Utf8
import SysExporter.Yaml.Cursor

namespace SysExporter.Yaml

open Text

-- A tag as it is written: a handle that stands for the beginning of a URI, and
-- the rest of it. A URI that is written out has no handle.
structure TagName where
  handle : List Char
  suffix : List Char
  deriving DecidableEq, Repr

-- Flow indicators may stand only in a URI that is written out.
def isUriChar (isVerbatim : Bool) (c : Char) : Bool :=
  isWordChar c || ";/?:@&=+$.%!~*'()".toList.contains c ||
    (isVerbatim && (c == ',' || c == '[' || c == ']'))

-- How many bytes a character has that begins with this one.
def utf8Width? (byte : Nat) : Option Nat :=
  if byte < 0x80 then some 1
  else if byte / 0x20 = 6 then some 2
  else if byte / 0x10 = 14 then some 3
  else if byte / 0x8 = 30 then some 4
  else none

def readOctetEscape (activity : Activity) (start : Mark) : Scan Nat := do
  match ← Scan.rest with
  | '%' :: high :: low :: _ =>
    match hexNumber? [high, low] with
    | some octet => return octet
    | none => Scan.fail activity start .noEscapedOctet
  | _ => Scan.fail activity start .noEscapedOctet

def readTrailingOctets (activity : Activity) (start : Mark) : Nat → Scan Bytes
  | 0 => return []
  | count + 1 => do
    let octet ← readOctetEscape activity start
    if octet / 0x40 ≠ 2 then Scan.fail activity start .badTrailingOctet
    Scan.skip 3
    return octet.toUInt8 :: (← readTrailingOctets activity start count)

-- One character, written byte by byte with percent signs.
def readUriEscape (activity : Activity) (start : Mark) : Scan (List Char) := do
  let octet ← readOctetEscape activity start
  match utf8Width? octet with
  | none => Scan.fail activity start .badLeadingOctet
  | some width => do
    Scan.skip 3
    let trailing ← readTrailingOctets activity start (width - 1)
    return decodeLossy (octet.toUInt8 :: trailing)

def readUriChars (activity : Activity) (start : Mark) (isVerbatim : Bool) :
    Nat → List Char → Scan (List Char)
  | 0, text => return text
  | fuel + 1, text => do
    match ← Scan.next? with
    | none => return text
    | some c =>
      if !isUriChar isVerbatim c then return text
      else if c == '%' then
        let escaped ← readUriEscape activity start
        readUriChars activity start isVerbatim fuel (text ++ escaped)
      else
        Scan.skip 1
        readUriChars activity start isVerbatim fuel (text ++ [c])

-- A URI after what was read of it already. It cannot be empty in all.
def readUri (activity : Activity) (start : Mark) (isVerbatim isBegun : Bool)
    (text : List Char) : Scan (List Char) := do
  let uri ← readUriChars activity start isVerbatim ((← Scan.rest).length + 1) text
  if !isBegun && uri.isEmpty then Scan.fail activity start .noTagUri
  return uri

-- An exclamation mark, and a name that a second one may end.
def readHandle (activity : Activity) (start : Mark) : Scan (List Char) := do
  if (← Scan.next?) ≠ some '!' then Scan.fail activity start .noExclamationMark
  Scan.skip 1
  let name ← Scan.takeWhile isWordChar
  if (← Scan.next?) == some '!' then
    Scan.skip 1
    return '!' :: name ++ ['!']
  else return '!' :: name

def readVerbatim (start : Mark) : Scan TagName := do
  Scan.skip 2
  let uri ← readUri .tagUri start true false []
  if (← Scan.next?) ≠ some '>' then Scan.fail .tag start .noTagEnd
  Scan.skip 1
  return ⟨[], uri⟩

-- A name between two exclamation marks is a handle. Without the second one it
-- belongs to the suffix, and the handle is a single mark.
def readShorthand (start : Mark) : Scan TagName := do
  let handle ← readHandle .tag start
  if 1 < handle.length && handle.getLast? == some '!' then
    return ⟨handle, ← readUri .tagUri start false false []⟩
  else
    let suffix ← readUri .tagUri start false true (handle.drop 1)
    if suffix.isEmpty then return ⟨[], ['!']⟩ else return ⟨['!'], suffix⟩

def readTag (inFlow : Bool) : Scan TagName := do
  let start ← Scan.mark
  let name ← if (← Scan.rest).take 2 == ['!', '<'] then readVerbatim start
    else readShorthand start
  let rest ← Scan.rest
  if endsWord rest || (inFlow && rest.head? == some ',') then return name
  else Scan.fail .tag start .noWhitespaceOrBreak

end SysExporter.Yaml
