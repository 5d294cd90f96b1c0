import SysExporter.Text.Hexadecimal
import SysExporter.Text.Utf8

namespace SysExporter.Url

open Text

-- Which ASCII characters are escaped besides the controls. Characters outside
-- ASCII always are.
abbrev EscapeSet := List Char

def fragmentSet : EscapeSet := [' ', '"', '<', '>', '`']

def querySet : EscapeSet := [' ', '"', '#', '<', '>']

def pathSet : EscapeSet := fragmentSet ++ ['#', '?', '\x7b', '\x7d']

def userinfoSet : EscapeSet := pathSet ++ ['/', ':', ';', '=', '@', '[', '\\', ']', '^', '|']

def hexDigit (n : Nat) : Char :=
  if n < 10 then Char.ofNat (48 + n) else Char.ofNat (55 + n)

-- A byte as a percent sign and two upper case hexadecimal digits.
def escapeByte (byte : UInt8) : List Char :=
  ['%', hexDigit (byte.toNat / 16), hexDigit (byte.toNat % 16)]

def needsEscape (set : EscapeSet) (c : Char) : Bool :=
  c.toNat < 0x20 || 0x7F ≤ c.toNat || set.contains c

def escapeChar (set : EscapeSet) (c : Char) : List Char :=
  if needsEscape set c then (encodeChar c).flatMap escapeByte else [c]

def escape (set : EscapeSet) (text : List Char) : List Char :=
  text.flatMap (escapeChar set)

-- The bytes that an escaped text stands for. A percent sign without two digits
-- stands for itself.
def unescape : List Char → Bytes
  | [] => []
  | '%' :: high :: low :: rest =>
    match hexValue? high, hexValue? low with
    | some h, some l => (h * 16 + l).toUInt8 :: unescape rest
    | _, _ => encodeChar '%' ++ unescape (high :: low :: rest)
  | c :: rest => encodeChar c ++ unescape rest
termination_by text => text.length

end SysExporter.Url
