import SysExporter.Url.Fault
import SysExporter.Url.Ipv6

namespace SysExporter.Url

open Text

def forbiddenInHost : List Char :=
  ['\x00', '\t', '\n', '\r', ' ', '#', '/', ':', '<', '>', '?', '@', '[', '\\', ']', '^', '|']

def parseBracketed (text : List Char) : Except Fault (List Char) :=
  match text.getLast? with
  | some ']' =>
    match parseIpv6 text.dropLast with
    | some groups => .ok ('[' :: ipv6Text groups ++ [']'])
    | none => .error .invalidIpv6
  | _ => .error .invalidIpv6

-- The host of a general scheme: an address in brackets, or any text without
-- forbidden characters, its controls and what lies outside ASCII escaped.
def parseHost : List Char → Except Fault (List Char)
  | '[' :: rest => parseBracketed rest
  | text =>
    if text.any forbiddenInHost.contains then .error .invalidDomainCharacter
    else .ok (escape [] text)

-- A part of an address in numbers: decimal, octal after a zero, or hexadecimal
-- after 0x. The outer option says whether it is a number, the inner one
-- whether it fits 32 bits.
def readNumber (text : List Char) : Option (Option Nat) :=
  let (base, digits) := match text with
    | '0' :: 'x' :: rest => (16, rest)
    | '0' :: 'X' :: rest => (16, rest)
    | '0' :: c :: rest => (8, c :: rest)
    | _ => (10, text)
  if text.isEmpty then none
  else do
    let value ← digits.foldlM (fun value c => do
      let digit ← hexValue? c
      if digit < base then some (value * base + digit) else none) 0
    return if value < UInt32.size then some value else none

def dropEmptyLast (parts : List (List Char)) : List (List Char) :=
  if parts.getLast? == some [] then parts.dropLast else parts

-- A name whose last part is a number has to be an address.
def endsInNumber (name : List Char) : Bool :=
  match (dropEmptyLast (name.splitOn '.')).getLast? with
  | none => false
  | some last =>
    (!last.isEmpty && last.all Char.isDigit) || (readNumber last).isSome

def ipv4Text (address : Nat) : List Char :=
  ['.'].intercalate ([Nat.pow 2 24, Nat.pow 2 16, Nat.pow 2 8, 1].map fun unit =>
    Nat.toDigits 10 (address / unit % 256))

-- The last part fills all the bytes that the parts before it leave.
def parseIpv4 (name : List Char) : Except Fault (List Char) :=
  let parts := dropEmptyLast (name.splitOn '.')
  match parts.mapM fun part => (readNumber part).join with
  | none => .error .invalidIpv4
  | some numbers =>
    let leading := numbers.dropLast
    let last := numbers.getLast?.getD 0
    if 4 < parts.length || leading.any (255 < ·) || Nat.pow 2 (32 - 8 * leading.length) ≤ last then
      .error .invalidIpv4
    else
      .ok (ipv4Text ((leading.zip [Nat.pow 2 24, Nat.pow 2 16, Nat.pow 2 8]).foldl
        (fun sum (n, unit) => sum + n * unit) last))

def forbiddenInDomain (c : Char) : Bool :=
  c.toNat < 0x20 || c.toNat = 0x7F || c = '%' || forbiddenInHost.contains c

-- The host of a web scheme: an address, or a domain name in lower case. Names
-- outside ASCII are taken as they are.
def parseDomain : List Char → Except Fault (List Char)
  | '[' :: rest => parseBracketed rest
  | text =>
    match decodeUtf8 (unescape text) with
    | .error _ => .error .invalidDomain
    | .ok decoded =>
      let name := decoded.map Char.toLower
      if name.any forbiddenInDomain then .error .invalidDomain
      else if name.isEmpty then .error .emptyHost
      else if endsInNumber name then parseIpv4 name
      else .ok name

end SysExporter.Url
