import SysExporter.Url.Percent

namespace SysExporter.Url

open Text

-- One group of an address: up to four hexadecimal digits.
def readGroup (text : List Char) : Option Nat :=
  if text.isEmpty || 4 < text.length then none
  else hexNumber? text

-- A decimal below 256 without leading zeros.
def readOctet (text : List Char) : Option Nat :=
  if text.isEmpty || 3 < text.length || (text.head? == some '0' && 1 < text.length) then none
  else
    match text.foldlM (fun value c =>
        if '0' ≤ c && c ≤ '9' then some (value * 10 + (c.toNat - 48)) else none) 0 with
    | some value => if value < 256 then some value else none
    | none => none

-- Four octets fill two groups.
def readDotted (text : List Char) : Option (List Nat) := do
  match ← (text.splitOn '.').mapM readOctet with
  | [a, b, c, d] => some [a * 256 + b, c * 256 + d]
  | _ => none

-- Groups between colons. The last one may be written as four octets.
def readGroups (dotted : Bool) : List (List Char) → Option (List Nat)
  | [] => some []
  | [last] =>
    if dotted && last.contains '.' then readDotted last else (readGroup last).map ([·])
  | group :: rest => do return (← readGroup group) :: (← readGroups dotted rest)

def readSide (dotted : Bool) (text : List Char) : Option (List Nat) :=
  if text.isEmpty then some [] else readGroups dotted (text.splitOn ':')

-- The text before and after the first double colon.
def splitDouble : List Char → Option (List Char × List Char)
  | ':' :: ':' :: rest => some ([], rest)
  | c :: rest => (splitDouble rest).map fun (before, after) => (c :: before, after)
  | [] => none

-- Eight groups, or fewer with a double colon in place of the zeros that are
-- missing, of which there is at least one.
def parseIpv6 (text : List Char) : Option (List Nat) :=
  match splitDouble text with
  | none => do
    let groups ← readSide true text
    if groups.length = 8 then some groups else none
  | some (before, after) => do
    let left ← readSide false before
    let right ← readSide true after
    if left.length + right.length < 8 then
      some (left ++ List.replicate (8 - left.length - right.length) 0 ++ right)
    else none

def zeroRun (groups : List Nat) : Nat :=
  (groups.takeWhile (· = 0)).length

-- Where the first of the longest runs of zeros begins, and how long it is.
def longestRun (groups : List Nat) : Nat × Nat :=
  (List.range groups.length).foldl (fun best start =>
    let run := zeroRun (groups.drop start)
    if best.2 < run then (start, run) else best) (0, 0)

def groupsText (groups : List Nat) : List Char :=
  [':'].intercalate (groups.map (Nat.toDigits 16))

-- A run of two or more zeros is written as a double colon.
def ipv6Text (groups : List Nat) : List Char :=
  let (start, run) := longestRun groups
  if run < 2 then groupsText groups
  else groupsText (groups.take start) ++ [':', ':'] ++ groupsText (groups.drop (start + run))

end SysExporter.Url
