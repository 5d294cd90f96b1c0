import SysExporter.Text.Hexadecimal
import SysExporter.Yaml.Folding

namespace SysExporter.Yaml

open Text

-- What follows a backslash in double quotes: a character of its own, or the
-- number of hexadecimal digits of a code point.
inductive Escape where
  | char (c : Char)
  | code (digits : Nat)
  deriving DecidableEq, Repr

def Escape.ofChar? (c : Char) : Option Escape :=
  match c with
  | '0' => some (.char '\x00')
  | 'a' => some (.char '\x07')
  | 'b' => some (.char '\x08')
  | 't' => some (.char '\t')
  | '\t' => some (.char '\t')
  | 'n' => some (.char '\n')
  | 'v' => some (.char '\x0b')
  | 'f' => some (.char '\x0c')
  | 'r' => some (.char '\r')
  | 'e' => some (.char '\x1b')
  | ' ' => some (.char ' ')
  | '"' => some (.char '"')
  | '/' => some (.char '/')
  | '\\' => some (.char '\\')
  | 'N' => some (.char '\u0085')
  | '_' => some (.char '\u00a0')
  | 'L' => some (.char '\u2028')
  | 'P' => some (.char '\u2029')
  | 'x' => some (.code 2)
  | 'u' => some (.code 4)
  | 'U' => some (.code 8)
  | _ => none

def readEscape (start : Mark) : Scan Char := do
  match ((← Scan.rest).drop 1).head?.bind Escape.ofChar? with
  | none => Scan.fail .escape start .unknownEscape
  | some (.char c) => do
    Scan.skip 2
    return c
  | some (.code digits) => do
    Scan.skip 2
    let text := (← Scan.rest).take digits
    match hexNumber? text with
    | none => Scan.fail .escape start .noHexNumber
    | some code =>
      if text.length < digits then Scan.fail .escape start .noHexNumber
      if !code.isValidChar then Scan.fail .escape start .badCodePoint
      Scan.skip digits
      return Char.ofNat code

-- The characters up to a gap or the closing quote. The second part of the
-- result says whether a backslash at the end of the line was passed.
def readQuotedWord (isDouble : Bool) (start : Mark) : Nat → List Char → Scan (List Char × Bool)
  | 0, word => return (word, false)
  | fuel + 1, word => do
    match ← Scan.rest with
    | [] => return (word, false)
    | c :: rest =>
      if isSpacing c || isBreak c then return (word, false)
      else if isDouble && c == '"' then return (word, false)
      else if isDouble && c == '\\' then
        if rest.head?.any isBreak then
          Scan.skip 1
          let _ ← Scan.lineBreak
          return (word, true)
        let escaped ← readEscape start
        readQuotedWord isDouble start fuel (word ++ [escaped])
      else if !isDouble && c == '\'' then
        if rest.head? == some '\'' then
          Scan.skip 2
          readQuotedWord isDouble start fuel (word ++ ['\''])
        else return (word, false)
      else
        Scan.skip 1
        readQuotedWord isDouble start fuel (word ++ [c])

-- The gap after an escaped line break: only further line breaks count.
def readEscapedGap (start : Mark) (fuel : Nat) : Scan (List Char) := do
  Scan.skipWhile isSpacing
  let gap ← readGap .quotedScalar start 0 fuel Gap.empty
  return gap.breaks

def readQuoted (isDouble : Bool) (start : Mark) : Nat → List Char → Scan (List Char)
  | 0, text => return text
  | fuel + 1, text => do
    let cursor ← get
    if cursor.atDocumentIndicator then Scan.fail .quotedScalar start .documentIndicator
    if cursor.rest.isEmpty then Scan.fail .quotedScalar start .endOfStream
    let room := cursor.rest.length + 1
    let (word, escaped) ← readQuotedWord isDouble start room []
    if (← Scan.next?) == some (if isDouble then '"' else '\'') then
      Scan.skip 1
      return text ++ word
    let gap ← if escaped then readEscapedGap start room
      else Gap.fold <$> readGap .quotedScalar start 0 room Gap.empty
    readQuoted isDouble start fuel (text ++ word ++ gap)

def quotedScalar (isDouble : Bool) : Scan (List Char) := do
  let start ← Scan.mark
  Scan.skip 1
  readQuoted isDouble start ((← Scan.rest).length + 1) []

end SysExporter.Yaml
