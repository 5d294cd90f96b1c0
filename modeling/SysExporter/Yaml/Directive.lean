import SysExporter.Text.Numeral
import SysExporter.Yaml.Tag

namespace SysExporter.Yaml

open Text

-- A line with a percent sign before a document.
inductive Directive where
  | version (major minor : Nat)
  | tag (handle beginning : List Char)
  deriving DecidableEq, Repr

-- Up to nine digits.
def readVersionNumber (start : Mark) : Scan Nat := do
  let digits := (← Scan.rest).takeWhile isDigit
  Scan.skip (min digits.length 9)
  if digits.isEmpty then Scan.fail .versionDirective start .noVersion
  else if 9 < digits.length then Scan.fail .versionDirective start .longVersion
  else return digitsValue digits

def readVersion (start : Mark) : Scan Directive := do
  Scan.skipWhile isSpacing
  let major ← readVersionNumber start
  if (← Scan.next?) ≠ some '.' then Scan.fail .versionDirective start .noVersionPoint
  Scan.skip 1
  return .version major (← readVersionNumber start)

def readTagDirective (start : Mark) : Scan Directive := do
  Scan.skipWhile isSpacing
  let handle ← readHandle .tagDirectiveHandle start
  if 1 < handle.length && handle.getLast? ≠ some '!' then
    Scan.fail .tagDirectiveName start .noExclamationMark
  if !(← Scan.next?).any isSpacing then Scan.fail .tagDirective start .noWhitespace
  Scan.skipWhile isSpacing
  let beginning ← readUri .tagDirectivePrefix start true false []
  if !endsWord (← Scan.rest) then Scan.fail .tagDirective start .noWhitespaceOrBreak
  return .tag handle beginning

def readDirective : Scan Directive := do
  let start ← Scan.mark
  Scan.skip 1
  let name ← Scan.takeWhile isWordChar
  if name.isEmpty then Scan.fail .directive start .noDirectiveName
  if !endsWord (← Scan.rest) then Scan.fail .directive start .badDirectiveName
  let directive ← if name == "YAML".toList then readVersion start
    else if name == "TAG".toList then readTagDirective start
    else Scan.fail .directive start .unknownDirective
  Scan.endLine .directive start
  return directive

end SysExporter.Yaml
