import SysExporter.Duration.Basic

namespace SysExporter.Duration

def countText (count : Nat) (unit : String) : List String :=
  if count = 0 then [] else [s!"{count}{unit}"]

def pluralText (count : Nat) (unit : String) : List String :=
  countText count (if count = 1 then unit else unit ++ "s")

-- The counts of each unit from years to nanoseconds, those of zero left out.
def countTexts (d : Duration) : List String :=
  let inYear := d.seconds % 31557600
  let inMonth := inYear % 2630016
  let inDay := inMonth % 86400
  pluralText (d.seconds / 31557600) "year" ++ pluralText (inYear / 2630016) "month" ++
    pluralText (inMonth / 86400) "day" ++ countText (inDay / 3600) "h" ++
    countText (inDay % 3600 / 60) "m" ++ countText (inDay % 60) "s" ++
    countText (d.nanos / 1000000) "ms" ++ countText (d.nanos / 1000 % 1000) "us" ++
    countText (d.nanos % 1000) "ns"

def toText (d : Duration) : String :=
  if d.isZero then "0s" else " ".intercalate d.countTexts

end SysExporter.Duration
