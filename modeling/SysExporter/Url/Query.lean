import SysExporter.Url.Percent

namespace SysExporter.Url

open Text

-- A plus sign in a form stands for a space.
def unescapeForm (text : List Char) : List Char :=
  decodeLossy (unescape (text.map fun c => if c == '+' then ' ' else c))

-- A name and its value, which is empty if there is no equals sign.
def splitPair (part : List Char) : List Char × List Char :=
  (unescapeForm (part.takeWhile (· ≠ '=')), unescapeForm ((part.dropWhile (· ≠ '=')).drop 1))

-- The pairs between ampersands. Empty ones do not count.
def queryPairs (query : List Char) : List (List Char × List Char) :=
  ((query.splitOn '&').filter (· ≠ [])).map splitPair

end SysExporter.Url
