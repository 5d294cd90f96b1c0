import SysExporter.Url.Percent

namespace SysExporter.Url

def lowerDots (segment : List Char) : List Char :=
  match segment with
  | '%' :: '2' :: c :: rest =>
    if c = 'e' || c = 'E' then '.' :: lowerDots rest else '%' :: lowerDots ('2' :: c :: rest)
  | c :: rest => c :: lowerDots rest
  | [] => []
termination_by segment.length

-- A dot may be written as %2e.
def isHere (segment : List Char) : Bool :=
  lowerDots segment == ['.']

def isParent (segment : List Char) : Bool :=
  lowerDots segment == ['.', '.']

-- A segment that begins like a drive, as in C: or C|, is never stepped out of.
def isDrive : List Char → Bool
  | letter :: colon :: rest =>
    letter.isAlpha && (colon = ':' || colon = '|') && (rest.isEmpty || rest.head? == some '\\')
  | _ => false

def stepOut : List (List Char) → List (List Char)
  | [] => []
  | last :: before => if isDrive last then last :: before else before

-- Dot segments are resolved from the left. The segments so far are held last
-- first. A dot segment at the end leaves an empty segment.
def settle : List (List Char) → List (List Char) → List (List Char)
  | before, [] => before.reverse
  | before, [last] =>
    if isParent last then (stepOut before).reverse ++ [[]]
    else if isHere last then before.reverse ++ [[]]
    else before.reverse ++ [last]
  | before, segment :: rest =>
    if isParent segment then settle (stepOut before) rest
    else if isHere segment then settle before rest
    else settle (segment :: before) rest

-- The segments of the text behind the root slash.
def pathSegments (text : List Char) : List (List Char) :=
  settle [] ((escape pathSet text).splitOn '/')

def pathText (segments : List (List Char)) : List Char :=
  segments.flatMap ('/' :: ·)

end SysExporter.Url
