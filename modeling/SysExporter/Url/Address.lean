import SysExporter.Url.Host
import SysExporter.Url.Path

namespace SysExporter.Url

-- Who is addressed. All parts are in escaped form.
structure Authority where
  username : List Char
  password : Option (List Char)
  host : List Char
  port : Option Nat
  deriving DecidableEq, Repr

-- An absolute URL in normal form.
structure Address where
  scheme : List Char
  authority : Option Authority
  path : List Char
  query : Option (List Char)
  fragment : Option (List Char)
  deriving DecidableEq, Repr

def Authority.userinfo (a : Authority) : List Char :=
  match a.password with
  | some password => a.username ++ ':' :: password ++ ['@']
  | none => if a.username.isEmpty then [] else a.username ++ ['@']

def Authority.text (a : Authority) : List Char :=
  a.userinfo ++ a.host ++ (a.port.elim [] fun port => ':' :: Nat.toDigits 10 port)

def Address.text (a : Address) : List Char :=
  a.scheme ++ ':' :: (a.authority.elim [] fun who => '/' :: '/' :: who.text) ++ a.path ++
    (a.query.elim [] ('?' :: ·)) ++ (a.fragment.elim [] ('#' :: ·))

def Address.toText (a : Address) : String :=
  String.ofList a.text

-- Web schemes have rules of their own for slashes and hosts.
def defaultPorts : List (List Char × Nat) :=
  [("http".toList, 80), ("https".toList, 443), ("ws".toList, 80), ("wss".toList, 443),
    ("ftp".toList, 21)]

def isWeb (scheme : List Char) : Bool :=
  (defaultPorts.lookup scheme).isSome

def isFile (scheme : List Char) : Bool :=
  scheme == "file".toList

-- The address with another password. Only one with a host, and not of a file,
-- takes it. An empty password takes the old one away.
def Address.setPassword? (a : Address) (password : List Char) : Option Address :=
  match a.authority with
  | none => none
  | some who =>
    if who.host.isEmpty || isFile a.scheme then none
    else
      let escaped := if password.isEmpty then none else some (escape userinfoSet password)
      some { a with authority := some { who with password := escaped } }

def isSchemeChar (c : Char) : Bool :=
  c.isAlphanum || c == '+' || c == '-' || c == '.'

-- The scheme in lower case and the text behind its colon.
def splitScheme (text : List Char) : Option (List Char × List Char) :=
  match text, text.dropWhile isSchemeChar with
  | first :: _, ':' :: rest =>
    if first.isAlpha then some ((text.takeWhile isSchemeChar).map Char.toLower, rest) else none
  | _, _ => none

-- An authority ends at the first of these.
def endsAuthority (web : Bool) (c : Char) : Bool :=
  c = '/' || c = '?' || c = '#' || (web && c = '\\')

-- The text before and after the last at sign, if there is one.
def splitLastAt (text : List Char) : Option (List Char × List Char) :=
  match text.reverse.dropWhile (· ≠ '@') with
  | [] => none
  | _ :: before =>
    some (before.reverse, (text.reverse.takeWhile (· ≠ '@')).reverse)

-- The name and the password of an authority. An empty password is none.
def splitUserinfo (text : List Char) : List Char × Option (List Char) :=
  match text.dropWhile (· ≠ ':') with
  | _ :: c :: rest =>
    (escape userinfoSet (text.takeWhile (· ≠ ':')), some (escape userinfoSet (c :: rest)))
  | _ => (escape userinfoSet (text.takeWhile (· ≠ ':')), none)

-- The host goes to the first colon outside brackets.
def splitHost : Bool → List Char → List Char × List Char
  | _, [] => ([], [])
  | inside, c :: rest =>
    if c = ':' && !inside then ([], c :: rest)
    else
      let (host, after) :=
        splitHost (if c = '[' then true else if c = ']' then false else inside) rest
      (c :: host, after)

-- The port number below 2 ^ 16. A backslash ends it in any scheme; what is
-- left then belongs to the path.
def readPort : Nat → List Char → Except Fault (Nat × List Char)
  | value, [] => .ok (value, [])
  | value, c :: rest =>
    if c.isDigit then
      let next := value * 10 + (c.toNat - 48)
      if next < UInt16.size then readPort next rest else .error .invalidPort
    else if c = '\\' then .ok (value, c :: rest)
    else .error .invalidPort

def parsePort (scheme : List Char) (text : List Char) :
    Except Fault (Option Nat × List Char) := do
  let (port, rest) ← readPort 0 text
  let written := text.head?.any Char.isDigit && defaultPorts.lookup scheme ≠ some port
  return (if written then some port else none, rest)

-- The host, its port, and the text that is left to the path. Only a scheme of
-- the general kind may leave the host empty, and then nothing may stand around it.
def parseHostPort (scheme text : List Char) (known : Bool) :
    Except Fault (List Char × Option Nat × List Char) := do
  let (name, after) := splitHost false text
  if isWeb scheme && name.isEmpty then throw .emptyHost
  let host ← if isWeb scheme then parseDomain name else parseHost name
  match after with
  | ':' :: digits =>
    if host.isEmpty then throw .emptyHost
    let (port, rest) ← parsePort scheme digits
    return (host, port, rest)
  | _ =>
    if host.isEmpty && known then throw .emptyHost
    return (host, none, [])

def parseAuthority (scheme text : List Char) (more : Bool) :
    Except Fault (Authority × List Char) := do
  let (userinfo, rest) := (splitLastAt text).getD ([], text)
  if userinfo.isEmpty && rest.isEmpty && !text.isEmpty && more then throw .emptyHost
  let (username, password) := splitUserinfo userinfo
  let (host, port, left) ← parseHostPort scheme rest (!username.isEmpty || password.isSome)
  return (⟨username, password, host, port⟩, left)

-- Query and fragment with the marks that lead them in.
def splitTail (text : List Char) : List Char × Option (List Char) × Option (List Char) :=
  let body := text.takeWhile (· ≠ '#')
  let fragment := match text.dropWhile (· ≠ '#') with
    | [] => none
    | _ :: rest => some (escape fragmentSet rest)
  let query := match body.dropWhile (· ≠ '?') with
    | [] => none
    | _ :: rest => some (escape querySet rest)
  (body.takeWhile (· ≠ '?'), query, fragment)

-- The path behind an authority. A web path always has its root slash.
def authorityPath (web : Bool) (text : List Char) : List Char :=
  let plain := if web then text.map (fun c => if c = '\\' then '/' else c) else text
  match plain with
  | [] => if web then ['/'] else []
  | '/' :: rest => pathText (pathSegments rest)
  | rest => pathText (pathSegments rest)

-- A path without an authority. One that does not begin with a slash is opaque.
def plainPath : List Char → List Char
  | '/' :: rest => pathText (pathSegments rest)
  | text => escape [] text

def parseWithAuthority (scheme text : List Char) : Except Fault Address := do
  let web := isWeb scheme
  let span := text.takeWhile (!endsAuthority web ·)
  let behind := text.dropWhile (!endsAuthority web ·)
  let (who, left) ← parseAuthority scheme span (!behind.isEmpty)
  let (path, query, fragment) := splitTail (left ++ behind)
  return ⟨scheme, some who, authorityPath web path, query, fragment⟩

-- The host of a file is checked, and localhost is no host. A drive letter in
-- its place belongs to the path.
def parseFile (scheme text : List Char) : Except Fault Address := do
  let isSlash (c : Char) : Bool := c = '/' || c = '\\'
  let (path, query, fragment) := splitTail text
  match path with
  | a :: b :: rest =>
    if isSlash a && isSlash b then
      let name := rest.takeWhile (!isSlash ·)
      if !name.isEmpty && !(name.length = 2 && isDrive name) then
        let _ ← parseDomain name
      return ⟨scheme, none, authorityPath true (rest.dropWhile (!isSlash ·)), query, fragment⟩
    else return ⟨scheme, none, authorityPath true path, query, fragment⟩
  | _ => return ⟨scheme, none, authorityPath true path, query, fragment⟩

def isEdge (c : Char) : Bool :=
  c.toNat ≤ 0x20

def isKept (c : Char) : Bool :=
  c ≠ '\t' && c ≠ '\n' && c ≠ '\r'

-- Controls and spaces around the text are cut off; tabs and line ends are
-- left out everywhere.
def strip (text : List Char) : List Char :=
  (((text.dropWhile isEdge).reverse.dropWhile isEdge).reverse).filter isKept

def Address.parse (text : List Char) : Except Fault Address :=
  match splitScheme (strip text) with
  | none => .error .relative
  | some (scheme, rest) =>
    if isFile scheme then parseFile scheme rest
    else if isWeb scheme then
      parseWithAuthority scheme (rest.dropWhile fun c => c = '/' || c = '\\')
    else match rest with
      | '/' :: '/' :: behind => parseWithAuthority scheme behind
      | _ =>
        let (path, query, fragment) := splitTail rest
        .ok ⟨scheme, none, plainPath path, query, fragment⟩

end SysExporter.Url
