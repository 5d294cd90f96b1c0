import SysExporter.MySql.Failure
import SysExporter.Text.Numeral
import SysExporter.Url.Address
import SysExporter.Url.Query

namespace SysExporter.MySql

open Text Url

inductive SslMode where
  | disabled
  | preferred
  | required
  | verifyCa
  | verifyIdentity
  deriving DecidableEq, Repr

-- Upper and lower case letters are the same.
def SslMode.ofText? (text : List Char) : Option SslMode :=
  [("disabled".toList, SslMode.disabled), ("preferred".toList, .preferred),
    ("required".toList, .required), ("verify_ca".toList, .verifyCa),
    ("verify_identity".toList, .verifyIdentity)].lookup (text.map Char.toLower)

inductive Endpoint where
  | tcp (host : List Char) (port : Nat)
  | socket (path : List Char)
  deriving DecidableEq, Repr

structure Options where
  host : List Char
  port : Nat
  socket : Option (List Char)
  username : List Char
  password : Option (List Char)
  database : Option (List Char)
  sslMode : SslMode
  statementCacheCapacity : Nat
  deriving DecidableEq, Repr

namespace Options

def default : Options where
  host := "localhost".toList
  port := 3306
  socket := none
  username := "root".toList
  password := none
  database := none
  sslMode := .preferred
  statementCacheCapacity := 100

def endpoint (o : Options) : Endpoint :=
  match o.socket with
  | some path => .socket path
  | none => .tcp o.host o.port

def decodePart (part : List Char) : Except Failure (List Char) :=
  (decodeUtf8 (unescape part)).mapError fun fault => .configuration fault.message

-- A part that is empty says nothing.
def decodePart? (part : List Char) : Except Failure (Option (List Char)) :=
  if part.isEmpty then return none else some <$> decodePart part

def withAuthority (o : Options) (who : Authority) : Except Failure Options := do
  let username ← decodePart? who.username
  let password ← who.password.mapM decodePart
  return { o with
    host := if who.host.isEmpty then o.host else who.host
    port := who.port.getD o.port
    username := username.getD o.username
    password := password }

def unknownSslMode (text : List Char) : Failure :=
  .configuration (Failure.configuration
    ("unknown value " ++ quote (String.ofList text) ++ " for `ssl_mode`")).message

-- Pairs of other names are of no concern.
def withPair (o : Options) (pair : List Char × List Char) : Except Failure Options :=
  let (name, value) := pair
  if name == "sslmode".toList || name == "ssl-mode".toList then
    match SslMode.ofText? value with
    | some mode => return { o with sslMode := mode }
    | none => throw (unknownSslMode value)
  else if name == "statement-cache-capacity".toList then
    match parseUnsigned UInt64.size value with
    | .ok capacity => return { o with statementCacheCapacity := capacity }
    | .error fault => throw (.configuration fault.message)
  else if name == "socket".toList then return { o with socket := some value }
  else return o

-- The parts of a URL from the left. The first that cannot be used is reported.
def ofAddress (address : Address) : Except Failure Options := do
  let o ← match address.authority with
    | some who => default.withAuthority who
    | none => pure default
  let database ← decodePart? (address.path.dropWhile (· == '/'))
  (queryPairs (address.query.getD [])).foldlM withPair { o with database := database }

def parse (url : List Char) : Except Failure Options := do
  let address ← (Address.parse url).mapError fun fault => .configuration fault.message
  ofAddress address

end Options

end SysExporter.MySql
