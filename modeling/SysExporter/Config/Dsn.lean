import SysExporter.Config.Placeholder
import SysExporter.Config.Rejection
import SysExporter.Url.Address

namespace SysExporter.Config

open Text Url

-- The address of a database: a URL of the mysql scheme with a host.
structure Dsn where
  address : Address
  who : Authority
  authority_eq : address.authority = some who
  scheme_eq : address.scheme = "mysql".toList
  host_ne : who.host ≠ []
  deriving DecidableEq

namespace Dsn

def scheme : List Char := "mysql".toList

-- The rules that a URL has to meet, the scheme first.
def ofAddress (address : Address) : Except Violation Dsn :=
  if hs : address.scheme = scheme then
    match ha : address.authority with
    | none => .error .noHost
    | some who => if hh : who.host = [] then .error .noHost else .ok ⟨address, who, ha, hs, hh⟩
  else .error (.wrongScheme (String.ofList address.scheme))

-- Placeholders are filled in, and blanks around the result are ignored.
def parse (env : Environment) (raw : String) : Except Rejection Dsn := do
  let text ← (expand env raw).mapError .missingVariable
  let address ← (Address.parse (trim text.toList)).mapError .invalidDsn
  (ofAddress address).mapError .violation

-- The whole address, password included.
def toText (dsn : Dsn) : String :=
  dsn.address.toText

def mask : List Char := ['*', '*', '*']

-- An address that would not take the stars is left as it is.
def redactedAddress (dsn : Dsn) : Address :=
  if dsn.who.password.isSome then (dsn.address.setPassword? mask).getD dsn.address
  else dsn.address

-- The address with stars in place of the password, also how it is displayed.
def redacted (dsn : Dsn) : String :=
  dsn.redactedAddress.toText

instance : ToString Dsn := ⟨redacted⟩

def debug (dsn : Dsn) : String :=
  "Dsn(" ++ quote dsn.redacted ++ ")"

end Dsn

end SysExporter.Config
