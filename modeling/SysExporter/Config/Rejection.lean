import SysExporter.Registry
import SysExporter.Url.Fault

namespace SysExporter.Config

inductive Violation where
  | wrongScheme (scheme : String)
  | noHost
  | noConnections
  | noTimeout
  | noCapacity
  | duplicateScraper (name : String)
  | unknownScraper (unknown : UnknownScraper)
  deriving DecidableEq, Repr

def Violation.message : Violation → String
  | .wrongScheme scheme => "database dsn must use the mysql:// scheme, got " ++ scheme ++ "://"
  | .noHost => "database dsn has no host"
  | .noConnections => "database max_connections must be positive"
  | .noTimeout => "scrape timeout must be non-zero"
  | .noCapacity => "scrape sink_capacity must be positive"
  | .duplicateScraper name => "duplicate scraper name: '" ++ name ++ "'"
  | .unknownScraper unknown => unknown.message

inductive Rejection where
  | missingVariable (name : String)
  | invalidDsn (fault : Url.Fault)
  | violation (v : Violation)
  deriving DecidableEq, Repr

def Rejection.message : Rejection → String
  | .missingVariable name =>
    "environment variable " ++ name ++ " referenced by the dsn is not set"
  | .invalidDsn fault => "invalid database dsn: " ++ fault.message
  | .violation v => "config validation error: " ++ v.message

def Rejection.debug : Rejection → String
  | .missingVariable name => "MissingEnvVar(" ++ Text.quote name ++ ")"
  | .invalidDsn fault => "InvalidDsn(" ++ fault.name ++ ")"
  | .violation v => "ValidationError(" ++ Text.quote v.message ++ ")"

end SysExporter.Config
