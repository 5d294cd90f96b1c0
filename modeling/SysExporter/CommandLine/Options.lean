import SysExporter.Duration.Reader

namespace SysExporter.CommandLine

inductive ValueOption where
  | config
  | dsn
  | timeout
  | scraper
  deriving DecidableEq, Repr

inductive Switch where
  | list
  | help
  | version
  deriving DecidableEq, Repr

inductive AnyOption where
  | value (o : ValueOption)
  | alone (s : Switch)
  deriving DecidableEq, Repr

namespace AnyOption

def ofLong? (name : String) : Option AnyOption :=
  [("config", value .config), ("dsn", value .dsn), ("timeout", value .timeout),
    ("scraper", value .scraper), ("list", alone .list), ("help", alone .help),
    ("version", alone .version)].lookup name

def ofShort? (c : Char) : Option AnyOption :=
  [('c', value .config), ('h', alone .help), ('V', alone .version)].lookup c

def text : AnyOption → String
  | value .config => "--config <CONFIG>"
  | value .dsn => "--dsn <DSN>"
  | value .timeout => "--timeout <TIMEOUT>"
  | value .scraper => "--scraper <SCRAPERS>"
  | alone .list => "--list"
  | alone .help => "--help"
  | alone .version => "--version"

end AnyOption

def ValueOption.variable? : ValueOption → Option String
  | .config => some "SYS_SCRAPE_CONFIG"
  | .dsn => some "SYS_SCRAPE_DSN"
  | .timeout => some "SYS_SCRAPE_TIMEOUT"
  | .scraper => none

-- Why a command line makes no sense. The sum of a duration may overflow, which
-- nobody reports.
inductive UsageFault where
  | unexpectedArgument (text : String)
  | valueMissing (o : ValueOption)
  | usedTwice (o : AnyOption)
  | valueUnwanted (value : String) (s : Switch)
  | timeoutRefused (value : String) (fault : Duration.ReadFault)
  | notText
  | durationOverflow
  deriving DecidableEq, Repr

def UsageFault.message : UsageFault → String
  | .unexpectedArgument text => s!"unexpected argument '{text}' found"
  | .valueMissing o =>
    s!"a value is required for '{AnyOption.text (.value o)}' but none was supplied"
  | .usedTwice o => s!"the argument '{o.text}' cannot be used multiple times"
  | .valueUnwanted value s =>
    s!"unexpected value '{value}' for '{AnyOption.text (.alone s)}' found; no more were expected"
  | .timeoutRefused value fault =>
    s!"invalid value '{value}' for '{AnyOption.text (.value .timeout)}': {fault.message}"
  | .notText => "invalid UTF-8 was detected in one or more arguments"
  | .durationOverflow => Duration.ReadFault.carryOverflow.message

end SysExporter.CommandLine
