import SysExporter.CommandLine.Run

namespace SysExporter.CommandLine

open Text

def RunFault.debug : RunFault → String
  | .load fault => fault.debug
  | .rejected r => r.debug
  | .source fault => fault.debug
  | .noText => "Msg(\"metric family cannot be rendered\")"
  | .scrapersFailed count total => quote s!"{count} of {total} scrapers failed"

namespace Outcome

-- Zero stands for success. A command line that makes no sense has a code of its own.
def exitCode (o : Outcome) : UInt32 :=
  match o.ending with
  | .succeeded => 0
  | .failed _ => 1
  | .misused _ => 2
  | .crashed _ | .hung => 101

-- What goes to the error stream. A program that breaks off begins with an empty line.
def errorText (o : Outcome) : String :=
  match o.ending with
  | .succeeded | .hung => ""
  | .failed fault => "Error: " ++ fault.debug ++ "\n"
  | .misused fault => "error: " ++ fault.message ++ "\n"
  | .crashed text => "\n" ++ text ++ "\n"

end Outcome

end SysExporter.CommandLine
