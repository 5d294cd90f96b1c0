import SysExporter.Proofs.Scrape.Lookahead
import SysExporter.Proofs.Statement.Output

namespace SysExporter.Statement

open SysExporter.Metric Scrape Sql

end SysExporter.Statement
