import SysExporter.Duration.Text
import SysExporter.Main
import SysExporter.Proofs.Collection.Cycle
import SysExporter.Proofs.Collection.Ending
import SysExporter.Proofs.Config.Redaction
import SysExporter.Proofs.Statement.Exposition
import SysExporter.Proofs.Statement.Failure
import SysExporter.Scrape.Contexts
import SysExporter.Scrape.Pipe
import SysExporter.Scrape.Scripted
import SysExporter.Proofs.Scrape.Iteration
import SysExporter.Proofs.Scrape.Requests
import SysExporter.Proofs.Scrape.Pace
import SysExporter.Proofs.Scrape.Lookahead
import SysExporter.Proofs.Statement.Laziness
import SysExporter.Proofs.Scrape.Exchange
import SysExporter.Proofs.Scrape.Program
import SysExporter.Proofs.Scrape.Shift
import SysExporter.Proofs.Collection.Isolation
import SysExporter.Proofs.Metric.Series
import SysExporter.Proofs.Collection.Series
import SysExporter.Proofs.Registry.Operations
import SysExporter.Proofs.CommandLine.Overrides
import SysExporter.Proofs.Duration.Seconds
import SysExporter.Proofs.CommandLine.Deadline
import SysExporter.Proofs.Scrape.Session
import SysExporter.Proofs.Config.Scanning
import SysExporter.Proofs.Metric.Shown
import SysExporter.Proofs.Metric.Faults
import SysExporter.Proofs.Text.Numeral
import SysExporter.Proofs.Text.Utf8
import SysExporter.Proofs.Sql.Column
import SysExporter.Proofs.Sql.Fields
import SysExporter.Proofs.Statement.Decoding
import SysExporter.Proofs.ServerVersion
import SysExporter.Proofs.Statement.Mapping
import SysExporter.Proofs.CommandLine.Capacity
import SysExporter.Proofs.Registry.Filtering
import SysExporter.Proofs.Scrape.Lineage
import SysExporter.Proofs.Scrape.Derivation
import SysExporter.Proofs.CommandLine.Timeout
import SysExporter.Proofs.Source.Replay
import SysExporter.Proofs.Scrape.Timers
