import SysExporter.Binary64.Rounding
import SysExporter.Metric.Observation
import SysExporter.Statement.Summary

namespace SysExporter.Statement

-- The counters that a summary carries, in the order in which they are shown.
inductive Counter where
  | totalStatements
  | totalLatency
  | maxLatency
  | lockLatency
  | rowsSent
  | rowsExamined
  | rowsAffected
  | fullScans
  deriving DecidableEq, Repr

namespace Counter

def all : List Counter :=
  [.totalStatements, .totalLatency, .maxLatency, .lockLatency, .rowsSent, .rowsExamined,
    .rowsAffected, .fullScans]

def name : Counter → String
  | .totalStatements => "total_statements"
  | .totalLatency => "total_latency"
  | .maxLatency => "max_latency"
  | .lockLatency => "lock_latency"
  | .rowsSent => "rows_sent"
  | .rowsExamined => "rows_examined"
  | .rowsAffected => "rows_affected"
  | .fullScans => "full_scans"

def value (summary : Summary) : Counter → UInt64
  | .totalStatements => summary.total
  | .totalLatency => summary.totalLatency
  | .maxLatency => summary.maxLatency
  | .lockLatency => summary.lockLatency
  | .rowsSent => summary.rowsSent
  | .rowsExamined => summary.rowsExamined
  | .rowsAffected => summary.rowsAffected
  | .fullScans => summary.fullScans

def metricName : Counter → String
  | .totalStatements => "user_total_statements"
  | .totalLatency => "user_statement_total_latency"
  | .maxLatency => "user_statement_max_latency"
  | .lockLatency => "user_statement_lock_latency"
  | .rowsSent => "rows_sent_by_user"
  | .rowsExamined => "rows_examined_by_user"
  | .rowsAffected => "rows_affected_by_user"
  | .fullScans => "full_scans_by_user"

def counted : Counter → String
  | .totalStatements => "The total number of"
  | .totalLatency => "The total wait time of timed"
  | .maxLatency => "The maximum single wait time of timed"
  | .lockLatency => "The total time waiting for locks by timed"
  | .rowsSent => "The total number of rows returned by"
  | .rowsExamined => "The total number of rows read from storage engines by"
  | .rowsAffected => "The total number of rows affected by"
  | .fullScans => "The total number of full table scans by"

def help (counter : Counter) : String :=
  counter.counted ++ " occurrences of the statement event for the user"

def labels : List String := ["user", "statement"]

def descriptor (counter : Counter) : Metric.Descriptor :=
  .counter schema counter.metricName counter.help labels

-- Above 2 ^ 53 the count is the nearest double.
def observe (summary : Summary) (counter : Counter) : Metric.Observation where
  descriptor := counter.descriptor
  value := .ofNat (counter.value summary).toNat
  labelValues := [summary.user, summary.statement]
  arity := rfl

end Counter

def Summary.observations (summary : Summary) : List Metric.Observation :=
  Counter.all.map (Counter.observe summary)

end SysExporter.Statement
