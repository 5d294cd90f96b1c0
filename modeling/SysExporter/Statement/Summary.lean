import SysExporter.Sql.Projection

namespace SysExporter.Statement

-- What one user did with one type of statement. Latencies are in picoseconds.
structure Summary where
  user : String
  statement : String
  total : UInt64
  totalLatency : UInt64
  maxLatency : UInt64
  lockLatency : UInt64
  rowsSent : UInt64
  rowsExamined : UInt64
  rowsAffected : UInt64
  fullScans : UInt64
  deriving DecidableEq, Repr

-- The schema of the diagnostic views, also the subsystem of their metrics.
def schema : String := "sys"

def view : String := "sys.x$user_summary_by_statement_type"

def columnNames : List String :=
  ["user", "statement", "total", "total_latency", "max_latency", "lock_latency", "rows_sent",
    "rows_examined", "rows_affected", "full_scans"]

def query : String :=
  "SELECT\n    " ++ ",\n    ".intercalate columnNames ++ "\nFROM\n    " ++ view

-- The columns are read in order, so the first bad one is blamed.
def Summary.ofRow (row : Sql.Row) : Except Sql.ColumnFault Summary := do
  return {
    user := ← row.readText 0
    statement := ← row.readText 1
    total := ← row.readUnsigned 2
    totalLatency := ← row.readUnsigned 3
    maxLatency := ← row.readUnsigned 4
    lockLatency := ← row.readUnsigned 5
    rowsSent := ← row.readUnsigned 6
    rowsExamined := ← row.readUnsigned 7
    rowsAffected := ← row.readUnsigned 8
    fullScans := ← row.readUnsigned 9 }

def projection : Sql.Projection Summary where
  query := query
  columns := 10
  decode row := (Summary.ofRow row).mapError Sql.ColumnFault.message

end SysExporter.Statement
