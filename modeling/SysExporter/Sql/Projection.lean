import SysExporter.Sql.Row

namespace SysExporter.Sql

-- A query with the exact number of columns it selects and the reader of its rows.
structure Projection (α : Type) where
  query : String
  columns : Nat
  decode : Row → Except String α

-- The number of columns is checked before the row is read.
def Projection.read {α : Type} (projection : Projection α) (row : Row) : Except String α :=
  if row.size = projection.columns then projection.decode row
  else .error s!"expected {projection.columns} columns, got {row.size}"

end SysExporter.Sql
