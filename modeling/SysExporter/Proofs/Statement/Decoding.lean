import SysExporter.Proofs.Sql.Fields
import SysExporter.Statement.Summary

namespace SysExporter.Statement

open Sql

-- The columns of a summary, by the names under which they are selected.
def Summary.columns (summary : Summary) : List (String × Field) :=
  [("user", .text summary.user), ("statement", .text summary.statement),
    ("total", .number summary.total), ("total_latency", .number summary.totalLatency),
    ("max_latency", .number summary.maxLatency), ("lock_latency", .number summary.lockLatency),
    ("rows_sent", .number summary.rowsSent), ("rows_examined", .number summary.rowsExamined),
    ("rows_affected", .number summary.rowsAffected), ("full_scans", .number summary.fullScans)]

def Summary.fields (summary : Summary) : List Field :=
  summary.columns.map Prod.snd

def shapes : List Shape :=
  [.text, .text] ++ List.replicate 8 .number

theorem Summary.names_columns (summary : Summary) :
    summary.columns.map Prod.fst = columnNames := rfl

theorem Summary.shapes_fields (summary : Summary) :
    summary.fields.map Field.shape = shapes := rfl

theorem Summary.fields_injective {a b : Summary} (h : a.fields = b.fields) : a = b := by
  cases a
  cases b
  simp only [fields, columns, List.map_cons, List.map_nil, List.cons.injEq, Field.text.injEq,
    Field.number.injEq] at h
  simp [h]

-- Reading a summary is reading its columns one after the other.
theorem readFrom_eq (row : Row) :
    row.readFrom 0 shapes = Summary.fields <$> Summary.ofRow row := by
  simp only [shapes, List.replicate, List.cons_append, List.nil_append, Row.readFrom, Row.read,
    Summary.ofRow, map_bind, bind_map_left, bind_assoc, pure_bind, map_pure, Nat.zero_add,
    Nat.reduceAdd]
  rfl

section

variable {row other : Row} {summary : Summary}

theorem ofRow_eq_ok_iff :
    Summary.ofRow row = .ok summary ↔
      ∃ values rest, row.values = values ++ rest ∧
        List.Forall₂ Value.Holds values summary.fields := by
  have hread : Summary.ofRow row = .ok summary ↔
      row.readFrom 0 shapes = .ok summary.fields := by
    rw [readFrom_eq, map_eq_ok_iff]
    constructor
    · exact fun hrow => ⟨summary, hrow, rfl⟩
    · rintro ⟨found, hrow, hfields⟩
      rw [hrow, Summary.fields_injective hfields]
  rw [hread, Row.readFrom_eq_ok_iff, List.drop_zero, and_iff_right summary.shapes_fields]

theorem ofRow_eq_error_iff {fault : ColumnFault} :
    Summary.ofRow row = .error fault ↔
      ∃ index shape, shapes[index]? = some shape ∧ row.read index shape = .error fault ∧
        ∀ earlier kind, earlier < index → shapes[earlier]? = some kind →
          ∃ field, row.read earlier kind = .ok field := by
  rw [← map_eq_error_iff (f := Summary.fields), ← readFrom_eq, Row.readFrom_eq_error_iff]
  simp only [Nat.zero_add]

theorem ofRow_congr (h : row.readFrom 0 shapes = other.readFrom 0 shapes) :
    Summary.ofRow row = Summary.ofRow other := by
  rw [readFrom_eq, readFrom_eq] at h
  cases hrow : Summary.ofRow row with
  | error fault =>
    rw [hrow] at h
    exact (map_eq_error_iff.mp h.symm).symm
  | ok summary =>
    rw [hrow] at h
    obtain ⟨found, hother, hfields⟩ := map_eq_ok_iff.mp h.symm
    rw [hother, Summary.fields_injective hfields]

theorem take_of_take {index bound : Nat} (hlt : index < bound)
    (h : row.values.take bound = other.values.take bound) :
    row.values.take (index + 1) = other.values.take (index + 1) := by
  have htake := congrArg (List.take (index + 1)) h
  rwa [List.take_take, List.take_take, Nat.min_eq_left hlt] at htake

theorem decode_eq_ok_iff :
    projection.decode row = .ok summary ↔ Summary.ofRow row = .ok summary :=
  mapError_eq_ok_iff

theorem decode_eq_error_iff {message : String} :
    projection.decode row = .error message ↔
      ∃ fault, Summary.ofRow row = .error fault ∧ fault.message = message :=
  mapError_eq_error_iff

end

-- The columns of a row are decoded to a summary exactly if they hold its fields, in the
-- order in which they are selected and each in any form of its own. If they hold none,
-- the first column that is missing or cannot be read is blamed, and with the fault that
-- reading it alone has. Columns after the tenth or after a bad one make no difference.
theorem decode_held :
    (∀ summary : Summary, summary.columns.map Prod.fst = columnNames) ∧
    (∀ (row : Row) (summary : Summary), projection.decode row = .ok summary ↔
      ∃ values rest, row.values = values ++ rest ∧
        List.Forall₂ Value.Holds values (summary.columns.map Prod.snd)) ∧
    (∀ (row : Row) (message : String), projection.decode row = .error message ↔
      ∃ index shape fault, shapes[index]? = some shape ∧
        row.read index shape = .error fault ∧ fault.message = message ∧
        ∀ earlier kind, earlier < index → shapes[earlier]? = some kind →
          ∃ field, row.read earlier kind = .ok field) ∧
    (∀ row other : Row, row.values.take 10 = other.values.take 10 →
      projection.decode row = projection.decode other) ∧
    (∀ (row other : Row) (index : Nat) (shape : Shape) (fault : ColumnFault),
      shapes[index]? = some shape → row.read index shape = .error fault →
      row.values.take (index + 1) = other.values.take (index + 1) →
      projection.decode row = projection.decode other) := by
  have hdecode {row other : Row} (h : row.readFrom 0 shapes = other.readFrom 0 shapes) :
      projection.decode row = projection.decode other :=
    congrArg (Except.mapError ColumnFault.message) (ofRow_congr h)
  refine ⟨Summary.names_columns, fun row summary => ?_, fun row message => ?_,
    fun row other hagree => ?_, fun row other index shape fault hshape hfault hagree => ?_⟩
  · rw [decode_eq_ok_iff, ofRow_eq_ok_iff]
    rfl
  · rw [decode_eq_error_iff]
    constructor
    · rintro ⟨fault, hrow, hmessage⟩
      obtain ⟨index, shape, hshape, hfault, hbefore⟩ := ofRow_eq_error_iff.mp hrow
      exact ⟨index, shape, fault, hshape, hfault, hmessage, hbefore⟩
    · rintro ⟨index, shape, fault, hshape, hfault, hmessage, hbefore⟩
      exact ⟨fault, ofRow_eq_error_iff.mpr ⟨index, shape, hshape, hfault, hbefore⟩, hmessage⟩
  · apply hdecode
    apply Row.readFrom_congr
    intro offset hlt shape
    rw [Nat.zero_add]
    exact Row.read_congr (take_of_take hlt hagree)
  · apply hdecode
    apply Row.readFrom_congr_of_error hshape
    · rw [Nat.zero_add]
      exact hfault
    · intro earlier hle kind
      rw [Nat.zero_add]
      exact Row.read_congr (take_of_take (Nat.lt_succ_of_le hle) hagree)

end SysExporter.Statement
