import Mathlib.Data.List.Forall2
import SysExporter.Proofs.Sql.Column

namespace SysExporter.Sql

-- How a column is read.
inductive Shape where
  | text
  | number
  deriving DecidableEq, Repr

-- What a column is read to.
inductive Field where
  | text (s : String)
  | number (n : UInt64)
  deriving DecidableEq, Repr

def Field.shape : Field → Shape
  | .text _ => .text
  | .number _ => .number

def Value.Holds (value : Value) : Field → Prop
  | .text s => value.HoldsText s
  | .number n => value.HoldsNumber n

namespace Row

def read (row : Row) (index : Nat) : Shape → Except ColumnFault Field
  | .text => .text <$> row.readText index
  | .number => .number <$> row.readUnsigned index

-- The columns from one index on, read in order up to the first bad one.
def readFrom (row : Row) : Nat → List Shape → Except ColumnFault (List Field)
  | _, [] => .ok []
  | index, shape :: rest => do
    let field ← row.read index shape
    let fields ← row.readFrom (index + 1) rest
    return field :: fields

variable {row other : Row} {index start : Nat} {shape : Shape} {shapes : List Shape}
  {field : Field} {fields : List Field} {fault : ColumnFault}

theorem read_eq_ok_iff :
    row.read index shape = .ok field ↔
      field.shape = shape ∧ ∃ value, row.get? index = some value ∧ value.Holds field := by
  cases shape with
  | text =>
    simp only [read, map_eq_ok_iff, readText_eq_ok_iff]
    constructor
    · rintro ⟨s, hheld, rfl⟩
      exact ⟨rfl, hheld⟩
    · rintro ⟨hshape, hheld⟩
      cases field with
      | text s => exact ⟨s, hheld, rfl⟩
      | number n => cases hshape
  | number =>
    simp only [read, map_eq_ok_iff, readUnsigned_eq_ok_iff]
    constructor
    · rintro ⟨n, hheld, rfl⟩
      exact ⟨rfl, hheld⟩
    · rintro ⟨hshape, hheld⟩
      cases field with
      | text s => cases hshape
      | number n => exact ⟨n, hheld, rfl⟩

theorem readFrom_of_ok (h : row.read start shape = .ok field) :
    row.readFrom start (shape :: shapes) = (field :: ·) <$> row.readFrom (start + 1) shapes := by
  rw [readFrom, h]
  rfl

theorem readFrom_of_error (h : row.read start shape = .error fault) :
    row.readFrom start (shape :: shapes) = .error fault := by
  rw [readFrom, h]
  rfl

theorem drop_of_get? {value : Value} (h : row.get? start = some value) :
    row.values.drop start = value :: row.values.drop (start + 1) := by
  obtain ⟨hlt, hvalue⟩ := List.getElem?_eq_some_iff.mp h
  rw [List.drop_eq_getElem_cons hlt, hvalue]

-- Columns are read to the fields that they hold.
theorem readFrom_eq_ok_iff :
    row.readFrom start shapes = .ok fields ↔
      fields.map Field.shape = shapes ∧
        ∃ values rest, row.values.drop start = values ++ rest ∧
          List.Forall₂ Value.Holds values fields := by
  induction shapes generalizing start fields with
  | nil =>
    rw [readFrom, Except.ok.injEq]
    constructor
    · rintro rfl
      exact ⟨rfl, [], _, rfl, .nil⟩
    · rintro ⟨hshapes, -⟩
      exact (List.map_eq_nil_iff.mp hshapes).symm
  | cons shape rest ih =>
    constructor
    · intro hread
      cases hfield : row.read start shape with
      | error fault =>
        rw [readFrom_of_error hfield] at hread
        cases hread
      | ok field =>
        rw [readFrom_of_ok hfield] at hread
        obtain ⟨later, hlater, rfl⟩ := map_eq_ok_iff.mp hread
        obtain ⟨hshape, value, hget, hheld⟩ := read_eq_ok_iff.mp hfield
        obtain ⟨hshapes, values, others, hdrop, hall⟩ := ih.mp hlater
        refine ⟨by rw [List.map_cons, hshape, hshapes], value :: values, others, ?_,
          .cons hheld hall⟩
        rw [drop_of_get? hget, hdrop, List.cons_append]
    · rintro ⟨hshapes, values, others, hdrop, hall⟩
      cases hall with
      | nil => cases hshapes
      | @cons value field values later hheld hall =>
        obtain ⟨hshape, hshapes⟩ := List.cons.inj hshapes
        have hget : row.get? start = some value := by
          have hhead := congrArg List.head? hdrop
          rw [List.head?_drop] at hhead
          exact hhead
        have hrest : row.values.drop (start + 1) = values ++ others := by
          rw [drop_of_get? hget, List.cons_append] at hdrop
          exact (List.cons.inj hdrop).2
        rw [readFrom_of_ok (read_eq_ok_iff.mpr ⟨hshape, value, hget, hheld⟩),
          ih.mpr ⟨hshapes, values, others, hrest, hall⟩]
        rfl

-- The first bad column is blamed.
theorem readFrom_eq_error_iff :
    row.readFrom start shapes = .error fault ↔
      ∃ offset shape, shapes[offset]? = some shape ∧
        row.read (start + offset) shape = .error fault ∧
        ∀ earlier kind, earlier < offset → shapes[earlier]? = some kind →
          ∃ field, row.read (start + earlier) kind = .ok field := by
  induction shapes generalizing start with
  | nil =>
    constructor
    · intro hread
      cases hread
    · rintro ⟨offset, shape, hshape, -⟩
      cases hshape
  | cons first rest ih =>
    cases hfirst : row.read start first with
    | error cause =>
      rw [readFrom_of_error hfirst, Except.error.injEq]
      constructor
      · rintro rfl
        exact ⟨0, first, rfl, hfirst, fun earlier kind hlt => absurd hlt (by omega)⟩
      · rintro ⟨offset, shape, hshape, hfault, hbefore⟩
        cases offset with
        | zero =>
          cases hshape
          exact Except.error.inj (hfirst.symm.trans hfault)
        | succ offset =>
          obtain ⟨field, hfield⟩ := hbefore 0 first (by omega) rfl
          cases hfirst.symm.trans hfield
    | ok field =>
      have hshift (k : Nat) : start + (k + 1) = start + 1 + k := by omega
      rw [readFrom_of_ok hfirst, map_eq_error_iff, ih]
      constructor
      · rintro ⟨offset, shape, hshape, hfault, hbefore⟩
        refine ⟨offset + 1, shape, hshape, hshift offset ▸ hfault, fun earlier kind hlt hkind => ?_⟩
        cases earlier with
        | zero =>
          cases hkind
          exact ⟨field, hfirst⟩
        | succ earlier =>
          rw [hshift]
          exact hbefore earlier kind (by omega) hkind
      · rintro ⟨offset, shape, hshape, hfault, hbefore⟩
        cases offset with
        | zero =>
          cases hshape
          cases hfirst.symm.trans hfault
        | succ offset =>
          refine ⟨offset, shape, hshape, hshift offset ▸ hfault, fun earlier kind hlt hkind => ?_⟩
          rw [← hshift]
          exact hbefore (earlier + 1) kind (by omega) hkind

-- A column is read alike in two rows that agree up to it. A missing column ends
-- both rows at the same place.
theorem read_congr (h : row.values.take (index + 1) = other.values.take (index + 1)) :
    row.read index shape = other.read index shape := by
  have hget : row.get? index = other.get? index := by
    have htake (r : Row) : (r.values.take (index + 1))[index]? = r.get? index :=
      List.getElem?_take_of_lt (Nat.lt_succ_self index)
    rw [← htake row, ← htake other, h]
  have hcolumn : row.column index = other.column index := by
    cases hvalue : row.get? index with
    | some value => rw [column_of_some hvalue, column_of_some (hget ▸ hvalue)]
    | none =>
      have hsize : row.size = other.size := by
        have hlength := congrArg List.length h
        have hrow : row.values.length ≤ index := List.getElem?_eq_none_iff.mp hvalue
        have hother : other.values.length ≤ index :=
          List.getElem?_eq_none_iff.mp (hget.symm.trans hvalue)
        rw [List.length_take, List.length_take] at hlength
        unfold size
        omega
      rw [column_of_none hvalue, column_of_none (hget ▸ hvalue), hsize]
  cases shape with
  | text => rw [read, read, readText, readText, hcolumn]
  | number => rw [read, read, readUnsigned, readUnsigned, hcolumn]

theorem readFrom_congr
    (h : ∀ offset < shapes.length, ∀ shape,
      row.read (start + offset) shape = other.read (start + offset) shape) :
    row.readFrom start shapes = other.readFrom start shapes := by
  induction shapes generalizing start with
  | nil => rfl
  | cons shape rest ih =>
    have hfirst : row.read start shape = other.read start shape := h 0 (by simp) shape
    have hrest : row.readFrom (start + 1) rest = other.readFrom (start + 1) rest := by
      apply ih
      intro offset hlt kind
      have hshift : start + 1 + offset = start + (offset + 1) := by omega
      rw [hshift]
      exact h (offset + 1) (by simpa using hlt) kind
    rw [readFrom, readFrom, hfirst, hrest]

-- What comes after a bad column is never looked at.
theorem readFrom_congr_of_error {offset : Nat} (hshape : shapes[offset]? = some shape)
    (hfault : row.read (start + offset) shape = .error fault)
    (h : ∀ earlier ≤ offset, ∀ kind,
      row.read (start + earlier) kind = other.read (start + earlier) kind) :
    row.readFrom start shapes = other.readFrom start shapes := by
  induction shapes generalizing start offset with
  | nil => cases hshape
  | cons first rest ih =>
    have hfirst : row.read start first = other.read start first := h 0 (Nat.zero_le _) first
    cases hread : row.read start first with
    | error cause => rw [readFrom_of_error hread, readFrom_of_error (hfirst.symm.trans hread)]
    | ok field =>
      cases offset with
      | zero =>
        cases hshape
        cases hread.symm.trans hfault
      | succ offset =>
        have hshift (k : Nat) : start + (k + 1) = start + 1 + k := by omega
        rw [readFrom_of_ok hread, readFrom_of_ok (hfirst.symm.trans hread)]
        rw [ih hshape (hshift offset ▸ hfault) fun earlier hle kind => ?_]
        rw [← hshift]
        exact h (earlier + 1) (by omega) kind

end Row

end SysExporter.Sql
