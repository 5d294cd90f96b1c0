import Mathlib.Algebra.BigOperators.Group.List.Basic
import Mathlib.Algebra.Ring.Nat
import SysExporter.Duration.Reader
import SysExporter.Duration.Text

namespace SysExporter.Duration

open Text

-- The nanoseconds of a unit that is counted in them.
def TimeUnit.nanos (u : TimeUnit) : Nat :=
  u.inNanos?.getD 0

theorem TimeUnit.inSeconds_eq_zero (u : TimeUnit) :
    u.inNanos?.isSome = true → u.inSeconds = 0 := by
  cases u <;> decide

-- A number of units, with the name under which the unit is written.
structure Count where
  number : Nat
  unit : TimeUnit
  name : String
  named : TimeUnit.ofText? name.toList = some unit

namespace Count

-- One unit has another name than several.
def plural (number : Nat) (unit : TimeUnit) (name : String)
    (one : TimeUnit.ofText? name.toList = some unit)
    (many : TimeUnit.ofText? (name ++ "s").toList = some unit) : Count where
  number := number
  unit := unit
  name := if number = 1 then name else name ++ "s"
  named := by split <;> assumption

def text (c : Count) : List Char :=
  Nat.toDigits 10 c.number ++ c.name.toList

def quantity (c : Count) : Quantity :=
  ⟨c.number, none, c.name.toList⟩

-- What counts come to if a unit has the given value.
def total (value : TimeUnit → Nat) (cs : List Count) : Nat :=
  (cs.map fun c => c.number * value c.unit).sum

@[simp]
theorem total_cons (value : TimeUnit → Nat) (c : Count) (cs : List Count) :
    total value (c :: cs) = c.number * value c.unit + total value cs := by
  simp [total]

theorem total_filter (value : TimeUnit → Nat) (cs : List Count) :
    total value (cs.filter (·.number ≠ 0)) = total value cs := by
  induction cs with
  | nil => rfl
  | cons c rest ih =>
    by_cases h : c.number = 0
    · rw [List.filter_cons_of_neg (by simp [h]), ih, total_cons, h, Nat.zero_mul, Nat.zero_add]
    · rw [List.filter_cons_of_pos (by simp [h]), total_cons, total_cons, ih]

theorem countText_eq (c : Count) :
    (countText c.number c.name).map String.toList =
      ([c].filter (·.number ≠ 0)).map text := by
  by_cases h : c.number = 0
  · simp [countText, h]
  · have hname : (toString c.name).toList = c.name.toList := rfl
    simp [countText, h, text, hname]

end Count

-- How many there are of each unit, from years to nanoseconds.
def counts (d : Duration) : List Count :=
  let inYear := d.seconds % 31557600
  let inMonth := inYear % 2630016
  let inDay := inMonth % 86400
  [.plural (d.seconds / 31557600) .year "year" (by decide) (by decide),
    .plural (inYear / 2630016) .month "month" (by decide) (by decide),
    .plural (inMonth / 86400) .day "day" (by decide) (by decide),
    ⟨inDay / 3600, .hour, "h", by decide⟩,
    ⟨inDay % 3600 / 60, .minute, "m", by decide⟩,
    ⟨inDay % 60, .second, "s", by decide⟩,
    ⟨d.nanos / 1000000, .millisecond, "ms", by decide⟩,
    ⟨d.nanos / 1000 % 1000, .microsecond, "us", by decide⟩,
    ⟨d.nanos % 1000, .nanosecond, "ns", by decide⟩]

-- The units of which there are any. Only these are written.
def written (d : Duration) : List Count :=
  d.counts.filter (·.number ≠ 0)

theorem map_countTexts (d : Duration) :
    d.countTexts.map String.toList = d.written.map Count.text := by
  have hcounts : d.countTexts = d.counts.flatMap fun c => countText c.number c.name := by
    simp [countTexts, counts, pluralText, Count.plural]
  rw [hcounts, written]
  induction d.counts with
  | nil => rfl
  | cons c rest ih =>
    rw [List.flatMap_cons, List.map_append, ih, Count.countText_eq, ← List.map_append,
      ← List.filter_append, List.singleton_append]

-- The values of the units stay unknown here: multiplied out, numbers as large as
-- the seconds of a year are slow to compare.
theorem total_counts (value : TimeUnit → Nat) (d : Duration) :
    Count.total value d.counts =
      d.seconds / 31557600 * value .year + (d.seconds % 31557600 / 2630016 * value .month +
      (d.seconds % 31557600 % 2630016 / 86400 * value .day +
      (d.seconds % 31557600 % 2630016 % 86400 / 3600 * value .hour +
      (d.seconds % 31557600 % 2630016 % 86400 % 3600 / 60 * value .minute +
      (d.seconds % 31557600 % 2630016 % 86400 % 60 * value .second +
      (d.nanos / 1000000 * value .millisecond + (d.nanos / 1000 % 1000 * value .microsecond +
      d.nanos % 1000 * value .nanosecond))))))) := rfl

theorem total_inSeconds_written (d : Duration) :
    Count.total TimeUnit.inSeconds d.written = d.seconds := by
  rw [written, Count.total_filter, total_counts]
  simp only [TimeUnit.inSeconds]
  omega

theorem total_nanos_written (d : Duration) : Count.total TimeUnit.nanos d.written = d.nanos := by
  rw [written, Count.total_filter, total_counts]
  simp only [TimeUnit.nanos, TimeUnit.inNanos?, Option.getD_some, Option.getD_none]
  omega

theorem written_ne_nil {d : Duration} (h : d ≠ .zero) : d.written ≠ [] := by
  intro hnil
  apply h
  have hs := total_inSeconds_written d
  have hn := total_nanos_written d
  rw [hnil] at hs hn
  rw [← isZero_iff, isZero, ← hs, ← hn]
  rfl

-- A unit is counted in seconds or in nanoseconds, and then not in the other.
theorem addWhole_eq_ok (d : Duration) (n : Nat) (u : TimeUnit)
    (hs : d.seconds + n * u.inSeconds < UInt64.size) (hn : d.nanos + n * u.nanos < 1000000000) :
    d.addWhole n u = .ok ⟨d.seconds + n * u.inSeconds, d.nanos + n * u.nanos, hs, hn⟩ := by
  have hsize : 1000000000 ≤ UInt64.size := by decide
  have hadd : d.add (n * u.inSeconds) (n * u.nanos) =
      .ok ⟨d.seconds + n * u.inSeconds, d.nanos + n * u.nanos, hs, hn⟩ := by
    have hfits : ¬ UInt64.size ≤ d.nanos + n * u.nanos := by omega
    have hsmall : ¬ 1000000000 < d.nanos + n * u.nanos := by omega
    have hparts : ofParts? (d.seconds + n * u.inSeconds) (d.nanos + n * u.nanos) =
        some ⟨d.seconds + n * u.inSeconds, d.nanos + n * u.nanos, hs, hn⟩ := by
      simp only [ofParts?, Nat.div_eq_of_lt hn, Nat.mod_eq_of_lt hn, Nat.add_zero, dif_pos hs]
    simp only [add, hfits, hsmall, if_false, Nat.add_zero, Nat.not_le.mpr hs, hparts]
  cases hscale : u.inNanos? with
  | some scale =>
    have hseconds : n * u.inSeconds = 0 := by
      rw [u.inSeconds_eq_zero (by rw [hscale]; rfl), Nat.mul_zero]
    have hnanos : u.nanos = scale := by rw [TimeUnit.nanos, hscale, Option.getD_some]
    have hscaled : scaled n scale = .ok (n * u.nanos) := by
      rw [hnanos] at hn ⊢
      exact if_pos (by omega)
    rw [← hadd, addWhole, hscale, hseconds]
    simp only [hscaled]
    rfl
  | none =>
    have hnanos : n * u.nanos = 0 := by rw [TimeUnit.nanos, hscale, Option.getD_none, Nat.mul_zero]
    have hscaled : scaled n u.inSeconds = .ok (n * u.inSeconds) := if_pos (by omega)
    rw [← hadd, addWhole, hscale, hnanos]
    simp only [hscaled]
    rfl

-- Counts that fit are added up, whatever their order.
theorem foldlM_addQuantity (cs : List Count) (d : Duration)
    (hs : d.seconds + Count.total TimeUnit.inSeconds cs < UInt64.size)
    (hn : d.nanos + Count.total TimeUnit.nanos cs < 1000000000) :
    (cs.map Count.quantity).foldlM addQuantity d =
      .ok ⟨d.seconds + Count.total TimeUnit.inSeconds cs, d.nanos + Count.total TimeUnit.nanos cs,
        hs, hn⟩ := by
  induction cs generalizing d with
  | nil => rfl
  | cons c rest ih =>
    simp only [Count.total_cons, ← Nat.add_assoc] at hs hn ⊢
    have hwhole := addWhole_eq_ok d c.number c.unit (by omega) (by omega)
    have hstep : d.addQuantity c.quantity = d.addWhole c.number c.unit := by
      simp only [addQuantity, Count.quantity, c.named, hwhole]
      rfl
    rw [List.map_cons, List.foldlM_cons, hstep, hwhole]
    exact ih _ hs hn

-- The counts that are written come to the duration again.
theorem foldlM_addQuantity_written (d : Duration) :
    (d.written.map Count.quantity).foldlM addQuantity zero = .ok d := by
  have hs : zero.seconds + Count.total TimeUnit.inSeconds d.written = d.seconds := by
    rw [total_inSeconds_written, zero, Nat.zero_add]
  have hn : zero.nanos + Count.total TimeUnit.nanos d.written = d.nanos := by
    rw [total_nanos_written, zero, Nat.zero_add]
  rw [foldlM_addQuantity d.written zero (hs ▸ d.seconds_lt) (hn ▸ d.nanos_lt)]
  simp only [hs, hn]

end SysExporter.Duration
