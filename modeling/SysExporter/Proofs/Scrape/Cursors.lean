import SysExporter.Proofs.Scrape.Reading
import SysExporter.Scrape.Reach

namespace SysExporter.Scrape

open SysExporter.Metric Sql

-- From one world to another as many cursors are opened more than are released
-- as the second number exceeds the first.
def Balanced (w v : World) (before after : Nat) : Prop :=
  v.source.opened + w.source.released + before = w.source.opened + v.source.released + after

namespace Balanced

variable {u v w : World} {a b c : Nat}

theorem of_source_eq (h : v.source = w.source) : Balanced w v a a := by
  unfold Balanced
  rw [h]

theorem trans (huv : Balanced u v a b) (hvw : Balanced v w b c) : Balanced u w a c := by
  unfold Balanced at *
  omega

-- The cursors of others count on both sides.
theorem add (h : Balanced w v a b) (n : Nat) : Balanced w v (a + n) (b + n) := by
  unfold Balanced at *
  omega

theorem openCursors_eq (h : Balanced w v 0 0) : v.source.openCursors = w.source.openCursors := by
  unfold Balanced at h
  unfold Source.openCursors
  omega

end Balanced

theorem balanced_issue (w : World) (sql : String) : Balanced w (w.issue sql) 0 1 := by
  simp only [Balanced, World.issue, World.record, Source.issue]
  omega

theorem balanced_release (w : World) : Balanced w w.release 1 0 := by
  simp only [Balanced, World.release, Source.release]
  omega

theorem balanced_push (ctx : Context) (o : Observation) (w : World) (n : Nat) :
    Balanced w (w.push ctx o).2 n n := by
  have h := handover ctx o w
  generalize w.push ctx o = outcome at h
  cases h with
  | tardy _ => exact .of_source_eq rfl
  | accepted waits _ _ _ => exact .of_source_eq waits.source_eq
  | closed waits _ _ => exact .of_source_eq waits.source_eq
  | ended waits _ _ _ => exact .of_source_eq waits.source_eq
  | abandoned waits _ _ _ _ => exact .of_source_eq waits.source_eq

-- How many places at the source a cursor takes up.
def Cursor.places (c : Cursor) : Nat :=
  if c.isOpen then 1 else 0

@[simp]
theorem places_items (feed : Source.Feed) : (Cursor.items feed).places = 1 := rfl

theorem places_rows (s : RowStream) :
    (Cursor.rows s).places = if s.isFinished then 0 else 1 := by
  cases h : s.isFinished <;> simp [Cursor.places, Cursor.isOpen, h]

theorem places_of_feed {s : RowStream} (h : s.feed.isSome = true) : (Cursor.rows s).places = 1 := by
  rw [places_rows, RowStream.isFinished_eq, Option.isNone_eq_false_iff.mpr h]
  rfl

theorem places_of_feed_eq_none {s : RowStream} (h : s.feed = none) :
    (Cursor.rows s).places = 0 := by
  rw [places_rows, RowStream.isFinished_eq, h]
  rfl

-- What a query that is issued takes up: nothing if it fails or finds no row.
theorem balanced_execute {α : Type} (projection : Projection α) (ctx : Context) (w : World) :
    Balanced w (RowStream.execute projection ctx w).2 0
      (match (RowStream.execute projection ctx w).1 with
      | .ok s => (Cursor.rows s).places
      | .error _ => 0) := by
  have hi := balanced_issue w projection.query
  have hr := hi.trans (.of_source_eq (waits_requested (w.issue projection.query)).source_eq)
  have h := opening projection ctx w
  generalize RowStream.execute projection ctx w = outcome at h
  cases h with
  | tardy _ => exact hi.trans (balanced_release _)
  | row _ _ _ => exact hr
  | faulty _ => exact hr.trans (balanced_release _)
  | empty _ _ => exact hr.trans (balanced_release _)
  | ended waits _ _ _ => exact (hr.trans (.of_source_eq waits.source_eq)).trans (balanced_release _)
  | abandoned waits _ _ _ _ =>
    exact (hr.trans (.of_source_eq waits.source_eq)).trans (balanced_release _)

-- What a stream takes up changes with its state at every request for a row.
theorem balanced_next {α : Type} (projection : Projection α) (ctx : Context) (s : RowStream)
    (w : World) :
    Balanced w (s.next projection ctx w).2 (Cursor.rows s).places
      (Cursor.rows (s.next projection ctx w).1.2).places := by
  have h := advance projection ctx s w
  generalize s.next projection ctx w = outcome at h
  cases h with
  | finished _ _ => exact .of_source_eq rfl
  | row unfinished _ _ _ waits =>
    rw [places_of_feed unfinished, places_of_feed rfl]
    exact .of_source_eq waits.source_eq
  | unreadable unfinished _ _ waits =>
    rw [places_of_feed unfinished, places_of_feed_eq_none rfl]
    exact (Balanced.of_source_eq waits.source_eq).trans (balanced_release _)
  | faulty unfinished _ waits =>
    rw [places_of_feed unfinished, places_of_feed_eq_none rfl]
    exact (Balanced.of_source_eq waits.source_eq).trans (balanced_release _)
  | last unfinished _ _ waits =>
    rw [places_of_feed unfinished, places_of_feed_eq_none rfl]
    exact (Balanced.of_source_eq waits.source_eq).trans (balanced_release _)
  | cancelled unfinished waits _ =>
    rw [places_of_feed unfinished, places_of_feed_eq_none rfl]
    exact (Balanced.of_source_eq waits.source_eq).trans (balanced_release _)
  | abandoned _ waits _ _ => exact .of_source_eq waits.source_eq

theorem balanced_drop (c : Cursor) (w : World) : Balanced w (c.drop w) c.places 0 := by
  cases c with
  | items feed => exact balanced_release w
  | rows s =>
    simp only [Cursor.drop, RowStream.release]
    cases hf : s.feed with
    | none =>
      rw [places_of_feed_eq_none hf]
      exact .of_source_eq rfl
    | some feed =>
      rw [places_of_feed (by simp [hf])]
      exact balanced_release w

theorem countP_mid (before after : List Cursor) (c : Cursor) :
    (before ++ c :: after).countP Cursor.isOpen =
      c.places + (before ++ after).countP Cursor.isOpen := by
  simp only [Cursor.places, List.countP_append, List.countP_cons]
  omega

-- Whatever is done in whatever order, exactly the open cursors that are held
-- take up places at the source.
theorem Reaches.balanced {start v : World} {held : List Cursor} (h : Reaches start v held) :
    Balanced start v 0 (held.countP Cursor.isOpen) := by
  induction h with
  | refl => exact .of_source_eq rfl
  | push _ ctx o ih => exact ih.trans (balanced_push ctx o _ _)
  | pause _ ctx ms ih => exact ih.trans (.of_source_eq (waits_pause ctx ms _).source_eq)
  | @execute v u held s _ α projection ctx he ih =>
    have hx := balanced_execute projection ctx v
    rw [he] at hx
    rw [countP_mid, List.append_nil]
    exact ih.trans (by simpa using hx.add (held.countP Cursor.isOpen))
  | @refused v u held halt _ α projection ctx he ih =>
    have hx := balanced_execute projection ctx v
    rw [he] at hx
    exact ih.trans (by simpa using hx.add (held.countP Cursor.isOpen))
  | @next v u before after s t _ α projection ctx result hn ih =>
    have hx := balanced_next projection ctx s v
    rw [hn] at hx
    rw [countP_mid] at ih ⊢
    exact ih.trans (hx.add _)
  | @query v held _ sql ih =>
    rw [countP_mid, List.append_nil]
    exact ih.trans (by simpa using (balanced_issue v sql).add (held.countP Cursor.isOpen))
  | @fetch v before after feed _ ctx ih =>
    rw [countP_mid] at ih ⊢
    exact ih.trans (.of_source_eq (waits_fetch ctx feed v).source_eq)
  | @drop v before after c _ ih =>
    rw [countP_mid] at ih
    exact ih.trans (by simpa using (balanced_drop c v).add ((before ++ after).countP Cursor.isOpen))

-- At a database that is used by nobody else all places are taken up by the
-- cursors that are held.
theorem openCursors_eq_countP {feed : Source.Feed} {w v : World} {held : List Cursor}
    (h : Reaches { w with source := .ofFeed feed } v held) :
    v.source.openCursors = held.countP Cursor.isOpen := by
  have hb := h.balanced
  simp only [Balanced, Source.ofFeed] at hb
  unfold Source.openCursors
  omega

-- A stream is finished, and thereby closed, as soon as a request finds no row.
-- A request that is given up leaves it as it is.
theorem isFinished_next {α : Type} (projection : Projection α) (ctx : Context) (s : RowStream)
    (w : World) :
    match (s.next projection ctx w).1 with
    | (.ok (some _), t) => s.isFinished = false ∧ t.isFinished = false
    | (.error .abandoned, t) => t = s
    | (_, t) => t.isFinished = true := by
  have h := advance projection ctx s w
  generalize s.next projection ctx w = outcome at h
  cases h with
  | finished closed _ => simp [RowStream.isFinished_eq, closed]
  | row unfinished _ _ _ _ => simpa [RowStream.isFinished_eq] using unfinished
  | unreadable _ _ _ _ => rfl
  | faulty _ _ _ => rfl
  | last _ _ _ _ => rfl
  | cancelled _ _ _ => rfl
  | abandoned _ _ _ _ => rfl

end SysExporter.Scrape
