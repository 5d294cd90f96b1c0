import SysExporter.Scrape.Wait
import SysExporter.Sql.Projection

namespace SysExporter.Scrape

open Sql

-- The rows of a running query. The feed is there as long as the cursor is
-- open; until then the first row may wait apart to be asked for.
structure RowStream where
  feed : Option Source.Feed
  peeked : Option Row
  fetched : Nat
  sound : peeked.isSome = true → feed.isSome = true := by simp

namespace RowStream

def isFinished (s : RowStream) : Bool :=
  s.feed.isNone && s.peeked.isNone

def toText (s : RowStream) : String :=
  let finished := if s.feed.isNone then "true" else "false"
  s!"RowStream \x7b fetched: {s.fetched}, finished: {finished}, .. \x7d"

def remaining (s : RowStream) : Nat :=
  (s.feed.elim 0 fun feed => feed.items.length) + s.peeked.elim 0 fun _ => 1

def close (s : RowStream) : RowStream :=
  { feed := none, peeked := none, fetched := s.fetched }

def release (s : RowStream) (w : World) : World :=
  if s.feed.isSome then w.release else w

-- Issues the query of a projection and fetches the first row, so that a query
-- that cannot be issued fails here.
def execute {α : Type} (projection : Projection α) (ctx : Context) (w : World) :
    Except Halt RowStream × World :=
  let w := w.issue projection.query
  match w.fetch ctx w.source.feed with
  | (.error halt, w) => (.error halt, w.release)
  | (.ok none, w) => (.ok { feed := none, peeked := none, fetched := 0 }, w.release)
  | (.ok (some (.error fault, _)), w) => (.error (.failed (.ofSource fault 1)), w.release)
  | (.ok (some (.ok row, rest)), w) =>
    (.ok { feed := some rest, peeked := some row, fetched := 0 }, w)

-- Reads a row that was fetched. A row that cannot be read ends the stream.
def read {α : Type} (projection : Projection α) (s : RowStream) (row : Row) (w : World) :
    (Except Halt (Option α) × RowStream) × World :=
  let s : RowStream := { feed := s.feed, peeked := none, fetched := s.fetched + 1 }
  match projection.read row with
  | .ok value => ((.ok (some value), s), w)
  | .error reason => ((.error (.failed (.decode s.fetched reason)), s.close), s.release w)

-- The next row. A row that waits is handed out even if the context is over.
-- Any failure ends the stream, but work that was given up leaves it as it is.
def next {α : Type} (projection : Projection α) (ctx : Context) (s : RowStream) (w : World) :
    (Except Halt (Option α) × RowStream) × World :=
  match s.peeked, s.feed with
  | some row, _ => s.read projection row w
  | none, none => ((.ok none, s), w)
  | none, some feed =>
    match w.fetch ctx feed with
    | (.error .abandoned, w) => ((.error .abandoned, s), w)
    | (.error (.failed e), w) => ((.error (.failed e), s.close), w.release)
    | (.ok none, w) => ((.ok none, s.close), w.release)
    | (.ok (some (.error fault, _)), w) =>
      ((.error (.failed (.ofSource fault (s.fetched + 1))), s.close), w.release)
    | (.ok (some (.ok row, rest)), w) =>
      read projection { s with feed := some rest, sound := fun _ => rfl } row w

theorem remaining_read {α : Type} {projection : Projection α} {s t : RowStream} {row : Row}
    {w v : World} {value : α} (h : s.read projection row w = ((.ok (some value), t), v)) :
    t.remaining = s.feed.elim 0 fun feed => feed.items.length := by
  unfold read at h
  split at h
  · simp only [Prod.mk.injEq] at h
    rw [← h.1.2]
    simp [remaining]
  · simp at h

theorem items_fetch {ctx : Context} {feed rest : Source.Feed} {w v : World} {i : Source.Item}
    (h : w.fetch ctx feed = (.ok (some (i, rest)), v)) :
    feed.items = i :: rest.items := by
  unfold World.fetch Source.Feed.fetch at h
  split at h
  · simp at h
  · split at h
    · rename_i he
      split at he
      · simp only [Source.Fetched.item.injEq] at he
        simp only [Prod.mk.injEq, Except.ok.injEq, Option.some.injEq] at h
        obtain ⟨rfl, rfl⟩ := he
        obtain ⟨⟨rfl, rfl⟩, _⟩ := h
        assumption
      · split at he <;> simp at he
    · simp at h
    · split at h <;> simp at h

-- A row that is handed out cannot be asked for again.
theorem remaining_next {α : Type} {projection : Projection α} {ctx : Context} {s t : RowStream}
    {w v : World} {value : α} (h : s.next projection ctx w = ((.ok (some value), t), v)) :
    t.remaining < s.remaining := by
  unfold next at h
  split at h
  · rename_i hp
    rw [remaining_read h]
    simp [remaining, hp]
  · simp at h
  · rename_i feed hp hf
    split at h <;> try simp at h
    rename_i hfetch
    rw [remaining_read h]
    simp [remaining, hp, hf, items_fetch hfetch]

end RowStream

end SysExporter.Scrape
