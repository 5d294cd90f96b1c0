import SysExporter.Scrape.Cursor
import SysExporter.Scrape.Rows

namespace SysExporter.Scrape

open SysExporter.Metric Sql

-- The worlds that a scraper can bring about, with the cursors that it holds
-- there. A scraper hands over observations, waits, issues queries, reads and
-- drops them in any order, and it does nothing else.
inductive Reaches (start : World) : World → List Cursor → Prop where
  | refl : Reaches start start []
  | push {v : World} {held : List Cursor} (h : Reaches start v held) (ctx : Context)
      (o : Observation) : Reaches start (v.push ctx o).2 held
  | pause {v : World} {held : List Cursor} (h : Reaches start v held) (ctx : Context) (ms : Nat) :
      Reaches start (v.pause ctx ms).2 held
  | execute {v u : World} {held : List Cursor} {s : RowStream} (h : Reaches start v held)
      {α : Type} (projection : Projection α) (ctx : Context)
      (he : RowStream.execute projection ctx v = (.ok s, u)) :
      Reaches start u (held ++ [.rows s])
  | refused {v u : World} {held : List Cursor} {halt : Halt} (h : Reaches start v held)
      {α : Type} (projection : Projection α) (ctx : Context)
      (he : RowStream.execute projection ctx v = (.error halt, u)) : Reaches start u held
  | next {v u : World} {before after : List Cursor} {s t : RowStream}
      (h : Reaches start v (before ++ .rows s :: after)) {α : Type} (projection : Projection α)
      (ctx : Context) {result : Except Halt (Option α)}
      (hn : s.next projection ctx v = ((result, t), u)) :
      Reaches start u (before ++ .rows t :: after)
  | query {v : World} {held : List Cursor} (h : Reaches start v held) (sql : String) :
      Reaches start (v.issue sql) (held ++ [.items v.source.feed])
  | fetch {v : World} {before after : List Cursor} {feed : Source.Feed}
      (h : Reaches start v (before ++ .items feed :: after)) (ctx : Context) :
      Reaches start (v.fetch ctx feed).2
        (before ++ .items (leftOver feed (v.fetch ctx feed).1) :: after)
  | drop {v : World} {before after : List Cursor} {c : Cursor}
      (h : Reaches start v (before ++ c :: after)) : Reaches start (c.drop v) (before ++ after)

namespace Reaches

-- What is held at first is held all along.
theorem trans {u v w : World} {kept held : List Cursor} (huv : Reaches u v kept)
    (hvw : Reaches v w held) : Reaches u w (kept ++ held) := by
  induction hvw with
  | refl => simpa using huv
  | push _ ctx o ih => exact ih.push ctx o
  | pause _ ctx ms ih => exact ih.pause ctx ms
  | execute _ projection ctx he ih =>
    rw [← List.append_assoc]
    exact ih.execute projection ctx he
  | refused _ projection ctx he ih => exact ih.refused projection ctx he
  | next _ projection ctx hn ih =>
    rw [← List.append_assoc] at ih ⊢
    exact ih.next projection ctx hn
  | query _ sql ih =>
    rw [← List.append_assoc]
    exact ih.query sql
  | fetch _ ctx ih =>
    rw [← List.append_assoc] at ih ⊢
    exact ih.fetch ctx
  | drop _ ih =>
    rw [← List.append_assoc] at ih ⊢
    exact ih.drop

theorem pushAll {start w : World} {held : List Cursor} (h : Reaches start w held) (ctx : Context)
    (os : List Observation) : Reaches start (pushAll ctx os w).2 held := by
  induction os generalizing w with
  | nil => exact h
  | cons o rest ih =>
    have ho := h.push ctx o
    unfold Scrape.pushAll
    split <;> rename_i hp <;> rw [hp] at ho
    · exact ih ho
    · exact ho

theorem drain {start : World} {held : List Cursor} {α : Type} (projection : Projection α)
    (observe : α → List Observation) (ctx : Context) (s : RowStream) (w : World)
    (h : Reaches start w (held ++ [.rows s])) :
    Reaches start (drain projection observe ctx s w).2 held := by
  fun_induction Scrape.drain projection observe ctx s w with
  | case1 s w halt rest v hn => simpa [Cursor.drop] using (h.next projection ctx hn).drop
  | case2 s w rest v hn => simpa [Cursor.drop] using (h.next projection ctx hn).drop
  | case3 s w value rest v hn u hp ih =>
    have hr := (h.next projection ctx hn).pushAll ctx (observe value)
    rw [hp] at hr
    exact ih hr
  | case4 s w value rest v hn halt u hp =>
    have hr := (h.next projection ctx hn).pushAll ctx (observe value)
    rw [hp] at hr
    simpa [Cursor.drop] using hr.drop

theorem rows {start w : World} {held : List Cursor} (h : Reaches start w held) {α : Type}
    (projection : Projection α) (observe : α → List Observation) (ctx : Context) :
    Reaches start (scrapeRows projection observe ctx w).2 held := by
  unfold scrapeRows
  split
  · rename_i he
    exact h.refused projection ctx he
  · rename_i he
    exact drain projection observe ctx _ _ (h.execute projection ctx he)

end Reaches

end SysExporter.Scrape
