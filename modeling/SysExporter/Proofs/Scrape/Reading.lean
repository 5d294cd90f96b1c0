import SysExporter.Proofs.Scrape.Waiting
import SysExporter.Scrape.Reach

namespace SysExporter.Scrape

open Sql

namespace RowStream

-- The items that are still to be read, the row that waits apart being the first.
def pending (s : RowStream) : List Source.Item :=
  (s.peeked.map .ok).toList ++ s.feed.elim [] Source.Feed.items

-- Whether silence follows the items.
def stalls (s : RowStream) : Bool :=
  s.feed.any Source.Feed.stalls

-- A stream is finished as soon as its cursor is not open any more.
theorem isFinished_eq (s : RowStream) : s.isFinished = s.feed.isNone := by
  have hs := s.sound
  unfold isFinished
  cases hf : s.feed with
  | none => simpa [hf] using hs
  | some feed => simp

end RowStream

-- How an attempt to issue a query ends. It holds the cursor exactly if a first
-- row is there.
inductive Opening {α : Type} (projection : Projection α) (ctx : Context) (w : World) :
    Except Halt RowStream × World → Prop where
  | tardy (done : ctx.isDone w.now = true) :
      Opening projection ctx w (.error (.failed .cancelled), (w.issue projection.query).release)
  | row {row : Row} {rest : Source.Feed} (live : ctx.isDone w.now = false)
      (items : w.source.feed.items = .ok row :: rest.items)
      (stalls : rest.stalls = w.source.feed.stalls) :
      Opening projection ctx w
        (.ok { feed := some rest, peeked := some row, fetched := 0 },
          (w.issue projection.query).record .requested)
  | faulty {fault : Source.Fault} {rest : List Source.Item}
      (items : w.source.feed.items = .error fault :: rest) :
      Opening projection ctx w (.error (.failed (.ofSource fault 1)),
        ((w.issue projection.query).record .requested).release)
  | empty (items : w.source.feed.items = []) (stalls : w.source.feed.stalls = false) :
      Opening projection ctx w
        (.ok { feed := none, peeked := none, fetched := 0 },
          ((w.issue projection.query).record .requested).release)
  | ended {u : World} (waits : Waits ((w.issue projection.query).record .requested) u)
      (items : w.source.feed.items = []) (stalls : w.source.feed.stalls = true)
      (due : ctx.ending = some u.now) :
      Opening projection ctx w (.error (.failed .cancelled), u.release)
  | abandoned {u : World} (waits : Waits ((w.issue projection.query).record .requested) u)
      (items : w.source.feed.items = []) (stalls : w.source.feed.stalls = true)
      (late : u.horizon ≤ u.now) (unending : ctx.isDone u.horizon = false) :
      Opening projection ctx w (.error .abandoned, u.release)

theorem opening {α : Type} (projection : Projection α) (ctx : Context) (w : World) :
    Opening projection ctx w (RowStream.execute projection ctx w) := by
  have h := request ctx (w.issue projection.query).source.feed (w.issue projection.query)
  unfold RowStream.execute
  dsimp only
  generalize (w.issue projection.query).fetch ctx (w.issue projection.query).source.feed =
    outcome at h
  cases h with
  | tardy done => exact .tardy done
  | @item i rest live items stalls =>
    cases i with
    | ok row => exact .row live items stalls
    | error fault => exact .faulty items
  | last live items stalls => exact .empty items stalls
  | ended waits items stalls due => exact .ended waits items stalls due
  | abandoned waits items stalls late unending =>
    exact .abandoned waits items stalls late unending

-- How a request for the next row ends. Only an open stream can fail, and any
-- failure closes it, unless the request is given up.
inductive Advance {α : Type} (projection : Projection α) (ctx : Context) (s : RowStream)
    (w : World) : (Except Halt (Option α) × RowStream) × World → Prop where
  | finished (closed : s.feed = none) (pending : s.pending = []) :
      Advance projection ctx s w ((.ok none, s), w)
  | row {row : Row} {value : α} {rest : Source.Feed} {u : World} (unfinished : s.feed.isSome = true)
      (pending : s.pending = .ok row :: rest.items) (stalls : s.stalls = rest.stalls)
      (read : projection.read row = .ok value) (waits : Waits w u) :
      Advance projection ctx s w ((.ok (some value),
        { feed := some rest, peeked := none, fetched := s.fetched + 1 }), u)
  | unreadable {row : Row} {rest : List Source.Item} {reason : String} {u : World}
      (unfinished : s.feed.isSome = true) (pending : s.pending = .ok row :: rest)
      (read : projection.read row = .error reason) (waits : Waits w u) :
      Advance projection ctx s w ((.error (.failed (.decode (s.fetched + 1) reason)),
        { feed := none, peeked := none, fetched := s.fetched + 1 }), u.release)
  | faulty {fault : Source.Fault} {rest : List Source.Item} {u : World}
      (unfinished : s.feed.isSome = true) (pending : s.pending = .error fault :: rest)
      (waits : Waits w u) :
      Advance projection ctx s w
        ((.error (.failed (.ofSource fault (s.fetched + 1))), s.close), u.release)
  | last {u : World} (unfinished : s.feed.isSome = true) (pending : s.pending = [])
      (stalls : s.stalls = false) (waits : Waits w u) :
      Advance projection ctx s w ((.ok none, s.close), u.release)
  | cancelled {u : World} (unfinished : s.feed.isSome = true) (waits : Waits w u)
      (done : ctx.isDone u.now = true) :
      Advance projection ctx s w ((.error (.failed .cancelled), s.close), u.release)
  | abandoned {u : World} (unfinished : s.feed.isSome = true) (waits : Waits w u)
      (late : u.horizon ≤ u.now) (unending : ctx.isDone u.horizon = false) :
      Advance projection ctx s w ((.error .abandoned, s), u)

-- Whatever comes of an attempt to issue a query, nothing is taken in.
theorem silent_execute {α : Type} (projection : Projection α) (ctx : Context) (w : World) :
    Silent w (RowStream.execute projection ctx w).2 := by
  have hi := silent_issue w projection.query
  have hr := hi.trans (waits_requested (w.issue projection.query)).toSilent
  have h := opening projection ctx w
  generalize RowStream.execute projection ctx w = outcome at h
  cases h with
  | tardy _ => exact hi.trans (silent_release _)
  | row _ _ _ => exact hr
  | faulty _ => exact hr.trans (silent_release _)
  | empty _ _ => exact hr.trans (silent_release _)
  | ended waits _ _ _ => exact (hr.trans waits.toSilent).trans (silent_release _)
  | abandoned waits _ _ _ _ => exact (hr.trans waits.toSilent).trans (silent_release _)

theorem isDone_of_ending {ctx : Context} {t : Nat} (h : ctx.ending = some t) :
    ctx.isDone t = true := by
  simp [Context.isDone, h]

theorem isDone_of_unending {ctx : Context} (h : ctx.ending = none) (now : Nat) :
    ctx.isDone now = false := by
  simp [Context.isDone, h]

theorem advance {α : Type} (projection : Projection α) (ctx : Context) (s : RowStream)
    (w : World) : Advance projection ctx s w (s.next projection ctx w) := by
  obtain ⟨feed, peeked, fetched, sound⟩ := s
  cases feed with
  | none =>
    cases peeked with
    | some row => simp at sound
    | none => exact .finished rfl rfl
  | some feed =>
    cases peeked with
    | some row =>
      simp only [RowStream.next, RowStream.read]
      split
      · rename_i value hread
        exact .row rfl rfl rfl hread (.refl w)
      · rename_i reason hread
        exact .unreadable rfl rfl hread (.refl w)
    | none =>
      have h := request ctx feed w
      simp only [RowStream.next]
      generalize w.fetch ctx feed = outcome at h
      cases h with
      | tardy done => exact .cancelled rfl (.refl w) done
      | @item i rest live items stalls =>
        cases i with
        | error fault => exact .faulty rfl items (waits_requested w)
        | ok row =>
          simp only [RowStream.read]
          split
          · rename_i value hread
            exact .row rfl items stalls.symm hread (waits_requested w)
          · rename_i reason hread
            exact .unreadable rfl items hread (waits_requested w)
      | last live items stalls => exact .last rfl items stalls (waits_requested w)
      | ended waits items stalls due =>
        exact .cancelled rfl ((waits_requested w).trans waits) (isDone_of_ending due)
      | abandoned waits items stalls late unending =>
        exact .abandoned rfl ((waits_requested w).trans waits) late unending

theorem silent_next {α : Type} (projection : Projection α) (ctx : Context) (s : RowStream)
    (w : World) : Silent w (s.next projection ctx w).2 := by
  have h := advance projection ctx s w
  generalize s.next projection ctx w = outcome at h
  cases h with
  | finished _ _ => exact (Waits.refl w).toSilent
  | row _ _ _ _ waits => exact waits.toSilent
  | unreadable _ _ _ waits => exact waits.toSilent.trans (silent_release _)
  | faulty _ _ waits => exact waits.toSilent.trans (silent_release _)
  | last _ _ _ waits => exact waits.toSilent.trans (silent_release _)
  | cancelled _ waits _ => exact waits.toSilent.trans (silent_release _)
  | abandoned _ waits _ _ => exact waits.toSilent

theorem silent_stream_release (s : RowStream) (w : World) : Silent w (s.release w) := by
  unfold RowStream.release
  split
  · exact silent_release w
  · exact (Waits.refl w).toSilent

-- Nothing that a scraper can do undoes what happened before.
theorem Reaches.later {start v : World} {held : List Cursor} (h : Reaches start v held) :
    Later start v := by
  induction h with
  | refl => exact .refl start
  | push _ ctx o ih => exact ih.trans (later_push ctx o _)
  | pause _ ctx ms ih => exact ih.trans (waits_pause ctx ms _).toLater
  | @execute v u held s _ α projection ctx he ih =>
    have hx := silent_execute projection ctx v
    rw [he] at hx
    exact ih.trans hx.toLater
  | @refused v u held halt _ α projection ctx he ih =>
    have hx := silent_execute projection ctx v
    rw [he] at hx
    exact ih.trans hx.toLater
  | @next v u before after s t _ α projection ctx result hn ih =>
    have hx := silent_next projection ctx s v
    rw [hn] at hx
    exact ih.trans hx.toLater
  | query _ sql ih => exact ih.trans (silent_issue _ sql).toLater
  | fetch _ ctx ih => exact ih.trans (waits_fetch ctx _ _).toLater
  | @drop v before after c _ ih =>
    cases c with
    | rows s => exact ih.trans (silent_stream_release s v).toLater
    | items feed => exact ih.trans (silent_release v).toLater

end SysExporter.Scrape
