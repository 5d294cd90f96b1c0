import SysExporter.Proofs.Scrape.Delivery

namespace SysExporter.Scrape

open SysExporter.Metric Sql

-- A reader that receives whatever there is and never goes away.
structure Reader.Drains (r : Reader) : Prop where
  takes : ∀ h now, r.takes h now = true
  stays : ∀ h now, r.leaves h now = false

theorem drains_draining : Reader.draining.Drains :=
  ⟨fun _ _ => rfl, fun _ _ => rfl⟩

-- Between the worlds no time passes and an open channel stays open.
structure Calm (w v : World) : Prop where
  now_eq : v.now = w.now
  horizon_eq : v.horizon = w.horizon
  reader_eq : v.reader = w.reader
  open_of_open : w.channel.closed = false → v.channel.closed = false

namespace Calm

variable {u v w : World}

theorem refl (w : World) : Calm w w :=
  ⟨rfl, rfl, rfl, id⟩

theorem trans (huv : Calm u v) (hvw : Calm v w) : Calm u w where
  now_eq := hvw.now_eq.trans huv.now_eq
  horizon_eq := hvw.horizon_eq.trans huv.horizon_eq
  reader_eq := hvw.reader_eq.trans huv.reader_eq
  open_of_open h := hvw.open_of_open (huv.open_of_open h)

end Calm

theorem calm_record (w : World) (event : Event) : Calm w (w.record event) :=
  ⟨rfl, rfl, rfl, id⟩

theorem calm_release (s : RowStream) (w : World) : Calm w (s.release w) := by
  unfold RowStream.release
  split
  · exact ⟨rfl, rfl, rfl, id⟩
  · exact .refl w

-- Such a reader leaves nothing in the channel when it had its turn.
theorem calm_turn {w : World} (hr : w.reader.Drains) (hopen : w.channel.closed = false) :
    Calm w w.turn ∧ w.turn.channel.buffer = [] := by
  fun_induction World.turn w with
  | case1 w hc => simp [hopen] at hc
  | case2 w hc hl => simp [hr.stays] at hl
  | case3 w hc hl ht hb => exact ⟨.refl w, hb⟩
  | case4 w hc hl ht o rest hb ih =>
    obtain ⟨hcalm, hempty⟩ := ih hr hopen
    have hreceive : Calm w
        ({ w with channel := { w.channel with buffer := rest } }.record (.received o)) :=
      ⟨rfl, rfl, rfl, id⟩
    exact ⟨hreceive.trans hcalm, hempty⟩
  | case5 w hc hl ht => simp [hr.takes] at ht

-- Under a context that is not over it takes in every observation at once.
theorem calm_push {ctx : Context} {w : World} (hlive : ctx.isDone w.now = false)
    (hr : w.reader.Drains) (hopen : w.channel.closed = false) (o : Observation) :
    Calm w (w.push ctx o).2 ∧ (w.push ctx o).1 = .ok () := by
  have hi : Calm w w.interlude := by
    unfold World.interlude
    split
    · exact (calm_turn hr hopen).1
    · exact .refl w
  have hiopen := hi.open_of_open hopen
  simp only [World.push, hlive, hiopen, Bool.false_eq_true, if_false]
  split
  · exact ⟨hi.trans ⟨rfl, rfl, rfl, id⟩, rfl⟩
  · obtain ⟨ht, hempty⟩ := calm_turn (hi.reader_eq ▸ hr) hiopen
    have hpoll : Goal.room.poll w.interlude.turn = some (.ok ()) := by
      have hroom : w.interlude.turn.channel.hasRoom = true := by
        simp [Channel.hasRoom, hempty, w.interlude.turn.channel.positive]
      simp [Goal.poll, ht.open_of_open hiopen, hroom]
    have hs : w.interlude.suspend ctx.ending .room = (.ok (), w.interlude.turn) := by
      rw [World.suspend]
      simp [hpoll, Except.mapError]
    rw [hs]
    exact ⟨(hi.trans ht).trans ⟨rfl, rfl, rfl, id⟩, rfl⟩

theorem calm_pushAll {ctx : Context} {w : World} (hctx : ctx.ending = none)
    (hr : w.reader.Drains) (hopen : w.channel.closed = false) (os : List Observation) :
    Calm w (pushAll ctx os w).2 := by
  induction os generalizing w with
  | nil => exact .refl w
  | cons o rest ih =>
    have hlive := isDone_of_unending hctx w.now
    obtain ⟨hcalm, hok⟩ := calm_push hlive hr hopen o
    unfold pushAll
    split <;> rename_i hp <;> rw [hp] at hcalm hok
    · exact hcalm.trans (ih (hcalm.reader_eq ▸ hr) (hcalm.open_of_open hopen))
    · simp at hok

-- A row is there at once unless the source is silent.
theorem calm_fetch {ctx : Context} {w : World} {feed : Source.Feed} (hctx : ctx.ending = none)
    (hspeaks : feed.items = [] → feed.stalls = false) : Calm w (w.fetch ctx feed).2 := by
  have hlive := isDone_of_unending hctx w.now
  simp only [World.fetch, hlive, Bool.false_eq_true, if_false, Source.Feed.fetch]
  cases hitems : feed.items with
  | cons i rest => exact calm_record w .requested
  | nil => simpa [hspeaks hitems] using calm_record w .requested

theorem calm_read {α : Type} (projection : Projection α) (s : RowStream) (row : Row) (w : World) :
    Calm w (s.read projection row w).2 := by
  unfold RowStream.read
  split
  · exact .refl w
  · exact calm_release s w

theorem calm_next {α : Type} (projection : Projection α) {ctx : Context} {s : RowStream}
    (w : World) (hctx : ctx.ending = none) (hspeaks : s.pending = [] → s.stalls = false) :
    Calm w (s.next projection ctx w).2 := by
  unfold RowStream.next
  split
  · exact calm_read projection s _ w
  · exact .refl w
  · rename_i feed hp hf
    have hfetch : Calm w (w.fetch ctx feed).2 := by
      apply calm_fetch hctx
      intro hitems
      simpa [RowStream.stalls, hf] using hspeaks (by simp [RowStream.pending, hp, hf, hitems])
    split <;> rename_i he <;> rw [he] at hfetch
    · exact hfetch
    · exact hfetch.trans ⟨rfl, rfl, rfl, id⟩
    · exact hfetch.trans ⟨rfl, rfl, rfl, id⟩
    · exact hfetch.trans ⟨rfl, rfl, rfl, id⟩
    · exact hfetch.trans (calm_read projection _ _ _)

-- As long as reading comes to an end there is something to be read or the end.
theorem stalls_eq_false_of_finish {α : Type} {projection : Projection α} {stalls : Bool} {n : Nat}
    {items : List Source.Item} (hfinish : (readAll projection stalls n items).2 ≠ none)
    (hitems : items = []) : stalls = false := by
  cases stalls with
  | false => rfl
  | true => simp [hitems, readAll] at hfinish

theorem calm_drain {α : Type} (projection : Projection α) (observe : α → List Observation)
    {ctx : Context} (s : RowStream) {w : World} (hctx : ctx.ending = none) (hr : w.reader.Drains)
    (hopen : w.channel.closed = false)
    (hfinish : (readAll projection s.stalls (s.fetched + 1) s.pending).2 ≠ none) :
    Calm w (drain projection observe ctx s w).2 := by
  fun_induction drain projection observe ctx s w with
  | case1 s w halt rest v hn =>
    have hc := calm_next projection w hctx (stalls_eq_false_of_finish hfinish)
    rw [hn] at hc
    exact hc.trans (calm_release rest v)
  | case2 s w rest v hn =>
    have hc := calm_next projection w hctx (stalls_eq_false_of_finish hfinish)
    rw [hn] at hc
    exact hc.trans (calm_release rest v)
  | case3 s w value t v hn u hp ih =>
    have hc := calm_next projection w hctx (stalls_eq_false_of_finish hfinish)
    have ha := advance projection ctx s w
    rw [hn] at hc ha
    have hpush := calm_pushAll hctx (hc.reader_eq ▸ hr) (hc.open_of_open hopen) (observe value)
    rw [hp] at hpush
    have hu := hc.trans hpush
    cases ha with
    | row unfinished pending stalls read waits =>
      refine hu.trans (ih (hu.reader_eq ▸ hr) (hu.open_of_open hopen) ?_)
      rw [pending, stalls] at hfinish
      simpa [readAll, read, RowStream.pending, RowStream.stalls] using hfinish
  | case4 s w value t v hn halt u hp =>
    have hc := calm_next projection w hctx (stalls_eq_false_of_finish hfinish)
    rw [hn] at hc
    have hpush := calm_pushAll hctx (hc.reader_eq ▸ hr) (hc.open_of_open hopen) (observe value)
    rw [hp] at hpush
    exact (hc.trans hpush).trans (calm_release t u)

theorem calm_scrapeRows {α : Type} (projection : Projection α) (observe : α → List Observation)
    {ctx : Context} {w : World} (hctx : ctx.ending = none) (hr : w.reader.Drains)
    (hopen : w.channel.closed = false)
    (hfinish : (readAll projection w.source.feed.stalls 1 w.source.feed.items).2 ≠ none) :
    Calm w (scrapeRows projection observe ctx w).2 := by
  have ho := opening projection ctx w
  have hr' : Calm w ((w.issue projection.query).record .requested) := ⟨rfl, rfl, rfl, id⟩
  unfold scrapeRows
  generalize RowStream.execute projection ctx w = outcome at ho
  cases ho with
  | tardy done => simp [isDone_of_unending hctx] at done
  | row live items stalls =>
    refine hr'.trans (calm_drain projection observe _ hctx hr hopen ?_)
    simpa [RowStream.stalls, RowStream.pending, stalls, items] using hfinish
  | faulty items => exact hr'.trans ⟨rfl, rfl, rfl, id⟩
  | empty items stalls =>
    have he : Calm w ((w.issue projection.query).record .requested).release := ⟨rfl, rfl, rfl, id⟩
    refine he.trans (calm_drain projection observe _ hctx hr hopen ?_)
    simpa [RowStream.stalls, RowStream.pending, stalls, items] using hfinish
  | ended waits items stalls due => simp [hctx] at due
  | abandoned waits items stalls late unending => simp [items, stalls, readAll] at hfinish

-- So nothing cuts a run short that reads to an end.
theorem scrapeRows_drained {α : Type} (projection : Projection α)
    (observe : α → List Observation) {ctx : Context} {w : World} {result : Except ScrapeError Unit}
    (hctx : ctx.ending = none) (hr : w.reader.Drains) (hopen : w.channel.closed = false)
    (hwatched : w.now < w.horizon)
    (hfinish : (readAll projection w.source.feed.stalls 1 w.source.feed.items).2 = some result) :
    (scrapeRows projection observe ctx w).1 = result.mapError .failed ∧
    (scrapeRows projection observe ctx w).2.accepted = w.accepted ++
      (readAll projection w.source.feed.stalls 1 w.source.feed.items).1.flatMap observe := by
  have hcalm := calm_scrapeRows projection observe hctx hr hopen (by simp [hfinish])
  have hd := scrapeRows_delivers projection observe ctx w
  generalize scrapeRows projection observe ctx w = outcome at hcalm hd
  cases hd with
  | complete sent ends =>
    rw [hfinish] at ends
    exact ⟨(Option.some.inj ends).symm, sent⟩
  | @cut v halt some sent first cut =>
    have hnow : v.now = w.now := hcalm.now_eq
    have hhorizon : v.horizon = w.horizon := hcalm.horizon_eq
    have hstays : v.channel.closed = false := hcalm.open_of_open hopen
    cases cut with
    | cancelled done => simp [isDone_of_unending hctx] at done
    | closed gone => simp [hstays] at gone
    | abandoned late unending => omega

theorem scrapeRows_completes {α : Type} (projection : Projection α)
    (observe : α → List Observation) {ctx : Context} {w : World} {result : Except ScrapeError Unit}
    (hctx : ctx.ending = none) (hr : w.reader.Drains) (hopen : w.channel.closed = false)
    (hwatched : w.now < w.horizon)
    (hfinish : (readAll projection w.source.feed.stalls 1 w.source.feed.items).2 = some result) :
    (scrapeRows projection observe ctx w).1 = result.mapError .failed :=
  (scrapeRows_drained projection observe hctx hr hopen hwatched hfinish).1

end SysExporter.Scrape
