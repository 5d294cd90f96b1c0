import SysExporter.Proofs.Scrape.Reading
import SysExporter.Scrape.Rows

namespace SysExporter.Scrape

open SysExporter.Metric Sql

-- The values of a row of items up to the first that cannot be read, and how
-- reading ends, if it does. The number is that of the first item.
def readAll {α : Type} (projection : Projection α) (stalls : Bool) :
    Nat → List Source.Item → List α × Option (Except ScrapeError Unit)
  | _, [] => ([], if stalls then none else some (.ok ()))
  | n, .error fault :: _ => ([], some (.error (.ofSource fault n)))
  | n, .ok row :: rest =>
    match projection.read row with
    | .error reason => ([], some (.error (.decode n reason)))
    | .ok value =>
      let later := readAll projection stalls (n + 1) rest
      (value :: later.1, later.2)

-- The item after the values is the one that reading ends with.
theorem readAll_finish {α : Type} (projection : Projection α) (stalls : Bool) (n : Nat)
    (items : List Source.Item) :
    let values := (readAll projection stalls n items).1
    let finish := (readAll projection stalls n items).2
    (items.length = values.length ∧ finish = if stalls then none else some (.ok ())) ∨
    (∃ fault, items[values.length]? = some (.error fault) ∧
      finish = some (.error (.ofSource fault (n + values.length)))) ∨
    ∃ row reason, items[values.length]? = some (.ok row) ∧ projection.read row = .error reason ∧
      finish = some (.error (.decode (n + values.length) reason)) := by
  fun_induction readAll projection stalls n items with
  | case1 n => simp
  | case2 n fault rest => simp
  | case3 n row rest reason hread => simp [hread]
  | case4 n row rest value hread later ih =>
    simpa [later, Nat.add_assoc, Nat.add_comm 1] using ih

-- What can cut a run short: its context, its reader, or the end of all patience
-- if the context is not over by then.
inductive Cut (ctx : Context) (v : World) : Halt → Prop where
  | cancelled (done : ctx.isDone v.now = true) : Cut ctx v (.failed .cancelled)
  | closed (gone : v.channel.closed = true) : Cut ctx v (.failed .sinkClosed)
  | abandoned (late : v.horizon ≤ v.now) (unending : ctx.isDone v.horizon = false) :
    Cut ctx v .abandoned

-- How a run ends that is to hand over observations in order: all of them are
-- taken in and it ends as it should, or it is cut short after some of them.
inductive Delivery (ctx : Context) (all : List Observation) (finish : Option (Except Halt Unit))
    (w : World) : Except Halt Unit × World → Prop where
  | complete {v : World} {result : Except Halt Unit} (sent : v.accepted = w.accepted ++ all)
      (ends : finish = some result) : Delivery ctx all finish w (result, v)
  | cut {v : World} {halt : Halt} {some : List Observation}
      (sent : v.accepted = w.accepted ++ some) (first : some <+: all) (cut : Cut ctx v halt) :
      Delivery ctx all finish w (.error halt, v)

theorem Delivery.after {ctx : Context} {before all : List Observation}
    {finish : Option (Except Halt Unit)} {w v : World} {outcome : Except Halt Unit × World}
    (hv : v.accepted = w.accepted ++ before) (h : Delivery ctx all finish v outcome) :
    Delivery ctx (before ++ all) finish w outcome := by
  cases h with
  | complete sent ends => exact .complete (by rw [sent, hv, List.append_assoc]) ends
  | cut sent first cut =>
    exact .cut (by rw [sent, hv, List.append_assoc])
      ((List.prefix_append_right_inj _).mpr first) cut

theorem Delivery.of_accepted_eq {ctx : Context} {all : List Observation}
    {finish : Option (Except Halt Unit)} {w v : World} {outcome : Except Halt Unit × World}
    (hv : v.accepted = w.accepted) (h : Delivery ctx all finish v outcome) :
    Delivery ctx all finish w outcome := by
  have hn : v.accepted = w.accepted ++ [] := by simpa using hv
  exact .after hn h

@[simp]
theorem accepted_release (s : RowStream) (w : World) : (s.release w).accepted = w.accepted :=
  (silent_stream_release s w).accepted_same

theorem Cut.release {ctx : Context} {v : World} {halt : Halt} (s : RowStream)
    (h : Cut ctx v halt) : Cut ctx (s.release v) halt := by
  unfold RowStream.release
  split
  · cases h with
    | cancelled done => exact .cancelled done
    | closed gone => exact .closed gone
    | abandoned late unending => exact .abandoned late unending
  · exact h

-- One observation is taken in or the push is cut short.
theorem push_delivers (ctx : Context) (o : Observation) (w : World) :
    Delivery ctx [o] (some (.ok ())) w (w.push ctx o) := by
  have h := handover ctx o w
  generalize w.push ctx o = outcome at h
  cases h with
  | tardy done => exact .cut (by simp) (List.nil_prefix) (.cancelled done)
  | accepted waits live unclosed room =>
    exact .complete (by rw [accepted_accept, waits.accepted_same]) rfl
  | closed waits live gone =>
    exact .cut (by simpa using waits.accepted_same) (List.nil_prefix) (.closed gone)
  | ended waits due unclosed full =>
    exact .cut (by simpa using waits.accepted_same) (List.nil_prefix)
      (.cancelled (isDone_of_ending due))
  | abandoned waits late unending unclosed full =>
    exact .cut (by simpa using waits.accepted_same) (List.nil_prefix) (.abandoned late unending)

theorem accepted_of_push_ok {ctx : Context} {o : Observation} {w : World}
    (h : (w.push ctx o).1 = .ok ()) : (w.push ctx o).2.accepted = w.accepted ++ [o] := by
  have hd := push_delivers ctx o w
  generalize w.push ctx o = outcome at h hd
  cases hd with
  | complete sent _ => exact sent
  | cut _ _ _ => simp at h

theorem pushAll_delivers (ctx : Context) (os : List Observation) (w : World) :
    Delivery ctx os (some (.ok ())) w (pushAll ctx os w) := by
  induction os generalizing w with
  | nil => exact .complete (by simp) rfl
  | cons o rest ih =>
    have h := push_delivers ctx o w
    unfold pushAll
    generalize w.push ctx o = outcome at h
    cases h with
    | @complete v result sent ends =>
      obtain rfl : .ok () = result := by simpa using ends
      exact .after sent (ih v)
    | cut sent first cut => exact .cut sent (first.trans (by simp)) cut

theorem drain_delivers {α : Type} (projection : Projection α) (observe : α → List Observation)
    (ctx : Context) (s : RowStream) (w : World) :
    Delivery ctx ((readAll projection s.stalls (s.fetched + 1) s.pending).1.flatMap observe)
      ((readAll projection s.stalls (s.fetched + 1) s.pending).2.map (·.mapError .failed)) w
      (drain projection observe ctx s w) := by
  fun_induction drain projection observe ctx s w with
  | case1 s w halt rest v hn =>
    have ha := advance projection ctx s w
    rw [hn] at ha
    cases ha with
    | unreadable unfinished pending read waits =>
      refine .complete ?_ (by simp [pending, readAll, read, Except.mapError])
      simp [pending, readAll, read, waits.accepted_same]
    | faulty unfinished pending waits =>
      refine .complete ?_ (by simp [pending, readAll, Except.mapError])
      simp [pending, readAll, waits.accepted_same]
    | cancelled unfinished waits done =>
      exact .cut (by simp [waits.accepted_same]) List.nil_prefix (.release _ (.cancelled done))
    | abandoned unfinished waits late unending =>
      exact .cut (by simp [waits.accepted_same]) List.nil_prefix
        (.release _ (.abandoned late unending))
  | case2 s w rest v hn =>
    have ha := advance projection ctx s w
    rw [hn] at ha
    cases ha with
    | finished closed pending =>
      exact .complete (by simp [pending, readAll])
        (by simp [pending, readAll, RowStream.stalls, closed, Except.mapError])
    | last unfinished pending stalls waits =>
      exact .complete (by simp [pending, readAll, waits.accepted_same])
        (by simp [pending, readAll, stalls, Except.mapError])
  | case3 s w value rest v hn u hp ih =>
    have ha := advance projection ctx s w
    have hd := pushAll_delivers ctx (observe value) v
    rw [hn] at ha
    rw [hp] at hd
    cases ha with
    | @row _ _ rest _ unfinished pending stalls read waits =>
      cases hd with
      | complete sent _ =>
        simp only [pending, readAll, read, List.flatMap_cons]
        refine .of_accepted_eq waits.accepted_same (.after sent ?_)
        rw [stalls]
        exact ih
  | case4 s w value rest v hn halt u hp =>
    have ha := advance projection ctx s w
    have hd := pushAll_delivers ctx (observe value) v
    rw [hn] at ha
    rw [hp] at hd
    cases ha with
    | row unfinished pending stalls read waits =>
      cases hd with
      | complete _ ends => simp at ends
      | cut sent first cut =>
        simp only [pending, readAll, read, List.flatMap_cons]
        exact .cut (by simpa [waits.accepted_same] using sent)
          (first.trans (List.prefix_append _ _)) (.release _ cut)

-- A query is issued, and the observations of all rows that can be read are
-- handed over in order.
theorem scrapeRows_delivers {α : Type} (projection : Projection α)
    (observe : α → List Observation) (ctx : Context) (w : World) :
    Delivery ctx
      ((readAll projection w.source.feed.stalls 1 w.source.feed.items).1.flatMap observe)
      ((readAll projection w.source.feed.stalls 1 w.source.feed.items).2.map (·.mapError .failed)) w
      (scrapeRows projection observe ctx w) := by
  have ho := opening projection ctx w
  unfold scrapeRows
  generalize RowStream.execute projection ctx w = outcome at ho
  have hi : ((w.issue projection.query).record .requested).accepted = w.accepted := by
    rw [(waits_requested _).accepted_same, (silent_issue w projection.query).accepted_same]
  cases ho with
  | tardy done =>
    exact .cut (by simp [(silent_issue w projection.query).accepted_same]) List.nil_prefix
      (.cancelled done)
  | @row row rest live items stalls =>
    have hd := drain_delivers projection observe ctx
      { feed := some rest, peeked := some row, fetched := 0 }
      ((w.issue projection.query).record .requested)
    refine .of_accepted_eq hi ?_
    simpa [RowStream.stalls, RowStream.pending, stalls, items] using hd
  | faulty items =>
    exact .complete (by simp [items, readAll, hi]) (by simp [items, readAll, Except.mapError])
  | empty items stalls =>
    have hd := drain_delivers projection observe ctx { feed := none, peeked := none, fetched := 0 }
      ((w.issue projection.query).record .requested).release
    have hr : ((w.issue projection.query).record .requested).release.accepted = w.accepted := hi
    refine .of_accepted_eq hr ?_
    simpa [RowStream.stalls, RowStream.pending, stalls, items] using hd
  | ended waits items stalls due =>
    exact .cut (by simp [waits.accepted_same, hi]) List.nil_prefix
      (.cancelled (isDone_of_ending due))
  | abandoned waits items stalls late unending =>
    exact .cut (by simp [waits.accepted_same, hi]) List.nil_prefix (.abandoned late unending)

end SysExporter.Scrape
