import SysExporter.Proofs.Scrape.Delivery
import SysExporter.Proofs.Scrape.Timing
import SysExporter.Statement.Scraper

namespace SysExporter.Statement

open SysExporter.Metric Scrape Sql

-- The summary that an item carries: it has to be a row of ten columns that can
-- be read.
def summary? : Source.Item → Option Summary
  | .ok row => if row.size = 10 then (Summary.ofRow row).toOption else none
  | .error _ => none

-- The summaries of the longest run of items, from the first on, that all carry one.
def summaries (items : List Source.Item) : List Summary :=
  (items.takeWhile fun item => (summary? item).isSome).filterMap summary?

-- What is wrong with an item that carries no summary, as a failure to decode it.
def Undecodable (reason : String) : Source.Item → Prop
  | .error fault => fault = .decode reason
  | .ok row =>
    (row.size ≠ 10 ∧ reason = s!"expected 10 columns, got {row.size}") ∨
    (row.size = 10 ∧ ∃ fault, Summary.ofRow row = .error fault ∧ reason = fault.message)

theorem read_of_size {row : Row} (h : row.size = 10) :
    projection.read row = (Summary.ofRow row).mapError ColumnFault.message :=
  if_pos h

theorem read_of_size_ne {row : Row} (h : row.size ≠ 10) :
    projection.read row = .error s!"expected 10 columns, got {row.size}" :=
  if_neg h

theorem summary?_ok_iff (row : Row) (value : Summary) :
    summary? (.ok row) = some value ↔ projection.read row = .ok value := by
  by_cases h : row.size = 10
  · rw [read_of_size h]
    cases hrow : Summary.ofRow row <;> simp [summary?, h, hrow, Except.toOption, Except.mapError]
  · rw [read_of_size_ne h]
    simp [summary?, h]

theorem undecodable_of_read {row : Row} {reason : String}
    (h : projection.read row = .error reason) : Undecodable reason (.ok row) := by
  by_cases hsize : row.size = 10
  · rw [read_of_size hsize] at h
    cases hrow : Summary.ofRow row with
    | ok value => simp [hrow, Except.mapError] at h
    | error fault => exact .inr ⟨hsize, fault, hrow, by simpa [hrow, Except.mapError] using h.symm⟩
  · rw [read_of_size_ne hsize] at h
    exact .inl ⟨hsize, by simpa using h.symm⟩

theorem readAll_eq_summaries (stalls : Bool) (n : Nat) (items : List Source.Item) :
    (readAll projection stalls n items).1 = summaries items := by
  fun_induction readAll projection stalls n items with
  | case1 n => rfl
  | case2 n fault rest => rfl
  | case3 n row rest reason hread =>
    have hnone : summary? (.ok row) = none := by
      by_contra hsome
      obtain ⟨value, hvalue⟩ := Option.ne_none_iff_exists'.mp hsome
      rw [summary?_ok_iff, hread] at hvalue
      simp at hvalue
    simp [summaries, hnone]
  | case4 n row rest value hread later ih =>
    have hsome : summary? (.ok row) = some value := (summary?_ok_iff row value).mpr hread
    simpa [summaries, hsome, later] using ih

theorem length_flatMap_observations (values : List Summary) :
    (values.flatMap Summary.observations).length = 8 * values.length := by
  induction values with
  | nil => rfl
  | cons value rest ih =>
    have hv : value.observations.length = 8 := rfl
    simp only [List.flatMap_cons, List.length_append, List.length_cons, ih, hv]
    omega

-- Whatever the source, the context, the channel and the reader do, a run hands
-- over the observations of the readable rows in order, without a gap or a
-- repetition, and its result tells how far it came and why no further.
theorem scrape_accepted (ctx : Context) (w : World) :
    let items := w.source.feed.items
    let values := summaries items
    let all := values.flatMap Summary.observations
    let run := scraper.scrape ctx w
    ∃ sent, run.2.accepted = w.accepted ++ sent ∧ sent <+: all ∧ all.length = 8 * values.length ∧
      match run.1 with
      | .ok () => sent = all ∧ items.length = values.length ∧ w.source.feed.stalls = false
      | .error (.failed (.decode n reason)) =>
        sent = all ∧ n = values.length + 1 ∧
          ∃ item, items[values.length]? = some item ∧ Undecodable reason item
      | .error (.failed (.query text)) =>
        sent = all ∧ items[values.length]? = some (.error (.query text))
      | .error (.failed .cancelled) => ctx.isDone run.2.now = true
      | .error (.failed .sinkClosed) => run.2.channel.closed = true
      | .error .abandoned => run.2.horizon ≤ run.2.now ∧ ctx.isDone run.2.horizon = false := by
  intro items values all run
  have hd := scrapeRows_delivers projection Summary.observations ctx w
  have hf := readAll_finish projection w.source.feed.stalls 1 w.source.feed.items
  simp only [readAll_eq_summaries] at hd hf
  change Delivery ctx all _ w run at hd
  have hlen : all.length = 8 * values.length := length_flatMap_observations values
  generalize run = outcome at hd
  cases hd with
  | @complete v result sent ends =>
    refine ⟨all, sent, List.prefix_refl _, hlen, ?_⟩
    rcases hf with ⟨hl, hf⟩ | ⟨fault, hitem, hf⟩ | ⟨row, reason, hitem, hread, hf⟩
    · rw [hf] at ends
      cases hstalls : w.source.feed.stalls with
      | true => simp [hstalls] at ends
      | false =>
        obtain rfl : .ok () = result := by simpa [hstalls, Except.mapError] using ends
        exact ⟨rfl, hl, rfl⟩
    · cases fault with
      | query text =>
        obtain rfl : .error (.failed (.query text)) = result := by
          simpa [hf, ScrapeError.ofSource, Except.mapError] using ends
        exact ⟨rfl, hitem⟩
      | decode reason =>
        obtain rfl : .error (.failed (.decode (1 + values.length) reason)) = result := by
          simpa [hf, ScrapeError.ofSource, Except.mapError] using ends
        exact ⟨rfl, Nat.add_comm _ _, _, hitem, rfl⟩
    · obtain rfl : .error (.failed (.decode (1 + values.length) reason)) = result := by
        simpa [hf, Except.mapError] using ends
      exact ⟨rfl, Nat.add_comm _ _, _, hitem, undecodable_of_read hread⟩
  | @cut v halt sent hsent first cut =>
    refine ⟨sent, hsent, first, hlen, ?_⟩
    cases cut with
    | cancelled done => exact done
    | closed gone => exact gone
    | abandoned late unending => exact ⟨late, unending⟩

-- A run hands nothing over from the instant on at which its context ends, be it
-- by the deadline or by the cancellation. The row that waits is still handed out
-- by its stream then, but none of its observations is taken in. A run under a
-- context that is over before is cancelled at once.
theorem scrape_timely (ctx : Context) (w : World) :
    let run := scraper.scrape ctx w
    (∃ new, run.2.history = new ++ w.history ∧
      ∀ entry ∈ new, ∀ o, entry.event = .accepted o →
        (∀ t, ctx.deadline = some t → entry.time < t) ∧
        ∀ t, ctx.cancellation = some t → entry.time < t) ∧
    (∀ (s : RowStream) (u : World), ctx.isDone u.now = true →
      (drain projection Summary.observations ctx s u).2.accepted = u.accepted ∧
      ∀ row value, s.peeked = some row → projection.read row = .ok value →
        (s.next projection ctx u).1.1 = .ok (some value) ∧
        (drain projection Summary.observations ctx s u).1 = .error (.failed .cancelled)) ∧
    (ctx.isDone w.now = true →
      run.1 = .error (.failed .cancelled) ∧ run.2.accepted = w.accepted ∧ run.2.now = w.now) := by
  intro run
  have ht : Timely ctx w run.2 := timely_scrapeRows projection Summary.observations ctx w
  refine ⟨⟨run.2.since w, ht.history_eq, ?_⟩, ?_, ?_⟩
  · intro entry he o ho
    have hlive := ht.live_of_accepted entry he (by simp [ho, Event.accepted?])
    exact ⟨fun t h => Context.lt_of_isDone_eq_false hlive (.inl h),
      fun t h => Context.lt_of_isDone_eq_false hlive (.inr h)⟩
  · intro s u hdone
    refine ⟨(timely_drain projection Summary.observations ctx s u).accepted_eq_of_isDone hdone, ?_⟩
    intro row value hpeeked hread
    have hsome : value.observations ≠ [] := List.cons_ne_nil _ _
    exact ⟨by rw [next_of_peeked ctx u hpeeked hread],
      drain_of_peeked_of_isDone hpeeked hread hsome hdone⟩
  · intro hdone
    have hrun : run = (.error (.failed .cancelled), (w.issue projection.query).release) :=
      scrapeRows_of_isDone projection Summary.observations hdone
    exact ⟨by rw [hrun], ht.accepted_eq_of_isDone hdone, by rw [hrun]; rfl⟩

end SysExporter.Statement
