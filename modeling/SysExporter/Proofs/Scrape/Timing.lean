import SysExporter.Proofs.Scrape.Reading
import SysExporter.Scrape.Rows

namespace SysExporter.Scrape

open SysExporter.Metric Sql

-- Between the worlds nothing was taken in once the context was over.
structure Timely (ctx : Context) (w v : World) : Prop extends Later w v where
  live_of_accepted : ∀ entry ∈ v.since w, entry.event.accepted?.isSome = true →
    ctx.isDone entry.time = false

namespace Timely

variable {ctx : Context} {u v w : World}

theorem trans (huv : Timely ctx u v) (hvw : Timely ctx v w) : Timely ctx u w where
  toLater := huv.toLater.trans hvw.toLater
  live_of_accepted := by
    intro entry he
    rw [huv.toLater.since_trans hvw.toLater] at he
    rcases List.mem_append.mp he with he | he
    · exact hvw.live_of_accepted entry he
    · exact huv.live_of_accepted entry he

-- Where nothing is taken in the context does not matter.
theorem of_silent (h : Silent w v) : Timely ctx w v where
  toLater := h.toLater
  live_of_accepted := by
    have hnil := h.accepted_nil
    simp only [History.accepted, List.reverse_eq_nil_iff, List.filterMap_eq_nil_iff] at hnil
    intro entry he ha
    simp [hnil entry he] at ha

-- Under a context that is over at the start nothing is taken in at all, since
-- every event comes later still.
theorem accepted_eq_of_isDone (h : Timely ctx w v) (hdone : ctx.isDone w.now = true) :
    v.accepted = w.accepted := by
  have hnil : (v.since w).accepted = [] := by
    simp only [History.accepted, List.reverse_eq_nil_iff, List.filterMap_eq_nil_iff]
    intro entry he
    by_contra hsome
    have hlive := h.live_of_accepted entry he (Option.isSome_iff_ne_none.mpr hsome)
    have hover := Context.isDone_mono (h.time_mem entry he).1 hdone
    simp [hlive] at hover
  rw [h.accepted_eq, hnil, List.append_nil]

end Timely

theorem timely_accept {ctx : Context} {w : World} (o : Observation)
    (hlive : ctx.isDone w.now = false) : Timely ctx w (w.accept o) where
  toLater := later_accept w o
  live_of_accepted := by
    have hs : (w.accept o).since w = [⟨w.now, .accepted o⟩] := since_eq rfl
    intro entry he _
    rw [hs, List.mem_singleton] at he
    rw [he]
    exact hlive

theorem timely_push (ctx : Context) (o : Observation) (w : World) :
    Timely ctx w (w.push ctx o).2 := by
  have h := handover ctx o w
  generalize w.push ctx o = outcome at h
  cases h with
  | tardy _ => exact .of_silent (Waits.refl w).toSilent
  | accepted waits live _ _ => exact (Timely.of_silent waits.toSilent).trans (timely_accept o live)
  | closed waits _ _ => exact .of_silent waits.toSilent
  | ended waits _ _ _ => exact .of_silent waits.toSilent
  | abandoned waits _ _ _ _ => exact .of_silent waits.toSilent

theorem timely_pushAll (ctx : Context) (os : List Observation) (w : World) :
    Timely ctx w (pushAll ctx os w).2 := by
  induction os generalizing w with
  | nil => exact .of_silent (Waits.refl w).toSilent
  | cons o rest ih =>
    have h := timely_push ctx o w
    unfold pushAll
    split <;> rename_i hp <;> rw [hp] at h
    · exact h.trans (ih _)
    · exact h

theorem timely_drain {α : Type} (projection : Projection α) (observe : α → List Observation)
    (ctx : Context) (s : RowStream) (w : World) :
    Timely ctx w (drain projection observe ctx s w).2 := by
  fun_induction drain projection observe ctx s w with
  | case1 s w halt rest v hn =>
    have h : Timely ctx w (s.next projection ctx w).2 := .of_silent (silent_next projection ctx s w)
    rw [hn] at h
    exact h.trans (.of_silent (silent_stream_release rest v))
  | case2 s w rest v hn =>
    have h : Timely ctx w (s.next projection ctx w).2 := .of_silent (silent_next projection ctx s w)
    rw [hn] at h
    exact h.trans (.of_silent (silent_stream_release rest v))
  | case3 s w value rest v hn u hp ih =>
    have h : Timely ctx w (s.next projection ctx w).2 := .of_silent (silent_next projection ctx s w)
    have ha := timely_pushAll ctx (observe value) v
    rw [hn] at h
    rw [hp] at ha
    exact (h.trans ha).trans ih
  | case4 s w value rest v hn halt u hp =>
    have h : Timely ctx w (s.next projection ctx w).2 := .of_silent (silent_next projection ctx s w)
    have ha := timely_pushAll ctx (observe value) v
    rw [hn] at h
    rw [hp] at ha
    exact (h.trans ha).trans (.of_silent (silent_stream_release rest u))

theorem timely_scrapeRows {α : Type} (projection : Projection α)
    (observe : α → List Observation) (ctx : Context) (w : World) :
    Timely ctx w (scrapeRows projection observe ctx w).2 := by
  have h : Timely ctx w (RowStream.execute projection ctx w).2 :=
    .of_silent (silent_execute projection ctx w)
  unfold scrapeRows
  split <;> rename_i he <;> rw [he] at h
  · exact h
  · exact h.trans (timely_drain projection observe ctx _ _)

-- A run under a context that is over is cancelled at its first request.
theorem scrapeRows_of_isDone {α : Type} (projection : Projection α)
    (observe : α → List Observation) {ctx : Context} {w : World} (h : ctx.isDone w.now = true) :
    scrapeRows projection observe ctx w =
      (.error (.failed .cancelled), (w.issue projection.query).release) := by
  have hi : ctx.isDone (w.issue projection.query).now = true := h
  simp [scrapeRows, RowStream.execute, World.fetch, hi]

-- The row that waits is handed out whatever the context.
theorem next_of_peeked {α : Type} {projection : Projection α} (ctx : Context) {s : RowStream}
    (w : World) {row : Row} {value : α} (hpeeked : s.peeked = some row)
    (hread : projection.read row = .ok value) :
    s.next projection ctx w =
      ((.ok (some value), { feed := s.feed, peeked := none, fetched := s.fetched + 1 }), w) := by
  simp [RowStream.next, RowStream.read, hpeeked, hread]

-- Its observations are not taken in any more if the context is over.
theorem drain_of_peeked_of_isDone {α : Type} {projection : Projection α}
    {observe : α → List Observation} {ctx : Context} {s : RowStream} {w : World} {row : Row}
    {value : α} (hpeeked : s.peeked = some row) (hread : projection.read row = .ok value)
    (hsome : observe value ≠ []) (hdone : ctx.isDone w.now = true) :
    (drain projection observe ctx s w).1 = .error (.failed .cancelled) := by
  obtain ⟨o, rest, hobserve⟩ := List.exists_cons_of_ne_nil hsome
  have hpush : w.push ctx o = (.error (.failed .cancelled), w) := if_pos hdone
  rw [drain]
  split <;> rename_i hn <;> rw [next_of_peeked ctx w hpeeked hread] at hn
  · simp at hn
  · simp at hn
  · simp only [Prod.mk.injEq, Except.ok.injEq, Option.some.injEq] at hn
    obtain ⟨⟨rfl, rfl⟩, rfl⟩ := hn
    rw [hobserve]
    simp [pushAll, hpush]

end SysExporter.Scrape
