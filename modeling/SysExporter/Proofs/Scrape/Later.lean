import Mathlib.Data.List.Basic
import SysExporter.Scrape.Wait

namespace SysExporter.Scrape

open SysExporter.Metric

theorem since_eq {w v : World} {new : History} (h : v.history = new ++ w.history) :
    v.since w = new := by
  simp [World.since, h]

-- What no operation of a scrape undoes. As long as the channel is open, what
-- was taken in is with the reader or still in the buffer, in order.
structure Later (w v : World) : Prop where
  now_le : w.now ≤ v.now
  horizon_eq : v.horizon = w.horizon
  reader_eq : v.reader = w.reader
  feed_eq : v.source.feed = w.source.feed
  capacity_eq : v.channel.capacity = w.channel.capacity
  closed_of_closed : w.channel.closed = true → v.channel.closed = true
  history_eq : v.history = v.since w ++ w.history
  time_mem : ∀ entry ∈ v.since w, w.now ≤ entry.time ∧ entry.time ≤ v.now
  buffer_eq : v.channel.closed = false →
    w.channel.buffer ++ (v.since w).accepted = (v.since w).received ++ v.channel.buffer

namespace Later

variable {u v w : World}

-- Nothing was recorded.
theorem of_history_eq (history : v.history = w.history) (now_le : w.now ≤ v.now)
    (frame : v.horizon = w.horizon ∧ v.reader = w.reader ∧ v.source.feed = w.source.feed ∧
      v.channel.capacity = w.channel.capacity)
    (closed : w.channel.closed = true → v.channel.closed = true)
    (buffer : v.channel.closed = false → v.channel.buffer = w.channel.buffer) : Later w v := by
  have hs : v.since w = [] := since_eq history
  obtain ⟨horizon_eq, reader_eq, feed_eq, capacity_eq⟩ := frame
  constructor
  case history_eq => rw [hs, history]; rfl
  case time_mem => simp [hs]
  case buffer_eq =>
    intro hv
    simp [hs, buffer hv]
  all_goals assumption

-- One event was recorded.
theorem of_event {event : Event} (history : v.history = ⟨w.now, event⟩ :: w.history)
    (now_eq : v.now = w.now)
    (frame : v.horizon = w.horizon ∧ v.reader = w.reader ∧ v.source.feed = w.source.feed ∧
      v.channel.capacity = w.channel.capacity)
    (closed : v.channel.closed = w.channel.closed)
    (buffer : w.channel.buffer ++ event.accepted?.toList =
      event.received?.toList ++ v.channel.buffer) : Later w v := by
  have hs : v.since w = [⟨w.now, event⟩] := since_eq history
  obtain ⟨horizon_eq, reader_eq, feed_eq, capacity_eq⟩ := frame
  constructor
  case history_eq => rw [hs, history]; rfl
  case time_mem => simp [hs, now_eq]
  case buffer_eq =>
    intro _
    simpa [hs] using buffer
  case now_le => exact Nat.le_of_eq now_eq.symm
  case closed_of_closed =>
    intro h
    rw [closed, h]
  all_goals assumption

theorem refl (w : World) : Later w w :=
  of_history_eq rfl (Nat.le_refl _) ⟨rfl, rfl, rfl, rfl⟩ (fun h => h) (fun _ => rfl)

theorem open_of_open (h : Later w v) (hv : v.channel.closed = false) :
    w.channel.closed = false := by
  by_contra hw
  simp [h.closed_of_closed (by simpa using hw)] at hv

theorem since_trans (huv : Later u v) (hvw : Later v w) :
    w.since u = w.since v ++ v.since u := by
  apply since_eq
  rw [List.append_assoc, ← huv.history_eq]
  exact hvw.history_eq

theorem trans (huv : Later u v) (hvw : Later v w) : Later u w where
  now_le := Nat.le_trans huv.now_le hvw.now_le
  horizon_eq := hvw.horizon_eq.trans huv.horizon_eq
  reader_eq := hvw.reader_eq.trans huv.reader_eq
  feed_eq := hvw.feed_eq.trans huv.feed_eq
  capacity_eq := hvw.capacity_eq.trans huv.capacity_eq
  closed_of_closed h := hvw.closed_of_closed (huv.closed_of_closed h)
  history_eq := by
    rw [since_trans huv hvw, List.append_assoc, ← huv.history_eq]
    exact hvw.history_eq
  time_mem := by
    intro entry he
    have huv_le := huv.now_le
    have hvw_le := hvw.now_le
    rw [since_trans huv hvw] at he
    rcases List.mem_append.mp he with he | he
    · have ht := hvw.time_mem entry he
      omega
    · have ht := huv.time_mem entry he
      omega
  buffer_eq := by
    intro hw
    have hv := hvw.open_of_open hw
    rw [since_trans huv hvw, History.accepted_append, History.received_append, ← List.append_assoc,
      huv.buffer_eq hv, List.append_assoc, hvw.buffer_eq hw, List.append_assoc]

theorem accepted_eq (h : Later w v) : v.accepted = w.accepted ++ (v.since w).accepted := by
  unfold World.accepted
  rw [← History.accepted_append, ← h.history_eq]

end Later

-- Nothing was taken in between the worlds.
structure Silent (w v : World) : Prop extends Later w v where
  accepted_nil : (v.since w).accepted = []

namespace Silent

variable {u v w : World}

theorem trans (huv : Silent u v) (hvw : Silent v w) : Silent u w where
  toLater := huv.toLater.trans hvw.toLater
  accepted_nil := by
    rw [huv.since_trans hvw.toLater, History.accepted_append, huv.accepted_nil, hvw.accepted_nil]
    rfl

theorem accepted_same (h : Silent w v) : v.accepted = w.accepted := by
  rw [h.accepted_eq, h.accepted_nil, List.append_nil]

end Silent

theorem silent_of_history_eq {w v : World} (h : Later w v) (history : v.history = w.history) :
    Silent w v := by
  have hs : v.since w = [] := since_eq history
  exact ⟨h, by rw [hs]; rfl⟩

theorem silent_of_event {w v : World} {event : Event} (h : Later w v)
    (history : v.history = ⟨w.now, event⟩ :: w.history) (accepted : event.accepted? = none) :
    Silent w v := by
  have hs : v.since w = [⟨w.now, event⟩] := since_eq history
  exact ⟨h, by simp [hs, accepted]⟩

-- Nothing but time and receipts lies between the worlds.
structure Waits (w v : World) : Prop extends Silent w v where
  source_eq : v.source = w.source

namespace Waits

variable {u v w : World}

theorem refl (w : World) : Waits w w :=
  ⟨silent_of_history_eq (Later.refl w) rfl, rfl⟩

theorem trans (huv : Waits u v) (hvw : Waits v w) : Waits u w :=
  ⟨huv.toSilent.trans hvw.toSilent, hvw.source_eq.trans huv.source_eq⟩

end Waits

-- The clock moves on.
theorem waits_advance (w : World) {t : Nat} (h : w.now ≤ t) : Waits w { w with now := t } :=
  ⟨silent_of_history_eq
    (.of_history_eq rfl h ⟨rfl, rfl, rfl, rfl⟩ (fun hc => hc) (fun _ => rfl)) rfl, rfl⟩

-- The reader goes away.
theorem waits_abandon (w : World) : Waits w { w with channel := w.channel.abandon } :=
  ⟨silent_of_history_eq
    (.of_history_eq rfl (Nat.le_refl _) ⟨rfl, rfl, rfl, rfl⟩ (fun _ => rfl)
      (fun h => by simp [Channel.abandon] at h)) rfl, rfl⟩

-- The next item of a feed is asked for.
theorem waits_requested (w : World) : Waits w (w.record .requested) :=
  ⟨silent_of_event (.of_event rfl rfl ⟨rfl, rfl, rfl, rfl⟩ rfl
    (by simp [Event.accepted?, Event.received?, World.record])) rfl rfl, rfl⟩

-- The reader receives the first observation of the buffer.
theorem waits_receive (w : World) {o : Observation} {rest : List Observation}
    (h : w.channel.buffer = o :: rest) :
    Waits w ({ w with channel := { w.channel with buffer := rest } }.record (.received o)) :=
  ⟨silent_of_event (.of_event rfl rfl ⟨rfl, rfl, rfl, rfl⟩ rfl
    (by simp [h, Event.accepted?, Event.received?, World.record])) rfl rfl, rfl⟩

-- An observation is taken in.
theorem later_accept (w : World) (o : Observation) : Later w (w.accept o) :=
  .of_event rfl rfl ⟨rfl, rfl, rfl, rfl⟩ rfl
    (by simp [Event.accepted?, Event.received?, World.accept, World.record, Channel.enqueue])

theorem accepted_accept (w : World) (o : Observation) :
    (w.accept o).accepted = w.accepted ++ [o] := by
  have hs : (w.accept o).since w = [⟨w.now, .accepted o⟩] := since_eq rfl
  rw [(later_accept w o).accepted_eq, hs]
  rfl

theorem silent_issue (w : World) (sql : String) : Silent w (w.issue sql) :=
  silent_of_event (.of_event rfl rfl ⟨rfl, rfl, rfl, rfl⟩ rfl
    (by simp [Event.accepted?, Event.received?, World.issue, World.record])) rfl rfl

theorem silent_release (w : World) : Silent w w.release :=
  silent_of_history_eq
    (.of_history_eq rfl (Nat.le_refl _) ⟨rfl, rfl, rfl, rfl⟩ (fun h => h) (fun _ => rfl)) rfl

theorem waits_turn (w : World) : Waits w w.turn := by
  fun_induction World.turn w with
  | case1 w hc => exact .refl w
  | case2 w hc hl => exact waits_abandon w
  | case3 w hc hl ht hb => exact .refl w
  | case4 w hc hl ht o rest hb ih => exact (waits_receive w hb).trans ih
  | case5 w hc hl ht => exact .refl w

theorem waits_interlude (w : World) : Waits w w.interlude := by
  unfold World.interlude
  split
  · exact waits_turn w
  · exact .refl w

end SysExporter.Scrape
