import SysExporter.Proofs.Scrape.Waiting
import SysExporter.Scrape.Reach

namespace SysExporter.Scrape

open SysExporter.Metric

-- An observation goes from the channel to the reader.
def World.handOver (w : World) (o : Observation) (rest : List Observation) : World :=
  { w with channel := { w.channel with buffer := rest } }.record (.received o)

-- What stays true whatever the reader does and however much time passes.
structure Undisturbed (P : World → Prop) : Prop where
  receive : ∀ {w : World} {o : Observation} {rest : List Observation},
    w.channel.buffer = o :: rest → w.reader.takes w.history w.now = true → P w →
    P (w.handOver o rest)
  abandon : ∀ {w : World}, w.reader.leaves w.history w.now = true → P w →
    P { w with channel := w.channel.abandon }
  advance : ∀ {w : World} {t : Nat}, w.now ≤ t → P w → P { w with now := t }

namespace Undisturbed

variable {P : World → Prop} {w : World}

theorem turn (h : Undisturbed P) (hw : P w) : P w.turn := by
  fun_induction World.turn w with
  | case1 w hc => exact hw
  | case2 w hc hl => exact h.abandon hl hw
  | case3 w hc hl ht hb => exact hw
  | case4 w hc hl ht o rest hb ih => exact ih (h.receive hb ht hw)
  | case5 w hc hl ht => exact hw

theorem interlude (h : Undisturbed P) (hw : P w) : P w.interlude := by
  unfold World.interlude
  split
  · exact h.turn hw
  · exact hw

theorem suspend (h : Undisturbed P) (ending : Option Nat) (goal : Goal) (hw : P w) :
    P (w.suspend ending goal).2 := by
  fun_induction World.suspend ending goal w with
  | case1 w later result hpoll => exact h.turn hw
  | case2 w later hpoll hnext => exact h.advance (Nat.le_max_left _ _) (h.turn hw)
  | case3 w later hpoll t hnext ht hover => exact h.advance (Nat.le_of_lt ht.1) (h.turn hw)
  | case4 w later hpoll t hnext ht hover ih =>
    exact ih (h.advance (Nat.le_of_lt ht.1) (h.turn hw))
  | case5 w later hpoll t hnext ht => exact h.advance (Nat.le_max_left _ _) (h.turn hw)

-- A push adds nothing but the observation, and that only to an open channel with room.
theorem push (h : Undisturbed P) (ctx : Context) {o : Observation}
    (accept : ∀ {v : World}, v.channel.closed = false → v.channel.hasRoom = true → P v →
      P (v.accept o)) (hw : P w) : P (w.push ctx o).2 := by
  have hnow : w.interlude.now = w.now := by unfold World.interlude; split <;> simp
  have hi := h.interlude hw
  unfold World.push
  split
  · exact hw
  · rename_i hdone
    have hlive : ctx.isDone w.interlude.now = false := by simpa [hnow] using hdone
    dsimp only
    split
    · exact hi
    · rename_i hopen
      split
      · rename_i hroom
        exact accept (by simpa using hopen) hroom hi
      · have hs := suspended .room hlive
        have hP := h.suspend ctx.ending .room hi
        generalize w.interlude.suspend ctx.ending .room = outcome at hs hP
        cases hs with
        | @polled u result _ _ poll =>
          simp only [Goal.poll] at poll
          cases hc : u.channel.closed with
          | true =>
            obtain rfl : .error .sinkClosed = result := by simpa [hc] using poll
            exact hP
          | false =>
            cases hr : u.channel.hasRoom with
            | true =>
              obtain rfl : .ok () = result := by simpa [hc, hr] using poll
              exact accept hc hr hP
            | false => simp [hc, hr] at poll
        | ended _ _ _ => exact hP
        | abandoned _ _ _ _ => exact hP

theorem pause (h : Undisturbed P) (ctx : Context) (ms : Nat) (hw : P w) :
    P (w.pause ctx ms).2 := by
  unfold World.pause
  split
  · exact hw
  · split
    · exact hw
    · exact h.suspend _ _ hw

end Undisturbed

-- What stays true whatever scrapers do besides.
structure Invariant (P : World → Prop) : Prop extends Undisturbed P where
  accept : ∀ {w : World} (o : Observation), w.channel.closed = false →
    w.channel.hasRoom = true → P w → P (w.accept o)
  request : ∀ {w : World}, P w → P (w.record .requested)
  issue : ∀ {w : World} (sql : String), P w → P (w.issue sql)
  release : ∀ {w : World}, P w → P w.release

namespace Invariant

variable {P : World → Prop} {w : World}

theorem push (h : Invariant P) (ctx : Context) (o : Observation) (hw : P w) :
    P (w.push ctx o).2 :=
  h.toUndisturbed.push ctx (h.accept o) hw

theorem fetch (h : Invariant P) (ctx : Context) (feed : Source.Feed) (hw : P w) :
    P (w.fetch ctx feed).2 := by
  have hr := h.request hw
  have hs := h.toUndisturbed.suspend ctx.ending .nothing hr
  unfold World.fetch
  split
  · exact hw
  · split
    · exact hr
    · exact hr
    · split <;> rename_i he <;> rw [he] at hs <;> exact hs

theorem execute (h : Invariant P) {α : Type} (projection : Sql.Projection α) (ctx : Context)
    (hw : P w) : P (RowStream.execute projection ctx w).2 := by
  have hf := h.fetch ctx w.source.feed (h.issue projection.query hw)
  have hfeed : (w.issue projection.query).source.feed = w.source.feed := rfl
  unfold RowStream.execute
  dsimp only
  rw [hfeed]
  generalize (w.issue projection.query).fetch ctx w.source.feed = outcome at hf
  obtain ⟨result, v⟩ := outcome
  match result with
  | .error halt => exact h.release hf
  | .ok none => exact h.release hf
  | .ok (some (.error fault, rest)) => exact h.release hf
  | .ok (some (.ok row, rest)) => exact hf

theorem stream_release (h : Invariant P) (s : RowStream) (hw : P w) : P (s.release w) := by
  unfold RowStream.release
  split
  · exact h.release hw
  · exact hw

theorem read (h : Invariant P) {α : Type} (projection : Sql.Projection α) (s : RowStream)
    (row : Sql.Row) (hw : P w) : P (s.read projection row w).2 := by
  unfold RowStream.read
  split
  · exact hw
  · exact h.stream_release s hw

theorem next (h : Invariant P) {α : Type} (projection : Sql.Projection α) (ctx : Context)
    (s : RowStream) (hw : P w) : P (s.next projection ctx w).2 := by
  unfold RowStream.next
  split
  · exact h.read projection s _ hw
  · exact hw
  · rename_i feed _ _
    have hf := h.fetch ctx feed hw
    generalize w.fetch ctx feed = outcome at hf
    obtain ⟨result, v⟩ := outcome
    match result with
    | .error .abandoned => exact hf
    | .error (.failed e) => exact h.release hf
    | .ok none => exact h.release hf
    | .ok (some (.error fault, rest)) => exact h.release hf
    | .ok (some (.ok row, rest)) => exact h.read projection _ row hf

theorem drop (h : Invariant P) (c : Cursor) (hw : P w) : P (c.drop w) := by
  cases c with
  | rows s => exact h.stream_release s hw
  | items feed => exact h.release hw

-- It stays true all along.
theorem reaches (h : Invariant P) {v : World} {held : List Cursor} (hv : Reaches w v held)
    (hw : P w) : P v := by
  induction hv with
  | refl => exact hw
  | push _ ctx o ih => exact h.push ctx o ih
  | pause _ ctx ms ih => exact h.toUndisturbed.pause ctx ms ih
  | execute _ projection ctx he ih =>
    have hx := h.execute projection ctx ih
    rw [he] at hx
    exact hx
  | refused _ projection ctx he ih =>
    have hx := h.execute projection ctx ih
    rw [he] at hx
    exact hx
  | @next v u before after s t _ α projection ctx result hn ih =>
    have hx := h.next projection ctx s ih
    rw [hn] at hx
    exact hx
  | query _ sql ih => exact h.issue sql ih
  | @fetch v before after feed _ ctx ih => exact h.fetch ctx feed ih
  | @drop v before after c _ ih => exact h.drop c ih

end Invariant

-- The observations that the reader has, and then those that wait for it.
def World.conveyed (w : World) : List Observation :=
  w.received ++ w.channel.buffer

theorem received_handOver (w : World) (o : Observation) (rest : List Observation) :
    (w.handOver o rest).received = w.received ++ [o] := by
  simp [World.received, World.handOver, World.record, History.received, Event.received?]

theorem accepted_handOver (w : World) (o : Observation) (rest : List Observation) :
    (w.handOver o rest).accepted = w.accepted := by
  simp [World.accepted, World.handOver, World.record, History.accepted, Event.accepted?]

theorem received_accept (w : World) (o : Observation) : (w.accept o).received = w.received := by
  simp [World.received, World.accept, World.record, History.received, Event.received?]

theorem conveyed_handOver {w : World} {o : Observation} {rest : List Observation}
    (h : w.channel.buffer = o :: rest) : (w.handOver o rest).conveyed = w.conveyed := by
  unfold World.conveyed
  rw [received_handOver, h, List.append_assoc]
  rfl

theorem conveyed_accept (w : World) (o : Observation) :
    (w.accept o).conveyed = w.conveyed ++ [o] := by
  unfold World.conveyed
  rw [received_accept, List.append_assoc]
  rfl

-- What is conveyed are the first observations that were taken in. As long as the
-- channel is open none of these is missing, and there is never more in the channel
-- than it has places.
structure Orderly (w : World) : Prop where
  first : w.conveyed <+: w.accepted
  kept : w.channel.closed = false → w.conveyed = w.accepted
  bounded : w.channel.buffer.length ≤ w.channel.capacity

namespace Orderly

variable {w : World}

theorem handOver (hw : Orderly w) {o : Observation} {rest : List Observation}
    (h : w.channel.buffer = o :: rest) : Orderly (w.handOver o rest) where
  first := by
    rw [conveyed_handOver h, accepted_handOver]
    exact hw.first
  kept hopen := by
    rw [conveyed_handOver h, accepted_handOver]
    exact hw.kept hopen
  bounded := by
    have hb := hw.bounded
    rw [h] at hb
    exact Nat.le_of_succ_le hb

theorem fresh {capacity : Nat} {channel : Channel}
    (h : Channel.create? capacity = some channel) (reader : Reader) (feed : Source.Feed) :
    channel.closed = false ∧ Orderly (.fresh channel reader feed) := by
  unfold Channel.create? at h
  split at h
  · obtain rfl : _ = channel := Option.some.inj h
    exact ⟨rfl, List.prefix_refl _, fun _ => rfl, Nat.zero_le _⟩
  · simp at h

-- What waits may get lost, but not from between what is kept.
theorem abandon (hw : Orderly w) : Orderly { w with channel := w.channel.abandon } where
  first := by
    have hf : w.received ++ w.channel.buffer <+: w.accepted := hw.first
    show w.received ++ [] <+: w.accepted
    rw [List.append_nil]
    exact (List.prefix_append _ _).trans hf
  kept hopen := by simp [Channel.abandon] at hopen
  bounded := Nat.zero_le _

theorem accept (hw : Orderly w) (o : Observation) (hopen : w.channel.closed = false)
    (hroom : w.channel.hasRoom = true) : Orderly (w.accept o) := by
  have hkept : (w.accept o).conveyed = (w.accept o).accepted := by
    rw [conveyed_accept, accepted_accept, hw.kept hopen]
  constructor
  case first => exact hkept ▸ List.prefix_refl _
  case kept => exact fun _ => hkept
  case bounded =>
    have hr : w.channel.buffer.length < w.channel.capacity := by
      simpa [Channel.hasRoom] using hroom
    show (w.channel.buffer ++ [o]).length ≤ w.channel.capacity
    rw [List.length_append]
    exact hr

theorem invariant : Invariant Orderly where
  receive hb _ hw := hw.handOver hb
  abandon _ hw := hw.abandon
  advance _ hw := ⟨hw.first, hw.kept, hw.bounded⟩
  accept o hopen hroom hw := hw.accept o hopen hroom
  request hw := ⟨hw.first, hw.kept, hw.bounded⟩
  issue _ hw := ⟨hw.first, hw.kept, hw.bounded⟩
  release hw := ⟨hw.first, hw.kept, hw.bounded⟩

end Orderly

end SysExporter.Scrape
