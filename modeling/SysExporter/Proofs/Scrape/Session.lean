import SysExporter.Proofs.Scrape.Cursors
import SysExporter.Proofs.Scrape.Delivery
import SysExporter.Scrape.Scripted

namespace SysExporter.Scrape

open Sql

section

variable {α : Type} (projection : Projection α) (ctx : Context)

-- The values of a stream, asked for until none comes, and what comes instead.
def RowStream.readOut (s : RowStream) (w : World) : List α × Except Halt Unit :=
  match _h : s.next projection ctx w with
  | ((.error halt, _), _) => ([], .error halt)
  | ((.ok none, _), _) => ([], .ok ())
  | ((.ok (some value), rest), v) =>
    let later := rest.readOut v
    (value :: later.1, later.2)
termination_by s.remaining
decreasing_by exact RowStream.remaining_next _h

-- All that a query yields.
def queryAll (w : World) : List α × Except Halt Unit :=
  match RowStream.execute projection ctx w with
  | (.error halt, _) => ([], .error halt)
  | (.ok s, v) => s.readOut projection ctx v

end

-- Silence after the items is waited for in vain.
def waitedOut {α : Type} (reading : List α × Option (Except ScrapeError Unit)) :
    List α × Except Halt Unit :=
  (reading.1, (reading.2.map (·.mapError .failed)).getD (.error .abandoned))

-- The items that make a row fail to be read, with the reason that is told. The
-- columns are counted before anything else.
inductive Undecodable {α : Type} (projection : Projection α) : Source.Item → String → Prop where
  | source (reason : String) : Undecodable projection (.error (.decode reason)) reason
  | columns {row : Row} (size : row.size ≠ projection.columns) :
      Undecodable projection (.ok row) s!"expected {projection.columns} columns, got {row.size}"
  | decode {row : Row} {reason : String} (size : row.size = projection.columns)
      (fails : projection.decode row = .error reason) : Undecodable projection (.ok row) reason

-- A row that cannot be read is told with its place in the source, counted from
-- one, which is that of the item after those that were read.
def Located {α β : Type} (projection : Projection α) (items : List Source.Item) (before : Nat)
    (answer : Except Halt β) : Prop :=
  ∀ n reason, answer = .error (.failed (.decode n reason)) →
    n = before + 1 ∧ ∃ item, items[before]? = some item ∧ Undecodable projection item reason

theorem undecodable_of_read {α : Type} {projection : Projection α} {row : Row} {reason : String}
    (h : projection.read row = .error reason) : Undecodable projection (.ok row) reason := by
  unfold Projection.read at h
  split at h
  · rename_i hsize
    exact .decode hsize h
  · rename_i hsize
    cases h
    exact .columns hsize

theorem undecodable_of_ofSource {α : Type} (projection : Projection α) {fault : Source.Fault}
    {row n : Nat} {reason : String} (h : ScrapeError.ofSource fault row = .decode n reason) :
    n = row ∧ Undecodable projection (.error fault) reason := by
  cases fault with
  | query text => simp [ScrapeError.ofSource] at h
  | decode text =>
    simp only [ScrapeError.ofSource, ScrapeError.decode.injEq] at h
    obtain ⟨rfl, rfl⟩ := h
    exact ⟨rfl, .source _⟩

namespace RowStream

variable {α : Type} {projection : Projection α} {ctx : Context} {s : RowStream} {w : World}

-- The row that a request hands to its reader: the one that waits, or else the
-- one that is fetched.
def handed (ctx : Context) (s : RowStream) (w : World) : Option Row :=
  match s.peeked, s.feed with
  | some row, _ => some row
  | none, none => none
  | none, some feed =>
    match (w.fetch ctx feed).1 with
    | .ok (some (.ok row, _)) => some row
    | _ => none

-- The row is the first of the items, and what comes of it is up to its reader.
theorem next_of_handed (projection : Projection α) {row : Row} (h : s.handed ctx w = some row) :
    ∃ rest v, s.feed.isSome = true ∧ s.pending = .ok row :: rest.items ∧
      s.next projection ctx w =
        RowStream.read projection { feed := some rest, peeked := none, fetched := s.fetched }
          row v := by
  obtain ⟨feed, peeked, fetched, sound⟩ := s
  cases peeked with
  | some first =>
    obtain ⟨feed, rfl⟩ := Option.isSome_iff_exists.mp (sound rfl)
    obtain rfl : first = row := by simpa [handed] using h
    exact ⟨feed, w, rfl, rfl, rfl⟩
  | none =>
    cases feed with
    | none => simp [handed] at h
    | some feed =>
      have hr := request ctx feed w
      simp only [handed] at h
      simp only [next, pending]
      generalize w.fetch ctx feed = outcome at h hr
      cases hr with
      | @item i rest live items stalls =>
        cases i with
        | ok first =>
          obtain rfl : first = row := by simpa using h
          exact ⟨rest, _, rfl, items, rfl⟩
        | error fault => simp at h
      | _ => simp at h

-- A request that hands no row over leaves the stream as it is or closes it. Only
-- silence after the last item can keep it waiting for ever.
theorem next_of_unhanded (projection : Projection α) (h : s.handed ctx w = none) :
    (∀ value, (s.next projection ctx w).1.1 ≠ .ok (some value)) ∧
      ((s.next projection ctx w).1.2 = s ∨ (s.next projection ctx w).1.2 = s.close) ∧
      ((s.next projection ctx w).1.1 = .error .abandoned → s.pending = [] ∧ s.stalls = true) := by
  obtain ⟨feed, peeked, fetched, sound⟩ := s
  cases peeked with
  | some first => simp [handed] at h
  | none =>
    cases feed with
    | none => simp [next]
    | some feed =>
      have hr := request ctx feed w
      simp only [handed] at h
      simp only [next, pending, stalls, close]
      generalize w.fetch ctx feed = outcome at h hr
      cases hr with
      | @item i rest live items stalls =>
        cases i with
        | ok first => simp at h
        | error fault => simp
      | abandoned waits items stalls late unending => simp [items, stalls]
      | _ => simp

theorem pending_of_abandoned (h : (s.next projection ctx w).1.1 = .error .abandoned) :
    s.pending = [] ∧ s.stalls = true := by
  cases hh : s.handed ctx w with
  | none => exact (next_of_unhanded projection hh).2.2 h
  | some row =>
    obtain ⟨rest, v, -, -, hn⟩ := next_of_handed projection hh
    rw [hn, RowStream.read] at h
    split at h <;> simp at h

-- With time enough, the values are those of the items, read one by one.
theorem readOut_eq (unending : ctx.ending = none) (s : RowStream) (w : World) :
    s.readOut projection ctx w =
      waitedOut (readAll projection s.stalls (s.fetched + 1) s.pending) := by
  fun_induction RowStream.readOut projection ctx s w with
  | case1 s w halt rest v hn =>
    have ha := advance projection ctx s w
    have hs : (s.next projection ctx w).1.1 = .error .abandoned →
        s.pending = [] ∧ s.stalls = true := pending_of_abandoned
    rw [hn] at ha hs
    cases ha with
    | unreadable unfinished pending read waits =>
      simp [pending, readAll, read, waitedOut, Except.mapError]
    | faulty unfinished pending waits => simp [pending, readAll, waitedOut, Except.mapError]
    | cancelled unfinished waits done => simp [isDone_of_unending unending] at done
    | abandoned unfinished waits late unending =>
      obtain ⟨pending, stalls⟩ := hs rfl
      simp [pending, stalls, readAll, waitedOut]
  | case2 s w rest v hn =>
    have ha := advance projection ctx s w
    rw [hn] at ha
    cases ha with
    | finished closed pending =>
      simp [pending, readAll, waitedOut, RowStream.stalls, closed, Except.mapError]
    | last unfinished pending stalls waits =>
      simp [pending, readAll, stalls, waitedOut, Except.mapError]
  | case3 s w value rest v hn later ih =>
    have ha := advance projection ctx s w
    rw [hn] at ha
    cases ha with
    | row unfinished pending stalls read waits =>
      simp only [pending, readAll, read, stalls]
      rw [show later = _ from ih]
      rfl

end RowStream

theorem queryAll_eq {α : Type} (projection : Projection α) {ctx : Context}
    (unending : ctx.ending = none) (w : World) :
    queryAll projection ctx w =
      waitedOut (readAll projection w.source.feed.stalls 1 w.source.feed.items) := by
  have ho := opening projection ctx w
  unfold queryAll
  generalize RowStream.execute projection ctx w = outcome at ho
  cases ho with
  | tardy done => simp [isDone_of_unending unending] at done
  | row live items stalls =>
    simp [RowStream.readOut_eq unending, RowStream.stalls, RowStream.pending, stalls, items]
  | faulty items => simp [items, readAll, waitedOut, Except.mapError]
  | empty items stalls =>
    simp [RowStream.readOut_eq unending, RowStream.stalls, RowStream.pending, stalls, items]
  | ended waits items stalls due => simp [unending] at due
  | abandoned waits items stalls late unending => simp [items, stalls, readAll, waitedOut]

-- The states that a stream of rows goes through, each with the rows that were
-- handed to their reader until then. What happens between the requests is open.
inductive Session {α : Type} (projection : Projection α) (items : List Source.Item) :
    RowStream → List Row → Prop where
  | opened (ctx : Context) (w : World) {v : World} {s : RowStream}
      (source : w.source.feed.items = items)
      (answer : RowStream.execute projection ctx w = (.ok s, v)) : Session projection items s []
  | next {s : RowStream} {rows : List Row} (before : Session projection items s rows)
      (ctx : Context) (w : World) :
      Session projection items (s.next projection ctx w).1.2 (rows ++ (s.handed ctx w).toList)

-- A stream that handed over the first rows of the items, and counted them. The
-- others are still to come as long as the cursor is open.
structure RowStream.Follows (items : List Source.Item) (s : RowStream) (rows : List Row) :
    Prop where
  unread : s.peeked.isSome = true → s.feed.isSome = true ∧ s.fetched = 0
  counted : s.fetched = rows.length
  inOrder : rows.map .ok <+: items
  rest : s.feed.isSome = true → items = rows.map .ok ++ s.pending

theorem RowStream.Follows.next {α : Type} (projection : Projection α) {items : List Source.Item}
    {s : RowStream} {rows : List Row} (h : s.Follows items rows) (ctx : Context) (w : World) :
    (s.next projection ctx w).1.2.Follows items (rows ++ (s.handed ctx w).toList) := by
  cases hh : s.handed ctx w with
  | none =>
    obtain ⟨-, hs | hs, -⟩ := next_of_unhanded projection hh
    · simpa [hs] using h
    · simp only [hs, Option.toList_none, List.append_nil]
      exact ⟨by simp [close], h.counted, h.inOrder, by simp [close]⟩
  | some row =>
    obtain ⟨rest, v, unfinished, pending, hn⟩ := next_of_handed projection hh
    have hitems : items = (rows ++ [row]).map .ok ++ rest.items := by
      simpa [pending] using h.rest unfinished
    have hfirst : (rows ++ [row]).map .ok <+: items := ⟨rest.items, hitems.symm⟩
    rw [hn, RowStream.read]
    split
    · exact ⟨by simp, by simp [h.counted], hfirst, fun _ => hitems⟩
    · exact ⟨by simp [close], by simp [close, h.counted], hfirst, by simp [close]⟩

theorem Session.follows {α : Type} {projection : Projection α} {items : List Source.Item}
    {s : RowStream} {rows : List Row} (h : Session projection items s rows) :
    s.Follows items rows := by
  induction h with
  | opened ctx w source answer =>
    have ho := opening projection ctx w
    rw [answer] at ho
    cases ho with
    | row live items stalls =>
      exact ⟨by simp, rfl, List.nil_prefix, fun _ => by simp [← source, items, RowStream.pending]⟩
    | empty items stalls => exact ⟨by simp, rfl, List.nil_prefix, by simp⟩
  | next _ ctx w ih => exact ih.next projection ctx w

-- A stream that was told of its end, or of a failure, is over for good.
theorem RowStream.isFinished_of_over {α : Type} {projection : Projection α} {ctx : Context}
    {s : RowStream} {w : World}
    (h : (s.next projection ctx w).1.1 = .ok none ∨
      ∃ e, (s.next projection ctx w).1.1 = .error (.failed e)) :
    (s.next projection ctx w).1.2.isFinished = true := by
  have hf := Scrape.isFinished_next projection ctx s w
  generalize (s.next projection ctx w).1 = outcome at h hf
  obtain ⟨answer, rest⟩ := outcome
  rcases h with rfl | ⟨e, rfl⟩ <;> exact hf

theorem RowStream.next_of_isFinished {α : Type} (projection : Projection α) {s : RowStream}
    (h : s.isFinished = true) (ctx : Context) (w : World) :
    s.next projection ctx w = ((.ok none, s), w) := by
  obtain ⟨feed, peeked, fetched, sound⟩ := s
  obtain ⟨rfl, rfl⟩ : feed = none ∧ peeked = none := by simpa [isFinished] using h
  rfl

theorem RowStream.Follows.located {α : Type} (projection : Projection α)
    {items : List Source.Item} {s : RowStream} {rows : List Row} (h : s.Follows items rows)
    (ctx : Context) (w : World) :
    Located projection items rows.length (s.next projection ctx w).1.1 := by
  intro n reason hn
  have ha := advance projection ctx s w
  generalize s.next projection ctx w = outcome at hn ha
  cases ha with
  | unreadable unfinished pending read waits =>
    simp only [Except.error.injEq, Halt.failed.injEq, ScrapeError.decode.injEq] at hn
    obtain ⟨rfl, rfl⟩ := hn
    refine ⟨by rw [h.counted], _, ?_, undecodable_of_read read⟩
    simp [h.rest unfinished, pending]
  | faulty unfinished pending waits =>
    simp only [Except.error.injEq, Halt.failed.injEq] at hn
    obtain ⟨rfl, hu⟩ := undecodable_of_ofSource projection hn
    refine ⟨by rw [h.counted], _, ?_, hu⟩
    simp [h.rest unfinished, pending]
  | _ => simp at hn

theorem located_execute {α : Type} (projection : Projection α) (ctx : Context) (w : World) :
    Located projection w.source.feed.items 0 (RowStream.execute projection ctx w).1 := by
  intro n reason h
  have ho := opening projection ctx w
  generalize RowStream.execute projection ctx w = outcome at h ho
  cases ho with
  | faulty items =>
    simp only [Except.error.injEq, Halt.failed.injEq] at h
    obtain ⟨rfl, hu⟩ := undecodable_of_ofSource projection h
    exact ⟨rfl, _, by simp [items], hu⟩
  | _ => simp at h

theorem located_waitedOut {α : Type} (projection : Projection α) (stalls : Bool)
    (items : List Source.Item) :
    Located projection items (waitedOut (readAll projection stalls 1 items)).1.length
      (waitedOut (readAll projection stalls 1 items)).2 := by
  intro n reason h
  simp only [waitedOut] at h ⊢
  obtain ⟨-, hf⟩ | ⟨fault, hitem, hf⟩ | ⟨row, told, hitem, hread, hf⟩ :=
    readAll_finish projection stalls 1 items
  · rw [hf] at h
    split at h <;> simp [Except.mapError] at h
  · simp only [hf, Option.map_some, Option.getD_some, Except.mapError, Except.error.injEq,
      Halt.failed.injEq] at h
    obtain ⟨rfl, hu⟩ := undecodable_of_ofSource projection h
    exact ⟨Nat.add_comm _ _, _, hitem, hu⟩
  · simp only [hf, Option.map_some, Option.getD_some, Except.mapError, Except.error.injEq,
      Halt.failed.injEq, ScrapeError.decode.injEq] at h
    obtain ⟨rfl, rfl⟩ := h
    exact ⟨Nat.add_comm _ _, _, hitem, undecodable_of_read hread⟩

theorem RowStream.answer_read {α : Type} (projection : Projection α) (s : RowStream) (row : Row)
    (w : World) :
    (s.read projection row w).1.1 =
      ((projection.read row).map some).mapError fun reason =>
        .failed (.decode (s.fetched + 1) reason) := by
  unfold RowStream.read
  split <;> rename_i hread <;> simp [hread, Except.map, Except.mapError]

-- Looking one row ahead cannot be told from plain iteration, whatever the rows
-- are and wherever the first failure is. A row that waits is the first one and
-- was not read. The rows that were handed to their reader are the first ones of
-- the source and are counted. What fails is told with its place. A stream that
-- came to its end, or failed, asks for nothing any more.
theorem stream_iterates {α : Type} (projection : Projection α) {ctx : Context}
    (unending : ctx.ending = none) (w : World) :
    let items := w.source.feed.items
    let all := queryAll projection ctx w
    all = waitedOut (readAll projection w.source.feed.stalls 1 items) ∧
    Located projection items all.1.length all.2 ∧
    (∀ ctx, Located projection items 0 (RowStream.execute projection ctx w).1) ∧
    ∀ s rows, Session projection items s rows →
      s.Follows items rows ∧
      ∀ ctx v,
        let answer := (s.next projection ctx v).1.1
        let rest := (s.next projection ctx v).1.2
        (∀ row, s.handed ctx v = some row →
          answer = ((projection.read row).map some).mapError fun reason =>
            .failed (.decode (rows.length + 1) reason)) ∧
        (s.handed ctx v = none → ∀ value, answer ≠ .ok (some value)) ∧
        Located projection items rows.length answer ∧
        ((answer = .ok none ∨ ∃ e, answer = .error (.failed e)) →
          rest.isFinished = true ∧
            ∀ ctx u, rest.next projection ctx u = ((.ok none, rest), u)) := by
  intro items all
  have hall : all = waitedOut (readAll projection w.source.feed.stalls 1 items) :=
    queryAll_eq projection unending w
  refine ⟨hall, ?_, fun ctx => located_execute projection ctx w, ?_⟩
  · rw [hall]
    exact located_waitedOut projection _ items
  · intro s rows hs
    have hf := hs.follows
    refine ⟨hf, fun ctx v => ⟨?_, ?_, hf.located projection ctx v, ?_⟩⟩
    · intro row hrow
      obtain ⟨rest, u, -, -, hn⟩ := RowStream.next_of_handed projection hrow
      rw [hn, RowStream.answer_read, hf.counted]
    · intro hnone
      exact (RowStream.next_of_unhanded projection hnone).1
    · intro hover
      have hfinished := RowStream.isFinished_of_over hover
      exact ⟨hfinished, RowStream.next_of_isFinished projection hfinished⟩

-- A row that can be read, one that has too few columns, and silence.
def shortWorld : World :=
  .fresh ⟨1, [], false, by decide⟩ .draining
    ⟨[.ok ⟨[.text "a", .uint 1]⟩, .ok ⟨[.text "b"]⟩], true⟩

theorem stream_iterates_short :
    Context.unbounded.ending = none ∧
    queryAll pair .unbounded shortWorld =
      ([("a", 1)], .error (.failed (.decode 2 "expected 2 columns, got 1"))) ∧
    ∃ s, Session pair shortWorld.source.feed.items s
        [⟨[.text "a", .uint 1]⟩, ⟨[.text "b"]⟩] ∧
      s.fetched = 2 ∧ s.isFinished = true := by
  have unending : Context.unbounded.ending = none := rfl
  obtain ⟨hall, -, -, hs⟩ := stream_iterates pair unending shortWorld
  refine ⟨unending, hall.trans rfl, ?_⟩
  have h0 : Session pair shortWorld.source.feed.items _ [] :=
    .opened .unbounded shortWorld rfl rfl
  have h2 := (h0.next .unbounded shortWorld).next .unbounded shortWorld
  have hfollows := (hs _ _ h2).1
  exact ⟨_, h2, hfollows.counted, rfl⟩

end SysExporter.Scrape
