import Mathlib.Data.List.Basic
import SysExporter.Source.Basic

namespace SysExporter.Source

inductive Operation where
  | query (sql : String)
  | next (stream : Nat)
  | drop (stream : Nat)
  deriving DecidableEq

namespace Operation

def sql? : Operation → Option String
  | .query sql => some sql
  | .next _ | .drop _ => none

end Operation

-- The statements of the operations, each of which opens the next stream.
def issued (operations : List Operation) : List String :=
  operations.filterMap Operation.sql?

@[simp] theorem issued_nil : issued [] = [] := rfl

@[simp] theorem issued_query (sql : String) (rest : List Operation) :
    issued (.query sql :: rest) = sql :: issued rest := rfl

@[simp] theorem issued_next (stream : Nat) (rest : List Operation) :
    issued (.next stream :: rest) = issued rest := rfl

@[simp] theorem issued_drop (stream : Nat) (rest : List Operation) :
    issued (.drop stream :: rest) = issued rest := rfl

theorem issued_cons (operation : Operation) (rest : List Operation) :
    issued (operation :: rest) = issued [operation] ++ issued rest := by
  cases operation <;> rfl

-- What comes after the query that opens a stream.
def since : Nat → List Operation → List Operation
  | _, [] => []
  | 0, .query _ :: rest => rest
  | stream + 1, .query _ :: rest => since stream rest
  | stream, _ :: rest => since stream rest

theorem since_next (stream other : Nat) (rest : List Operation) :
    since stream (.next other :: rest) = since stream rest := by
  cases stream <;> rfl

theorem since_drop (stream other : Nat) (rest : List Operation) :
    since stream (.drop other :: rest) = since stream rest := by
  cases stream <;> rfl

-- The streams that are dropped at some time after they were opened.
def dropped (operations : List Operation) : List Nat :=
  (List.range (issued operations).length).filter fun stream =>
    .drop stream ∈ since stream operations

variable {stream : Nat}

-- The query that opens a stream, and what comes before it and after it.
theorem exists_query {operations : List Operation} (h : stream < (issued operations).length) :
    ∃ before sql, operations = before ++ .query sql :: since stream operations ∧
      (issued before).length = stream := by
  induction operations generalizing stream with
  | nil => simp at h
  | cons operation rest ih =>
    cases operation with
    | query sql =>
      cases stream with
      | zero => exact ⟨[], sql, rfl, rfl⟩
      | succ stream =>
        obtain ⟨before, other, hsplit, hlength⟩ := ih (Nat.lt_of_succ_lt_succ h)
        exact ⟨.query sql :: before, other, congrArg _ hsplit, congrArg _ hlength⟩
    | next other =>
      obtain ⟨before, sql, hsplit, hlength⟩ := ih h
      refine ⟨.next other :: before, sql, ?_, hlength⟩
      rw [since_next, List.cons_append, ← hsplit]
    | drop other =>
      obtain ⟨before, sql, hsplit, hlength⟩ := ih h
      refine ⟨.drop other :: before, sql, ?_, hlength⟩
      rw [since_drop, List.cons_append, ← hsplit]

theorem since_eq_nil {operations : List Operation} (h : (issued operations).length ≤ stream) :
    since stream operations = [] := by
  induction operations generalizing stream with
  | nil => cases stream <;> rfl
  | cons operation rest ih =>
    cases operation with
    | query sql =>
      cases stream with
      | zero => simp at h
      | succ stream => exact ih (by simpa using h)
    | next other =>
      rw [since_next]
      exact ih h
    | drop other =>
      rw [since_drop]
      exact ih h

namespace Streams

def start (script : Script) : Streams :=
  ⟨.ofFeed script.feed, []⟩

def perform (s : Streams) : Operation → Streams
  | .query sql => s.query sql
  | .next stream => (s.next stream).2
  | .drop stream => s.drop stream

def run (s : Streams) (operations : List Operation) : Streams :=
  operations.foldl perform s

end Streams

-- What is left when an item is taken off, if there is one.
def Feed.rest (feed : Feed) : Feed :=
  { feed with items := feed.items.tail }

namespace Streams

-- What an operation does to one stream.
def touch (stream : Nat) (slot : Option Feed) : Operation → Option Feed
  | .query _ => slot
  | .next other => if other = stream then slot.map Feed.rest else slot
  | .drop other => if other = stream then none else slot

variable {s : Streams} {stream : Nat} {feed : Feed} {slot : Option Feed}

theorem touch_of_ne {operation : Operation} (hnext : operation ≠ .next stream)
    (hdrop : operation ≠ .drop stream) (slot : Option Feed) :
    touch stream slot operation = slot := by
  cases operation with
  | query sql => rfl
  | next other => exact if_neg (mt (congrArg Operation.next) hnext)
  | drop other => exact if_neg (mt (congrArg Operation.drop) hdrop)

theorem open?_of_slot (h : s.streams[stream]? = some slot) : s.open? stream = slot := by
  rw [open?, h]
  rfl

theorem slot_of_open (h : s.open? stream = some feed) : s.streams[stream]? = some (some feed) := by
  rwa [open?, Option.join_eq_some_iff] at h

theorem set_slot (h : s.streams[stream]? = some slot) :
    s.streams.set stream slot = s.streams := by
  obtain ⟨hlength, rfl⟩ := List.getElem?_eq_some_iff.mp h
  exact List.set_getElem_self hlength

theorem next_of_closed (h : s.open? stream = none) : s.next stream = (none, s) := by
  rw [next, h]

-- A fetch past the last item has nothing to take off.
theorem next_of_open (h : s.streams[stream]? = some (some feed)) :
    s.next stream =
      (some feed.fetch, { s with streams := s.streams.set stream (some feed.rest) }) := by
  rw [next, open?_of_slot h]
  obtain ⟨items, stalls⟩ := feed
  cases items with
  | cons i rest => rfl
  | nil =>
    have hsame : s.streams.set stream (some (Feed.rest ⟨[], stalls⟩)) = s.streams := set_slot h
    rw [hsame]
    cases stalls <;> rfl

theorem streams_next (s : Streams) (stream : Nat) :
    (s.next stream).2.streams = s.streams.modify stream (·.map Feed.rest) := by
  rw [List.modify_eq_set_getElem?]
  cases hslot : s.streams[stream]? with
  | none =>
    rw [next_of_closed (by rw [open?, hslot]; rfl)]
    rfl
  | some slot =>
    cases slot with
    | none =>
      rw [next_of_closed (open?_of_slot hslot)]
      exact (set_slot hslot).symm
    | some feed =>
      rw [next_of_open hslot]
      rfl

theorem source_next (s : Streams) (stream : Nat) : (s.next stream).2.source = s.source := by
  unfold next
  split
  · rfl
  · split <;> rfl

theorem drop_of_closed (h : s.open? stream = none) : s.drop stream = s := by
  rw [drop, h]

theorem drop_of_open (h : s.open? stream = some feed) :
    s.drop stream = ⟨s.source.release, s.streams.set stream none⟩ := by
  rw [drop, h]

theorem streams_drop (s : Streams) (stream : Nat) :
    (s.drop stream).streams = s.streams.set stream none := by
  cases hopen : s.open? stream with
  | some feed => rw [drop_of_open hopen]
  | none =>
    rw [drop_of_closed hopen]
    cases hslot : s.streams[stream]? with
    | none => rw [List.set_eq_of_length_le (List.getElem?_eq_none_iff.mp hslot)]
    | some slot =>
      obtain rfl : slot = none := (open?_of_slot hslot).symm.trans hopen
      rw [set_slot hslot]

theorem getElem?_perform (h : stream < s.streams.length) (operation : Operation) :
    (s.perform operation).streams[stream]? =
      s.streams[stream]?.map (touch stream · operation) := by
  cases operation with
  | query sql => simp [perform, query, touch, List.getElem?_append_left h]
  | next other =>
    rw [perform, streams_next, List.getElem?_modify]
    by_cases hother : other = stream <;> simp [touch, hother]
  | drop other =>
    rw [perform, streams_drop, List.getElem?_set]
    by_cases hother : other = stream <;> simp [touch, hother, h]

theorem length_perform (s : Streams) (operation : Operation) :
    (s.perform operation).streams.length = s.streams.length + (issued [operation]).length := by
  cases operation with
  | query sql => simp [perform, query]
  | next other => simp [perform, streams_next]
  | drop other => simp [perform, streams_drop]

theorem run_cons (s : Streams) (operation : Operation) (rest : List Operation) :
    s.run (operation :: rest) = (s.perform operation).run rest := rfl

theorem run_append (s : Streams) (before after : List Operation) :
    s.run (before ++ after) = (s.run before).run after :=
  List.foldl_append

theorem length_run (s : Streams) (operations : List Operation) :
    (s.run operations).streams.length = s.streams.length + (issued operations).length := by
  induction operations generalizing s with
  | nil => rfl
  | cons operation rest ih =>
    rw [run_cons, ih, length_perform, issued_cons operation rest, List.length_append]
    omega

-- There is one stream for each statement.
theorem length_start (script : Script) (operations : List Operation) :
    ((start script).run operations).streams.length = (issued operations).length := by
  rw [length_run]
  exact Nat.zero_add _

theorem getElem?_run (h : stream < s.streams.length) (operations : List Operation) :
    (s.run operations).streams[stream]? =
      s.streams[stream]?.map (operations.foldl (touch stream)) := by
  induction operations generalizing s with
  | nil => simp [run]
  | cons operation rest ih =>
    have hlength : stream < (s.perform operation).streams.length := by
      rw [length_perform]
      omega
    rw [run_cons, ih hlength, getElem?_perform h, Option.map_map]
    rfl

-- Nothing brings a stream back.
theorem isNone_touched (slot : Option Feed) (operations : List Operation) :
    (operations.foldl (touch stream) slot).isNone =
      (slot.isNone || decide (.drop stream ∈ operations)) := by
  induction operations generalizing slot with
  | nil => simp
  | cons operation rest ih =>
    rw [List.foldl_cons, ih]
    cases operation with
    | query sql => simp [touch]
    | next other =>
      by_cases hother : other = stream <;> simp [touch, hother]
    | drop other =>
      by_cases hother : other = stream
      · simp [touch, hother]
      · simp [touch, hother, Ne.symm hother]

theorem source_drop (s : Streams) (stream : Nat) :
    (s.drop stream).source = s.source ∨ (s.drop stream).source = s.source.release := by
  unfold drop
  split
  · exact .inl rfl
  · exact .inr rfl

theorem feed_perform (s : Streams) (operation : Operation) :
    (s.perform operation).source.feed = s.source.feed := by
  cases operation with
  | query sql => rfl
  | next other => rw [perform, source_next]
  | drop other =>
    obtain h | h := s.source_drop other <;> rw [perform, h]
    rfl

theorem feed_run (s : Streams) (operations : List Operation) :
    (s.run operations).source.feed = s.source.feed := by
  induction operations generalizing s with
  | nil => rfl
  | cons operation rest ih => exact (ih _).trans (feed_perform s operation)

theorem queries_perform (s : Streams) (operation : Operation) :
    (s.perform operation).source.queries = s.source.queries ++ issued [operation] := by
  cases operation with
  | query sql => rfl
  | next other => simp [perform, source_next]
  | drop other =>
    obtain h | h := s.source_drop other <;> simp [perform, h, release]

theorem queries_run (s : Streams) (operations : List Operation) :
    (s.run operations).source.queries = s.source.queries ++ issued operations := by
  induction operations generalizing s with
  | nil => simp [run]
  | cons operation rest ih =>
    rw [run_cons, ih, queries_perform, issued_cons operation rest, List.append_assoc]

-- Every cursor that was opened has a stream, and every one that was released has
-- a stream that is gone.
structure Balanced (s : Streams) : Prop where
  opened : s.source.opened = s.streams.length
  released : s.source.released = s.streams.countP Option.isNone

theorem Balanced.perform (h : s.Balanced) (operation : Operation) :
    (s.perform operation).Balanced := by
  cases operation with
  | query sql =>
    exact ⟨by simp [Streams.perform, query, issue, h.opened],
      by simp [Streams.perform, query, issue, h.released]⟩
  | next other =>
    cases hopen : s.open? other with
    | none => rwa [Streams.perform, next_of_closed hopen]
    | some feed =>
      obtain ⟨hlength, hslot⟩ := List.getElem?_eq_some_iff.mp (slot_of_open hopen)
      rw [Streams.perform, next_of_open (slot_of_open hopen)]
      exact ⟨by simp [h.opened], by simp [List.countP_set hlength, hslot, h.released]⟩
  | drop other =>
    cases hopen : s.open? other with
    | none => rwa [Streams.perform, drop_of_closed hopen]
    | some feed =>
      obtain ⟨hlength, hslot⟩ := List.getElem?_eq_some_iff.mp (slot_of_open hopen)
      rw [Streams.perform, drop_of_open hopen]
      exact ⟨by simp [release, h.opened],
        by simp [release, List.countP_set hlength, hslot, h.released]⟩

theorem Balanced.run (h : s.Balanced) (operations : List Operation) :
    (s.run operations).Balanced := by
  induction operations generalizing s with
  | nil => exact h
  | cons operation rest ih => exact ih (h.perform operation)

theorem Balanced.openCursors (h : s.Balanced) :
    s.source.openCursors = s.streams.countP Option.isSome ∧
      s.source.openCursors + s.source.released = s.source.opened := by
  have hnot : (fun slot : Option Feed => decide ¬ slot.isNone = true) = Option.isSome := by
    funext slot
    cases slot <;> rfl
  have hcount : s.streams.length =
      s.streams.countP Option.isNone + s.streams.countP Option.isSome := by
    rw [← hnot]
    exact List.length_eq_countP_add_countP Option.isNone
  rw [← h.opened, ← h.released] at hcount
  rw [Source.openCursors]
  omega

-- A query opens a stream on everything that the script has.
theorem slot_opened (script : Script) {before : List Operation} (sql : String)
    (h : (issued before).length = stream) :
    (((start script).run before).query sql).streams[stream]? = some (some script.feed) := by
  have hlength : ((start script).run before).streams.length = stream := by
    rw [length_start, h]
  rw [query, List.getElem?_append_right (Nat.le_of_eq hlength), hlength, Nat.sub_self, feed_run]
  rfl

theorem isNone_slot (script : Script) {operations : List Operation}
    (h : stream < (issued operations).length) :
    ((start script).run operations).streams[stream]?.map Option.isNone =
      some (decide (.drop stream ∈ since stream operations)) := by
  obtain ⟨before, sql, hsplit, hstream⟩ := exists_query h
  have hslot := slot_opened script sql hstream
  have hlength := (List.getElem?_eq_some_iff.mp hslot).1
  have hrun : (start script).run operations =
      (((start script).run before).query sql).run (since stream operations) := by
    conv_lhs => rw [hsplit, run_append]
    rfl
  rw [hrun, getElem?_run hlength, hslot, Option.map_some, Option.map_some, isNone_touched]
  simp

theorem countP_isNone_start (script : Script) (operations : List Operation) :
    ((start script).run operations).streams.countP Option.isNone = (dropped operations).length := by
  have hmap : ((start script).run operations).streams.map Option.isNone =
      (List.range (issued operations).length).map fun stream =>
        decide (.drop stream ∈ since stream operations) := by
    refine List.ext_getElem? fun stream => ?_
    rw [List.getElem?_map, List.getElem?_map]
    by_cases h : stream < (issued operations).length
    · rw [isNone_slot script h, List.getElem?_range h]
      rfl
    · have hle := Nat.le_of_not_lt h
      rw [List.getElem?_eq_none (by rwa [length_start]),
        List.getElem?_eq_none (by rwa [List.length_range])]
      rfl
  calc ((start script).run operations).streams.countP Option.isNone
      = (((start script).run operations).streams.map Option.isNone).countP id := by
        rw [List.countP_map]
        rfl
    _ = _ := by
        rw [hmap, List.countP_map, dropped, ← List.countP_eq_length_filter]
        rfl

end Streams

end SysExporter.Source
