import SysExporter.Proofs.Source.Operations

namespace SysExporter.Source

-- What a fetch finds, without what is left for others.
inductive Answer where
  | item (i : Item)
  | ended
  | silent

def Fetched.answer : Fetched → Answer
  | .item i _ => .item i
  | .ended => .ended
  | .silent => .silent

namespace Script

-- What comes after the last item, again and again.
def close (script : Script) : Answer :=
  if script.stalls then .silent else .ended

-- What a stream of its own gives to a fetch that comes after so many others.
def answer (script : Script) (n : Nat) : Answer :=
  match script.queryError with
  | some text => if n = 0 then .item (.error (.query text)) else script.close
  | none =>
    match script.rows[n]?, script.decodeError with
    | none, _ => script.close
    | some row, none => .item (.ok row)
    | some row, some (index, text) =>
      if n < index then .item (.ok row)
      else if n = index then .item (.error (.decode text))
      else script.close

end Script

namespace Feed

-- What a fetch finds that comes after so many others.
def answer (feed : Feed) (n : Nat) : Answer :=
  match feed.items[n]? with
  | some i => .item i
  | none => if feed.stalls then .silent else .ended

theorem answer_fetch (feed : Feed) : feed.fetch.answer = feed.answer 0 := by
  obtain ⟨items, stalls⟩ := feed
  cases items with
  | nil => cases stalls <;> rfl
  | cons i rest => rfl

theorem answer_rest (feed : Feed) (n : Nat) : feed.rest.answer n = feed.answer (n + 1) := by
  simp only [answer, rest, List.getElem?_tail]
  rfl

end Feed

-- A failure takes the place of the row at its index, if there is such a row.
theorem Script.answer_feed (script : Script) (n : Nat) :
    script.feed.answer n = script.answer n := by
  obtain ⟨rows, queryError, decodeError, stalls⟩ := script
  cases queryError with
  | some text => cases n <;> rfl
  | none =>
    cases decodeError with
    | none =>
      simp only [Feed.answer, feed, items, answer, List.getElem?_map]
      cases rows[n]? <;> rfl
    | some failure =>
      obtain ⟨index, text⟩ := failure
      simp only [Feed.answer, feed, items, answer]
      by_cases hindex : index < rows.length
      · rw [if_pos hindex, List.getElem?_append, List.length_map, List.length_take,
          Nat.min_eq_left (Nat.le_of_lt hindex), List.getElem?_map, List.getElem?_take]
        rcases Nat.lt_trichotomy n index with hn | hn | hn
        · have hrow : rows[n]? = some rows[n] := List.getElem?_eq_getElem (by omega)
          simp [hn, hrow]
        · simp [hn, List.getElem?_eq_getElem hindex]
        · have hpast : ¬ n < index := by omega
          have hnone : ([Except.error (Fault.decode text)] : List Item)[n - index]? = none := by
            simp
            omega
          simp only [hpast, hnone]
          cases rows[n]? <;> simp [Nat.ne_of_gt hn, close, hpast]
      · rw [if_neg hindex, List.getElem?_map]
        cases hrow : rows[n]? with
        | none => rfl
        | some row =>
          have hn : n < rows.length := (List.getElem?_eq_some_iff.mp hrow).1
          simp [show n < index by omega]

-- How often a stream that is open is asked for an item before it is dropped.
def fetches (stream : Nat) (operations : List Operation) : Nat :=
  (operations.takeWhile (· ≠ .drop stream)).count (.next stream)

namespace Streams

-- What an operation lets one of the streams answer.
def answer? (stream : Nat) (s : Streams) (operation : Operation) : Option Answer :=
  if operation = .next stream then (s.next stream).1.map Fetched.answer else none

def answers (stream : Nat) (s : Streams) : List Operation → List Answer
  | [] => []
  | operation :: rest =>
    (s.answer? stream operation).toList ++ (s.perform operation).answers stream rest

variable {s : Streams} {stream : Nat} {feed : Feed}

theorem answers_append (stream : Nat) (s : Streams) (before after : List Operation) :
    s.answers stream (before ++ after) =
      s.answers stream before ++ (s.run before).answers stream after := by
  induction before generalizing s with
  | nil => rfl
  | cons operation rest ih =>
    rw [List.cons_append, answers, ih, ← List.append_assoc]
    rfl

theorem answer?_of_closed (h : s.open? stream = none) (operation : Operation) :
    s.answer? stream operation = none := by
  simp [answer?, next_of_closed h]

theorem answers_of_dropped (h : s.streams[stream]? = some none) (operations : List Operation) :
    s.answers stream operations = [] := by
  induction operations generalizing s with
  | nil => rfl
  | cons operation rest ih =>
    have hlength := (List.getElem?_eq_some_iff.mp h).1
    have hslot := getElem?_perform hlength operation
    have htouch : touch stream none operation = none := by
      cases operation <;> simp [touch]
    rw [h, Option.map_some, htouch] at hslot
    rw [answers, ih hslot, answer?_of_closed (open?_of_slot h)]
    rfl

-- The induction is on the operations, with the feed that is left at each.
theorem answers_of_open (h : s.streams[stream]? = some (some feed)) (operations : List Operation) :
    s.answers stream operations =
      (List.range (fetches stream operations)).map feed.answer := by
  induction operations generalizing s feed with
  | nil => rfl
  | cons operation rest ih =>
    have hlength := (List.getElem?_eq_some_iff.mp h).1
    have hslot := getElem?_perform hlength operation
    rw [h, Option.map_some] at hslot
    by_cases hnext : operation = .next stream
    · subst hnext
      rw [touch, if_pos rfl] at hslot
      have hfetches : fetches stream (.next stream :: rest) = fetches stream rest + 1 := by
        simp [fetches]
      have hnow : s.answer? stream (.next stream) = some (feed.answer 0) := by
        simp [answer?, next_of_open h, feed.answer_fetch]
      rw [answers, hnow, ih hslot, hfetches, List.range_succ_eq_map, List.map_cons, List.map_map]
      simp [Feed.answer_rest]
    by_cases hdrop : operation = .drop stream
    · subst hdrop
      rw [touch, if_pos rfl] at hslot
      rw [answers, answer?, if_neg hnext, answers_of_dropped hslot]
      simp [fetches]
    · rw [touch_of_ne hnext hdrop] at hslot
      have hfetches : fetches stream (operation :: rest) = fetches stream rest := by
        simp [fetches, hnext, hdrop]
      rw [answers, answer?, if_neg hnext, ih hslot, hfetches]
      rfl

theorem answers_of_unopened (operations : List Operation)
    (h : s.streams.length + (issued operations).length ≤ stream) :
    s.answers stream operations = [] := by
  induction operations generalizing s with
  | nil => rfl
  | cons operation rest ih =>
    rw [issued_cons operation rest, List.length_append] at h
    have hclosed : s.open? stream = none := by
      rw [open?, List.getElem?_eq_none (by omega)]
      rfl
    rw [answers, answer?_of_closed hclosed, ih (by rw [length_perform]; omega)]
    rfl

-- Before it is opened and after it is dropped, a stream does not answer.
theorem answers_start (script : Script) (stream : Nat) (operations : List Operation) :
    (start script).answers stream operations =
      (List.range (fetches stream (since stream operations))).map script.answer := by
  by_cases h : stream < (issued operations).length
  · obtain ⟨before, sql, hsplit, hstream⟩ := exists_query h
    have hbefore : (start script).answers stream before = [] := by
      refine answers_of_unopened before ?_
      rw [hstream]
      exact Nat.le_of_eq (Nat.zero_add stream)
    have hopen := answers_of_open (slot_opened script sql hstream) (since stream operations)
    calc (start script).answers stream operations
        = (start script).answers stream (before ++ .query sql :: since stream operations) := by
          rw [← hsplit]
      _ = (((start script).run before).query sql).answers stream (since stream operations) := by
          rw [answers_append, hbefore]
          rfl
      _ = _ := by
          rw [hopen]
          exact List.map_congr_left fun n _ => script.answer_feed n
  · have hle := Nat.le_of_not_lt h
    have hnone : (start script).streams.length + (issued operations).length ≤ stream := by
      rwa [show (start script).streams.length = 0 from rfl, Nat.zero_add]
    rw [answers_of_unopened operations hnone, since_eq_nil hle]
    rfl

-- Whatever the other streams do, the answers of a stream are those of the script
-- in their order, as many as there are fetches while it is open. As many cursors
-- are open as streams were opened and not dropped, at the end or before it.
theorem run_replays (script : Script) (operations : List Operation) :
    let s := (start script).run operations
    (∀ stream, (start script).answers stream operations =
      (List.range (fetches stream (since stream operations))).map script.answer) ∧
    s.source.queries = issued operations ∧
    s.source.opened = (issued operations).length ∧
    s.source.released = (dropped operations).length ∧
    s.source.openCursors + s.source.released = s.source.opened ∧
    s.source.openCursors = s.streams.countP Option.isSome := by
  intro s
  have hbalanced : s.Balanced := Balanced.run ⟨rfl, rfl⟩ operations
  obtain ⟨hopen, htotal⟩ := hbalanced.openCursors
  refine ⟨fun stream => answers_start script stream operations, queries_run _ operations, ?_, ?_,
    htotal, hopen⟩
  · rw [hbalanced.opened]
    exact length_start script operations
  · rw [hbalanced.released]
    exact countP_isNone_start script operations

end Streams

end SysExporter.Source
