import SysExporter.Proofs.Scrape.Delivery
import SysExporter.Proofs.Scrape.Iteration

namespace SysExporter.Scrape

open SysExporter.Metric Sql

def Event.isRequest : Event → Bool
  | .requested => true
  | _ => false

namespace History

-- How many items were requested.
def requests (h : History) : Nat :=
  h.countP (·.event.isRequest)

@[simp]
theorem requests_append (new old : History) :
    requests (new ++ old) = new.requests + old.requests := by
  simp [requests]

theorem requests_request (t : Nat) (h : History) :
    requests (⟨t, .requested⟩ :: h) = h.requests + 1 := by
  simp [requests, Event.isRequest]

-- A request and what follows it up to the next one.
theorem requests_round {middle : History} (h : middle.requests = 0) (t : Nat) :
    requests (middle ++ [⟨t, .requested⟩]) = 1 := by
  rw [requests_append, h, requests_request]
  rfl

theorem accepted_round (middle : History) (t : Nat) :
    accepted (middle ++ [⟨t, .requested⟩]) = middle.accepted := by
  rw [accepted_append]
  rfl

end History

-- Nothing is requested while the reader has its turn.
theorem requests_turn (w : World) : w.turn.history.requests = w.history.requests := by
  fun_induction World.turn w with
  | case4 w hc hl ht o rest hb ih =>
    rw [ih]
    rfl
  | _ => rfl

theorem requests_interlude (w : World) :
    w.interlude.history.requests = w.history.requests := by
  unfold World.interlude
  split
  · exact requests_turn w
  · rfl

theorem requests_suspend (ending : Option Nat) (goal : Goal) (w : World) :
    (w.suspend ending goal).2.history.requests = w.history.requests := by
  fun_induction World.suspend ending goal w with
  | case4 w later hpoll t hnext ht hover ih =>
    rw [ih]
    exact requests_turn w
  | _ => exact requests_turn _

theorem requests_push (ctx : Context) (o : Observation) (w : World) :
    (w.push ctx o).2.history.requests = w.history.requests := by
  have hi := requests_interlude w
  unfold World.push
  split
  · rfl
  · dsimp only
    split
    · exact hi
    · split
      · exact hi
      · have hs := requests_suspend ctx.ending .room w.interlude
        split <;> rename_i he <;> rw [he] at hs
        · exact hs.trans hi
        · exact hs.trans hi

theorem requests_pushAll (ctx : Context) (os : List Observation) (w : World) :
    (pushAll ctx os w).2.history.requests = w.history.requests := by
  induction os generalizing w with
  | nil => rfl
  | cons o rest ih =>
    have hp := requests_push ctx o w
    unfold pushAll
    split <;> rename_i he <;> rw [he] at hp
    · rw [ih]
      exact hp
    · exact hp

-- Nothing but the one request happens before a fetch comes to its end.
theorem requests_fetch {ctx : Context} (feed : Source.Feed) {w : World}
    (h : ctx.isDone w.now = false) :
    (w.fetch ctx feed).2.history.requests = w.history.requests + 1 := by
  have hr : (w.record .requested).history.requests = w.history.requests + 1 :=
    History.requests_request w.now w.history
  unfold World.fetch
  rw [if_neg (by simp [h])]
  split
  · exact hr
  · exact hr
  · have hs := requests_suspend ctx.ending .nothing (w.record .requested)
    split <;> rename_i he <;> rw [he] at hs
    · exact hs.trans hr
    · exact hs.trans hr

theorem Later.requests_eq {w v : World} (h : Later w v) :
    v.history.requests = (v.since w).requests + w.history.requests := by
  rw [← History.requests_append, ← h.history_eq]

-- What follows a request without another one.
theorem Later.requests_eq_zero {w v : World} (h : Later w v)
    (hsame : v.history.requests = w.history.requests) : (v.since w).requests = 0 := by
  have heq := h.requests_eq
  omega

theorem later_request (w : World) : Later w (w.record .requested) :=
  (waits_requested w).toLater

theorem since_request {w v : World} (h : Later (w.record .requested) v) :
    v.since w = v.since (w.record .requested) ++ [⟨w.now, .requested⟩] := by
  rw [(later_request w).since_trans h]
  exact congrArg _ (since_eq rfl)

theorem later_pushAll (ctx : Context) (os : List Observation) (w : World) :
    Later w (pushAll ctx os w).2 := by
  induction os generalizing w with
  | nil => exact .refl w
  | cons o rest ih =>
    have hp := later_push ctx o w
    unfold pushAll
    split <;> rename_i he <;> rw [he] at hp
    · exact hp.trans (ih _)
    · exact hp

-- How the handing over of a row's observations ends: all are taken in, and then
-- the context is not over yet, or at least one of them is not.
inductive Offer (ctx : Context) (os : List Observation) (w : World) :
    Except Halt Unit × World → Prop where
  | taken {v : World} (sent : (v.since w).accepted = os)
      (live : ctx.isDone w.now = false → ctx.isDone v.now = false) : Offer ctx os w (.ok (), v)
  | refused {v : World} {halt : Halt} (missing : (v.since w).accepted.length < os.length) :
      Offer ctx os w (.error halt, v)

theorem offer (ctx : Context) (os : List Observation) (w : World) :
    Offer ctx os w (pushAll ctx os w) := by
  induction os generalizing w with
  | nil =>
    have hs : w.since w = [] := since_eq rfl
    exact .taken (by rw [hs]; rfl) id
  | cons o rest ih =>
    have hp := handover ctx o w
    have hnone {u : World} (hw : Waits w u) : (u.since w).accepted.length < (o :: rest).length := by
      rw [hw.accepted_nil]
      exact Nat.succ_pos _
    unfold pushAll
    generalize w.push ctx o = outcome at hp
    cases hp with
    | tardy _ => exact .refused (hnone (.refl w))
    | closed waits _ _ => exact .refused (hnone waits)
    | ended waits _ _ _ => exact .refused (hnone waits)
    | abandoned waits _ _ _ _ => exact .refused (hnone waits)
    | @accepted u waits live _ _ =>
      have hu : Later w (u.accept o) := waits.toLater.trans (later_accept u o)
      have hone : ((u.accept o).since w).accepted = [o] := by
        have hs : (u.accept o).since u = [⟨u.now, .accepted o⟩] := since_eq rfl
        rw [waits.toLater.since_trans (later_accept u o), History.accepted_append,
          waits.accepted_nil, hs]
        rfl
      have hrest := ih (u.accept o)
      have hlater := later_pushAll ctx rest (u.accept o)
      dsimp only
      generalize pushAll ctx rest (u.accept o) = outcome at hrest hlater
      have hall {v : World} (hv : Later (u.accept o) v) :
          (v.since w).accepted = o :: (v.since (u.accept o)).accepted := by
        rw [hu.since_trans hv, History.accepted_append, hone]
        rfl
      cases hrest with
      | taken sent hstays => exact .taken (by rw [hall hlater, sent]) fun _ => hstays live
      | refused missing => exact .refused (by rw [hall hlater]; exact Nat.succ_lt_succ missing)

-- At every request the observations of the rows before are taken in, all of them
-- and no others: as many blocks as there were requests before.
def Paced (blocks : List (List Observation)) (h : History) : Prop :=
  ∀ (t : Nat) (earlier : History), ⟨t, .requested⟩ :: earlier <:+ h →
    earlier.requests ≤ blocks.length ∧
    earlier.accepted = (blocks.take earlier.requests).flatten

theorem paced_cons {blocks : List (List Observation)} {entry : Entry} {h : History} :
    Paced blocks (entry :: h) ↔
      (entry.event = .requested →
        h.requests ≤ blocks.length ∧ h.accepted = (blocks.take h.requests).flatten) ∧
      Paced blocks h := by
  constructor
  · intro hp
    refine ⟨?_, fun t earlier hs => hp t earlier (hs.trans (List.suffix_cons entry h))⟩
    obtain ⟨time, event⟩ := entry
    rintro rfl
    exact hp time h List.suffix_rfl
  · rintro ⟨hhead, hrest⟩ t earlier hs
    rcases List.suffix_cons_iff.mp hs with heq | hs
    · obtain ⟨rfl, rfl⟩ := List.cons.inj heq
      exact hhead rfl
    · exact hrest t earlier hs

-- What happens later keeps the pace if it does so with the blocks that are left.
theorem Paced.append {blocks : List (List Observation)} {new old : History}
    (hold : Paced blocks old) (hle : old.requests ≤ blocks.length)
    (haccepted : old.accepted = (blocks.take old.requests).flatten)
    (hnew : Paced (blocks.drop old.requests) new) : Paced blocks (new ++ old) := by
  induction new with
  | nil => exact hold
  | cons entry rest ih =>
    obtain ⟨hhead, hrest⟩ := paced_cons.mp hnew
    rw [List.cons_append, paced_cons]
    refine ⟨fun he => ?_, ih hrest⟩
    obtain ⟨hfew, hsent⟩ := hhead he
    rw [List.length_drop] at hfew
    rw [History.requests_append, History.accepted_append, haccepted, hsent, ← List.flatten_append,
      ← List.take_add, Nat.add_comm]
    exact ⟨by omega, rfl⟩

end SysExporter.Scrape
