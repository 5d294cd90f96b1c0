import SysExporter.Proofs.Scrape.Requests

namespace SysExporter.Scrape

open SysExporter.Metric Sql

section

variable {α : Type} {projection : Projection α} {observe : α → List Observation} {ctx : Context}

-- The rounds of a run, each of which begins with a request. In all but the last
-- one a row is read and all its observations are taken in. In the last one at
-- least one observation of a row is missing, if there is a row.
inductive Rounds (projection : Projection α) (observe : α → List Observation) (ctx : Context) :
    List Source.Item → World → Except Halt Unit × World → Prop where
  | tardy {items : List Source.Item} {w : World} (done : ctx.isDone w.now = true) :
      Rounds projection observe ctx items w (.error (.failed .cancelled), w.release)
  | last {items : List Source.Item} {w v : World} {result : Except Halt Unit}
      (live : ctx.isDone w.now = false) (later : Later (w.record .requested) v)
      (requests : v.history.requests = w.history.requests + 1)
      (short : ∀ size, 0 < size → (∀ value, (observe value).length = size) →
        (v.since (w.record .requested)).accepted.length < size) :
      Rounds projection observe ctx items w (result, v.release)
  | row {row : Row} {value : α} {rest : List Source.Item} {w v : World}
      {outcome : Except Halt Unit × World} (live : ctx.isDone w.now = false)
      (read : projection.read row = .ok value) (later : Later (w.record .requested) v)
      (requests : v.history.requests = w.history.requests + 1)
      (sent : (v.since (w.record .requested)).accepted = observe value)
      (stays : ctx.isDone v.now = false) (next : Rounds projection observe ctx rest v outcome) :
      Rounds projection observe ctx (.ok row :: rest) w outcome

theorem short_of_silent {observe : α → List Observation} {w v : World} (h : Silent w v) :
    ∀ size, 0 < size → (∀ value, (observe value).length = size) →
      (v.since w).accepted.length < size := by
  intro size hsize _
  rw [h.accepted_nil]
  exact hsize

theorem rounds (projection : Projection α) (observe : α → List Observation) (ctx : Context)
    (stalls : Bool) (n : Nat) (items : List Source.Item) (w : World) :
    Rounds projection observe ctx items w
      (iterate projection observe ctx stalls n items w) := by
  induction items generalizing n w with
  | nil =>
    by_cases hdone : ctx.isDone w.now = true
    · simp only [iterate, World.fetch, if_pos hdone]
      exact .tardy hdone
    · have hlive : ctx.isDone w.now = false := by simpa using hdone
      have hr := request ctx ⟨[], stalls⟩ w
      have hn := requests_fetch ⟨[], stalls⟩ hlive
      have hs : Silent (w.record .requested) (w.record .requested) := (Waits.refl _).toSilent
      simp only [iterate]
      generalize w.fetch ctx ⟨[], stalls⟩ = outcome at hr hn
      cases hr with
      | tardy done => exact absurd done hdone
      | item _ items _ => simp at items
      | last _ _ _ => exact .last hlive hs.toLater hn (short_of_silent hs)
      | ended waits _ _ _ => exact .last hlive waits.toLater hn (short_of_silent waits.toSilent)
      | abandoned waits _ _ _ _ =>
        exact .last hlive waits.toLater hn (short_of_silent waits.toSilent)
  | cons item rest ih =>
    simp only [iterate]
    by_cases hdone : ctx.isDone w.now = true
    · rw [if_pos hdone]
      exact .tardy hdone
    · rw [if_neg hdone]
      have hlive : ctx.isDone w.now = false := by simpa using hdone
      have hrequest : (w.record .requested).history.requests = w.history.requests + 1 :=
        History.requests_request w.now w.history
      have hs : Silent (w.record .requested) (w.record .requested) := (Waits.refl _).toSilent
      cases item with
      | error fault => exact .last hlive hs.toLater hrequest (short_of_silent hs)
      | ok row =>
        dsimp only
        cases hread : projection.read row with
        | error reason => exact .last hlive hs.toLater hrequest (short_of_silent hs)
        | ok value =>
          have ho := offer ctx (observe value) (w.record .requested)
          have hl := later_pushAll ctx (observe value) (w.record .requested)
          have hn := (requests_pushAll ctx (observe value) (w.record .requested)).trans hrequest
          dsimp only
          generalize pushAll ctx (observe value) (w.record .requested) = outcome at ho hl hn
          cases ho with
          | taken sent stays => exact .row hlive hread hl hn sent (stays hlive) (ih _ _)
          | refused missing =>
            refine .last hlive hl hn fun size _ hsize => ?_
            rw [← hsize value]
            exact missing

namespace Rounds

variable {items : List Source.Item} {w : World} {outcome : Except Halt Unit × World}

-- Under a context that is not over a request comes first.
theorem later (h : Rounds projection observe ctx items w outcome)
    (hlive : ctx.isDone w.now = false) : Later (w.record .requested) outcome.2 := by
  induction h with
  | tardy done => simp [hlive] at done
  | last _ later _ _ => exact later.trans (silent_release _).toLater
  | row _ _ later _ _ stays _ ih => exact later.trans ((later_request _).trans (ih stays))

-- What lies behind a round: its request, and what came of it.
theorem since_round {w v : World} (later : Later (w.record .requested) v)
    (requests : v.history.requests = w.history.requests + 1) :
    ∃ middle : History, v.since w = middle ++ [⟨w.now, .requested⟩] ∧ middle.requests = 0 ∧
      middle = v.since (w.record .requested) := by
  refine ⟨_, since_request later, later.requests_eq_zero ?_, rfl⟩
  rw [requests]
  exact (History.requests_request w.now w.history).symm

-- With as many observations for each row the number of requests is known from
-- that of the observations that were taken in.
theorem requests_eq {size : Nat} (hsize : 0 < size)
    (hobserve : ∀ value, (observe value).length = size)
    (h : Rounds projection observe ctx items w outcome) :
    (outcome.2.since w).requests =
      if ctx.isDone w.now then 0 else (outcome.2.since w).accepted.length / size + 1 := by
  induction h with
  | @tardy items w done =>
    have hs : w.release.since w = [] := since_eq rfl
    rw [hs, if_pos done]
    rfl
  | @last items w v result live later requests short =>
    obtain ⟨middle, hs, hnone, hmiddle⟩ := since_round later requests
    have hshort : middle.accepted.length < size := hmiddle ▸ short size hsize hobserve
    show (v.since w).requests = if _ then 0 else (v.since w).accepted.length / size + 1
    rw [hs, History.requests_round hnone, History.accepted_round, Nat.div_eq_of_lt hshort]
    simp [live]
  | @row row value rest w v outcome live read later requests sent stays next ih =>
    obtain ⟨middle, hs, hnone, hmiddle⟩ := since_round later requests
    have hsent : middle.accepted.length = size := by rw [hmiddle, sent, hobserve value]
    have hnext : Later v outcome.2 := (later_request v).trans (next.later stays)
    rw [((later_request w).trans later).since_trans hnext, hs, History.requests_append,
      History.accepted_append, History.requests_round hnone, History.accepted_round,
      List.length_append, hsent, ih, Nat.add_div_left _ hsize]
    simp [live, stays]

end Rounds

end

end SysExporter.Scrape
