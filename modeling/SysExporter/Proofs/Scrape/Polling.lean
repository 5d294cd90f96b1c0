import SysExporter.Scrape.Contexts
import SysExporter.Scrape.Error

namespace SysExporter.Scrape

-- Work that is polled: at each instant it has its result, or nothing as yet.
def Future (α : Type) : Type :=
  Nat → Option α

namespace Future

-- A result that is there from an instant on, or never.
def due (start : Option Nat) (a : α) : Future α :=
  fun t => if start.any (· ≤ t) then some a else none

def map (g : α → β) (f : Future α) : Future β :=
  fun t => (f t).map g

-- Two at a time. If both have a result, that of the first one counts.
def race (f g : Future α) : Future α :=
  fun t => (f t).or (g t)

-- Polled from an instant on, it has its result at another one and not before.
structure Resolves (f : Future α) (now t : Nat) (a : α) : Prop where
  le : now ≤ t
  result : f t = some a
  pending : ∀ s, now ≤ s → s < t → f s = none

theorem Resolves.unique {f : Future α} (h : f.Resolves now t a) (h' : f.Resolves now u b) :
    t = u ∧ a = b := by
  rcases Nat.lt_trichotomy t u with hlt | rfl | hlt
  · have := h'.pending t h.le hlt
    simp [h.result] at this
  · exact ⟨rfl, Option.some.inj (h.result.symm.trans h'.result)⟩
  · have := h.pending u h'.le hlt
    simp [h'.result] at this

theorem resolves_now {f : Future α} (h : f now = some a) : f.Resolves now now a :=
  ⟨Nat.le_refl now, h, fun s hs hlt => by omega⟩

end Future

namespace Context

-- The end of a context as it is awaited: by the signal that it is cancelled
-- and, if it has a deadline, by a timer as well.
def done (ctx : Context) (epoch : Nat) : Future Unit :=
  match ctx.deadline with
  | some t => (Future.due ctx.cancellation ()).race (.due (some (Timer.wake epoch t)) ())
  | none => .due ctx.cancellation ()

-- Work that is driven until it is done or the context is over, which is looked
-- at first.
def run (ctx : Context) (epoch : Nat) (f : Future α) : Future (Except ScrapeError α) :=
  ((ctx.done epoch).map fun _ => .error .cancelled).race (f.map .ok)

section

variable {ctx : Context} {epoch now s t : Nat}

theorem isDone_iff :
    ctx.isDone t = true ↔
      (∃ c, ctx.cancellation = some c ∧ c ≤ t) ∨ ∃ d, ctx.deadline = some d ∧ d ≤ t := by
  simp [isDone, ending, any_earliest, Option.any_eq_true, or_comm]

theorem isDone_eq_false_of_le (hs : s ≤ t) (h : ctx.isDone t = false) : ctx.isDone s = false := by
  refine isDone_eq_false_iff.mpr fun e he => ?_
  have := isDone_eq_false_iff.mp h e he
  omega

theorem done_eq (ctx : Context) (epoch t : Nat) :
    ctx.done epoch t = if (ctx.awaited epoch).isDone t then some () else none := by
  have hdone : ctx.done epoch = match ctx.deadline.map (Timer.wake epoch) with
      | some alarm => (Future.due ctx.cancellation ()).race (.due (some alarm) ())
      | none => .due ctx.cancellation () := by
    unfold done
    cases ctx.deadline <;> rfl
  rw [hdone, awaited]
  -- from here on it does not matter what a timer does to a deadline
  generalize ctx.deadline.map (Timer.wake epoch) = alarm
  simp only [isDone, ending, any_earliest]
  cases alarm with
  | none => simp [Future.due]
  | some a =>
    cases hsignal : ctx.cancellation.any (· ≤ t) <;> by_cases htimer : a ≤ t <;>
      simp [Future.race, Future.due, hsignal, htimer]

theorem run_eq (ctx : Context) (epoch : Nat) (f : Future α) (t : Nat) :
    ctx.run epoch f t =
      if (ctx.awaited epoch).isDone t then some (.error .cancelled) else (f t).map .ok := by
  cases h : (ctx.awaited epoch).isDone t <;> simp [run, Future.race, Future.map, done_eq, h]

-- Awaited, a context resolves at its end, or at once if that is over.
theorem resolves_done_iff :
    (ctx.done epoch).Resolves now t () ↔
      ∃ e, (ctx.awaited epoch).ending = some e ∧ t = max now e := by
  constructor
  · intro h
    have hdone : (ctx.awaited epoch).isDone t = true := by simpa [done_eq] using h.result
    obtain ⟨e, he, het⟩ := isDone_iff_ending.mp hdone
    have hover : (ctx.awaited epoch).isDone (max now e) = true :=
      isDone_iff_ending.mpr ⟨e, he, Nat.le_max_right now e⟩
    refine ⟨e, he, Nat.le_antisymm (Nat.le_of_not_lt fun hlt => ?_) (Nat.max_le.mpr ⟨h.le, het⟩)⟩
    have hpending := h.pending (max now e) (Nat.le_max_left now e) hlt
    simp [done_eq, hover] at hpending
  · rintro ⟨e, he, rfl⟩
    have hover : (ctx.awaited epoch).isDone (max now e) = true :=
      isDone_iff_ending.mpr ⟨e, he, Nat.le_max_right now e⟩
    refine ⟨Nat.le_max_left now e, by simp [done_eq, hover], fun s hs hlt => ?_⟩
    have hlive : (ctx.awaited epoch).isDone s = false := by
      refine isDone_eq_false_iff.mpr fun e' he' => ?_
      obtain rfl : e = e' := Option.some.inj (he.symm.trans he')
      omega
    simp [done_eq, hlive]

theorem resolves_run_ok_iff {f : Future α} :
    (ctx.run epoch f).Resolves now t (.ok a) ↔
      f.Resolves now t a ∧ (ctx.awaited epoch).isDone t = false := by
  constructor
  · intro h
    have hresult := h.result
    cases hlive : (ctx.awaited epoch).isDone t with
    | true => simp [run_eq, hlive] at hresult
    | false =>
      refine ⟨⟨h.le, by simpa [run_eq, hlive] using hresult, fun s hs hlt => ?_⟩, rfl⟩
      have hbefore := isDone_eq_false_of_le (Nat.le_of_lt hlt) hlive
      simpa [run_eq, hbefore] using h.pending s hs hlt
  · rintro ⟨h, hlive⟩
    refine ⟨h.le, by simp [run_eq, hlive, h.result], fun s hs hlt => ?_⟩
    have hbefore := isDone_eq_false_of_le (Nat.le_of_lt hlt) hlive
    simp [run_eq, hbefore, h.pending s hs hlt]

-- Work fails under a context in no other way than by its end.
theorem resolves_run_error_iff {f : Future α} :
    (ctx.run epoch f).Resolves now t (.error fault) ↔
      fault = .cancelled ∧ (ctx.done epoch).Resolves now t () ∧
        ∀ s, now ≤ s → s < t → f s = none := by
  constructor
  · intro h
    have hresult := h.result
    cases hover : (ctx.awaited epoch).isDone t with
    | false => cases hf : f t <;> simp [run_eq, hover, hf] at hresult
    | true =>
      have hfault : fault = .cancelled := by simpa [run_eq, hover, eq_comm] using hresult
      have hbefore (s : Nat) (hs : now ≤ s) (hlt : s < t) :
          (ctx.awaited epoch).isDone s = false ∧ f s = none := by
        have hpending := h.pending s hs hlt
        cases hlive : (ctx.awaited epoch).isDone s <;> simp_all [run_eq]
      refine ⟨hfault, ⟨h.le, by simp [done_eq, hover], fun s hs hlt => ?_⟩, fun s hs hlt => ?_⟩
      · simp [done_eq, (hbefore s hs hlt).1]
      · exact (hbefore s hs hlt).2
  · rintro ⟨rfl, h, hf⟩
    have hover : (ctx.awaited epoch).isDone t = true := by simpa [done_eq] using h.result
    refine ⟨h.le, by simp [run_eq, hover], fun s hs hlt => ?_⟩
    have hlive : (ctx.awaited epoch).isDone s = false := by simpa [done_eq] using h.pending s hs hlt
    simp [run_eq, hlive, hf s hs hlt]

theorem isDone_iff_resolves_done :
    (ctx.awaited epoch).isDone now = true ↔ (ctx.done epoch).Resolves now now () := by
  rw [isDone_iff_ending, resolves_done_iff]
  constructor
  · rintro ⟨e, he, hle⟩
    exact ⟨e, he, by omega⟩
  · rintro ⟨e, he, hmax⟩
    exact ⟨e, he, by omega⟩

theorem isDone_iff_resolves_cancelled {f : Future α} (hf : f now = some a) :
    (ctx.awaited epoch).isDone now = true ↔
      ∃ t, (ctx.run epoch f).Resolves now t (.error .cancelled) := by
  constructor
  · intro hover
    exact ⟨now, Future.resolves_now (by simp [run_eq, hover])⟩
  · rintro ⟨t, h⟩
    obtain ⟨-, hdone, hpending⟩ := resolves_run_error_iff.mp h
    have htn : t = now := by
      refine Nat.le_antisymm (Nat.le_of_not_lt fun hlt => ?_) h.le
      simp [hpending now (Nat.le_refl now) hlt] at hf
    exact isDone_iff_resolves_done.mpr (htn ▸ hdone)

-- Only work that is done before the end of the context gives its result.
theorem exists_resolves_ok_iff {f : Future α} (hf : f.Resolves now u a) :
    (∃ t b, (ctx.run epoch f).Resolves now t (.ok b)) ↔
      ∀ e, (ctx.awaited epoch).ending = some e → u < e := by
  rw [← isDone_eq_false_iff]
  constructor
  · rintro ⟨t, b, h⟩
    obtain ⟨hresolves, hlive⟩ := resolves_run_ok_iff.mp h
    obtain ⟨rfl, -⟩ := hf.unique hresolves
    exact hlive
  · intro hlive
    exact ⟨u, a, resolves_run_ok_iff.mpr ⟨hf, hlive⟩⟩

theorem exists_resolves_cancelled_iff {f : Future α} (hf : f.Resolves now u a) :
    (∃ t, (ctx.run epoch f).Resolves now t (.error .cancelled)) ↔
      ∃ e, (ctx.awaited epoch).ending = some e ∧ e ≤ u := by
  rw [← isDone_iff_ending]
  constructor
  · rintro ⟨t, h⟩
    obtain ⟨-, hdone, hpending⟩ := resolves_run_error_iff.mp h
    have htu : t ≤ u := Nat.le_of_not_lt fun hlt => by
      have := hpending u hf.le hlt
      simp [hf.result] at this
    exact isDone_mono htu (by simpa [done_eq] using hdone.result)
  · intro hover
    obtain ⟨e, he, heu⟩ := isDone_iff_ending.mp hover
    have hdone : (ctx.done epoch).Resolves now (max now e) () := resolves_done_iff.mpr ⟨e, he, rfl⟩
    refine ⟨max now e, resolves_run_error_iff.mpr ⟨rfl, hdone, fun s hs hlt => ?_⟩⟩
    exact hf.pending s hs (Nat.lt_of_lt_of_le hlt (Nat.max_le.mpr ⟨hf.le, heu⟩))

end

end Context

-- How a wait for work comes out. The work is given up if it does not resolve
-- for long enough.
inductive Settles (f : Future (Except ScrapeError Unit)) (now : Nat) : Waited × Nat → Prop where
  | ready {t : Nat} (soon : t ≤ now + patience * Timer.tick)
      (resolves : f.Resolves now t (.ok ())) : Settles f now (.ready, t)
  | cancelled {t : Nat} (soon : t ≤ now + patience * Timer.tick)
      (resolves : f.Resolves now t (.error .cancelled)) : Settles f now (.cancelled, t)
  | abandoned (pending : ∀ s, now ≤ s → s ≤ now + patience * Timer.tick → f s = none) :
      Settles f now (.abandoned, now + patience * Timer.tick)

theorem Settles.unique {f : Future (Except ScrapeError Unit)} {one other : Waited × Nat}
    (h : Settles f now one) (h' : Settles f now other) : one = other := by
  have hnever {t : Nat} {r : Except ScrapeError Unit} (soon : t ≤ now + patience * Timer.tick)
      (resolves : f.Resolves now t r)
      (pending : ∀ s, now ≤ s → s ≤ now + patience * Timer.tick → f s = none) : False := by
    have := pending t resolves.le soon
    simp [resolves.result] at this
  cases h with
  | ready soon resolves =>
    cases h' with
    | ready _ resolves' => rw [(resolves.unique resolves').1]
    | cancelled _ resolves' => exact absurd (resolves.unique resolves').2 (by simp)
    | abandoned pending => exact (hnever soon resolves pending).elim
  | cancelled soon resolves =>
    cases h' with
    | ready _ resolves' => exact absurd (resolves.unique resolves').2 (by simp)
    | cancelled _ resolves' => rw [(resolves.unique resolves').1]
    | abandoned pending => exact (hnever soon resolves pending).elim
  | abandoned pending =>
    cases h' with
    | ready soon resolves => exact (hnever soon resolves pending).elim
    | cancelled soon resolves => exact (hnever soon resolves pending).elim
    | abandoned _ => rfl

namespace Context

variable {ctx : Context} {epoch : Nat} {start : Option Nat}

theorem run_due_eq_none (h : ∀ t, earliest [(ctx.awaited epoch).ending, start] = some t → s < t) :
    ctx.run epoch (.due start ()) s = none := by
  have hlater {u : Nat} (hu : some u ∈ [(ctx.awaited epoch).ending, start]) : s < u := by
    cases hfirst : earliest [(ctx.awaited epoch).ending, start] with
    | none => exact absurd hfirst (earliest_ne_none hu)
    | some t => exact Nat.lt_of_lt_of_le (h t hfirst) (earliest_le hfirst hu)
  have hlive : (ctx.awaited epoch).isDone s = false :=
    isDone_eq_false_iff.mpr fun e he => hlater (by simp [he])
  cases start with
  | none => simp [run_eq, hlive, Future.due]
  | some u =>
    have hu : s < u := hlater (by simp)
    simpa [run_eq, hlive, Future.due] using hu

-- Of the end of the context and the instant at which the work is done, what
-- comes first decides.
theorem resolves_run_due (hlive : (ctx.awaited epoch).isDone now = false)
    (hstart : start.any (· ≤ now) = false)
    (hfirst : earliest [(ctx.awaited epoch).ending, start] = some t) :
    (ctx.run epoch (.due start ())).Resolves now t
      (if (ctx.awaited epoch).isDone t then .error .cancelled else .ok ()) := by
  have hmem : (ctx.awaited epoch).ending = some t ∨ start = some t := by
    simpa [eq_comm] using mem_of_earliest hfirst
  refine ⟨?_, ?_, fun s _ hs => run_due_eq_none (by simpa [hfirst] using hs)⟩
  · rcases hmem with he | rfl
    · exact Nat.le_of_lt (isDone_eq_false_iff.mp hlive t he)
    · exact Nat.le_of_lt (by simpa using hstart)
  · cases hover : (ctx.awaited epoch).isDone t with
    | true => simp [run_eq, hover]
    | false =>
      have hdue : start = some t := by
        refine hmem.resolve_left fun he => ?_
        exact Nat.lt_irrefl t (isDone_eq_false_iff.mp hover t he)
      simp [run_eq, hover, hdue, Future.due]

-- What a wait looks ahead to is what polls of it come to.
theorem settles_await (ctx : Context) (epoch now : Nat) (start : Option Nat) :
    Settles (ctx.run epoch (.due start ())) now ((ctx.awaited epoch).await now start) := by
  have hnow : now ≤ now + patience * Timer.tick := Nat.le_add_right now _
  simp only [await]
  split
  · rename_i hover
    exact .cancelled hnow (Future.resolves_now (by simp [run_eq, hover]))
  rename_i hlive
  rw [Bool.not_eq_true] at hlive
  split
  · rename_i hdue
    exact .ready hnow (Future.resolves_now (by simp [run_eq, hlive, Future.due, hdue]))
  rename_i hdue
  rw [Bool.not_eq_true] at hdue
  split
  · rename_i hfirst
    exact .abandoned fun s _ _ => run_due_eq_none (by simp [hfirst])
  rename_i t hfirst
  have hresolves := resolves_run_due hlive hdue hfirst
  split
  · rename_i hlate
    exact .abandoned fun s hs hle => hresolves.pending s hs (Nat.lt_of_le_of_lt hle hlate)
  rename_i hsoon
  rw [Nat.not_lt] at hsoon
  split
  · rename_i hover
    exact .cancelled hsoon (by simpa [hover] using hresolves)
  · rename_i hlive
    exact .ready hsoon (by simpa [hlive] using hresolves)

theorem await_eq_iff {outcome : Waited × Nat} :
    (ctx.awaited epoch).await now start = outcome ↔
      Settles (ctx.run epoch (.due start ())) now outcome := by
  constructor
  · rintro rfl
    exact settles_await ctx epoch now start
  · exact (settles_await ctx epoch now start).unique

-- At a tie the context is over, a moment before it the work is done.
example : (⟨some 5, none⟩ : Context).await 0 (some 5) = (.cancelled, 5) ∧
    (⟨some 5, none⟩ : Context).await 0 (some 4) = (.ready, 4) := by decide

end Context

end SysExporter.Scrape
