import SysExporter.Duration.Basic

namespace SysExporter

-- Instants are counted on a clock: in nanoseconds on that of the machine, and in
-- milliseconds from its start in a scrape. The earliest of several instants is
-- that of those that are set.
def earliest : List (Option Nat) → Option Nat
  | [] => none
  | none :: rest => earliest rest
  | some t :: rest =>
    match earliest rest with
    | none => some t
    | some s => some (min t s)

theorem earliest_ne_none {times : List (Option Nat)} {s : Nat} (hs : some s ∈ times) :
    earliest times ≠ none := by
  induction times with
  | nil => simp at hs
  | cons head rest ih =>
    cases head with
    | none => exact ih (by simpa using hs)
    | some first =>
      simp only [earliest]
      split <;> simp

theorem earliest_le {times : List (Option Nat)} {t s : Nat} (h : earliest times = some t)
    (hs : some s ∈ times) : t ≤ s := by
  induction times generalizing t with
  | nil => simp at hs
  | cons head rest ih =>
    cases head with
    | none => exact ih h (by simpa using hs)
    | some first =>
      simp only [earliest] at h
      cases hr : earliest rest with
      | none =>
        simp only [hr, Option.some.injEq] at h
        rcases List.mem_cons.mp hs with hs | hs
        · simp only [Option.some.injEq] at hs
          omega
        · exact absurd hr (earliest_ne_none hs)
      | some next =>
        simp only [hr, Option.some.injEq] at h
        rcases List.mem_cons.mp hs with hs | hs
        · simp only [Option.some.injEq] at hs
          omega
        · have := ih hr hs
          omega

theorem mem_of_earliest {times : List (Option Nat)} {t : Nat} (h : earliest times = some t) :
    some t ∈ times := by
  induction times generalizing t with
  | nil => simp [earliest] at h
  | cons head rest ih =>
    cases head with
    | none => exact List.mem_cons_of_mem _ (ih h)
    | some first =>
      simp only [earliest] at h
      split at h
      · simp_all
      · rename_i s hr
        rcases Nat.le_total first s with hle | hle
        · simp_all
        · rw [Nat.min_eq_right hle, Option.some.injEq] at h
          exact List.mem_cons_of_mem _ (ih (h ▸ hr))

theorem any_earliest (a b : Option Nat) (t : Nat) :
    (earliest [a, b]).any (· ≤ t) = (a.any (· ≤ t) || b.any (· ≤ t)) := by
  cases a with
  | none => cases b <;> simp [earliest]
  | some x =>
    cases b with
    | none => simp [earliest]
    | some y =>
      rw [Bool.eq_iff_iff]
      simp only [earliest, Option.any_some, decide_eq_true_eq, Bool.or_eq_true]
      omega

namespace Scrape

-- What bounds a scrape: a deadline and the instant at which it is cancelled.
structure Context where
  deadline : Option Nat
  cancellation : Option Nat
  deriving DecidableEq, Repr

namespace Context

def unbounded : Context := ⟨none, none⟩

-- The instant from which the context is over.
def ending (ctx : Context) : Option Nat :=
  earliest [ctx.deadline, ctx.cancellation]

def isDone (ctx : Context) (now : Nat) : Bool :=
  ctx.ending.any (· ≤ now)

theorem isDone_iff_ending {ctx : Context} {t : Nat} :
    ctx.isDone t = true ↔ ∃ e, ctx.ending = some e ∧ e ≤ t := by
  simp [isDone, Option.any_eq_true]

theorem isDone_eq_false_iff {ctx : Context} {t : Nat} :
    ctx.isDone t = false ↔ ∀ e, ctx.ending = some e → t < e := by
  rw [← Bool.not_eq_true, isDone_iff_ending]
  simp

-- A context that is over stays over.
theorem isDone_mono {ctx : Context} {s t : Nat} (h : s ≤ t) (hs : ctx.isDone s = true) :
    ctx.isDone t = true := by
  obtain ⟨e, he, hes⟩ := isDone_iff_ending.mp hs
  exact isDone_iff_ending.mpr ⟨e, he, Nat.le_trans hes h⟩

-- Whichever comes first ends a context, at the very instant at which it comes.
theorem lt_of_isDone_eq_false {ctx : Context} {now t : Nat} (h : ctx.isDone now = false)
    (ht : ctx.deadline = some t ∨ ctx.cancellation = some t) : now < t := by
  simp only [isDone, ending, any_earliest, Bool.or_eq_false_iff] at h
  rcases ht with ht | ht
  · simpa [ht] using h.1
  · simpa [ht] using h.2

-- An earlier deadline is kept.
def withDeadline (ctx : Context) (t : Nat) : Context :=
  { ctx with deadline := earliest [ctx.deadline, some t] }

end Context

end Scrape

def Duration.inNanos (d : Duration) : Nat :=
  1000000000 * d.seconds + d.nanos

-- The clock of the machine counts seconds up to 2 ^ 63. An instant past that
-- cannot be told.
def after? (now : Nat) (d : Duration) : Option Nat :=
  if now + d.inNanos < Nat.pow 2 63 * 1000000000 then some (now + d.inNanos) else none

def Scrape.Context.withTimeout? (ctx : Context) (now : Nat) (d : Duration) : Option Context :=
  (after? now d).map ctx.withDeadline

-- The text of the failure to tell such an instant.
def instantOverflow : String := "overflow when adding duration to instant"

end SysExporter
