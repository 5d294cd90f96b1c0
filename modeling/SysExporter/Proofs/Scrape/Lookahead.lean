import SysExporter.Proofs.Scrape.Pace

namespace SysExporter.Scrape

open SysExporter.Metric Sql

section

variable {α : Type} (projection : Projection α) (observe : α → List Observation) (ctx : Context)

-- What runs have in common that begin with the same items: they do not get past
-- these and are the same altogether, or they have all read them with the same
-- effects when they request the next one.
inductive Shared (n : Nat) (items : List Source.Item) (w : World) : Prop where
  | alike {outcome : Except Halt Unit × World}
      (requests : outcome.2.history.requests ≤ w.history.requests + items.length)
      (same : ∀ stalls later,
        iterate projection observe ctx stalls n (items ++ later) w = outcome)
  | apart {v : World} (later : Later w v) (live : ctx.isDone v.now = false)
      (requests : v.history.requests = w.history.requests + items.length)
      (same : ∀ stalls later, iterate projection observe ctx stalls n (items ++ later) w =
        iterate projection observe ctx stalls (n + items.length) later v)

variable {projection observe ctx}

-- The round of a row that is handed on in full.
theorem Shared.row {row : Row} {value : α} {rest : List Source.Item} {w v : World} {n : Nat}
    (live : ctx.isDone w.now = false) (read : projection.read row = .ok value)
    (sent : pushAll ctx (observe value) (w.record .requested) = (.ok (), v))
    (h : Shared projection observe ctx (n + 1) rest v) :
    Shared projection observe ctx n (.ok row :: rest) w := by
  have hround (stalls : Bool) (later : List Source.Item) :
      iterate projection observe ctx stalls n (.ok row :: rest ++ later) w =
        iterate projection observe ctx stalls (n + 1) (rest ++ later) v := by
    simp [iterate, live, read, sent]
  have hv : Later w v := by
    have hp := later_pushAll ctx (observe value) (w.record .requested)
    rw [sent] at hp
    exact (later_request w).trans hp
  have hone : v.history.requests = w.history.requests + 1 := by
    have hp := requests_pushAll ctx (observe value) (w.record .requested)
    rw [sent] at hp
    exact hp.trans (History.requests_request w.now w.history)
  cases h with
  | alike requests same =>
    refine .alike ?_ fun stalls later => (hround stalls later).trans (same stalls later)
    rw [List.length_cons]
    omega
  | apart later live requests same =>
    refine .apart (hv.trans later) live ?_ fun stalls others => ?_
    · rw [List.length_cons]
      omega
    · rw [hround, same, List.length_cons, Nat.add_assoc, Nat.add_comm 1]

end

end SysExporter.Scrape
