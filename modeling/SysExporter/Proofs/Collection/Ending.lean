import SysExporter.Collection
import SysExporter.Proofs.Scrape.Course

namespace SysExporter

open Scrape

-- A scraper that waits within the context that it is given and in no other way.
def Scraper.Obedient (s : Scraper) : Prop :=
  ∀ ctx w, Course ctx w (s.scrape ctx w)

theorem Statement.obedient_scraper : Statement.scraper.Obedient :=
  Course.scrapeRows Statement.projection Statement.Summary.observations

namespace Collection

-- Both gauges share the second that begins with the report.
theorem prompt_report (outcome : Outcome) (w : World) :
    Prompt (w.now + reportBudget) w (report outcome w) := by
  have hover : (reportContext w.now).isDone (w.now + reportBudget) = true := by
    simp [reportContext, Context.isDone, Context.ending, earliest]
  have hfirst := prompt_push hover outcome.successGauge w
  unfold report
  dsimp only
  generalize w.push (reportContext w.now) outcome.successGauge = pushed at hfirst
  obtain ⟨first, v⟩ := pushed
  have hboth := hfirst.trans (prompt_push hover outcome.durationGauge v)
  split
  · rename_i hp
    obtain ⟨rfl, rfl⟩ := Prod.mk.inj hp
    exact hfirst.map rfl rfl id
  · rename_i hp
    obtain ⟨-, rfl⟩ := Prod.mk.inj hp
    split <;> rename_i hq <;> rw [hq] at hboth
    · exact hboth.map rfl rfl id
    · exact hboth.map rfl rfl (by simp)

theorem prompt_conclude (outcome : Outcome) (w : World) :
    Prompt (w.now + reportBudget) w (conclude outcome w) := by
  have hr := prompt_report outcome w
  unfold conclude
  split <;> rename_i hp <;> rw [hp] at hr
  · exact hr.map rfl rfl (by simp)
  · exact hr.map rfl rfl (by simp)

section

variable {ctx : Context} {limit : Nat} (hover : ctx.isDone limit = true)
include hover

theorem prompt_runOne {s : Scraper} (hs : s.Obedient) (w : World) :
    Prompt (max w.now limit + reportBudget) w (runOne s ctx w) := by
  have hrun := (hs ctx w).prompt hover
  have hend := hrun.now_le
  have hlate : limit ≤ max w.now limit + reportBudget := by omega
  unfold runOne
  generalize s.scrape ctx w = scraped at hrun hend
  obtain ⟨result, v⟩ := scraped
  have hconclude (outcome : Outcome) :
      Prompt (max w.now limit + reportBudget) v (conclude outcome v) :=
    (prompt_conclude outcome v).mono (Nat.add_le_add_right hend reportBudget)
  match result with
  | .error .abandoned => exact (hrun.mono hlate).map rfl rfl (fun _ => rfl)
  | .error (.failed e) => exact (hrun.mono hlate).trans (hconclude _)
  | .ok () => exact (hrun.mono hlate).trans (hconclude _)

-- The end of the context counts once for all scrapers, a report once for each.
theorem prompt_runAll {scrapers : List Scraper} (hall : ∀ s ∈ scrapers, s.Obedient) (w : World) :
    Prompt (max w.now limit + scrapers.length * reportBudget) w (runAll ctx scrapers w) := by
  induction scrapers generalizing w with
  | nil => exact .of_now_eq rfl rfl (by simp)
  | cons s rest ih =>
    have hone := prompt_runOne hover (hall s (by simp)) w
    have hend := hone.now_le
    have hsum : (s :: rest).length * reportBudget = rest.length * reportBudget + reportBudget := by
      rw [List.length_cons, Nat.succ_mul]
    have hone := hone.mono
      (show _ ≤ max w.now limit + (s :: rest).length * reportBudget by omega)
    unfold runAll
    generalize runOne s ctx w = ran at hone hend
    obtain ⟨result, v⟩ := ran
    cases result with
    | error halt => exact hone.map rfl rfl (by simp)
    | ok outcome =>
      have hrest := (ih (fun t ht => hall t (by simp [ht])) v).mono
        (show _ ≤ max w.now limit + (s :: rest).length * reportBudget by
          simp only at hend; omega)
      have hboth := hone.trans hrest
      dsimp only
      split <;> rename_i hq <;> rw [hq] at hboth
      · exact hboth.map rfl rfl (by simp)
      · exact hboth.map rfl rfl (by simp)

end

-- A report fails in no other way than by being given up, and so does a cycle.
theorem report_returns (outcome : Outcome) (w : World) :
    (report outcome w).1 = .ok () ∨ (report outcome w).1 = .error .abandoned := by
  unfold report
  dsimp only
  split
  · exact .inr rfl
  · split
    · exact .inr rfl
    · exact .inl rfl

theorem conclude_returns (outcome : Outcome) (w : World) :
    (conclude outcome w).1 = .ok outcome ∨ (conclude outcome w).1 = .error .abandoned := by
  have hr := report_returns outcome w
  unfold conclude
  split <;> rename_i hp <;> rw [hp] at hr
  · exact .inr (by simpa using hr)
  · exact .inl rfl

theorem runOne_returns (s : Scraper) (ctx : Context) (w : World) :
    (∃ outcome, (runOne s ctx w).1 = .ok outcome) ∨ (runOne s ctx w).1 = .error .abandoned := by
  unfold runOne
  split
  · exact .inr rfl
  · exact (conclude_returns _ _).imp_left fun h => ⟨_, h⟩
  · exact (conclude_returns _ _).imp_left fun h => ⟨_, h⟩

theorem runAll_returns (ctx : Context) (scrapers : List Scraper) (w : World) :
    (∃ outcomes, (runAll ctx scrapers w).1 = .ok outcomes) ∨
      (runAll ctx scrapers w).1 = .error .abandoned := by
  induction scrapers generalizing w with
  | nil => exact .inl ⟨[], rfl⟩
  | cons s rest ih =>
    have hone := runOne_returns s ctx w
    unfold runAll
    split <;> rename_i hp <;> rw [hp] at hone
    · exact .inr (by simpa using hone)
    · rename_i outcome v
      have hrest := ih v
      split <;> rename_i hq <;> rw [hq] at hrest
      · exact .inr (by simpa using hrest)
      · exact .inl ⟨_, rfl⟩

-- Neither a run nor a cycle outlives its context: a run is over when the context
-- is, and a cycle a second later for each of its scrapers. Whoever watches that
-- long sees both come to an end, however long the source stays silent and
-- whatever the reader does.
theorem collect_ends (ctx : Context) (ending : Nat) (hending : ctx.ending = some ending)
    (w : World) :
    (Statement.scraper.scrape ctx w).2.now ≤ max w.now ending ∧
    (ending ≤ w.horizon → (Statement.scraper.scrape ctx w).1 ≠ .error .abandoned) ∧
    Statement.scraper.Obedient ∧
    ∀ r : Registry, (∀ s ∈ r.scrapers, s.Obedient) →
      let run := collect r ctx w
      let latest := max w.now ending + r.scrapers.length * 1000
      run.2.now ≤ latest ∧ (latest ≤ w.horizon → ∃ outcomes, run.1 = .ok outcomes) := by
  have hover : ctx.isDone ending = true := isDone_of_ending hending
  have hscrape := (Statement.obedient_scraper ctx w).prompt hover
  refine ⟨hscrape.now_le, hscrape.returned, Statement.obedient_scraper, ?_⟩
  intro r hall run latest
  have hrun := prompt_runAll hover hall w
  have hreturns := runAll_returns ctx r.scrapers w
  refine ⟨?_, fun hwatched => hreturns.resolve_right (hrun.returned hwatched)⟩
  have hstart : w.now ≤ latest := Nat.le_trans (Nat.le_max_left _ _) (Nat.le_add_right _ _)
  exact Nat.le_trans hrun.now_le (Nat.max_le.mpr ⟨hstart, Nat.le_refl _⟩)

-- A source that stays silent and a reader that receives nothing do not keep a
-- cycle from its end.
theorem collect_ends_silent :
    let ctx : Context := ⟨some 50, some 70⟩
    let w : World := .fresh ⟨1, [], false, by decide⟩ .idle ⟨[], true⟩
    ctx.ending = some 50 ∧ (∀ s ∈ Registry.builtin.scrapers, s.Obedient) ∧
    1050 ≤ w.horizon ∧ (collect .builtin ctx w).2.now ≤ 1050 ∧
    ∃ outcomes, (collect .builtin ctx w).1 = .ok outcomes := by
  intro ctx w
  have hending : ctx.ending = some 50 := rfl
  have hall : ∀ s ∈ Registry.builtin.scrapers, s.Obedient := by
    intro s hs
    obtain rfl : s = Statement.scraper := by simpa [Registry.builtin] using hs
    exact Statement.obedient_scraper
  have hwatched : 1050 ≤ w.horizon := by decide
  obtain ⟨hnow, hreturns⟩ := (collect_ends ctx 50 hending w).2.2.2 .builtin hall
  exact ⟨hending, hall, hwatched, hnow, hreturns hwatched⟩

end Collection

end SysExporter
