import SysExporter.Proofs.Collection.Report
import SysExporter.Proofs.Scrape.Cursors
import SysExporter.Scrape.Scripted

namespace SysExporter.Collection

open SysExporter.Metric Scrape

-- A scraper and the world in which its turn comes.
structure Stage where
  scraper : Scraper
  start : World

namespace Stage

-- How its own run ends.
def scraped (ctx : Context) (stage : Stage) : Except Halt Unit × World :=
  stage.scraper.scrape ctx stage.start

-- The world once it is reported on.
def reported (ctx : Context) (stage : Stage) : World :=
  (runOne stage.scraper ctx stage.start).2

-- Its own run comes to an end, no later than a report before the horizon.
structure Returns (ctx : Context) (stage : Stage) : Prop where
  returned : (stage.scraped ctx).1 ≠ .error .abandoned
  watched : (stage.scraped ctx).2.now + reportBudget ≤ (stage.scraped ctx).2.horizon

end Stage

-- The turns of a cycle.
def stages (ctx : Context) : List Scraper → World → List Stage
  | [], _ => []
  | s :: rest, w => ⟨s, w⟩ :: stages ctx rest (runOne s ctx w).2

-- What a turn brings: an outcome, what the scraper itself hands over, and what
-- is taken in of the report.
structure Account where
  outcome : Outcome
  own : List Observation
  status : List Observation

def Account.block (account : Account) : List Observation :=
  account.own ++ account.status

-- Whether an account is true of a turn.
structure Stage.Yields (ctx : Context) (stage : Stage) (account : Account) : Prop where
  scraper_eq : account.outcome.scraper = stage.scraper.name
  elapsed_eq : account.outcome.elapsed = (stage.scraped ctx).2.now - stage.start.now
  result_eq : (stage.scraped ctx).1 = account.outcome.result.mapError .failed
  gauges_eq : account.outcome.gauges.map (fun o => (o.descriptor, o.value, o.labelValues)) =
    [(success, if account.outcome.result.isOk then .one else .zero, [stage.scraper.name]),
      (duration, .ofRatio account.outcome.elapsed 1000, [stage.scraper.name])]
  own_eq : (stage.scraped ctx).2.accepted = stage.start.accepted ++ account.own
  status_of_reported :
    Reported account.outcome (stage.scraped ctx).2 (stage.reported ctx) account.status

theorem conclude_ok (outcome : Outcome) {w : World} (h : w.now + reportBudget ≤ w.horizon) :
    ∃ v status, conclude outcome w = (.ok outcome, v) ∧ Reported outcome w v status := by
  obtain ⟨v, status, hreport, hreported⟩ := report_ok outcome h
  exact ⟨v, status, by simp [conclude, hreport], hreported⟩

-- A run that comes to an end has an outcome, whatever it is.
theorem runOne_eq_conclude {s : Scraper} {ctx : Context} {w : World}
    (h : (s.scrape ctx w).1 ≠ .error .abandoned) :
    ∃ outcome : Outcome, runOne s ctx w = conclude outcome (s.scrape ctx w).2 ∧
      outcome.scraper = s.name ∧ outcome.elapsed = (s.scrape ctx w).2.now - w.now ∧
      (s.scrape ctx w).1 = outcome.result.mapError .failed := by
  unfold runOne
  generalize s.scrape ctx w = scraped at h
  obtain ⟨result, v⟩ := scraped
  cases result with
  | ok _ => exact ⟨⟨s.name, v.now - w.now, .ok ()⟩, rfl, rfl, rfl, rfl⟩
  | error halt =>
    cases halt with
    | abandoned => exact absurd rfl h
    | failed e => exact ⟨⟨s.name, v.now - w.now, .error e⟩, rfl, rfl, rfl, rfl⟩

theorem runOne_accounts {s : Scraper} {ctx : Context} {w : World}
    (h : Stage.Returns ctx ⟨s, w⟩) :
    ∃ account v, runOne s ctx w = (.ok account.outcome, v) ∧
      v.accepted = w.accepted ++ account.block ∧ Stage.Yields ctx ⟨s, w⟩ account := by
  obtain ⟨outcome, hrun, hname, helapsed, hresult⟩ := runOne_eq_conclude h.returned
  obtain ⟨v, status, hconclude, hreported⟩ := conclude_ok outcome h.watched
  have hlater := (s.reaches ctx w).later
  have hv : runOne s ctx w = (.ok outcome, v) := hrun.trans hconclude
  refine ⟨⟨outcome, ((s.scrape ctx w).2.since w).accepted, status⟩, v, hv, ?_, ?_⟩
  · rw [hreported.accepted_eq]
    show (s.scrape ctx w).2.accepted ++ status = _
    rw [hlater.accepted_eq, List.append_assoc]
    rfl
  · constructor
    case scraper_eq => exact hname
    case elapsed_eq => exact helapsed
    case result_eq => exact hresult
    case gauges_eq =>
      simp [Outcome.gauges, Outcome.successGauge, Outcome.durationGauge, hname]
    case own_eq => exact hlater.accepted_eq
    case status_of_reported =>
      have hr : Stage.reported ctx ⟨s, w⟩ = v := congrArg Prod.snd hv
      rw [hr]
      exact hreported

theorem runAll_accounts (ctx : Context) (scrapers : List Scraper) (w : World)
    (returns : ∀ stage ∈ stages ctx scrapers w, stage.Returns ctx) :
    ∃ accounts v, runAll ctx scrapers w = (.ok (accounts.map Account.outcome), v) ∧
      v.accepted = w.accepted ++ accounts.flatMap Account.block ∧
      List.Forall₂ (Stage.Yields ctx) (stages ctx scrapers w) accounts := by
  induction scrapers generalizing w with
  | nil => exact ⟨[], w, rfl, by simp, .nil⟩
  | cons s rest ih =>
    have hfirst : Stage.Returns ctx ⟨s, w⟩ := returns _ (by simp [stages])
    obtain ⟨account, v, hrun, haccepted, hyields⟩ := runOne_accounts hfirst
    have hv : (runOne s ctx w).2 = v := congrArg Prod.snd hrun
    have hrest : ∀ stage ∈ stages ctx rest v, stage.Returns ctx := by
      intro stage hstage
      exact returns stage (by simp [stages, hv, hstage])
    obtain ⟨accounts, u, hruns, haccepteds, hforall⟩ := ih v hrest
    refine ⟨account :: accounts, u, by simp [runAll, hrun, hruns], ?_, ?_⟩
    · rw [haccepteds, haccepted, List.append_assoc]
      rfl
    · simp only [stages, hv]
      exact .cons hyields hforall

theorem map_scraper_stages (ctx : Context) (scrapers : List Scraper) (w : World) :
    (stages ctx scrapers w).map Stage.scraper = scrapers := by
  induction scrapers generalizing w with
  | nil => rfl
  | cons s rest ih => simp [stages, ih]

theorem names_of_accounts {ctx : Context} {turns : List Stage} {accounts : List Account}
    (h : List.Forall₂ (Stage.Yields ctx) turns accounts) :
    (accounts.map fun account => account.outcome.scraper) =
      turns.map fun stage => stage.scraper.name := by
  induction h with
  | nil => rfl
  | cons haccount _ ih => simp [haccount.scraper_eq, ih]

-- A cycle reports on all scrapers in order, whatever their outcomes are and
-- whether its own context is over or not.
theorem collect_accounts (r : Registry) (ctx : Context) (w : World)
    (returns : ∀ stage ∈ stages ctx r.scrapers w, stage.Returns ctx) :
    ∃ accounts : List Account,
      (collect r ctx w).1 = .ok (accounts.map Account.outcome) ∧
      (accounts.map fun account => account.outcome.scraper) = r.names ∧
      accounts.length = r.scrapers.length ∧
      (collect r ctx w).2.accepted = w.accepted ++ accounts.flatMap Account.block ∧
      List.Forall₂ (Stage.Yields ctx) (stages ctx r.scrapers w) accounts := by
  obtain ⟨accounts, v, hrun, haccepted, hforall⟩ := runAll_accounts ctx r.scrapers w returns
  have hcollect : collect r ctx w = (.ok (accounts.map Account.outcome), v) := hrun
  have hnames : (accounts.map fun account => account.outcome.scraper) = r.names := by
    rw [names_of_accounts hforall, Registry.names]
    conv_rhs => rw [← map_scraper_stages ctx r.scrapers w]
    simp
  refine ⟨accounts, by rw [hcollect], hnames, ?_, by rw [hcollect]; exact haccepted, hforall⟩
  simpa [Registry.names] using congrArg List.length hnames

-- Under a context that is over from the start both scrapers fail, and both are
-- reported on in full.
theorem collect_accounts_over :
    let ctx : Context := ⟨some 0, none⟩
    let r : Registry := ⟨[scripted "first" ⟨5, 7, 0⟩ [.push .one],
      scripted "second" ⟨5, 7, 0⟩ [.fail .sinkClosed]]⟩
    let w : World := .fresh ⟨4, [], false, by decide⟩ .draining ⟨[], false⟩
    (∀ stage ∈ stages ctx r.scrapers w, stage.Returns ctx) ∧
    ∃ accounts : List Account,
      (collect r ctx w).1 = .ok (accounts.map Account.outcome) ∧
      (accounts.map fun account => account.outcome.scraper) = ["first", "second"] ∧
      (collect r ctx w).2.accepted = accounts.flatMap Account.block := by
  intro ctx r w
  have returns : ∀ stage ∈ stages ctx r.scrapers w, stage.Returns ctx := by
    intro stage hstage
    simp only [r, stages, List.mem_cons, List.not_mem_nil, or_false] at hstage
    rcases hstage with rfl | rfl
    · exact ⟨by decide, by decide⟩
    · exact ⟨by decide, by decide⟩
  obtain ⟨accounts, hresult, hnames, _, haccepted, _⟩ := collect_accounts r ctx w returns
  exact ⟨returns, accounts, hresult, hnames, haccepted⟩

theorem reaches_report (outcome : Outcome) (w : World) : Reaches w (report outcome w).2 [] := by
  have hs : Reaches w (w.push (reportContext w.now) outcome.successGauge).2 [] :=
    Reaches.refl.push _ _
  unfold report
  dsimp only
  split
  · rename_i v hp
    rw [hp] at hs
    exact hs
  · rename_i result v _ hp
    rw [hp] at hs
    have hd := hs.push (reportContext w.now) outcome.durationGauge
    split <;> rename_i hq <;> rw [hq] at hd <;> exact hd

theorem reaches_runOne (s : Scraper) (ctx : Context) (w : World) :
    Reaches w (runOne s ctx w).2 [] := by
  have hs := s.reaches ctx w
  have hconclude (outcome : Outcome) (v : World) : Reaches v (conclude outcome v).2 [] := by
    have hr := reaches_report outcome v
    unfold conclude
    split <;> rename_i hp <;> rw [hp] at hr <;> exact hr
  unfold runOne
  split <;> rename_i hp <;> rw [hp] at hs
  · exact hs
  · exact hs.trans (hconclude _ _)
  · exact hs.trans (hconclude _ _)

-- A cycle does nothing but what scrapers can do, and holds no cursor when it is over.
theorem reaches_runAll (ctx : Context) (scrapers : List Scraper) (w : World) :
    Reaches w (runAll ctx scrapers w).2 [] := by
  induction scrapers generalizing w with
  | nil => exact .refl
  | cons s rest ih =>
    have hs := reaches_runOne s ctx w
    unfold runAll
    split
    · rename_i hp
      rw [hp] at hs
      exact hs
    · rename_i v hp
      rw [hp] at hs
      have hr := hs.trans (ih v)
      split <;> rename_i hq <;> rw [hq] at hr <;> exact hr

-- At every moment exactly the cursors of the streams that are not finished, and
-- of the bare queries, are open. A stream gives up its cursor as soon as it ends
-- in whatever way, and a query that fails does not keep one. So neither a
-- scraper nor a cycle leaves a cursor behind, whatever the results.
theorem openCursors_of_reaches (feed : Source.Feed) {w v : World} {held : List Cursor}
    (h : Reaches { w with source := .ofFeed feed } v held) :
    v.source.openCursors = held.countP Cursor.isOpen ∧
    (∀ (α : Type) (projection : Sql.Projection α) (ctx : Context),
      match RowStream.execute projection ctx v with
      | (.ok s, u) =>
        u.source.openCursors = v.source.openCursors + if s.isFinished then 0 else 1
      | (.error _, u) => u.source.openCursors = v.source.openCursors) ∧
    (∀ (before after : List Cursor) (s : RowStream), held = before ++ .rows s :: after →
      ∀ (α : Type) (projection : Sql.Projection α) (ctx : Context),
      match s.next projection ctx v with
      | ((.ok (some _), t), u) =>
        t.isFinished = false ∧ u.source.openCursors = v.source.openCursors
      | ((.error .abandoned, t), u) => t = s ∧ u.source.openCursors = v.source.openCursors
      | ((_, t), u) =>
        t.isFinished = true ∧ u.source.openCursors = (before ++ after).countP Cursor.isOpen) ∧
    (∀ (s : Scraper) (ctx : Context) (u : World),
      (s.scrape ctx u).2.source.openCursors = u.source.openCursors) ∧
    ∀ (r : Registry) (ctx : Context) (u : World),
      (collect r ctx u).2.source.openCursors = u.source.openCursors := by
  have hv := openCursors_eq_countP h
  refine ⟨hv, ?_, ?_, ?_, ?_⟩
  · intro α projection ctx
    split <;> rename_i he
    · rw [openCursors_eq_countP (h.execute projection ctx he), hv, countP_mid, List.append_nil]
      rw [places_rows, Nat.add_comm]
    · rw [openCursors_eq_countP (h.refused projection ctx he), hv]
  · intro before after s hheld α projection ctx
    subst hheld
    rw [countP_mid] at hv
    have hf := isFinished_next projection ctx s v
    generalize hn : s.next projection ctx v = outcome at hf ⊢
    obtain ⟨⟨result, t⟩, u⟩ := outcome
    have hu := openCursors_eq_countP (h.next projection ctx hn)
    rw [countP_mid] at hu
    cases result with
    | ok row =>
      cases row with
      | some value => exact ⟨hf.2, by rw [hu, hv, places_rows, places_rows, hf.1, hf.2]⟩
      | none =>
        have ht : t.isFinished = true := hf
        exact ⟨ht, by simp [hu, places_rows, ht]⟩
    | error halt =>
      cases halt with
      | abandoned =>
        obtain rfl : t = s := hf
        exact ⟨rfl, by rw [hu, hv]⟩
      | failed e =>
        have ht : t.isFinished = true := hf
        exact ⟨ht, by simp [hu, places_rows, ht]⟩
  · intro s ctx u
    exact (s.reaches ctx u).balanced.openCursors_eq
  · intro r ctx u
    exact (reaches_runAll ctx r.scrapers u).balanced.openCursors_eq

-- A stream whose first row waits keeps its cursor open, next to a bare query.
theorem openCursors_of_reaches_waiting :
    let w : World := .fresh ⟨1, [], false, by decide⟩ .idle ⟨[.ok ⟨[]⟩], true⟩
    let v := (RowStream.execute unit .unbounded (w.issue "")).2
    Reaches w v [.items w.source.feed, .rows ⟨some ⟨[], true⟩, some ⟨[]⟩, 0, fun _ => rfl⟩] ∧
    v.source.openCursors = 2 := by
  intro w v
  have h : Reaches w v
      [.items w.source.feed, .rows ⟨some ⟨[], true⟩, some ⟨[]⟩, 0, fun _ => rfl⟩] :=
    (Reaches.refl.query "").execute unit .unbounded rfl
  exact ⟨h, (openCursors_of_reaches w.source.feed (w := w) h).1⟩

end SysExporter.Collection
