import SysExporter.Proofs.Collection.Cycle
import SysExporter.Proofs.Scrape.Course
import SysExporter.Proofs.Scrape.Shift
import SysExporter.Proofs.Statement.Series

namespace SysExporter.Collection

open SysExporter.Metric Scrape Statement

-- A reader that drains the channel gets both gauges of a report.
theorem report_drained (outcome : Outcome) {w : World} (drains : w.reader.Drains)
    (unclosed : w.channel.closed = false) :
    ∃ v, report outcome w = (.ok (), v) ∧ v.accepted = w.accepted ++ outcome.gauges := by
  have hlive : (reportContext w.now).isDone w.now = false := by
    have hlt : w.now < w.now + reportBudget := Nat.lt_add_of_pos_right (by decide)
    rw [isDone_reportContext]
    exact decide_eq_false (Nat.not_le.mpr hlt)
  obtain ⟨hcalm, hok⟩ := calm_push hlive drains unclosed outcome.successGauge
  have hsent := accepted_of_push_ok hok
  generalize hp : w.push (reportContext w.now) outcome.successGauge = pushed at hcalm hok hsent
  obtain ⟨first, v⟩ := pushed
  have hlive' : (reportContext w.now).isDone v.now = false := by
    rw [hcalm.now_eq]
    exact hlive
  obtain ⟨-, hok'⟩ := calm_push hlive' (hcalm.reader_eq ▸ drains) (hcalm.open_of_open unclosed)
    outcome.durationGauge
  have hsent' := accepted_of_push_ok hok'
  generalize hq : v.push (reportContext w.now) outcome.durationGauge = pushed at hok' hsent'
  obtain ⟨second, u⟩ := pushed
  obtain rfl : first = .ok () := hok
  obtain rfl : second = .ok () := hok'
  refine ⟨u, report_eq hp (by simp) hq (by simp), ?_⟩
  rw [hsent', hsent, List.append_assoc]
  rfl

theorem runOne_drained {s : Scraper} {ctx : Context} {w : World} (drains : w.reader.Drains)
    (unclosed : w.channel.closed = false) (returned : (s.scrape ctx w).1 ≠ .error .abandoned) :
    ∃ outcome v, runOne s ctx w = (.ok outcome, v) ∧
      v.accepted = (s.scrape ctx w).2.accepted ++ outcome.gauges := by
  obtain ⟨outcome, hrun, -, -, -⟩ := runOne_eq_conclude returned
  have hattended := (invariant_attended drains).reaches (s.reaches ctx w) (attended w unclosed)
  obtain ⟨v, hreport, hsent⟩ := report_drained outcome (hattended.1 ▸ drains) hattended.2
  exact ⟨outcome, v, by rw [hrun, conclude, hreport], hsent⟩

-- A silent source is waited for until the run is given up.
theorem scrape_silent {ctx : Context} (unending : ctx.ending = none) {w : World}
    (drains : w.reader.Drains) (unclosed : w.channel.closed = false)
    (silent : (readAll projection w.source.feed.stalls 1 w.source.feed.items).2 = none) :
    ∃ v sent, scraper.scrape ctx w = (.error .abandoned, v) ∧ v.accepted = w.accepted ++ sent ∧
      sent <+: (summaries w.source.feed.items).flatMap Summary.observations := by
  have hattended :=
    (invariant_attended drains).reaches (scraper.reaches ctx w) (attended w unclosed)
  have hd := scrapeRows_delivers projection Summary.observations ctx w
  rw [readAll_eq_summaries, silent] at hd
  change Delivery ctx _ _ w (scraper.scrape ctx w) at hd
  generalize scraper.scrape ctx w = outcome at hattended hd
  cases hd with
  | complete _ ends => simp at ends
  | @cut v halt sent hsent first cut =>
    have hopen : v.channel.closed = false := hattended.2
    cases cut with
    | cancelled done => simp [isDone_of_unending unending] at done
    | closed gone => simp [hopen] at gone
    | abandoned _ _ => exact ⟨v, sent, rfl, hsent, first⟩

theorem stalls_of_silent {items : List Source.Item} {stalls : Bool}
    (silent : (readAll projection stalls 1 items).2 = none) : stalls = true := by
  rcases readAll_finish projection stalls 1 items with ⟨-, hf⟩ | ⟨_, -, hf⟩ | ⟨_, _, -, -, hf⟩
  · simpa [silent] using hf
  · simp [silent] at hf
  · simp [silent] at hf

-- A cycle that nothing ends hands over all rows that can be read and the report on
-- them. Only if the source falls silent it is given up, and then it has handed over
-- the beginning of these rows.
theorem collect_drained {ctx : Context} (unending : ctx.ending = none) {w : World}
    (drains : w.reader.Drains) (unclosed : w.channel.closed = false) (watched : w.now < w.horizon) :
    let all := (summaries w.source.feed.items).flatMap Summary.observations
    let run := collect .builtin ctx w
    (∃ outcome, run.1 = .ok [outcome] ∧
      run.2.accepted = w.accepted ++ (all ++ outcome.gauges)) ∨
    (w.source.feed.stalls = true ∧ run.1 = .error .abandoned ∧
      ∃ sent, run.2.accepted = w.accepted ++ sent ∧ sent <+: all) := by
  intro all run
  have hrun : run = runAll ctx [scraper] w := rfl
  cases hfinish : (readAll projection w.source.feed.stalls 1 w.source.feed.items).2 with
  | some result =>
    obtain ⟨hresult, hsent⟩ :=
      scrapeRows_drained projection Summary.observations unending drains unclosed watched hfinish
    rw [readAll_eq_summaries] at hsent
    have hreturned : (scraper.scrape ctx w).1 ≠ .error .abandoned := by
      intro habandoned
      exact mapError_failed_ne result (hresult.symm.trans habandoned)
    obtain ⟨outcome, v, hone, hreported⟩ := runOne_drained drains unclosed hreturned
    refine .inl ⟨outcome, by simp [hrun, runAll, hone], ?_⟩
    have hworld : run.2 = v := by simp [hrun, runAll, hone]
    rw [hworld, hreported, ← List.append_assoc]
    exact congrArg (· ++ outcome.gauges) hsent
  | none =>
    obtain ⟨v, sent, hscrape, hsent, hfirst⟩ := scrape_silent unending drains unclosed hfinish
    have hone : runOne scraper ctx w = (.error .abandoned, v) := by rw [runOne, hscrape]
    have hall : run = (.error .abandoned, v) := by simp [hrun, runAll, hone]
    exact .inr ⟨stalls_of_silent hfinish, by rw [hall], sent, by rw [hall, hsent], hfirst⟩

theorem received_settle {fuel : Nat} {w : World} (drains : w.reader.Drains) (h : Orderly w)
    (unclosed : w.channel.closed = false) : (settle (fuel + 1) w).received = w.accepted := by
  obtain ⟨hcalm, hempty⟩ := calm_turn drains unclosed
  have hkept := (Orderly.invariant.toUndisturbed.turn h).kept (hcalm.open_of_open unclosed)
  have hreceived : w.turn.received = w.accepted := by
    rw [World.conveyed, hempty, List.append_nil] at hkept
    exact hkept.trans (waits_turn w).accepted_same
  unfold settle
  dsimp only
  split
  · exact hreceived
  · rw [hempty]
    exact hreceived

-- When a reader that drains an open channel is done it has all that was taken in.
theorem received_finish {reader : Reader} (drains : reader.Drains) {w : World} (h : Orderly w)
    (unclosed : w.channel.closed = false) : (finish reader w).received = w.accepted :=
  received_settle drains ⟨h.first, h.kept, h.bounded⟩ unclosed

-- So nothing that a cycle takes in is lost on such a reader.
theorem received_collect {capacity : Nat} {channel : Channel}
    (created : Channel.create? capacity = some channel) {reader : Reader} (drains : reader.Drains)
    (r : Registry) (ctx : Context) (feed : Source.Feed) :
    let run := collect r ctx (.fresh channel reader feed)
    (finish reader run.2).received = run.2.accepted := by
  intro run
  obtain ⟨hopen, horderly⟩ := Orderly.fresh created reader feed
  have hreach : Reaches (.fresh channel reader feed) run.2 [] := reaches_runAll ctx r.scrapers _
  have hattended := (invariant_attended drains).reaches hreach (attended _ hopen)
  exact received_finish drains (Orderly.invariant.reaches hreach horderly) hattended.2

theorem plain_success : success.Plain :=
  Descriptor.plain_of_isPlain (by decide)

theorem plain_duration : duration.Plain :=
  Descriptor.plain_of_isPlain (by decide)

theorem plain_gauges (outcome : Outcome) : ∀ o ∈ outcome.gauges, o.descriptor.Plain := by
  intro o ho
  simp only [Outcome.gauges, List.mem_cons, List.not_mem_nil, or_false] at ho
  rcases ho with rfl | rfl
  · exact plain_success
  · exact plain_duration

-- The gauges of a report are no counters.
theorem name_descriptor_ne (c : Counter) :
    c.descriptor.name ≠ success.name ∧ c.descriptor.name ≠ duration.name := by
  cases c <;> decide

theorem nodup_series_report {values : List Summary} (distinct : (values.map Summary.subject).Nodup)
    (outcome : Outcome) :
    ((values.flatMap Summary.observations ++ outcome.gauges).map Observation.series).Nodup := by
  have hgauges : (outcome.gauges.map Observation.series).Nodup := by
    refine .of_map Prod.fst ?_
    have hnames : (outcome.gauges.map Observation.series).map Prod.fst =
        [success.name, duration.name] := rfl
    rw [hnames]
    decide
  rw [List.map_append, List.nodup_append]
  refine ⟨nodup_series_observations distinct, hgauges, fun series hcounter gauge hgauge heq => ?_⟩
  obtain ⟨o, ho, rfl⟩ := List.mem_map.mp hcounter
  obtain ⟨value, -, ho⟩ := List.mem_flatMap.mp ho
  obtain ⟨c, rfl⟩ := exists_of_mem_observations ho
  have hname : c.descriptor.name = gauge.1 := congrArg Prod.fst heq
  simp only [Outcome.gauges, List.map_cons, List.map_nil, List.mem_cons, List.not_mem_nil,
    or_false] at hgauge
  rcases hgauge with rfl | rfl
  · exact (name_descriptor_ne c).1 hname
  · exact (name_descriptor_ne c).2 hname

-- Whatever accounts and statements are called, as long as no two rows are about the
-- same ones, no series is there twice in the text of a cycle, be it as it is read or
-- as it is written. Each family is there once, with the two headers of its own over
-- its samples.
theorem collect_series {capacity : Nat} {channel : Channel}
    (created : Channel.create? capacity = some channel) {reader : Reader} (drains : reader.Drains)
    {ctx : Context} (unending : ctx.ending = none) {script : Source.Script}
    (distinct : ((script.rows.filterMap fun row => summary? (.ok row)).map Summary.subject).Nodup) :
    let all := (summaries script.items).flatMap Summary.observations
    let run := collect .builtin ctx (.fresh channel reader script.feed)
    let delivered := (finish reader run.2).received
    ((∃ outcome, run.1 = .ok [outcome] ∧ delivered = all ++ outcome.gauges) ∨
      (script.stalls = true ∧ run.1 = .error .abandoned ∧ delivered <+: all)) ∧
    ∃ text, render delivered = .ok text ∧
      let lines := text.toList.splitOn '\n'
      let samples := lines.filter isSample
      (samples.map readSeries).Perm ((delivered.map Observation.series).map some) ∧
      (samples.map readSeries).Nodup ∧ (samples.map seriesText).Nodup ∧
      (∃ names : List String, names.Nodup ∧
        (∀ name, name ∈ names ↔ ∃ o ∈ delivered, o.descriptor.name = name) ∧
        lines.filterMap readHeader =
          names.flatMap fun name => [("HELP", name), ("TYPE", name)]) ∧
      Grouped none lines := by
  intro all run delivered
  have hopen := (Orderly.fresh created reader script.feed).1
  have hdelivered : delivered = run.2.accepted :=
    received_collect created drains .builtin ctx script.feed
  have hends : (∃ outcome, run.1 = .ok [outcome] ∧ delivered = all ++ outcome.gauges) ∨
      (script.stalls = true ∧ run.1 = .error .abandoned ∧ delivered <+: all) := by
    rw [hdelivered]
    have hwatched : 0 < patience := by decide
    rcases collect_drained unending (w := .fresh channel reader script.feed) drains hopen hwatched
      with hall | ⟨hstalls, hgiven, sent, hsent, hfirst⟩
    · exact .inl hall
    · exact .inr ⟨hstalls, hgiven, hsent ▸ hfirst⟩
  have hdistinct : ((summaries script.items).map Summary.subject).Nodup :=
    ((summaries_sublist script).map _).nodup distinct
  have hsound : (∀ o ∈ delivered, o.descriptor.Plain) ∧
      (delivered.map Observation.series).Nodup := by
    rcases hends with ⟨outcome, -, heq⟩ | ⟨-, -, hfirst⟩
    · rw [heq]
      refine ⟨fun o ho => ?_, nodup_series_report hdistinct outcome⟩
      exact (List.mem_append.mp ho).elim (plain_observations _ o) (plain_gauges outcome o)
    · exact ⟨fun o ho => plain_observations _ o (hfirst.subset ho),
        (hfirst.sublist.map _).nodup (nodup_series_observations hdistinct)⟩
  obtain ⟨text, hrender, hperm, hnodup, hnames, hgrouped⟩ := render_series hsound.1
  obtain ⟨hread, hwritten⟩ := hnodup hsound.2
  exact ⟨hends, text, hrender, hperm, hread, hwritten, hnames, hgrouped⟩

-- A row in which every count is one.
def quotedRow (user statement : String) : Sql.Row :=
  ⟨.text user :: .text statement :: List.replicate 8 (.uint 1)⟩

theorem collect_series_quoted :
    let channel : Channel := ⟨1, [], false, by decide⟩
    let script : Source.Script :=
      ⟨[quotedRow "a\"" "b", quotedRow "a" "\"b"], none, none, false⟩
    let run := collect .builtin .unbounded (.fresh channel .draining script.feed)
    let delivered := (finish .draining run.2).received
    Channel.create? 0 = some channel ∧ Reader.draining.Drains ∧ Context.unbounded.ending = none ∧
    ((script.rows.filterMap fun row => summary? (.ok row)).map Summary.subject).Nodup ∧
    ∃ text, render delivered = .ok text ∧
      ((text.toList.splitOn '\n').filter isSample).length = 2 * 8 + 2 := by
  intro channel script run delivered
  have created : Channel.create? 0 = some channel := rfl
  have unending : Context.unbounded.ending = none := rfl
  have distinct :
      ((script.rows.filterMap fun row => summary? (.ok row)).map Summary.subject).Nodup := by
    decide
  obtain ⟨hends, text, hrender, hperm, -⟩ :=
    collect_series created drains_draining unending distinct
  refine ⟨created, drains_draining, unending, distinct, text, hrender, ?_⟩
  have hlength : delivered.length = 2 * 8 + 2 := by
    rcases hends with ⟨outcome, -, heq⟩ | ⟨hstalls, -⟩
    · have hvalues : (summaries script.items).length = 2 := by decide
      have hgauges : outcome.gauges.length = 2 := rfl
      have heq : delivered = _ := heq
      rw [heq, List.length_append, length_flatMap_observations, hvalues, hgauges]
    · simp [script] at hstalls
  have hsamples := hperm.length_eq
  simp only [List.length_map] at hsamples
  exact hsamples.trans hlength

end SysExporter.Collection
