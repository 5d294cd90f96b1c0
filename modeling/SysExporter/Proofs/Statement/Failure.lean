import SysExporter.MySql.Session
import SysExporter.Proofs.Scrape.Draining
import SysExporter.Proofs.Statement.Output

namespace SysExporter.Statement

open SysExporter.Metric Scrape

-- What a failure of the query says for a run: it comes right after the rows that
-- can be read, and their observations were all handed over before.
theorem item_of_scrape_query {ctx : Context} {w : World} {text : String}
    (h : (scraper.scrape ctx w).1 = .error (.failed (.query text))) :
    let values := summaries w.source.feed.items
    w.source.feed.items[values.length]? = some (.error (.query text)) ∧
    (scraper.scrape ctx w).2.accepted = w.accepted ++ values.flatMap Summary.observations := by
  intro values
  have hd := scrapeRows_delivers projection Summary.observations ctx w
  have hf := readAll_finish projection w.source.feed.stalls 1 w.source.feed.items
  simp only [readAll_eq_summaries] at hd hf
  change Delivery ctx (values.flatMap Summary.observations) _ w (scraper.scrape ctx w) at hd
  generalize scraper.scrape ctx w = run at h hd
  cases hd with
  | cut sent first cut =>
    cases cut <;> simp at h
  | complete sent ends =>
    subst h
    refine ⟨?_, sent⟩
    rcases hf with ⟨-, hf⟩ | ⟨fault, hitem, hf⟩ | ⟨row, reason, -, -, hf⟩ <;> rw [hf] at ends
    · cases hstalls : w.source.feed.stalls <;> simp [hstalls, Except.mapError] at ends
    · cases fault with
      | query other =>
        obtain rfl : other = text := by
          simpa [ScrapeError.ofSource, Except.mapError] using ends
        exact hitem
      | decode reason => simp [ScrapeError.ofSource, Except.mapError] at ends
    · simp [Except.mapError] at ends

-- In the other direction the run has to get as far as the failure.
theorem scrape_query_of_item {ctx : Context} {w : World} {text : String}
    (unending : ctx.ending = none) (drains : w.reader.Drains) (unclosed : w.channel.closed = false)
    (watched : w.now < w.horizon)
    (h : w.source.feed.items[(summaries w.source.feed.items).length]? =
      some (.error (.query text))) :
    (scraper.scrape ctx w).1 = .error (.failed (.query text)) := by
  have hf := readAll_finish projection w.source.feed.stalls 1 w.source.feed.items
  simp only [readAll_eq_summaries] at hf
  rcases hf with ⟨hl, -⟩ | ⟨fault, hitem, hf⟩ | ⟨row, reason, hitem, -, -⟩
  · simp [← hl] at h
  · rw [h] at hitem
    obtain rfl : .query text = fault := by simpa using hitem
    exact scrapeRows_completes projection Summary.observations unending drains unclosed watched hf
  · simp [h] at hitem

theorem summaries_eq_nil_of_fault {items : List Source.Item} {fault : Source.Fault}
    (h : items.head? = some (.error fault)) : summaries items = [] := by
  obtain ⟨rest, rfl⟩ := List.head?_eq_some_iff.mp h
  rfl

-- Under a context that never ends and with a reader that receives everything a
-- run fails as a query exactly if the rows that can be read are followed by that
-- failure. Their observations are not taken back: nothing is handed over only if
-- the failure comes first.
theorem scrape_query_iff {ctx : Context} {w : World} (unending : ctx.ending = none)
    (drains : w.reader.Drains) (unclosed : w.channel.closed = false)
    (watched : w.now < w.horizon) (text : String) :
    let items := w.source.feed.items
    let values := summaries items
    let run := scraper.scrape ctx w
    (run.1 = .error (.failed (.query text)) ↔
      items[values.length]? = some (.error (.query text))) ∧
    (run.1 = .error (.failed (.query text)) →
      run.2.accepted = w.accepted ++ values.flatMap Summary.observations ∧
      (run.2.accepted = w.accepted ↔ items.head? = some (.error (.query text)))) := by
  intro items values run
  refine ⟨⟨fun h => (item_of_scrape_query h).1,
    scrape_query_of_item unending drains unclosed watched⟩, fun h => ?_⟩
  obtain ⟨hitem, haccepted⟩ := item_of_scrape_query h
  refine ⟨haccepted, fun hnothing => ?_, fun hfirst => ?_⟩
  · have hall : values.flatMap Summary.observations = [] := by
      rw [hnothing] at haccepted
      simpa using haccepted.symm
    have hlength := length_flatMap_observations values
    have hnone : values.length = 0 := by
      rw [hall, List.length_nil] at hlength
      omega
    change items[values.length]? = _ at hitem
    rw [hnone] at hitem
    rw [List.head?_eq_getElem?, hitem]
  · have hnone : summaries w.source.feed.items = [] := summaries_eq_nil_of_fault hfirst
    simpa [hnone] using haccepted

-- A connection to a server that gives one row and then refuses to go on.
def interruptedPool : MySql.Pool where
  network _ := .ok {
    version := .given [] [] none
    answer := .given
      (List.replicate 2 ⟨.varString, false, false, 20⟩ ++
        List.replicate 8 ⟨.longLong, true, false, 20⟩)
      [[some [97, 112, 112], some [99, 97, 108, 108]] ++ List.replicate 8 (some [1])]
      (some ⟨1317, "70100", "Query execution was interrupted"⟩) }
  options := .default
  maxConnections := 3
  patience := .ofSeconds 10
  size := 1
  isClosed := false
  positive := by decide

-- What the run over this connection begins with.
def interruptedWorld : World :=
  .fresh ⟨64, [], false, by decide⟩ .draining ⟨interruptedPool.items, false⟩

def interruption : String :=
  "error returned from database: 1317 (70100): Query execution was interrupted"

theorem item_interrupted :
    interruptedWorld.source.feed.items[(summaries interruptedWorld.source.feed.items).length]? =
      some (.error (.query interruption)) := by
  decide

-- A query that fails after the first row has handed over eight observations.
theorem scrape_interrupted :
    (scraper.scrape .unbounded interruptedWorld).1 = .error (.failed (.query interruption)) ∧
    (scraper.scrape .unbounded interruptedWorld).2.accepted.length = 8 := by
  have hending : Context.unbounded.ending = none := rfl
  have hquery :=
    scrape_query_of_item hending drains_draining rfl (by decide) item_interrupted
  obtain ⟨-, haccepted⟩ := item_of_scrape_query hquery
  have hvalues : (summaries interruptedWorld.source.feed.items).length = 1 := by decide
  refine ⟨hquery, ?_⟩
  rw [haccepted, List.length_append, length_flatMap_observations, hvalues]
  rfl

theorem scrape_query_iff_interrupted :
    Context.unbounded.ending = none ∧ interruptedWorld.reader.Drains ∧
    interruptedWorld.channel.closed = false ∧
    interruptedWorld.now < interruptedWorld.horizon ∧
    (scraper.scrape .unbounded interruptedWorld).2.accepted ≠ interruptedWorld.accepted := by
  have unending : Context.unbounded.ending = none := rfl
  have watched : interruptedWorld.now < interruptedWorld.horizon := by decide
  have hiff := scrape_query_iff (w := interruptedWorld) unending drains_draining rfl watched
    interruption
  refine ⟨unending, drains_draining, rfl, watched, fun hnothing => ?_⟩
  have hfirst := (hiff.2 (hiff.1.mpr item_interrupted)).2.mp hnothing
  exact absurd hfirst (by decide)

end SysExporter.Statement
