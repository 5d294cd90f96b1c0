import SysExporter.Proofs.Scrape.Reading
import SysExporter.Scraper

namespace SysExporter.Scrape

open SysExporter.Metric Sql

-- A context is over whenever another one is, as one that is derived from it is.
def Context.Within (c ctx : Context) : Prop :=
  ∀ t, ctx.isDone t = true → c.isDone t = true

theorem Context.Within.refl (ctx : Context) : ctx.Within ctx :=
  fun _ h => h

-- What a run comes to that waits for nothing but within its context. It is free
-- in what it does with a result or a failure, but when a wait is given up, so is
-- the run, and nothing can follow but the release of cursors.
inductive Course (ctx : Context) (start : World) : Except Halt Unit × World → Prop where
  | start : Course ctx start (.ok (), start)
  | push {v : World} (h : Course ctx start (.ok (), v)) {c : Context} (hc : c.Within ctx)
      (o : Observation) : Course ctx start (v.push c o)
  | pause {v : World} (h : Course ctx start (.ok (), v)) {c : Context} (hc : c.Within ctx)
      (ms : Nat) : Course ctx start (v.pause c ms)
  | fetch {v : World} (h : Course ctx start (.ok (), v)) {c : Context} (hc : c.Within ctx)
      (feed : Source.Feed) :
      Course ctx start ((v.fetch c feed).1.map fun _ => (), (v.fetch c feed).2)
  | issue {v : World} (h : Course ctx start (.ok (), v)) (sql : String) :
      Course ctx start (.ok (), v.issue sql)
  | release {v : World} {result : Except Halt Unit} (h : Course ctx start (result, v)) :
      Course ctx start (result, v.release)
  | answer {v : World} {result : Except ScrapeError Unit}
      (h : Course ctx start (result.mapError .failed, v)) (other : Except ScrapeError Unit) :
      Course ctx start (other.mapError .failed, v)

-- A run is over by an instant unless it began later, and it is not given up if
-- it is watched until then.
structure Prompt {α : Type} (limit : Nat) (w : World) (outcome : Except Halt α × World) :
    Prop where
  horizon_eq : outcome.2.horizon = w.horizon
  now_le : outcome.2.now ≤ max w.now limit
  returned : limit ≤ w.horizon → outcome.1 ≠ .error .abandoned

namespace Prompt

variable {α β : Type} {limit : Nat} {u v w : World}

-- Where no time passes there is nothing to give up.
theorem of_now_eq {result : Except Halt α} (horizon : v.horizon = w.horizon) (now : v.now = w.now)
    (returned : result ≠ .error .abandoned) : Prompt limit w (result, v) where
  horizon_eq := horizon
  now_le := now ▸ Nat.le_max_left _ _
  returned _ := returned

theorem trans {first : Except Halt α} {outcome : Except Halt β × World}
    (h : Prompt limit w (first, v)) (hv : Prompt limit v outcome) : Prompt limit w outcome where
  horizon_eq := hv.horizon_eq.trans h.horizon_eq
  now_le := by
    have hw := h.now_le
    have ho := hv.now_le
    simp only at hw
    omega
  returned hlimit := hv.returned (h.horizon_eq ▸ hlimit)

-- What is made of the result does not matter, as long as it is not given up.
theorem map {result : Except Halt α} {other : Except Halt β} (h : Prompt limit w (result, v))
    (horizon : u.horizon = v.horizon) (now : u.now = v.now)
    (returned : other = .error .abandoned → result = .error .abandoned) :
    Prompt limit w (other, u) where
  horizon_eq := horizon.trans h.horizon_eq
  now_le := now ▸ h.now_le
  returned hlimit hother := h.returned hlimit (returned hother)

theorem mono {outcome : Except Halt α × World} {later : Nat} (h : Prompt limit w outcome)
    (hle : limit ≤ later) : Prompt later w outcome where
  horizon_eq := h.horizon_eq
  now_le := by
    have hn := h.now_le
    omega
  returned hlater := h.returned (Nat.le_trans hle hlater)

end Prompt

theorem interlude_horizon (w : World) : w.interlude.horizon = w.horizon := by
  unfold World.interlude
  split <;> simp

theorem mapError_failed_ne {α : Type} (result : Except ScrapeError α) :
    (result.mapError .failed : Except Halt α) ≠ .error .abandoned := by
  cases result <;> simp [Except.mapError]

theorem eq_abandoned_of_map {α β : Type} {result : Except Halt α} {f : α → β}
    (h : result.map f = .error .abandoned) : result = .error .abandoned := by
  cases result <;> simp_all [Except.map]

-- The clock stops at the end of a context at the latest, so a suspension under it
-- is not given up before.
theorem prompt_suspend {ctx : Context} {limit : Nat} (goal : Goal) {w : World}
    (hlive : ctx.isDone w.now = false) (hover : ctx.isDone limit = true) :
    Prompt limit w (w.suspend ctx.ending goal) := by
  unfold Context.isDone at hlive hover
  cases hending : ctx.ending with
  | none => simp [hending] at hover
  | some e =>
    rw [hending] at hlive
    have he : e ≤ limit := by simpa [hending] using hover
    fun_induction World.suspend (some e) goal w with
    | case1 w later result hpoll =>
      exact .of_now_eq (World.turn_horizon w) (World.turn_now w) (mapError_failed_ne result)
    | case2 w later hpoll hnext => exact absurd hnext (earliest_ne_none (s := e) (by simp))
    | case3 w later hpoll t hnext ht hend =>
      have hte : t ≤ e := earliest_le hnext (by simp)
      exact {
        horizon_eq := World.turn_horizon w
        now_le := by simp only; omega
        returned := by simp }
    | case4 w later hpoll t hnext ht hend ih =>
      have hte : t ≤ e := earliest_le hnext (by simp)
      have hp := ih (by simpa using hend)
      have hn := hp.now_le
      exact {
        horizon_eq := hp.horizon_eq.trans (World.turn_horizon w)
        now_le := by simp only at hn; omega
        returned := by
          have hh : later.horizon = w.horizon := World.turn_horizon w
          exact fun hlimit => hp.returned (hh ▸ hlimit) }
    | case5 w later hpoll t hnext ht =>
      -- the next instant lies beyond the horizon, and the end does so all the more
      have hte : t ≤ e := earliest_le hnext (by simp)
      have hlt : later.now < t := lt_of_earliest (by simpa [later] using hlive) hpoll hnext
      have hnow : later.now = w.now := World.turn_now w
      have hhorizon : later.horizon = w.horizon := World.turn_horizon w
      exact {
        horizon_eq := hhorizon
        now_le := by simp only; omega
        returned := by omega }

section

variable {ctx : Context} {limit : Nat} (hover : ctx.isDone limit = true)
include hover

theorem prompt_push (o : Observation) (w : World) : Prompt limit w (w.push ctx o) := by
  have hnow := interlude_now w
  have hhorizon := interlude_horizon w
  unfold World.push
  split
  · exact .of_now_eq rfl rfl (by simp)
  · rename_i hlive
    dsimp only
    split
    · exact .of_now_eq hhorizon hnow (by simp)
    · split
      · exact .of_now_eq hhorizon hnow (by simp)
      · have hi : Prompt limit w (.ok (), w.interlude) := .of_now_eq hhorizon hnow (by simp)
        have hs := hi.trans (prompt_suspend .room (by simpa [hnow] using hlive) hover)
        split <;> rename_i he <;> rw [he] at hs
        · exact hs.map rfl rfl (by simp)
        · exact hs

theorem prompt_pause (ms : Nat) (w : World) : Prompt limit w (w.pause ctx ms) := by
  unfold World.pause
  split
  · exact .of_now_eq rfl rfl (by simp)
  · rename_i hlive
    split
    · exact .of_now_eq rfl rfl (by simp)
    · exact prompt_suspend _ (by simpa using hlive) hover

theorem prompt_fetch (feed : Source.Feed) (w : World) : Prompt limit w (w.fetch ctx feed) := by
  unfold World.fetch
  split
  · exact .of_now_eq rfl rfl (by simp)
  · rename_i hlive
    split
    · exact .of_now_eq rfl rfl (by simp)
    · exact .of_now_eq rfl rfl (by simp)
    · have hr : Prompt limit w ((.ok () : Except Halt Unit), w.record .requested) :=
        .of_now_eq rfl rfl (by simp)
      have hlive : ctx.isDone (w.record .requested).now = false := (Bool.not_eq_true _).mp hlive
      have hs := hr.trans (prompt_suspend .nothing hlive hover)
      split <;> rename_i he <;> rw [he] at hs
      · exact hs.map rfl rfl (by simp)
      · exact hs.map rfl rfl (by simp)

-- A run that waits within its context only does not outlast it.
theorem Course.prompt {start : World} {outcome : Except Halt Unit × World}
    (h : Course ctx start outcome) : Prompt limit start outcome := by
  induction h with
  | start => exact .of_now_eq rfl rfl (by simp)
  | push _ hc o ih => exact ih.trans (prompt_push (hc limit hover) o _)
  | pause _ hc ms ih => exact ih.trans (prompt_pause (hc limit hover) ms _)
  | @fetch v _ c hc feed ih =>
    have hf := ih.trans (prompt_fetch (hc limit hover) feed v)
    exact hf.map rfl rfl eq_abandoned_of_map
  | issue _ sql ih => exact ih.map rfl rfl (by simp)
  | release _ ih => exact ih.map rfl rfl id
  | answer _ other ih => exact ih.map rfl rfl (fun h => absurd h (mapError_failed_ne other))

end

namespace Course

variable {ctx : Context} {start v : World} {α : Type}

theorem fail (h : Course ctx start (.ok (), v)) (e : ScrapeError) :
    Course ctx start (.error (.failed e), v) :=
  @Course.answer ctx start v (.ok ()) h (.error e)

theorem stream_release {result : Except Halt Unit} (h : Course ctx start (result, v))
    (s : RowStream) : Course ctx start (result, s.release v) := by
  unfold RowStream.release
  split
  · exact h.release
  · exact h

theorem pushAll (h : Course ctx start (.ok (), v)) (os : List Observation) :
    Course ctx start (Scrape.pushAll ctx os v) := by
  induction os generalizing v with
  | nil => exact h
  | cons o rest ih =>
    have ho := h.push (.refl ctx) o
    unfold Scrape.pushAll
    split <;> rename_i hp <;> rw [hp] at ho
    · exact ih ho
    · exact ho

-- Whatever an attempt to read a row leads to, it has waited for the row only.
theorem read (h : Course ctx start (.ok (), v)) (projection : Projection α) (s : RowStream)
    (row : Row) :
    Course ctx start
      ((s.read projection row v).1.1.map fun _ => (), (s.read projection row v).2) := by
  unfold RowStream.read
  split
  · exact h
  · rename_i reason _
    exact (h.fail (.decode (s.fetched + 1) reason)).stream_release s

theorem next (h : Course ctx start (.ok (), v)) (projection : Projection α) (s : RowStream) :
    Course ctx start
      ((s.next projection ctx v).1.1.map fun _ => (), (s.next projection ctx v).2) := by
  unfold RowStream.next
  split
  · exact h.read projection _ _
  · exact h
  · rename_i feed _ _
    have hf := h.fetch (.refl ctx) feed
    split <;> rename_i he <;> rw [he] at hf
    · exact hf
    · exact hf.release
    · exact hf.release
    · rename_i fault _ _
      exact (hf.fail (.ofSource fault (s.fetched + 1))).release
    · exact read hf projection _ _

theorem drain (projection : Projection α) (observe : α → List Observation) (s : RowStream)
    (h : Course ctx start (.ok (), v)) :
    Course ctx start (Scrape.drain projection observe ctx s v) := by
  fun_induction Scrape.drain projection observe ctx s v with
  | case1 s v halt rest u hn =>
    have hr := h.next projection s
    rw [hn] at hr
    exact hr.stream_release rest
  | case2 s v rest u hn =>
    have hr := h.next projection s
    rw [hn] at hr
    exact hr.stream_release rest
  | case3 s v value rest u hn x hp ih =>
    have hr := h.next projection s
    rw [hn] at hr
    have ha := pushAll hr (observe value)
    rw [hp] at ha
    exact ih ha
  | case4 s v value rest u hn halt x hp =>
    have hr := h.next projection s
    rw [hn] at hr
    have ha := pushAll hr (observe value)
    rw [hp] at ha
    exact ha.stream_release rest

theorem scrapeRows (projection : Projection α) (observe : α → List Observation) (ctx : Context)
    (w : World) : Course ctx w (Scrape.scrapeRows projection observe ctx w) := by
  have hi : Course ctx w (.ok (), w.issue projection.query) := Course.start.issue projection.query
  have hf := hi.fetch (.refl ctx) (w.issue projection.query).source.feed
  unfold Scrape.scrapeRows RowStream.execute
  dsimp only
  generalize (w.issue projection.query).fetch ctx (w.issue projection.query).source.feed =
    fetched at hf
  obtain ⟨result, v⟩ := fetched
  match result with
  | .error halt => exact hf.release
  | .ok none => exact hf.release.drain projection observe _
  | .ok (some (.error fault, rest)) =>
    exact (hf.fail (.ofSource fault 1)).release
  | .ok (some (.ok row, rest)) => exact drain projection observe _ hf

end Course

end SysExporter.Scrape
