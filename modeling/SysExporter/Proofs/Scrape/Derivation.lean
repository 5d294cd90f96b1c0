import SysExporter.Proofs.Scrape.Lineage
import SysExporter.Proofs.Scrape.Polling
import SysExporter.Proofs.Scrape.Timers

namespace SysExporter.Scrape

namespace Contexts

variable {s s' : Contexts} {r r' : Record} {i j k : Nat} {m n : Member} {ctx : Context}

theorem get?_eq_some_iff :
    s.get? k = some ctx ↔
      ∃ m, s.members[k]? = some m ∧ ctx = ⟨m.deadline, s.families[m.family]?.join⟩ := by
  rw [get?, Option.map_eq_some_iff]
  exact exists_congr fun m => and_congr_right fun _ => eq_comm

-- Only cancelling changes a context that is there.
theorem get?_create (h : s.get? k = some ctx) : s.create.get? k = some ctx := by
  obtain ⟨m, hm, rfl⟩ := get?_eq_some_iff.mp h
  refine get?_eq_some_iff.mpr ⟨m, getElem?_concat_eq_some_iff.mpr (.inl hm), ?_⟩
  have hfamily : s.create.families[m.family]?.join = s.families[m.family]?.join := by
    rcases Nat.lt_trichotomy m.family s.families.length with hlt | heq | hlt
    · rw [create, List.getElem?_append_left hlt]
    · simp [create, heq]
    · have hout : (s.families ++ [none]).length ≤ m.family := by
        rw [List.length_append, List.length_singleton]
        omega
      rw [create, List.getElem?_eq_none hout, List.getElem?_eq_none (Nat.le_of_lt hlt)]
  rw [hfamily]

theorem Step.get?_kept {operation : Operation} (hs : Step s r operation s' r')
    (hcancel : ∀ i span, operation ≠ .cancel i span) (h : s.get? k = some ctx) :
    s'.get? k = some ctx := by
  cases hs with
  | created => exact get?_create h
  | derived limit source other =>
    obtain ⟨m, hm, rfl⟩ := get?_eq_some_iff.mp h
    exact get?_eq_some_iff.mpr ⟨m, getElem?_concat_eq_some_iff.mpr (.inl hm), rfl⟩
  | cancelled span source => exact absurd rfl (hcancel _ span)
  | advanced span => exact h

-- The clock does not go back.
theorem Step.now_le {operation : Operation} (hs : Step s r operation s' r') : s.now ≤ s'.now := by
  cases hs with
  | advanced span => exact Nat.le_add_right s.now span
  | _ => exact Nat.le_refl s.now

namespace Agrees

variable (h : Agrees s r)

include h

-- A family is cancelled as a whole, and no other one with it.
theorem get?_cancel {span : Nat} (hs : s.perform (.cancel i span) = some s')
    (hk : s.get? k = some ctx) :
    (Kin r.origins i k →
      s'.get? k =
        some { ctx with cancellation := earliest [ctx.cancellation, some (s.now + span)] }) ∧
      (¬ Kin r.origins i k → s'.get? k = some ctx) := by
  simp only [Contexts.perform, Option.ite_none_right_eq_some, Option.some.injEq] at hs
  obtain ⟨hi, rfl⟩ := hs
  have hsource : s.members[i]? = some s.members[i] := List.getElem?_eq_getElem hi
  obtain ⟨m, hm, rfl⟩ := get?_eq_some_iff.mp hk
  obtain ⟨old, hold⟩ : ∃ old, s.families[m.family]? = some old :=
    ⟨_, List.getElem?_eq_getElem (h.family_lt hm)⟩
  rw [← h.family_eq_iff hsource hm]
  constructor
  · intro hsame
    simp [cancelAt, hsource, Contexts.get?, hm, hold, hsame]
  · intro hother
    simp [cancelAt, hsource, Contexts.get?, hm, hold, hother]

theorem exists_get?_iff :
    (∃ ctx, s.get? k = some ctx) ↔ ∃ root limits, Descends r.origins k root limits := by
  constructor
  · rintro ⟨ctx, hk⟩
    obtain ⟨m, hm, -⟩ := get?_eq_some_iff.mp hk
    exact h.exists_line (h.lt_length hm)
  · rintro ⟨root, limits, hline⟩
    have hm : s.members[k]? = some _ := List.getElem?_eq_getElem (h.length_eq ▸ hline.lt_length)
    exact ⟨_, get?_eq_some_iff.mpr ⟨_, hm, rfl⟩⟩

theorem deadline_eq {root : Nat} {limits : List Nat} (hk : s.get? k = some ctx)
    (hline : Descends r.origins k root limits) : ctx.deadline = limits.min? := by
  obtain ⟨m, hm, rfl⟩ := get?_eq_some_iff.mp hk
  obtain ⟨root', limits', -, hline', -, -, hdeadline⟩ := h.line hm
  rw [(hline.unique hline').2]
  exact hdeadline

theorem isDone_iff {t : Nat} (hk : s.get? k = some ctx) :
    ctx.isDone t = true ↔
      (∃ c ∈ r.cancellations, Kin r.origins c.1 k ∧ c.2 ≤ t) ∨
        ∃ d, ctx.deadline = some d ∧ d ≤ t := by
  rw [Context.isDone_iff]
  refine or_congr_left ?_
  obtain ⟨m, hm, rfl⟩ := get?_eq_some_iff.mp hk
  rw [← h.over_iff t hm, Option.any_eq_true]
  simp

-- Of what comes to be over nothing is undone.
theorem isDone_perform {operation : Operation} {t : Nat} (hs : s.perform operation = some s')
    (hk : s.get? k = some ctx) (hover : ctx.isDone t = true) :
    ∃ later, s'.get? k = some later ∧ later.isDone t = true := by
  by_cases hcancel : ∃ i span, operation = .cancel i span
  · obtain ⟨i, span, rfl⟩ := hcancel
    obtain ⟨hkin, hother⟩ := h.get?_cancel hs hk
    by_cases hik : Kin r.origins i k
    · refine ⟨_, hkin hik, ?_⟩
      simp only [Context.isDone, Context.ending, any_earliest, Bool.or_eq_true] at hover ⊢
      exact hover.imp_right .inl
    · exact ⟨ctx, hother hik, hover⟩
  · have hkeep : ∀ i span, operation ≠ .cancel i span := fun i span heq => hcancel ⟨i, span, heq⟩
    exact ⟨ctx, (step_perform h.now_eq hs).get?_kept hkeep hk, hover⟩

theorem derived_isDone {source : Context} {limit : Option Nat} {t : Nat}
    (horigin : r.origins[k]? = some (.derived i limit)) (hi : s.get? i = some source)
    (hk : s.get? k = some ctx) (hover : source.isDone t = true) : ctx.isDone t = true := by
  obtain ⟨root, limits, hline⟩ := h.exists_get?_iff.mp ⟨source, hi⟩
  have hline' := Descends.derived horigin hline
  rcases (h.isDone_iff hi).mp hover with ⟨c, hc, hkin, hct⟩ | ⟨d, hd, hdt⟩
  · obtain ⟨root', xs, ys, hx, hy⟩ := hkin
    obtain ⟨rfl, rfl⟩ := hline.unique hy
    exact (h.isDone_iff hk).mpr (.inl ⟨c, hc, ⟨root, xs, _, hx, hline'⟩, hct⟩)
  · have hearliest : ctx.deadline = earliest [source.deadline, limit] := by
      rw [h.deadline_eq hk hline', h.deadline_eq hi hline, earliest_min?]
    have hpast : ctx.deadline.any (· ≤ t) = true := by
      rw [hearliest, any_earliest, hd]
      simp [hdt]
    exact Context.isDone_iff.mpr (.inr (by simpa [Option.any_eq_true] using hpast))

end Agrees

theorem Agrees.isDone_run {operations : List Operation} (h : Agrees s r)
    (hs : s.run operations = some s') (hk : s.get? k = some ctx)
    (hover : ctx.isDone s.now = true) :
    ∃ later, s'.get? k = some later ∧ later.isDone s'.now = true := by
  induction operations generalizing s r ctx with
  | nil =>
    obtain rfl : s = s' := Option.some.inj hs
    exact ⟨ctx, hk, hover⟩
  | cons operation rest ih =>
    obtain ⟨next, hnext, hrest⟩ := Option.bind_eq_some_iff.mp hs
    obtain ⟨later, hlater, hover⟩ := h.isDone_perform hnext hk hover
    exact ih (h.perform hnext) hrest hlater
      (Context.isDone_mono (step_perform h.now_eq hnext).now_le hover)

theorem exists_perform_iff {operation : Operation} :
    (∃ s', s.perform operation = some s') ↔
      (∀ i, operation.context? = some i → ∃ ctx, s.get? i = some ctx) ∧
        ∀ i d, operation = .withTimeout i d → after? s.now d ≠ none := by
  have hthere (i : Nat) : (∃ ctx, s.get? i = some ctx) ↔ i < s.members.length := by
    rw [← Option.isSome_iff_exists]
    simp [get?]
  simp only [hthere]
  rw [← perform_ne_none_iff, Option.ne_none_iff_exists']

theorem min?_eq_of_perm {one other : List Nat} (h : one.Perm other) : one.min? = other.min? := by
  refine Option.ext fun t => ?_
  simp only [List.min?_eq_some_iff, h.mem_iff]

theorem await_eq_some_iff {start : Option Nat} {result : Waited} :
    s.await k start = some (result, s') ↔
      ∃ ctx t, s.get? k = some ctx ∧ s' = { s with now := t } ∧
        Settles (ctx.run s.epoch (.due start ())) s.now (result, t) := by
  simp only [await, Option.map_eq_some_iff, ← Context.await_eq_iff, Prod.mk.injEq]
  constructor
  · rintro ⟨ctx, hk, hresult, rfl⟩
    exact ⟨ctx, _, hk, rfl, Prod.ext hresult rfl⟩
  · rintro ⟨ctx, t, hk, rfl, hawait⟩
    exact ⟨ctx, hk, by rw [hawait], by rw [hawait]⟩

theorem awaitEnd_eq_some_iff :
    s.awaitEnd k = some (true, s') ↔
      ∃ ctx t, s.get? k = some ctx ∧ s' = { s with now := t } ∧ t ≤ s.now + patience * Timer.tick ∧
        (ctx.done s.epoch).Resolves s.now t () := by
  simp only [awaitEnd, Option.map_eq_some_iff]
  refine exists_congr fun ctx => ?_
  have hsettles := Context.settles_await ctx s.epoch s.now none
  constructor
  · rintro ⟨hk, hend⟩
    split at hend
    · rename_i t hawait
      rw [hawait] at hsettles
      cases hsettles with
      | cancelled soon resolves =>
        refine ⟨t, hk, ?_, soon, (Context.resolves_run_error_iff.mp resolves).2.1⟩
        exact ((Prod.mk.inj hend).2).symm
    · cases (Prod.mk.inj hend).1
  · rintro ⟨t, hk, rfl, soon, hdone⟩
    have hcancelled : Settles (ctx.run s.epoch (.due none ())) s.now (.cancelled, t) :=
      .cancelled soon (Context.resolves_run_error_iff.mpr ⟨rfl, hdone, fun _ _ _ => rfl⟩)
    exact ⟨hk, by rw [hsettles.unique hcancelled]⟩

end Contexts

-- What is told of the end of a context. Asked for, the end is the instant itself.
-- Awaited, alone or under work, it is the instant at which a timer goes off. The two
-- agree at every moment that does not lie between a deadline and its timer.
structure Context.Told (ctx : Context) (epoch now : Nat) : Prop where
  ending_iff (t : Nat) : ctx.isDone t = true ↔ ∃ e, ctx.ending = some e ∧ e ≤ t
  done_iff (t : Nat) :
    (ctx.done epoch).Resolves now t () ↔ ∃ e, (ctx.awaited epoch).ending = some e ∧ t = max now e
  ready_iff {α : Type} {f : Future α} {a : α} : f now = some a →
    ((ctx.done epoch).Resolves now now () ↔
      ∃ t, (ctx.run epoch f).Resolves now t (.error .cancelled))
  ok_iff {α : Type} {f : Future α} {u : Nat} {a : α} : f.Resolves now u a →
    ((∃ t b, (ctx.run epoch f).Resolves now t (.ok b)) ↔
      ∀ e, (ctx.awaited epoch).ending = some e → u < e)
  cancelled_iff {α : Type} {f : Future α} {u : Nat} {a : α} : f.Resolves now u a →
    ((∃ t, (ctx.run epoch f).Resolves now t (.error .cancelled)) ↔
      ∃ e, (ctx.awaited epoch).ending = some e ∧ e ≤ u)
  agree_iff :
    (ctx.isDone now = true ↔ (ctx.done epoch).Resolves now now ()) ↔
      (∃ c, ctx.cancellation = some c ∧ c ≤ now) ∨
        ∀ d, ctx.deadline = some d → (d ≤ now ↔ Timer.wake epoch d ≤ now)
  late {e : Nat} : ctx.ending = some e →
    (∀ d, ctx.deadline = some d → epoch ≤ d ∧ d ≤ epoch + Timer.tick * Timer.lastTick) →
      ∃ e', (ctx.awaited epoch).ending = some e' ∧ e ≤ e' ∧ e' < e + Timer.tick
  inTicks_eq {n : Nat} : n < Timer.lastTick →
    (ctx.inTicks epoch).isDone n = (ctx.awaited epoch).isDone (epoch + Timer.tick * n)

-- A timer goes off less than a tick after its instant, and not before it.
theorem Context.ending_awaited {ctx : Context} {epoch e : Nat} (he : ctx.ending = some e)
    (hd : ∀ d, ctx.deadline = some d → epoch ≤ d ∧ d ≤ epoch + Timer.tick * Timer.lastTick) :
    ∃ e', (ctx.awaited epoch).ending = some e' ∧ e ≤ e' ∧ e' < e + Timer.tick := by
  have htick : 0 < Timer.tick := by decide
  obtain ⟨deadline, cancellation⟩ := ctx
  cases deadline with
  | none => exact ⟨e, he, Nat.le_refl e, Nat.lt_add_of_pos_right htick⟩
  | some d =>
    obtain ⟨hfirst, hlast⟩ := hd d rfl
    have hle := (Timer.rounds epoch).le_wake hlast
    have hlt := (Timer.rounds epoch).wake_lt hfirst
    cases cancellation with
    | none =>
      obtain rfl : d = e := by simpa [ending, earliest] using he
      exact ⟨_, rfl, hle, hlt⟩
    | some c =>
      obtain rfl : min d c = e := by simpa [ending, earliest] using he
      exact ⟨_, rfl, by omega, by omega⟩

theorem Context.agree_iff {ctx : Context} {epoch now : Nat} :
    (ctx.isDone now = true ↔ (ctx.done epoch).Resolves now now ()) ↔
      (∃ c, ctx.cancellation = some c ∧ c ≤ now) ∨
        ∀ d, ctx.deadline = some d → (d ≤ now ↔ Timer.wake epoch d ≤ now) := by
  rw [← isDone_iff_resolves_done, isDone_iff, isDone_iff]
  by_cases hover : ∃ c, ctx.cancellation = some c ∧ c ≤ now
  · simp [awaited, hover]
  · cases hd : ctx.deadline <;> simp [awaited, hover, hd]

-- On the clock of a scrape a context is over as it is awaited.
theorem Context.isDone_inTicks {ctx : Context} {epoch n : Nat} (hn : n < Timer.lastTick) :
    (ctx.inTicks epoch).isDone n = (ctx.awaited epoch).isDone (epoch + Timer.tick * n) := by
  obtain ⟨deadline, cancellation⟩ := ctx
  rw [Bool.eq_iff_iff, isDone_iff, isDone_iff]
  cases deadline <;> cases cancellation <;>
    simp [inTicks, awaited, Timer.ticks_le_iff_le hn, ← Timer.ticks_le_iff]

theorem Context.told (ctx : Context) (epoch now : Nat) : ctx.Told epoch now where
  ending_iff _ := isDone_iff_ending
  done_iff _ := resolves_done_iff
  ready_iff hf := isDone_iff_resolves_done.symm.trans (isDone_iff_resolves_cancelled hf)
  ok_iff := exists_resolves_ok_iff
  cancelled_iff := exists_resolves_cancelled_iff
  agree_iff := agree_iff
  late := ending_awaited
  inTicks_eq := isDone_inTicks

namespace Contexts

-- The contexts after operations of which there is a record. What is derived
-- leaves alone what it comes from, and only the kin of a context are cancelled
-- with it. A context is over once its kin are cancelled or its deadline has
-- come, which is the earliest one that was set on its line. It is awaited by
-- timers that count from where the clock started.
structure Lawful (s : Contexts) (r : Record) : Prop where
  epoch_eq : s.epoch = r.epoch
  epoch_le : s.epoch ≤ s.now
  now_eq : s.now = r.clock
  exists_iff (k : Nat) :
    (∃ ctx, s.get? k = some ctx) ↔ ∃ root limits, Descends r.origins k root limits
  performs_iff (operation : Operation) :
    (∃ s', s.perform operation = some s') ↔
      (∀ i, operation.context? = some i → ∃ ctx, s.get? i = some ctx) ∧
        ∀ i d, operation = .withTimeout i d → after? s.now d ≠ none
  deadline_eq {k root : Nat} {ctx : Context} {limits others : List Nat} : s.get? k = some ctx →
    Descends r.origins k root limits → others.Perm limits → ctx.deadline = others.min?
  kept {k : Nat} {ctx : Context} {operation : Operation} {s' : Contexts} :
    s.perform operation = some s' → (∀ i span, operation ≠ .cancel i span) →
      s.get? k = some ctx → s'.get? k = some ctx
  cancelled {i k span : Nat} {ctx : Context} {s' : Contexts} :
    s.perform (.cancel i span) = some s' → s.get? k = some ctx →
      (Kin r.origins i k →
        s'.get? k =
          some { ctx with cancellation := earliest [ctx.cancellation, some (s.now + span)] }) ∧
        (¬ Kin r.origins i k → s'.get? k = some ctx)
  isDone_iff {k t : Nat} {ctx : Context} : s.get? k = some ctx →
    (ctx.isDone t = true ↔
      (∃ c ∈ r.cancellations, Kin r.origins c.1 k ∧ c.2 ≤ t) ∨
        ∃ d, ctx.deadline = some d ∧ d ≤ t)
  lasting {k : Nat} {ctx : Context} {operations : List Operation} {s' : Contexts} :
    s.run operations = some s' → s.get? k = some ctx → ctx.isDone s.now = true →
      ∃ later, s'.get? k = some later ∧ later.isDone s'.now = true
  derived {i k t : Nat} {source ctx : Context} {limit : Option Nat} :
    r.origins[k]? = some (.derived i limit) → s.get? i = some source → s.get? k = some ctx →
      source.isDone t = true → ctx.isDone t = true
  told {k : Nat} {ctx : Context} : s.get? k = some ctx → ctx.Told s.epoch s.now
  rounds : Timer.Rounds s.epoch
  await_iff {k : Nat} {start : Option Nat} {result : Waited} {s' : Contexts} :
    s.await k start = some (result, s') ↔
      ∃ ctx t, s.get? k = some ctx ∧ s' = { s with now := t } ∧
        Settles (ctx.run s.epoch (.due start ())) s.now (result, t)
  awaitEnd_iff {k : Nat} {s' : Contexts} :
    s.awaitEnd k = some (true, s') ↔
      ∃ ctx t, s.get? k = some ctx ∧ s' = { s with now := t } ∧ t ≤ s.now + patience * Timer.tick ∧
        (ctx.done s.epoch).Resolves s.now t ()

theorem run_lawful {clock : Nat} {operations : List Operation}
    (h : (initial clock).run operations = some s) : Lawful s (.ofOperations clock operations) where
  epoch_eq := (agrees_run h).epoch_eq
  epoch_le := (agrees_run h).epoch_le
  now_eq := (agrees_run h).now_eq
  exists_iff _ := (agrees_run h).exists_get?_iff
  performs_iff _ := exists_perform_iff
  deadline_eq hk hline hperm := by
    rw [(agrees_run h).deadline_eq hk hline, min?_eq_of_perm hperm]
  kept hs := (step_perform (agrees_run h).now_eq hs).get?_kept
  cancelled := (agrees_run h).get?_cancel
  isDone_iff := (agrees_run h).isDone_iff
  lasting := (agrees_run h).isDone_run
  derived := (agrees_run h).derived_isDone
  told {_ ctx} _ := ctx.told s.epoch s.now
  rounds := Timer.rounds s.epoch
  await_iff := await_eq_some_iff
  awaitEnd_iff := awaitEnd_eq_some_iff

-- Two families, on a clock that reads ten nanoseconds at the start. In one the
-- deadline that was set last is the earlier one, and the other is cancelled before
-- the clock gets there.
theorem run_lawful_two_families :
    ∃ s, (initial 10).run [.withTimeout 0 (.ofSeconds 5), .withDeadline 1 3000, .create, .clone 3,
        .cancel 4 100, .advance 3000] = some s ∧
      (List.range 5).map s.get? =
        [some ⟨none, none⟩, some ⟨some 5000000010, none⟩, some ⟨some 3000, none⟩,
          some ⟨none, some 110⟩, some ⟨none, some 110⟩] ∧
      Lawful s (.ofOperations 10 [.withTimeout 0 (.ofSeconds 5), .withDeadline 1 3000, .create,
        .clone 3, .cancel 4 100, .advance 3000]) :=
  ⟨⟨10, 3010, [none, some 110],
      [⟨0, none⟩, ⟨0, some 5000000010⟩, ⟨0, some 3000⟩, ⟨1, none⟩, ⟨1, none⟩]⟩,
    by decide +kernel, by decide, run_lawful (by decide +kernel)⟩

-- A context with half a millisecond is over when half a millisecond has passed, and
-- yet work that is done is let through under it. Past the last tick it is the other
-- way round: the deadline is still to come, and work that is done is cancelled.
theorem run_disagrees :
    (∃ s ctx,
      (initial 0).run [.withTimeout 0 ⟨0, 500000, by decide, by decide⟩, .advance 500000] =
        some s ∧
      s.get? 1 = some ctx ∧ ctx.isDone s.now = true ∧
      ¬ (ctx.done s.epoch).Resolves s.now s.now () ∧
      (ctx.run s.epoch (.due (some s.now) 7)).Resolves s.now s.now (.ok 7)) ∧
    ∃ s ctx,
      (initial 0).run [.withTimeout 0 (.ofSeconds 20000000000000000),
        .advance 9223372036854775807000000, .advance 9223372036854775807000000] = some s ∧
      s.get? 1 = some ctx ∧ ctx.isDone s.now = false ∧
      (ctx.done s.epoch).Resolves s.now s.now () ∧
      (ctx.run s.epoch (.due (some s.now) 7)).Resolves s.now s.now (.error .cancelled) := by
  constructor
  · refine ⟨⟨0, 500000, [none], [⟨0, none⟩, ⟨0, some 500000⟩]⟩, ⟨some 500000, none⟩, ?_⟩
    refine ⟨by decide +kernel, rfl, rfl, fun h => ?_, Future.resolves_now rfl⟩
    cases h.result
  · refine ⟨⟨0, 18446744073709551614000000, [none],
      [⟨0, none⟩, ⟨0, some 20000000000000000000000000⟩]⟩,
      ⟨some 20000000000000000000000000, none⟩, ?_⟩
    exact ⟨by decide +kernel, rfl, rfl, Future.resolves_now rfl, Future.resolves_now rfl⟩

end Contexts

end SysExporter.Scrape
