import SysExporter.Proofs.Scrape.Draining
import SysExporter.Proofs.Scrape.Invariance
import SysExporter.Proofs.Scrape.Program

namespace SysExporter.Scrape

open SysExporter.Metric

-- How a wait ends that is for nothing but an instant, and when.
def timed (ending due : Option Nat) (now horizon : Nat) : Except Halt Unit × Nat :=
  if due.any (· ≤ now) then (.ok (), now)
  else
    match earliest [ending, due] with
    | none => (.error .abandoned, max now horizon)
    | some t =>
      if horizon < t then (.error .abandoned, max now horizon)
      else if ending.any (· ≤ t) then (.error (.failed .cancelled), t)
      else (.ok (), t)

theorem le_of_earliest {ending due : Option Nat} {t s : Nat}
    (hending : ∀ e, ending = some e → t ≤ e) (hdue : ∀ u, due = some u → t ≤ u)
    (h : earliest [ending, due] = some s) : t ≤ s := by
  have hs := mem_of_earliest h
  simp only [List.mem_cons, List.not_mem_nil, or_false] at hs
  rcases hs with hs | hs
  · exact hending s hs.symm
  · exact hdue s hs.symm

theorem earliest_eq {ending due : Option Nat} {t : Nat}
    (hending : ∀ e, ending = some e → t ≤ e) (hdue : ∀ u, due = some u → t ≤ u)
    (hmem : ending = some t ∨ due = some t) : earliest [ending, due] = some t := by
  have hmem : some t ∈ [ending, due] := by rcases hmem with rfl | rfl <;> simp
  cases h : earliest [ending, due] with
  | none => exact absurd h (earliest_ne_none hmem)
  | some s =>
    exact congrArg some (Nat.le_antisymm (earliest_le h hmem) (le_of_earliest hending hdue h))

-- A turn of the reader in between makes no difference.
theorem timed_between {ending due : Option Nat} {now horizon t : Nat} (hlt : now < t)
    (hle : t ≤ horizon) (hending : ∀ e, ending = some e → t < e)
    (hdue : ∀ u, due = some u → t ≤ u) :
    timed ending due t horizon = timed ending due now horizon := by
  have hlive : ending.any (· ≤ t) = false := by
    cases ending with
    | none => rfl
    | some e => simpa using hending e rfl
  have hpending : due.any (· ≤ now) = false := by
    cases due with
    | none => rfl
    | some u =>
      have hu := hdue u rfl
      simp only [Option.any_some, decide_eq_false_iff_not]
      omega
  have hmax : max t horizon = max now horizon := by omega
  by_cases hnow : due = some t
  · have hfirst := earliest_eq (fun e he => Nat.le_of_lt (hending e he)) hdue (.inr hnow)
    have hover : due.any (· ≤ t) = true := by simp [hnow]
    simp [timed, hover, hpending, hfirst, hlive, Nat.not_lt.mpr hle]
  · have hpending' : due.any (· ≤ t) = false := by
      cases due with
      | none => rfl
      | some u =>
        have hu := hdue u rfl
        simp only [Option.some.injEq] at hnow
        simp only [Option.any_some, decide_eq_false_iff_not]
        omega
    simp [timed, hpending, hpending', hmax]

theorem le_of_next {ending due wake : Option Nat} {t : Nat}
    (h : earliest [ending, due, wake] = some t) :
    (∀ e, ending = some e → t ≤ e) ∧ ∀ u, due = some u → t ≤ u := by
  constructor
  · rintro e rfl
    exact earliest_le h (by simp)
  · rintro u rfl
    exact earliest_le h (by simp)

section

variable {ending due wake : Option Nat} {now horizon t : Nat}

theorem timed_of_due (h : due.any (· ≤ now) = true) :
    timed ending due now horizon = (.ok (), now) :=
  if_pos h

theorem timed_of_none (hpending : due.any (· ≤ now) = false)
    (h : earliest [ending, due, wake] = none) :
    timed ending due now horizon = (.error .abandoned, max now horizon) := by
  have hnone : earliest [ending, due] = none := by
    cases hending : ending with
    | some e => exact absurd h (earliest_ne_none (s := e) (by simp [hending]))
    | none =>
      cases hdue : due with
      | some u => exact absurd h (earliest_ne_none (s := u) (by simp [hdue]))
      | none => rfl
  simp [timed, hpending, hnone]

theorem timed_of_over (hpending : due.any (· ≤ now) = false)
    (h : earliest [ending, due, wake] = some t) (hle : t ≤ horizon)
    (hover : ending.any (· ≤ t) = true) :
    timed ending due now horizon = (.error (.failed .cancelled), t) := by
  obtain ⟨hending, hdue⟩ := le_of_next h
  have hmem : ending = some t := by
    cases ending with
    | none => simp at hover
    | some e =>
      have het : e ≤ t := by simpa using hover
      exact congrArg some (Nat.le_antisymm het (hending e rfl))
  have hfirst := earliest_eq hending hdue (.inl hmem)
  simp [timed, hpending, hfirst, Nat.not_lt.mpr hle, hover]

theorem timed_of_late (hpending : due.any (· ≤ now) = false)
    (h : earliest [ending, due, wake] = some t) (hlate : horizon < t) :
    timed ending due now horizon = (.error .abandoned, max now horizon) := by
  obtain ⟨hending, hdue⟩ := le_of_next h
  simp only [timed, hpending, if_false, Bool.false_eq_true]
  cases hfirst : earliest [ending, due] with
  | none => rfl
  | some u =>
    have htu := le_of_earliest hending hdue hfirst
    exact if_pos (Nat.lt_of_lt_of_le hlate htu)

end

-- The reader has no say in such a wait.
theorem suspend_timed {ending : Option Nat} {goal : Goal} (hgoal : goal ≠ .room) {w : World}
    (hlive : ending.any (· ≤ w.now) = false) :
    ((w.suspend ending goal).1, (w.suspend ending goal).2.now) =
      timed ending goal.due w.now w.horizon := by
  have hpending {v : World} (hv : goal.poll v = none) : goal.due.any (· ≤ v.now) = false := by
    cases goal with
    | room => exact absurd rfl hgoal
    | instant s => simpa [Goal.poll, Goal.due] using hv
    | nothing => rfl
  have hdue {v : World} {result : Except ScrapeError Unit} (hv : goal.poll v = some result) :
      goal.due.any (· ≤ v.now) = true ∧ result = .ok () := by
    cases goal with
    | room => exact absurd rfl hgoal
    | instant s => simpa [Goal.poll, Goal.due, eq_comm] using hv
    | nothing => simp [Goal.poll] at hv
  fun_induction World.suspend ending goal w with
  | case1 w later result hpoll =>
    obtain ⟨hover, rfl⟩ := hdue hpoll
    rw [← World.turn_now w, ← World.turn_horizon w, timed_of_due hover]
    rfl
  | case2 w later hpoll hnext =>
    rw [← World.turn_now w, ← World.turn_horizon w, timed_of_none (hpending hpoll) hnext]
  | case3 w later hpoll t hnext ht hover =>
    rw [← World.turn_now w, ← World.turn_horizon w, timed_of_over (hpending hpoll) hnext ht.2 hover]
  | case4 w later hpoll t hnext ht hover ih =>
    obtain ⟨hending, hdue⟩ := le_of_next hnext
    have hlater : ∀ e, ending = some e → t < e := by
      rintro e rfl
      simpa using hover
    rw [← World.turn_now w, ← World.turn_horizon w, ← timed_between ht.1 ht.2 hlater hdue]
    exact ih (by simpa using hover)
  | case5 w later hpoll t hnext ht =>
    have hlt : later.now < t := lt_of_earliest (by simpa [later] using hlive) hpoll hnext
    have hlate : later.horizon < t := by omega
    rw [← World.turn_now w, ← World.turn_horizon w, timed_of_late (hpending hpoll) hnext hlate]

-- The same wait at a later time.
theorem timed_shift (ending due : Option Nat) (now horizon d : Nat) :
    timed (ending.map (· + d)) (due.map (· + d)) (now + d) (horizon + d) =
      ((timed ending due now horizon).1, (timed ending due now horizon).2 + d) := by
  have hmax : max (now + d) (horizon + d) = max now horizon + d := by omega
  have hle (times : Option Nat) (t : Nat) :
      (times.map (· + d)).any (· ≤ t + d) = times.any (· ≤ t) := by
    cases times <;> simp
  have hfirst : earliest [ending.map (· + d), due.map (· + d)] =
      (earliest [ending, due]).map (· + d) := by
    cases ending <;> cases due <;> simp [earliest, Nat.add_min_add_right]
  unfold timed
  rw [hle, hfirst, hmax]
  split
  · rfl
  · cases earliest [ending, due] with
    | none => rfl
    | some t =>
      simp only [Option.map_some, hle, Nat.add_lt_add_iff_right]
      split
      · rfl
      · split <;> rfl

-- Two worlds that look alike to a scraper, the other one at a later time. Their
-- readers need not be the same, but both take in whatever there is.
structure Abreast (d : Nat) (w v : World) : Prop where
  now_eq : v.now = w.now + d
  horizon_eq : v.horizon = w.horizon + d
  feed_eq : v.source.feed = w.source.feed
  drains : w.reader.Drains ∧ v.reader.Drains
  unclosed : w.channel.closed = false ∧ v.channel.closed = false

-- The same context for a run that starts later.
def Context.Shifted (d : Nat) (ctx other : Context) : Prop :=
  other.ending = ctx.ending.map (· + d)

theorem Context.Shifted.isDone_eq {d : Nat} {ctx other : Context} (h : ctx.Shifted d other)
    (now : Nat) : other.isDone (now + d) = ctx.isDone now := by
  unfold Context.isDone
  rw [h]
  cases ctx.ending <;> simp

-- Two runs that come to the same, with the same observations of their own.
structure Alike {α : Type} (d : Nat) (w v : World) (one other : α × World) : Prop where
  result_eq : other.1 = one.1
  abreast : Abreast d one.2 other.2
  sent_eq : ∃ sent, one.2.accepted = w.accepted ++ sent ∧ other.2.accepted = v.accepted ++ sent

theorem Alike.trans {α β : Type} {d : Nat} {w v : World} {one other : α × World}
    {next next' : β × World} (h : Alike d w v one other) (hn : Alike d one.2 other.2 next next') :
    Alike d w v next next' where
  result_eq := hn.result_eq
  abreast := hn.abreast
  sent_eq := by
    obtain ⟨sent, hw, hv⟩ := h.sent_eq
    obtain ⟨more, hw', hv'⟩ := hn.sent_eq
    exact ⟨sent ++ more, by rw [hw', hw, List.append_assoc], by rw [hv', hv, List.append_assoc]⟩

theorem Alike.map {α β : Type} {d : Nat} {w v : World} {one other : α × World} (f : α → β)
    (h : Alike d w v one other) : Alike d w v (f one.1, one.2) (f other.1, other.2) :=
  ⟨congrArg f h.result_eq, h.abreast, h.sent_eq⟩

-- A reader stays, and with it the channel is open.
def Attended (r : Reader) (w : World) : Prop :=
  w.reader = r ∧ w.channel.closed = false

theorem invariant_attended {r : Reader} (hr : r.Drains) : Invariant (Attended r) where
  receive _ _ hw := hw
  abandon hl hw := by
    rw [hw.1, hr.stays] at hl
    simp at hl
  advance _ hw := hw
  accept _ _ _ hw := hw
  request hw := hw
  issue _ hw := hw
  release hw := hw

theorem attended (w : World) (h : w.channel.closed = false) : Attended w.reader w :=
  ⟨rfl, h⟩

theorem waits_suspend {ending : Option Nat} (goal : Goal) {w : World}
    (hlive : ending.any (· ≤ w.now) = false) : Waits w (w.suspend ending goal).2 := by
  have hs := suspended goal hlive
  generalize w.suspend ending goal = outcome at hs
  cases hs with
  | polled waits _ _ => exact waits
  | ended waits _ _ => exact waits
  | abandoned waits _ _ _ => exact waits

namespace Abreast

variable {d : Nat} {w v w' v' : World} {ctx other : Context}

theorem later (h : Abreast d w v) (hw : Later w w') (hv : Later v v')
    (now : v'.now = w'.now + d) (attended : Attended w.reader w')
    (attended' : Attended v.reader v') :
    Abreast d w' v' where
  now_eq := now
  horizon_eq := by rw [hw.horizon_eq, hv.horizon_eq, h.horizon_eq]
  feed_eq := by rw [hw.feed_eq, hv.feed_eq, h.feed_eq]
  drains := ⟨attended.1 ▸ h.drains.1, attended'.1 ▸ h.drains.2⟩
  unclosed := ⟨attended.2, attended'.2⟩

theorem isDone_eq (h : Abreast d w v) (hctx : ctx.Shifted d other) :
    other.isDone v.now = ctx.isDone w.now := by
  rw [h.now_eq, hctx.isDone_eq]

theorem refl_alike {α : Type} (h : Abreast d w v) (result : α) :
    Alike d w v (result, w) (result, v) :=
  ⟨rfl, h, [], (List.append_nil _).symm, (List.append_nil _).symm⟩

-- What only waits for an instant, or for nothing at all.
theorem suspend (h : Abreast d w v) (hctx : ctx.Shifted d other) {goal goal' : Goal}
    (hgoal : goal ≠ .room) (hgoal' : goal' ≠ .room) (hdue : goal'.due = goal.due.map (· + d))
    (hlive : ctx.isDone w.now = false) :
    Alike d w v (w.suspend ctx.ending goal) (v.suspend other.ending goal') := by
  have hlive' : other.isDone v.now = false := (h.isDone_eq hctx).trans hlive
  have hw := waits_suspend goal hlive
  have hv := waits_suspend goal' hlive'
  have hboth : ((v.suspend other.ending goal').1, (v.suspend other.ending goal').2.now) =
      ((w.suspend ctx.ending goal).1, (w.suspend ctx.ending goal).2.now + d) := by
    have htimed := timed_shift ctx.ending goal.due w.now w.horizon d
    rw [← suspend_timed hgoal hlive, ← hctx, ← hdue, ← h.now_eq, ← h.horizon_eq] at htimed
    rw [suspend_timed hgoal' hlive', htimed]
  obtain ⟨hresult, hnow⟩ := Prod.mk.inj hboth
  constructor
  case result_eq => exact hresult
  case abreast =>
    refine h.later hw.toLater hv.toLater hnow ?_ ?_
    · exact (invariant_attended h.drains.1).toUndisturbed.suspend _ _ ⟨rfl, h.unclosed.1⟩
    · exact (invariant_attended h.drains.2).toUndisturbed.suspend _ _ ⟨rfl, h.unclosed.2⟩
  case sent_eq =>
    exact ⟨[], by rw [hw.accepted_same, List.append_nil], by rw [hv.accepted_same, List.append_nil]⟩

theorem pause (h : Abreast d w v) (hctx : ctx.Shifted d other) (ms : Nat) :
    Alike d w v (w.pause ctx ms) (v.pause other ms) := by
  have hdone := h.isDone_eq hctx
  unfold World.pause
  rw [hdone]
  split
  · exact h.refl_alike _
  · rename_i hlive
    split
    · exact h.refl_alike _
    · refine h.suspend hctx (by simp) (by simp) ?_ (by simpa using hlive)
      simp [Goal.due, h.now_eq, Nat.add_right_comm]

-- A reader that takes in whatever there is keeps no push waiting.
theorem push (h : Abreast d w v) (hctx : ctx.Shifted d other) (o : Observation) :
    Alike d w v (w.push ctx o) (v.push other o) := by
  have hdone' := h.isDone_eq hctx
  by_cases hdone : ctx.isDone w.now = true
  · have hw : w.push ctx o = (.error (.failed .cancelled), w) := if_pos hdone
    have hv : v.push other o = (.error (.failed .cancelled), v) := if_pos (hdone'.trans hdone)
    rw [hw, hv]
    exact h.refl_alike _
  · have hlive : ctx.isDone w.now = false := by simpa using hdone
    obtain ⟨hw, hok⟩ := calm_push hlive h.drains.1 h.unclosed.1 o
    obtain ⟨hv, hok'⟩ := calm_push (hdone'.trans hlive) h.drains.2 h.unclosed.2 o
    constructor
    case result_eq => rw [hok, hok']
    case abreast =>
      refine h.later (later_push ctx o w) (later_push other o v) ?_ ?_ ?_
      · rw [hw.now_eq, hv.now_eq, h.now_eq]
      · exact ⟨hw.reader_eq, hw.open_of_open h.unclosed.1⟩
      · exact ⟨hv.reader_eq, hv.open_of_open h.unclosed.2⟩
    case sent_eq => exact ⟨[o], accepted_of_push_ok hok, accepted_of_push_ok hok'⟩

theorem silent (h : Abreast d w v) {α : Type} (result : α) (hw : Silent w w') (hv : Silent v v')
    (now : w'.now = w.now) (now' : v'.now = v.now) (attended : Attended w.reader w')
    (attended' : Attended v.reader v') : Alike d w v (result, w') (result, v') where
  result_eq := rfl
  abreast := h.later hw.toLater hv.toLater (by rw [now, now', h.now_eq]) attended attended'
  sent_eq := ⟨[], by rw [hw.accepted_same, List.append_nil],
    by rw [hv.accepted_same, List.append_nil]⟩

theorem request (h : Abreast d w v) {α : Type} (result : α) :
    Alike d w v (result, w.record .requested) (result, v.record .requested) :=
  h.silent result (waits_requested w).toSilent (waits_requested v).toSilent rfl rfl
    ⟨rfl, h.unclosed.1⟩ ⟨rfl, h.unclosed.2⟩

theorem issue (h : Abreast d w v) (sql : String) :
    Alike d w v ((), w.issue sql) ((), v.issue sql) :=
  h.silent () (silent_issue w sql) (silent_issue v sql) rfl rfl ⟨rfl, h.unclosed.1⟩
    ⟨rfl, h.unclosed.2⟩

theorem release (h : Abreast d w v) : Alike d w v ((), w.release) ((), v.release) :=
  h.silent () (silent_release w) (silent_release v) rfl rfl ⟨rfl, h.unclosed.1⟩
    ⟨rfl, h.unclosed.2⟩

theorem fetch (h : Abreast d w v) (hctx : ctx.Shifted d other) (feed : Source.Feed) :
    Alike d w v (w.fetch ctx feed) (v.fetch other feed) := by
  have hdone := h.isDone_eq hctx
  unfold World.fetch
  rw [hdone]
  split
  · exact h.refl_alike _
  · rename_i hlive
    cases feed.fetch with
    | item i rest => exact h.request _
    | ended => exact h.request _
    | silent =>
      have hr := h.request ()
      have hgoal : Goal.nothing ≠ .room := by simp
      have hs := hr.trans (hr.abreast.suspend hctx hgoal hgoal rfl ((Bool.not_eq_true _).mp hlive))
      have hf := hs.map fun result => result.map fun _ =>
        (none : Option (Source.Item × Source.Feed))
      dsimp only
      generalize (w.record .requested).suspend ctx.ending .nothing = outcome at hf
      generalize (v.record .requested).suspend other.ending .nothing = outcome' at hf
      obtain ⟨result, u⟩ := outcome
      obtain ⟨result', u'⟩ := outcome'
      cases result <;> cases result' <;> exact hf

end Abreast

end SysExporter.Scrape
