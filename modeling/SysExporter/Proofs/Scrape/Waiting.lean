import SysExporter.Proofs.Scrape.Later

namespace SysExporter.Scrape

open SysExporter.Metric

-- How a suspension ends. Unless the wait was over, it was not over when the
-- reader had its last turn, and nothing has changed since then but the time. A
-- suspension is given up only if its end does not come by the horizon.
inductive Suspended (ending : Option Nat) (goal : Goal) (w : World) :
    Except Halt Unit × World → Prop where
  | polled {u : World} {result : Except ScrapeError Unit} (waits : Waits w u)
      (live : ending.any (· ≤ u.now) = false) (poll : goal.poll u = some result) :
      Suspended ending goal w (result.mapError .failed, u)
  | ended {u : World} {t : Nat} (waits : Waits w u) (due : ending = some u.now)
      (poll : goal.poll { u with now := t } = none) :
      Suspended ending goal w (.error (.failed .cancelled), u)
  | abandoned {u : World} {t : Nat} (waits : Waits w u) (late : u.horizon ≤ u.now)
      (unending : ending.any (· ≤ u.horizon) = false)
      (poll : goal.poll { u with now := t } = none) :
      Suspended ending goal w (.error .abandoned, u)

theorem Suspended.after_waits {ending : Option Nat} {goal : Goal} {w v : World}
    {outcome : Except Halt Unit × World} (hw : Waits w v) (h : Suspended ending goal v outcome) :
    Suspended ending goal w outcome := by
  cases h with
  | polled waits live poll => exact .polled (hw.trans waits) live poll
  | ended waits due poll => exact .ended (hw.trans waits) due poll
  | abandoned waits late unending poll => exact .abandoned (hw.trans waits) late unending poll

-- The instants that a suspension looks out for are all to come.
theorem lt_of_earliest {ending : Option Nat} {goal : Goal} {w : World} {t : Nat}
    (hlive : ending.any (· ≤ w.now) = false) (hpoll : goal.poll w = none)
    (h : earliest [ending, goal.due, w.nextWake] = some t) : w.now < t := by
  have ht := mem_of_earliest h
  simp only [List.mem_cons, List.not_mem_nil, or_false] at ht
  rcases ht with rfl | hdue | hwake
  · simpa using hlive
  · cases goal with
    | instant s =>
      obtain rfl : t = s := by simpa [Goal.due] using hdue
      simpa [Goal.poll] using hpoll
    | room => simp [Goal.due] at hdue
    | nothing => simp [Goal.due] at hdue
  · unfold World.nextWake at hwake
    split at hwake
    · simp at hwake
    · simpa using (Option.filter_eq_some_iff.mp hwake.symm).2

theorem suspended {ending : Option Nat} (goal : Goal) {w : World}
    (hlive : ending.any (· ≤ w.now) = false) :
    Suspended ending goal w (w.suspend ending goal) := by
  fun_induction World.suspend ending goal w with
  | case1 w later result hpoll =>
    exact .polled (waits_turn w) (by simpa [later] using hlive) hpoll
  | case2 w later hpoll hnext =>
    refine .abandoned ((waits_turn w).trans (waits_advance later (Nat.le_max_left _ _)))
      (Nat.le_max_right _ _) ?_ hpoll
    cases ending with
    | none => rfl
    | some e => exact absurd hnext (earliest_ne_none (s := e) (by simp))
  | case3 w later hpoll t hnext ht hover =>
    -- the clock stops at the first instant of interest, so this is the end itself
    refine .ended ((waits_turn w).trans (waits_advance later (Nat.le_of_lt ht.1))) ?_ hpoll
    cases ending with
    | none => simp at hover
    | some e =>
      have hte : t ≤ e := earliest_le hnext (by simp)
      have het : e ≤ t := by simpa using hover
      exact congrArg some (Nat.le_antisymm het hte)
  | case4 w later hpoll t hnext ht hover ih =>
    exact .after_waits ((waits_turn w).trans (waits_advance later (Nat.le_of_lt ht.1)))
      (ih (by simpa using hover))
  | case5 w later hpoll t hnext ht =>
    refine .abandoned ((waits_turn w).trans (waits_advance later (Nat.le_max_left _ _)))
      (Nat.le_max_right _ _) ?_ hpoll
    have hlt : later.now < t := lt_of_earliest (by simpa [later] using hlive) hpoll hnext
    cases ending with
    | none => rfl
    | some e =>
      have hte : t ≤ e := earliest_le hnext (by simp)
      have hover : later.horizon < e := by omega
      simpa using hover

-- How the handing over of an observation ends. Only an open channel with room
-- takes it in, and only while the context is not over.
inductive Handover (ctx : Context) (o : Observation) (w : World) :
    Except Halt Unit × World → Prop where
  | tardy (done : ctx.isDone w.now = true) : Handover ctx o w (.error (.failed .cancelled), w)
  | accepted {u : World} (waits : Waits w u) (live : ctx.isDone u.now = false)
      (unclosed : u.channel.closed = false) (room : u.channel.hasRoom = true) :
      Handover ctx o w (.ok (), u.accept o)
  | closed {u : World} (waits : Waits w u) (live : ctx.isDone u.now = false)
      (gone : u.channel.closed = true) : Handover ctx o w (.error (.failed .sinkClosed), u)
  | ended {u : World} (waits : Waits w u) (due : ctx.ending = some u.now)
      (unclosed : u.channel.closed = false) (full : u.channel.hasRoom = false) :
      Handover ctx o w (.error (.failed .cancelled), u)
  | abandoned {u : World} (waits : Waits w u) (late : u.horizon ≤ u.now)
      (unending : ctx.isDone u.horizon = false) (unclosed : u.channel.closed = false)
      (full : u.channel.hasRoom = false) :
      Handover ctx o w (.error .abandoned, u)

theorem poll_room_eq_none {u : World} (h : Goal.room.poll u = none) :
    u.channel.closed = false ∧ u.channel.hasRoom = false := by
  unfold Goal.poll at h
  cases hc : u.channel.closed <;> cases hr : u.channel.hasRoom <;> simp [hc, hr] at h ⊢

theorem interlude_now (w : World) : w.interlude.now = w.now := by
  unfold World.interlude
  split <;> simp

theorem handover (ctx : Context) (o : Observation) (w : World) :
    Handover ctx o w (w.push ctx o) := by
  have hwaits := waits_interlude w
  have hnow := interlude_now w
  unfold World.push
  split
  · rename_i hdone
    exact .tardy hdone
  · rename_i hdone
    have hlive : ctx.isDone w.interlude.now = false := by simpa [hnow] using hdone
    dsimp only
    split
    · rename_i hclosed
      exact .closed hwaits hlive hclosed
    · rename_i hopen
      split
      · rename_i hroom
        exact .accepted hwaits hlive (by simpa using hopen) hroom
      · have hs := suspended .room hlive
        generalize w.interlude.suspend ctx.ending .room = outcome at hs
        cases hs with
        | @polled u result waits live poll =>
          simp only [Goal.poll] at poll
          cases hc : u.channel.closed with
          | true =>
            obtain rfl : .error .sinkClosed = result := by simpa [hc] using poll
            exact .closed (hwaits.trans waits) live hc
          | false =>
            cases hr : u.channel.hasRoom with
            | true =>
              obtain rfl : .ok () = result := by simpa [hc, hr] using poll
              exact .accepted (hwaits.trans waits) live hc hr
            | false => simp [hc, hr] at poll
        | ended waits due poll =>
          have hfull := poll_room_eq_none poll
          exact .ended (hwaits.trans waits) due hfull.1 hfull.2
        | abandoned waits late unending poll =>
          have hfull := poll_room_eq_none poll
          exact .abandoned (hwaits.trans waits) late unending hfull.1 hfull.2

-- How the request for an item ends. One that is there comes at once.
inductive Request (ctx : Context) (feed : Source.Feed) (w : World) :
    Except Halt (Option (Source.Item × Source.Feed)) × World → Prop where
  | tardy (done : ctx.isDone w.now = true) : Request ctx feed w (.error (.failed .cancelled), w)
  | item {i : Source.Item} {rest : Source.Feed} (live : ctx.isDone w.now = false)
      (items : feed.items = i :: rest.items) (stalls : rest.stalls = feed.stalls) :
      Request ctx feed w (.ok (some (i, rest)), w.record .requested)
  | last (live : ctx.isDone w.now = false) (items : feed.items = [])
      (stalls : feed.stalls = false) :
      Request ctx feed w (.ok none, w.record .requested)
  | ended {u : World} (waits : Waits (w.record .requested) u) (items : feed.items = [])
      (stalls : feed.stalls = true) (due : ctx.ending = some u.now) :
      Request ctx feed w (.error (.failed .cancelled), u)
  | abandoned {u : World} (waits : Waits (w.record .requested) u) (items : feed.items = [])
      (stalls : feed.stalls = true) (late : u.horizon ≤ u.now)
      (unending : ctx.isDone u.horizon = false) :
      Request ctx feed w (.error .abandoned, u)

theorem request (ctx : Context) (feed : Source.Feed) (w : World) :
    Request ctx feed w (w.fetch ctx feed) := by
  unfold World.fetch
  split
  · rename_i hdone
    exact .tardy hdone
  · rename_i hdone
    have hlive : ctx.isDone w.now = false := by simpa using hdone
    unfold Source.Feed.fetch
    cases hitems : feed.items with
    | cons i rest => exact .item hlive hitems rfl
    | nil =>
      cases hstalls : feed.stalls with
      | false => exact .last hlive hitems hstalls
      | true =>
        have hlive : ctx.isDone (w.record .requested).now = false := hlive
        have hs := suspended .nothing hlive
        simp only [if_true]
        generalize (w.record .requested).suspend ctx.ending .nothing = outcome at hs
        cases hs with
        | polled waits live poll => simp [Goal.poll] at poll
        | ended waits due poll => exact .ended waits hitems hstalls due
        | abandoned waits late unending poll =>
          exact .abandoned waits hitems hstalls late unending

theorem waits_fetch (ctx : Context) (feed : Source.Feed) (w : World) :
    Waits w (w.fetch ctx feed).2 := by
  have h := request ctx feed w
  generalize w.fetch ctx feed = outcome at h
  cases h with
  | tardy _ => exact .refl w
  | item _ _ _ => exact waits_requested w
  | last _ _ _ => exact waits_requested w
  | ended waits _ _ _ => exact (waits_requested w).trans waits
  | abandoned waits _ _ _ _ => exact (waits_requested w).trans waits

theorem waits_pause (ctx : Context) (ms : Nat) (w : World) : Waits w (w.pause ctx ms).2 := by
  unfold World.pause
  split
  · exact .refl w
  · rename_i hdone
    have hlive : ctx.isDone w.now = false := by simpa using hdone
    split
    · exact .refl w
    · have hs := suspended (.instant (w.now + ms)) hlive
      generalize w.suspend ctx.ending (.instant (w.now + ms)) = outcome at hs
      cases hs with
      | polled waits _ _ => exact waits
      | ended waits _ _ => exact waits
      | abandoned waits _ _ _ => exact waits

theorem later_push (ctx : Context) (o : Observation) (w : World) : Later w (w.push ctx o).2 := by
  have h := handover ctx o w
  generalize w.push ctx o = outcome at h
  cases h with
  | tardy _ => exact .refl w
  | accepted waits _ _ _ => exact waits.toLater.trans (later_accept _ o)
  | closed waits _ _ => exact waits.toLater
  | ended waits _ _ _ => exact waits.toLater
  | abandoned waits _ _ _ _ => exact waits.toLater

end SysExporter.Scrape
