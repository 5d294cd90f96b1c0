import SysExporter.Proofs.Scrape.Waiting

namespace SysExporter.Scrape

open SysExporter.Metric

-- The world goes on by itself while observations are taken in. The clock moves only
-- while the channel is open and has no room. The reader has its turn before that, and
-- the clock does not pass an instant at which the reader wakes. So nothing but the
-- reader makes room or closes the channel, and no time goes by if there is room.
inductive Takes (w : World) : List Observation → World → Prop where
  | refl : Takes w [] w
  | turn {os : List Observation} {v : World} (h : Takes w os v) : Takes w os v.turn
  | tick {os : List Observation} {v : World} {t : Nat} (h : Takes w os v)
      (unclosed : v.turn.channel.closed = false) (full : v.turn.channel.hasRoom = false)
      (later : v.now ≤ t) (awake : ∀ s, v.turn.nextWake = some s → t ≤ s) :
      Takes w os { v.turn with now := t }
  | accept {os : List Observation} {v : World} (h : Takes w os v) (o : Observation)
      (unclosed : v.channel.closed = false) (room : v.channel.hasRoom = true) :
      Takes w (os ++ [o]) (v.accept o)

theorem turn_of_closed {w : World} (h : w.channel.closed = true) : w.turn = w := by
  rw [World.turn, if_pos h]

-- Only a reader that goes away closes its channel, and nothing happens after that.
theorem leaves_of_turn_closed {w : World} (hopen : w.channel.closed = false)
    (h : w.turn.channel.closed = true) : w.reader.leaves w.turn.history w.now = true := by
  fun_induction World.turn w with
  | case1 w hc => simp [hopen] at hc
  | case2 w hc hl => exact hl
  | case3 w hc hl ht hb => simp [hopen] at h
  | case4 w hc hl ht o rest hb ih => exact ih hopen h
  | case5 w hc hl ht => simp [hopen] at h

namespace Takes

variable {u v w : World} {os more : List Observation}

theorem trans (huv : Takes u os v) (hvw : Takes v more w) : Takes u (os ++ more) w := by
  induction hvw with
  | refl => simpa using huv
  | turn _ ih => exact ih.turn
  | tick _ unclosed full later awake ih => exact ih.tick unclosed full later awake
  | accept _ o unclosed room ih =>
    rw [← List.append_assoc]
    exact ih.accept o unclosed room

theorem later (h : Takes w os v) : Later w v := by
  induction h with
  | refl => exact .refl w
  | @turn _ v _ ih => exact ih.trans (waits_turn v).toLater
  | @tick _ v t _ _ _ later _ ih =>
    have hmoves : v.turn.now ≤ t := by simpa using later
    exact ih.trans ((waits_turn v).trans (waits_advance v.turn hmoves)).toLater
  | @accept _ v _ o _ _ ih => exact ih.trans (later_accept v o)

theorem accepted_eq (h : Takes w os v) : v.accepted = w.accepted ++ os := by
  induction h with
  | refl => simp
  | @turn _ v _ ih => rw [(waits_turn v).accepted_same, ih]
  | @tick _ v t _ _ _ later _ ih =>
    have hmoves : v.turn.now ≤ t := by simpa using later
    rw [((waits_turn v).trans (waits_advance v.turn hmoves)).accepted_same, ih]
  | accept _ o _ _ ih => rw [accepted_accept, ih, List.append_assoc]

-- A channel that is found closed was closed before, or its reader has just gone away.
theorem left (h : Takes w os v) (hclosed : v.channel.closed = true) :
    w.channel.closed = true ∨ w.reader.leaves v.history v.now = true := by
  induction h with
  | refl => exact .inl hclosed
  | @turn _ v h ih =>
    cases hv : v.channel.closed with
    | true => simpa [turn_of_closed hv] using ih hv
    | false =>
      have hleaves := leaves_of_turn_closed hv hclosed
      rw [h.later.reader_eq] at hleaves
      exact .inr (by simpa using hleaves)
  | tick _ unclosed _ _ _ _ =>
    have hfalse := hclosed.symm.trans unclosed
    cases hfalse
  | accept _ _ unclosed _ _ =>
    have hfalse := hclosed.symm.trans unclosed
    cases hfalse

end Takes

theorem takes_interlude (w : World) : Takes w [] w.interlude := by
  unfold World.interlude
  split
  · exact Takes.refl.turn
  · exact .refl

-- A wait for room that is not given up lets the world go on by itself.
theorem takes_suspend (ending : Option Nat) (w : World)
    (h : (w.suspend ending .room).1 ≠ .error .abandoned) :
    Takes w [] (w.suspend ending .room).2 := by
  fun_induction World.suspend ending .room w with
  | case1 w later result hpoll => exact Takes.refl.turn
  | case2 w later hpoll hnext => exact absurd rfl h
  | case3 w later hpoll t hnext ht hover =>
    obtain ⟨unclosed, full⟩ := poll_room_eq_none hpoll
    have hnow : w.now ≤ t := by simpa [later] using Nat.le_of_lt ht.1
    exact Takes.refl.tick unclosed full hnow fun s hs => earliest_le hnext (by simp [later, hs])
  | case4 w later hpoll t hnext ht hover ih =>
    obtain ⟨unclosed, full⟩ := poll_room_eq_none hpoll
    have hnow : w.now ≤ t := by simpa [later] using Nat.le_of_lt ht.1
    have htick : Takes w [] { later with now := t } :=
      Takes.refl.tick unclosed full hnow fun s hs => earliest_le hnext (by simp [later, hs])
    exact htick.trans (ih h)
  | case5 w later hpoll t hnext ht => exact absurd rfl h

-- A wait for room that is over has found it.
theorem room_of_suspend {ctx : Context} {v w : World} (hlive : ctx.isDone w.now = false)
    (h : w.suspend ctx.ending .room = (.ok (), v)) :
    v.channel.closed = false ∧ v.channel.hasRoom = true := by
  have hs := suspended .room hlive
  rw [h] at hs
  generalize hv : ((.ok (), v) : Except Halt Unit × World) = outcome at hs
  cases hs with
  | @polled u result waits live poll =>
    obtain ⟨hresult, rfl⟩ := Prod.mk.inj hv
    obtain rfl : result = .ok () := by
      cases result with
      | ok _ => rfl
      | error e => cases hresult
    cases hc : v.channel.closed with
    | true => simp [Goal.poll, hc] at poll
    | false =>
      cases hr : v.channel.hasRoom with
      | true => exact ⟨rfl, rfl⟩
      | false => simp [Goal.poll, hc, hr] at poll
  | ended => cases hv
  | abandoned => cases hv

-- An observation is taken in, or left out with the world going on all the same.
inductive Handed (o : Observation) (w : World) : Except Halt Unit × World → Prop where
  | taken {v : World} (takes : Takes w [o] v) : Handed o w (.ok (), v)
  | left {v : World} {halt : Halt} (takes : halt ≠ .abandoned → Takes w [] v) :
      Handed o w (.error halt, v)

theorem handed_push (ctx : Context) (o : Observation) (w : World) :
    Handed o w (w.push ctx o) := by
  have hfirst := takes_interlude w
  unfold World.push
  split
  · exact .left fun _ => .refl
  · rename_i hdone
    have hlive : ctx.isDone w.interlude.now = false := by simpa [interlude_now] using hdone
    dsimp only
    split
    · exact .left fun _ => hfirst
    · rename_i hopen
      split
      · rename_i hroom
        exact .taken (hfirst.accept o (by simpa using hopen) hroom)
      · have hwait := takes_suspend ctx.ending w.interlude
        cases hs : w.interlude.suspend ctx.ending .room with
        | mk result later =>
          rw [hs] at hwait
          cases result with
          | ok _ =>
            obtain ⟨unclosed, room⟩ := room_of_suspend hlive hs
            exact .taken ((hfirst.trans (hwait (by simp))).accept o unclosed room)
          | error halt => exact .left fun hgiven => hfirst.trans (hwait (by simpa using hgiven))

end SysExporter.Scrape
