import SysExporter.Collection
import SysExporter.Proofs.Scrape.Taking

namespace SysExporter.Collection

open SysExporter.Metric Scrape

-- How the handing over of a gauge ends that has to be done by an instant. It is
-- given up then and not before, unless the reader is gone.
inductive Delivered (limit : Nat) (o : Observation) (w : World) :
    Except Halt Unit × World → Prop where
  | accepted {v : World} (takes : Takes w [o] v) (early : v.now < limit)
      (unclosed : v.channel.closed = false) : Delivered limit o w (.ok (), v)
  | closed {v : World} (takes : Takes w [] v) (early : v.now < limit)
      (gone : v.channel.closed = true) : Delivered limit o w (.error (.failed .sinkClosed), v)
  | late {v : World} (takes : Takes w [] v) (past : v.now = max w.now limit) :
      Delivered limit o w (.error (.failed .cancelled), v)

theorem isDone_reportContext (begin now : Nat) :
    (reportContext begin).isDone now = decide (begin + reportBudget ≤ now) := by
  simp [reportContext, Context.isDone, Context.ending, earliest]

theorem delivered {begin : Nat} {w : World} (h : begin + reportBudget ≤ w.horizon)
    (o : Observation) :
    Delivered (begin + reportBudget) o w (w.push (reportContext begin) o) := by
  have hp := handover (reportContext begin) o w
  have hh := handed_push (reportContext begin) o w
  have hearly {t : Nat} (live : (reportContext begin).isDone t = false) :
      t < begin + reportBudget := by
    simpa [isDone_reportContext] using live
  generalize w.push (reportContext begin) o = outcome at hp hh
  cases hp with
  | tardy done =>
    have hover : begin + reportBudget ≤ w.now := by simpa [isDone_reportContext] using done
    exact .late .refl (Nat.max_eq_left hover).symm
  | @accepted u waits live unclosed room =>
    cases hh with
    | taken takes => exact .accepted takes (hearly live) unclosed
  | @closed u waits live gone =>
    cases hh with
    | left takes => exact .closed (takes (by simp)) (hearly live) gone
  | @ended u waits due unclosed full =>
    cases hh with
    | left takes =>
      have hdue : begin + reportBudget = u.now := by
        simpa [reportContext, Context.ending, earliest] using due
      have hbegun : w.now ≤ begin + reportBudget := hdue ▸ waits.now_le
      exact .late (takes (by simp)) (hdue.symm.trans (Nat.max_eq_right hbegun).symm)
  | @abandoned u waits late unending unclosed full =>
    -- the horizon lies beyond the end of the report
    have hlt : u.horizon < begin + reportBudget := hearly unending
    have hu : u.horizon = w.horizon := waits.horizon_eq
    omega

-- How many places became free between two worlds before an instant.
def freedBefore (limit : Nat) (w v : World) : Nat :=
  (v.since w).receipts.countP (· < limit)

theorem length_receipts (h : History) : h.receipts.length = h.received.length := by
  induction h with
  | nil => rfl
  | cons entry rest ih =>
    simp only [History.receipts, History.received, List.length_reverse] at ih ⊢
    cases he : entry.event.received? <;> simp [he, ih]

theorem freedBefore_le (limit : Nat) (w v : World) :
    freedBefore limit w v ≤ (v.since w).received.length := by
  rw [← length_receipts]
  exact List.countP_le_length

-- What is received from an instant on frees nothing before it.
theorem freedBefore_later {limit : Nat} {u v w : World} (hwv : Later w v) (hvu : Later v u)
    (h : limit ≤ v.now) : freedBefore limit w u = freedBefore limit w v := by
  have hnone : (u.since v).receipts.countP (· < limit) = 0 := by
    rw [List.countP_eq_zero]
    intro t ht
    obtain ⟨entry, hentry, hreceived⟩ := List.mem_filterMap.mp ht
    obtain ⟨_, _, rfl⟩ := Option.map_eq_some_iff.mp hreceived
    have htime := (hvu.time_mem entry hentry).1
    simp only [decide_eq_true_eq]
    omega
  unfold freedBefore
  rw [hwv.since_trans hvu, History.receipts, List.filterMap_append, List.countP_append]
  exact (congrArg (· + _) hnone).trans (Nat.zero_add _)

-- Where the channel is full in the end, what was taken in and what was there
-- before fills it and all places that became free.
theorem room_of_full {w v : World} {sent : List Observation} (limit : Nat) (h : Takes w sent v)
    (unclosed : v.channel.closed = false) (full : v.channel.hasRoom = false) :
    w.channel.capacity + freedBefore limit w v ≤ w.channel.buffer.length + sent.length := by
  have hs : (v.since w).accepted = sent := by
    have hsent := h.accepted_eq
    rw [h.later.accepted_eq] at hsent
    exact List.append_cancel_left hsent
  have hlen := congrArg List.length (h.later.buffer_eq unclosed)
  rw [hs, List.length_append, List.length_append] at hlen
  have hfreed := freedBefore_le limit w v
  have hcap := h.later.capacity_eq
  have hfull : v.channel.capacity ≤ v.channel.buffer.length := by
    simpa [Channel.hasRoom] using full
  omega

-- If time went by, then the places that there were and those that became free
-- before the present are all taken, for the clock only moves while there is none.
theorem filled {w v : World} {sent : List Observation} (h : Takes w sent v)
    (moved : w.now < v.now) :
    w.channel.capacity + freedBefore v.now w v ≤ w.channel.buffer.length + sent.length := by
  induction h with
  | refl => exact absurd moved (Nat.lt_irrefl _)
  | @turn os v h ih =>
    rw [World.turn_now] at moved ⊢
    rw [freedBefore_later h.later (waits_turn v).toLater (Nat.le_refl _)]
    exact ih moved
  | @tick os v t h unclosed full later awake _ =>
    -- the clock moved, and nothing was received on the way
    have hturn := room_of_full t h.turn unclosed full
    exact hturn
  | @accept os v h o unclosed room ih =>
    have hkept : freedBefore v.now w (v.accept o) = freedBefore v.now w v :=
      freedBefore_later h.later (later_accept v o) (Nat.le_refl _)
    have hv := ih moved
    rw [List.length_append]
    show w.channel.capacity + freedBefore v.now w (v.accept o) ≤ _
    omega

-- What becomes of the gauges of an outcome. The world goes on by itself while the
-- first of them are taken in, and only a reader that goes away closes the channel.
-- A report that is not complete lasts the whole second if the channel stays open,
-- and at no instant before its end there was room for all of them. So it is
-- complete if the channel stays open and the room for them comes within the second.
structure Reported (outcome : Outcome) (w v : World) (status : List Observation) : Prop where
  takes : Takes w status v
  accepted_eq : v.accepted = w.accepted ++ status
  first : status <+: outcome.gauges
  ends : v.now ≤ w.now + reportBudget
  gone : v.channel.closed = true →
    w.channel.closed = true ∨ w.reader.leaves v.history v.now = true
  patient : v.channel.closed = false → status ≠ outcome.gauges → v.now = w.now + reportBudget
  crowded : status ≠ outcome.gauges → w.now < v.now →
    w.channel.capacity + freedBefore v.now w v < w.channel.buffer.length + outcome.gauges.length
  complete : v.channel.closed = false →
    w.channel.buffer.length + outcome.gauges.length ≤
      w.channel.capacity + freedBefore (w.now + reportBudget) w v →
    status = outcome.gauges

theorem reported_of_takes {outcome : Outcome} {w v : World} {status : List Observation}
    (takes : Takes w status v) (first : status <+: outcome.gauges)
    (ends : v.now ≤ w.now + reportBudget)
    (patient : v.channel.closed = false → status ≠ outcome.gauges →
      v.now = w.now + reportBudget) :
    Reported outcome w v status := by
  have hcrowded : status ≠ outcome.gauges → w.now < v.now →
      w.channel.capacity + freedBefore v.now w v <
        w.channel.buffer.length + outcome.gauges.length := by
    intro hpart hmoved
    have hfilled := filled takes hmoved
    -- a part of the gauges is shorter than all of them
    have hshort : status.length < outcome.gauges.length :=
      Nat.lt_of_le_of_ne first.length_le fun hlen => hpart (first.eq_of_length hlen)
    omega
  refine ⟨takes, takes.accepted_eq, first, ends, takes.left, patient, hcrowded, ?_⟩
  intro hopen hroom
  by_contra hpart
  have hend : v.now = w.now + reportBudget := patient hopen hpart
  have hmoved : w.now < v.now := hend ▸ Nat.lt_add_of_pos_right (by decide)
  rw [← hend] at hroom
  exact Nat.not_lt_of_le hroom (hcrowded hpart hmoved)

theorem Delivered.takes {limit : Nat} {o : Observation} {w : World}
    {outcome : Except Halt Unit × World} (h : Delivered limit o w outcome) :
    ∃ os, Takes w os outcome.2 := by
  cases h with
  | accepted takes _ _ => exact ⟨_, takes⟩
  | closed takes _ _ => exact ⟨_, takes⟩
  | late takes _ => exact ⟨_, takes⟩

theorem Delivered.ne_abandoned {limit : Nat} {o : Observation} {w : World}
    {outcome : Except Halt Unit × World} (h : Delivered limit o w outcome) :
    outcome.1 ≠ .error .abandoned := by
  cases h <;> simp

-- The gauges come in order: where the first one is kept out the second one is
-- too, and then the world is no longer changed by it unless the reader is gone.
theorem reported_of_delivered (outcome : Outcome) {w v u : World} {first second : Except Halt Unit}
    (hfirst : Delivered (w.now + reportBudget) outcome.successGauge w (first, v))
    (hsecond : Delivered (w.now + reportBudget) outcome.durationGauge v (second, u))
    (hstays : w.now + reportBudget ≤ v.now → u = v) : ∃ status, Reported outcome w u status := by
  cases hfirst with
  | accepted takes early _ =>
    cases hsecond with
    | accepted takes' early' _ =>
      exact ⟨_, reported_of_takes (takes.trans takes') (List.prefix_refl _) (Nat.le_of_lt early')
        fun _ hpart => absurd rfl hpart⟩
    | closed takes' early' gone =>
      exact ⟨_, reported_of_takes (takes.trans takes') (List.prefix_append _ _)
        (Nat.le_of_lt early') fun hopen => absurd gone (by simp [hopen])⟩
    | late takes' past =>
      have hend : u.now = w.now + reportBudget := past.trans (Nat.max_eq_right (Nat.le_of_lt early))
      exact ⟨_, reported_of_takes (takes.trans takes') (List.prefix_append _ _)
        (Nat.le_of_eq hend) fun _ _ => hend⟩
  | closed takes early gone =>
    -- a channel that is closed stays so
    obtain ⟨os, takes'⟩ := hsecond.takes
    have hgone : u.channel.closed = true := takes'.later.closed_of_closed gone
    cases hsecond with
    | accepted takes' _ unclosed => simp [hgone] at unclosed
    | closed takes' early' _ =>
      exact ⟨_, reported_of_takes (takes.trans takes') List.nil_prefix (Nat.le_of_lt early')
        fun hopen => absurd hgone (by simp [hopen])⟩
    | late takes' past =>
      have hend : u.now = w.now + reportBudget := past.trans (Nat.max_eq_right (Nat.le_of_lt early))
      exact ⟨_, reported_of_takes (takes.trans takes') List.nil_prefix (Nat.le_of_eq hend)
        fun _ _ => hend⟩
  | late takes past =>
    have hend : v.now = w.now + reportBudget := past.trans (Nat.max_eq_right (Nat.le_add_right _ _))
    obtain rfl : u = v := hstays (Nat.le_of_eq hend.symm)
    exact ⟨_, reported_of_takes takes List.nil_prefix (Nat.le_of_eq hend) fun _ _ => hend⟩

theorem report_eq {outcome : Outcome} {w v u : World} {first second : Except Halt Unit}
    (hp : w.push (reportContext w.now) outcome.successGauge = (first, v))
    (hfirst : first ≠ .error .abandoned)
    (hq : v.push (reportContext w.now) outcome.durationGauge = (second, u))
    (hsecond : second ≠ .error .abandoned) : report outcome w = (.ok (), u) := by
  unfold report
  simp only [hp]
  split
  · simp_all
  · simp_all

-- A report comes to an end within its second.
theorem report_ok (outcome : Outcome) {w : World} (h : w.now + reportBudget ≤ w.horizon) :
    ∃ v status, report outcome w = (.ok (), v) ∧ Reported outcome w v status := by
  have hfirst := delivered h outcome.successGauge
  generalize hp : w.push (reportContext w.now) outcome.successGauge = pushed at hfirst
  obtain ⟨first, v⟩ := pushed
  have hv : w.now + reportBudget ≤ v.horizon := by
    obtain ⟨os, htakes⟩ := hfirst.takes
    rw [htakes.later.horizon_eq]
    exact h
  have hsecond := delivered hv outcome.durationGauge
  generalize hq : v.push (reportContext w.now) outcome.durationGauge = pushed at hsecond
  obtain ⟨second, u⟩ := pushed
  have hstays : w.now + reportBudget ≤ v.now → u = v := by
    intro hpast
    have hdone : (reportContext w.now).isDone v.now = true := by
      simpa [isDone_reportContext] using hpast
    have hrefused : v.push (reportContext w.now) outcome.durationGauge =
        (.error (.failed .cancelled), v) := if_pos hdone
    exact congrArg Prod.snd (hq.symm.trans hrefused)
  obtain ⟨status, hreported⟩ := reported_of_delivered outcome hfirst hsecond hstays
  exact ⟨u, status, report_eq hp hfirst.ne_abandoned hq hsecond.ne_abandoned, hreported⟩

end SysExporter.Collection
