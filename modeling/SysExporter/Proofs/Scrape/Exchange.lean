import SysExporter.Proofs.Scrape.Invariance
import SysExporter.Scrape.Pipe
import SysExporter.Scrape.Scripted

namespace SysExporter.Scrape

open SysExporter.Metric

-- What those can do who hold the ends of a channel.
inductive Operation where
  | push (sink : Nat) (ctx : Context) (o : Observation)
  | receive
  | close
  | dropReceiver
  | cloneSink
  | dropSink (sink : Nat)

-- What they are told.
inductive Answer where
  | pushed (o : Observation) (result : Except Halt Unit)
  | received (receipt : Receipt)
  | done

namespace Answer

-- The observation of a push that succeeded.
def taken : Answer → List Observation
  | .pushed o (.ok ()) => [o]
  | _ => []

-- The observation that was handed out.
def handed : Answer → List Observation
  | .received (.item o) => [o]
  | _ => []

end Answer

namespace Pipe

-- Who does not hold an end can do nothing with it.
def perform (p : Pipe) : Operation → Answer × Pipe
  | .push sink ctx o =>
    if p.sinks[sink]? = some true then (.pushed o (p.push ctx o).1, (p.push ctx o).2)
    else (.done, p)
  | .receive => if p.receiver then (.received p.receive.1, p.receive.2) else (.done, p)
  | .close => (.done, if p.receiver then p.close else p)
  | .dropReceiver => (.done, p.dropReceiver)
  | .cloneSink => (.done, p.cloneSink)
  | .dropSink sink => (.done, p.dropSink sink)

def run (p : Pipe) : List Operation → List Answer × Pipe
  | [] => ([], p)
  | operation :: rest =>
    let (answer, q) := p.perform operation
    let (answers, u) := q.run rest
    (answer :: answers, u)

-- The same ends, with someone who acts on the receiving one while a push waits.
def withReader (p : Pipe) (reader : Reader) : Pipe :=
  { p with world := { p.world with reader := reader } }

end Pipe

theorem accepted_push (ctx : Context) (o : Observation) (w : World) :
    (w.push ctx o).2.accepted = w.accepted ++ (Answer.pushed o (w.push ctx o).1).taken := by
  have h := handover ctx o w
  generalize w.push ctx o = outcome at h
  cases h with
  | tardy _ => exact (List.append_nil _).symm
  | accepted waits _ _ _ =>
    rw [accepted_accept, waits.accepted_same]
    rfl
  | closed waits _ _ => exact waits.accepted_same.trans (List.append_nil _).symm
  | ended waits _ _ _ => exact waits.accepted_same.trans (List.append_nil _).symm
  | abandoned waits _ _ _ _ => exact waits.accepted_same.trans (List.append_nil _).symm

-- Where nobody receives and nobody goes away, a push adds to the channel what is
-- taken in and changes nothing else there.
theorem push_idle {w : World} (h : w.reader = .idle) (ctx : Context) (o : Observation) :
    (w.push ctx o).2.received = w.received ∧
    (w.push ctx o).2.channel = { w.channel with
      buffer := w.channel.buffer ++ (Answer.pushed o (w.push ctx o).1).taken } := by
  let P (v : World) : Prop := v.reader = .idle ∧ v.received = w.received ∧
    ∃ new, v.channel = { w.channel with buffer := w.channel.buffer ++ new } ∧
      v.accepted = w.accepted ++ new
  have hP : Undisturbed P := by
    constructor
    case receive =>
      rintro v _ _ _ ht ⟨hv, _⟩
      simp [hv, Reader.idle] at ht
    case abandon =>
      rintro v hl ⟨hv, _⟩
      simp [hv, Reader.idle] at hl
    case advance => exact fun _ hv => hv
  have hw : P w := ⟨h, rfl, [], by simp⟩
  have haccept {v : World} (hv : P v) : P (v.accept o) := by
    obtain ⟨hidle, hreceived, new, hchannel, haccepted⟩ := hv
    refine ⟨hidle, (received_accept v o).trans hreceived, new ++ [o], ?_, ?_⟩
    · simp [World.accept, World.record, Channel.enqueue, hchannel]
    · rw [accepted_accept, haccepted, List.append_assoc]
  obtain ⟨-, hreceived, new, hchannel, haccepted⟩ := hP.push ctx (fun _ _ => haccept) hw
  have htaken := accepted_push ctx o w
  rw [haccepted] at htaken
  exact ⟨hreceived, List.append_cancel_left htaken ▸ hchannel⟩

-- Nothing is lost where nobody goes away.
theorem kept_push {w : World} (hstays : ∀ h now, w.reader.leaves h now = false)
    (hkept : w.conveyed = w.accepted) (ctx : Context) (o : Observation) :
    (w.push ctx o).2.conveyed = (w.push ctx o).2.accepted := by
  let P (v : World) : Prop := v.reader = w.reader ∧ v.conveyed = v.accepted
  have hP : Undisturbed P := by
    constructor
    case receive =>
      rintro v _ _ hb _ ⟨hv, hk⟩
      exact ⟨hv, by rw [conveyed_handOver hb, accepted_handOver, hk]⟩
    case abandon =>
      rintro v hl ⟨hv, _⟩
      simp [hv, hstays] at hl
    case advance => exact fun _ hv => hv
  refine (hP.push ctx (fun _ _ hv => ⟨hv.1, ?_⟩) ⟨rfl, hkept⟩).2
  rw [conveyed_accept, accepted_accept, hv.2]

-- A closed channel changes no more.
theorem push_of_closed {ctx : Context} {w : World} (hlive : ctx.isDone w.now = false)
    (hclosed : w.channel.closed = true) (o : Observation) :
    w.push ctx o = (.error (.failed .sinkClosed), w) := by
  have hturn : w.turn = w := by
    rw [World.turn]
    exact if_pos hclosed
  have hi : w.interlude = w := by
    unfold World.interlude
    rw [hturn, ite_self]
  simp [World.push, hlive, hi, hclosed]

namespace Pipe

-- How far a channel has got: what was taken in, and what was handed out.
structure Carries (capacity : Nat) (reader : Reader) (taken handed : List Observation)
    (p : Pipe) : Prop where
  capacity_eq : p.world.channel.capacity = max 1 capacity
  reader_eq : p.world.reader = reader
  orderly : Orderly p.world
  accepted_eq : p.world.accepted = taken
  received_eq : reader = .idle → p.world.received = handed
  kept : p.receiver = true → (∀ h now, reader.leaves h now = false) →
    p.world.conveyed = p.world.accepted
  gone : p.receiver = false → p.world.channel.closed = true

namespace Carries

variable {capacity : Nat} {reader : Reader} {taken handed : List Observation} {p : Pipe}

theorem created (h : create? capacity = some p) (reader : Reader) :
    Carries capacity reader [] [] (p.withReader reader) := by
  unfold create? Channel.create? at h
  split at h
  · obtain rfl : _ = p := by simpa using h
    exact {
      capacity_eq := rfl
      reader_eq := rfl
      orderly := ⟨List.prefix_refl _, fun _ => rfl, Nat.zero_le _⟩
      accepted_eq := rfl
      received_eq := fun _ => rfl
      kept := fun _ _ => rfl
      gone := by simp [withReader] }
  · simp at h

-- However long someone waits for.
theorem watched (hp : Carries capacity reader taken handed p) (horizon : Nat) :
    Carries capacity reader taken handed { p with world := { p.world with horizon := horizon } } :=
  ⟨hp.capacity_eq, hp.reader_eq, ⟨hp.orderly.first, hp.orderly.kept, hp.orderly.bounded⟩,
    hp.accepted_eq, hp.received_eq, hp.kept, hp.gone⟩

theorem push (hp : Carries capacity reader taken handed p) (ctx : Context) (o : Observation) :
    Carries capacity reader (taken ++ (Answer.pushed o (p.push ctx o).1).taken) handed
      (p.push ctx o).2 := by
  have hw := hp.watched (p.world.now + patience)
  have hlater := later_push ctx o { p.world with horizon := p.world.now + patience }
  constructor
  case capacity_eq => exact hlater.capacity_eq.trans hw.capacity_eq
  case orderly => exact Orderly.invariant.push ctx o hw.orderly
  case accepted_eq => exact (accepted_push ctx o _).trans (by rw [hw.accepted_eq]; rfl)
  case reader_eq => exact hlater.reader_eq.trans hw.reader_eq
  case received_eq =>
    exact fun hidle => (push_idle (hw.reader_eq.trans hidle) ctx o).1.trans
      (hw.received_eq hidle)
  case kept =>
    intro hreceiver hstays
    have hkept := hw.kept hreceiver hstays
    rw [← hw.reader_eq] at hstays
    exact kept_push hstays hkept ctx o
  case gone => exact fun h => hlater.closed_of_closed (hw.gone h)

theorem receive (hp : Carries capacity reader taken handed p) :
    Carries capacity reader taken (handed ++ (Answer.received p.receive.1).handed) p.receive.2 := by
  unfold Pipe.receive Channel.dequeue
  cases hb : p.world.channel.buffer with
  | nil =>
    dsimp only
    split
    · exact (List.append_nil handed).symm ▸ hp
    · exact (List.append_nil handed).symm ▸ hp
  | cons o rest =>
    exact {
      capacity_eq := hp.capacity_eq
      reader_eq := hp.reader_eq
      orderly := hp.orderly.handOver hb
      accepted_eq := (accepted_handOver p.world o rest).trans hp.accepted_eq
      received_eq := fun h => by
        have hr := received_handOver p.world o rest
        rw [hp.received_eq h] at hr
        exact hr
      kept := fun hreceiver hstays => by
        have hk := hp.kept hreceiver hstays
        rw [← conveyed_handOver hb, ← accepted_handOver p.world o rest] at hk
        exact hk
      gone := hp.gone }

theorem close (hp : Carries capacity reader taken handed p) :
    Carries capacity reader taken handed p.close :=
  ⟨hp.capacity_eq, hp.reader_eq,
    ⟨hp.orderly.first, by simp [Pipe.close, Channel.close], hp.orderly.bounded⟩,
    hp.accepted_eq, hp.received_eq, hp.kept, fun _ => rfl⟩

theorem dropReceiver (hp : Carries capacity reader taken handed p) :
    Carries capacity reader taken handed p.dropReceiver :=
  ⟨hp.capacity_eq, hp.reader_eq, hp.orderly.abandon, hp.accepted_eq, hp.received_eq,
    by simp [Pipe.dropReceiver], fun _ => rfl⟩

theorem perform (hp : Carries capacity reader taken handed p) (operation : Operation) :
    Carries capacity reader (taken ++ (p.perform operation).1.taken)
      (handed ++ (p.perform operation).1.handed) (p.perform operation).2 := by
  have hsame : Carries capacity reader (taken ++ []) (handed ++ []) p := by simpa using hp
  cases operation with
  | push sink ctx o =>
    by_cases hheld : p.sinks[sink]? = some true
    · simp only [Pipe.perform, if_pos hheld]
      exact (List.append_nil handed).symm ▸ hp.push ctx o
    · simp only [Pipe.perform, if_neg hheld]
      exact hsame
  | receive =>
    by_cases hheld : p.receiver = true
    · simp only [Pipe.perform, if_pos hheld]
      exact (List.append_nil taken).symm ▸ hp.receive
    · simp only [Pipe.perform, if_neg hheld]
      exact hsame
  | close =>
    by_cases hheld : p.receiver = true
    · simp only [Pipe.perform, if_pos hheld]
      exact hsame.close
    · simp only [Pipe.perform, if_neg hheld]
      exact hsame
  | dropReceiver => exact hsame.dropReceiver
  | cloneSink =>
    exact ⟨hsame.capacity_eq, hsame.reader_eq, hsame.orderly, hsame.accepted_eq,
      hsame.received_eq, hsame.kept, hsame.gone⟩
  | dropSink sink =>
    exact ⟨hsame.capacity_eq, hsame.reader_eq, hsame.orderly, hsame.accepted_eq,
      hsame.received_eq, hsame.kept, hsame.gone⟩

theorem run (hp : Carries capacity reader taken handed p) (operations : List Operation) :
    Carries capacity reader (taken ++ (p.run operations).1.flatMap Answer.taken)
      (handed ++ (p.run operations).1.flatMap Answer.handed) (p.run operations).2 := by
  induction operations generalizing p taken handed with
  | nil => simpa [Pipe.run] using hp
  | cons operation rest ih =>
    have hrest := ih (hp.perform operation)
    rw [List.append_assoc, List.append_assoc] at hrest
    exact hrest

end Carries

theorem closed_receive (p : Pipe) :
    p.receive.2.world.channel.closed = p.world.channel.closed := by
  unfold receive Channel.dequeue
  cases p.world.channel.buffer with
  | nil => dsimp only; split <;> rfl
  | cons o rest => rfl

theorem receiver_receive (p : Pipe) : p.receive.2.receiver = p.receiver := by
  unfold receive Channel.dequeue
  cases p.world.channel.buffer with
  | nil => dsimp only; split <;> rfl
  | cons o rest => rfl

theorem receiver_perform {p : Pipe} {operation : Operation} (h : operation ≠ .dropReceiver) :
    (p.perform operation).2.receiver = p.receiver := by
  cases operation with
  | push sink ctx o => simp only [perform]; split <;> rfl
  | receive =>
    simp only [perform]
    split
    · exact receiver_receive p
    · rfl
  | close => simp only [perform]; split <;> rfl
  | dropReceiver => exact absurd rfl h
  | cloneSink => rfl
  | dropSink sink => rfl

theorem receiver_run {p : Pipe} {operations : List Operation}
    (h : .dropReceiver ∉ operations) : (p.run operations).2.receiver = p.receiver := by
  induction operations generalizing p with
  | nil => rfl
  | cons operation rest ih =>
    have hrest := ih (p := (p.perform operation).2) fun hmem => h (List.mem_cons_of_mem _ hmem)
    exact hrest.trans (receiver_perform fun heq => h (heq ▸ List.mem_cons_self))

-- Once closed, a channel stays closed.
theorem closed_perform {p : Pipe} (h : p.world.channel.closed = true) (operation : Operation) :
    (p.perform operation).2.world.channel.closed = true := by
  cases operation with
  | push sink ctx o =>
    have hlater := later_push ctx o { p.world with horizon := p.world.now + patience }
    simp only [perform]
    split
    · exact hlater.closed_of_closed h
    · exact h
  | receive =>
    simp only [perform]
    split
    · exact (closed_receive p).trans h
    · exact h
  | close =>
    simp only [perform]
    split
    · rfl
    · exact h
  | dropReceiver => rfl
  | cloneSink => exact h
  | dropSink sink => exact h

theorem closed_run {p : Pipe} (h : p.world.channel.closed = true) (operations : List Operation) :
    (p.run operations).2.world.channel.closed = true := by
  induction operations generalizing p with
  | nil => exact h
  | cons operation rest ih => exact ih (closed_perform h operation)

-- After a close, or when the receiver is gone, the channel is closed for good.
theorem closed_of_mem {capacity : Nat} {reader : Reader} {taken handed : List Observation}
    {p : Pipe} (hp : Carries capacity reader taken handed p) {operations : List Operation}
    (h : .close ∈ operations ∨ .dropReceiver ∈ operations) :
    (p.run operations).2.world.channel.closed = true := by
  induction operations generalizing p taken handed with
  | nil => simp at h
  | cons operation rest ih =>
    have hhead (heq : .close = operation ∨ .dropReceiver = operation) :
        (p.perform operation).2.world.channel.closed = true := by
      rcases heq with rfl | rfl
      · by_cases hheld : p.receiver = true
        · simp only [perform, if_pos hheld]
          rfl
        · simp only [perform, if_neg hheld]
          exact hp.gone (by simpa using hheld)
      · rfl
    rcases h with h | h <;> rcases List.mem_cons.mp h with heq | hmem
    · exact closed_run (hhead (.inl heq)) rest
    · exact ih (hp.perform operation) (.inl hmem)
    · exact closed_run (hhead (.inr heq)) rest
    · exact ih (hp.perform operation) (.inr hmem)

-- Who receives as often as something waits is handed all of that in order.
theorem run_receives {p : Pipe} (h : p.receiver = true) {os : List Observation}
    (hbuffer : p.world.channel.buffer = os) :
    (p.run (.replicate os.length .receive)).1 = os.map fun o => .received (.item o) := by
  induction os generalizing p with
  | nil => rfl
  | cons o rest ih =>
    have hreceive : p.perform .receive =
        (.received (.item o), { p with world := p.world.handOver o rest }) := by
      simp only [perform, if_pos h, receive, Channel.dequeue, hbuffer]
      rfl
    have hrest := ih (p := { p with world := p.world.handOver o rest }) h rfl
    rw [List.length_cons, List.replicate_succ]
    simp only [run, hreceive, hrest, List.map_cons]

theorem run_close_receives {p : Pipe} (h : p.receiver = true) :
    (p.run (.close :: .replicate p.world.channel.buffer.length .receive)).1 =
      .done :: p.world.channel.buffer.map fun o => .received (.item o) := by
  have hclose : p.perform .close = (.done, p.close) := by simp only [perform, if_pos h]
  have hbuffer : p.close.world.channel.buffer = p.world.channel.buffer := rfl
  simp only [run, hclose, run_receives (p := p.close) h hbuffer]

-- A bounded channel loses nothing and repeats nothing. What it takes in are the
-- observations whose pushes succeed, in order, and from what it takes in the first
-- ones are handed out and the next ones wait, never more than there are places. A
-- push that fails leaves the channel as it is. The context comes before all else,
-- and then the channel has to be open.
theorem run_lossless {capacity : Nat} {created : Pipe} (h : create? capacity = some created)
    (reader : Reader) (operations : List Operation) :
    let ran := (created.withReader reader).run operations
    let p := ran.2
    p.world.channel.buffer.length ≤ max 1 capacity ∧
    p.world.accepted = ran.1.flatMap Answer.taken ∧
    p.world.conveyed <+: p.world.accepted ∧
    (.dropReceiver ∉ operations → (∀ h now, reader.leaves h now = false) →
      p.world.conveyed = p.world.accepted) ∧
    (reader = .idle → p.world.received = ran.1.flatMap Answer.handed) ∧
    (p.receiver = true →
      (p.run (.close :: .replicate p.world.channel.buffer.length .receive)).1 =
        .done :: p.world.channel.buffer.map fun o => .received (.item o)) ∧
    (.close ∈ operations ∨ .dropReceiver ∈ operations → p.world.channel.closed = true) ∧
    ∀ (ctx : Context) (o : Observation),
      let answer := (p.push ctx o).1
      let q := (p.push ctx o).2
      (ctx.isDone p.world.now = true →
        answer = .error (.failed .cancelled) ∧ q.world.channel = p.world.channel) ∧
      (ctx.isDone p.world.now = false → p.world.channel.closed = true →
        answer = .error (.failed .sinkClosed) ∧ q.world.channel = p.world.channel) ∧
      q.world.accepted = p.world.accepted ++ (Answer.pushed o answer).taken ∧
      (q.world.channel.closed = false →
        q.world.conveyed = p.world.conveyed ++ (Answer.pushed o answer).taken) ∧
      (reader = .idle → q.world.channel = { p.world.channel with
        buffer := p.world.channel.buffer ++ (Answer.pushed o answer).taken }) := by
  intro ran p
  have hstart := Carries.created h reader
  have hp := hstart.run operations
  have hcreated : (created.withReader reader).receiver = true := by
    unfold create? at h
    obtain ⟨channel, -, rfl⟩ := Option.map_eq_some_iff.mp h
    rfl
  have hlater (ctx : Context) (o : Observation) :=
    later_push ctx o { p.world with horizon := p.world.now + patience }
  refine ⟨?_, hp.accepted_eq, hp.orderly.first, ?_, hp.received_eq, run_close_receives,
    closed_of_mem hstart, fun ctx o => ⟨?_, ?_, accepted_push ctx o _, ?_, ?_⟩⟩
  · exact hp.capacity_eq ▸ hp.orderly.bounded
  · exact fun hmem => hp.kept ((receiver_run hmem).trans hcreated)
  · intro hdone
    have hpush : World.push ctx o { p.world with horizon := p.world.now + patience } =
        (.error (.failed .cancelled), _) := if_pos hdone
    exact ⟨congrArg Prod.fst hpush, congrArg (·.2.channel) hpush⟩
  · intro hlive hclosed
    have hpush := push_of_closed (w := { p.world with horizon := p.world.now + patience })
      hlive hclosed o
    exact ⟨congrArg Prod.fst hpush, congrArg (·.2.channel) hpush⟩
  · intro hopen
    have hbefore := hp.orderly.kept ((hlater ctx o).open_of_open hopen)
    have hafter := (hp.push ctx o).orderly.kept hopen
    rw [hafter, hbefore]
    exact accepted_push ctx o _
  · intro hidle
    exact (push_idle (w := { p.world with horizon := p.world.now + patience })
      (hp.reader_eq.trans hidle) ctx o).2

-- A channel of no places at all has one. What a clone pushes after the close is
-- refused, and what was pushed before is handed out all the same.
theorem run_lossless_clamped :
    let created : Pipe := ⟨.fresh ⟨1, [], false, by decide⟩ .idle ⟨[], false⟩, [true], true⟩
    let o := scriptedObservation "late" .one
    let operations : List Operation :=
      [.cloneSink, .push 1 .unbounded o, .close, .push 0 .unbounded o, .receive]
    create? 0 = some created ∧ (created.run operations).1.flatMap Answer.handed = [o] ∧
    (created.run operations).2.world.accepted =
      (created.run operations).1.flatMap Answer.taken ∧
    (created.run operations).2.world.received = [o] := by
  intro created o operations
  have hcreated : create? 0 = some created := rfl
  have hhanded : (created.run operations).1.flatMap Answer.handed = [o] := rfl
  obtain ⟨-, haccepted, -, -, hreceived, -, -, -⟩ := run_lossless hcreated .idle operations
  exact ⟨hcreated, hhanded, haccepted, (hreceived rfl).trans hhanded⟩

end Pipe

end SysExporter.Scrape
