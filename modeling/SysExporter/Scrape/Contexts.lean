import SysExporter.Scrape.Timer

namespace SysExporter.Scrape

-- One of several contexts: its family, which is cancelled as a whole, and its
-- own deadline.
structure Member where
  family : Nat
  deadline : Option Nat
  deriving DecidableEq, Repr

-- Contexts by number, the cancellation of each family, the clock of the machine
-- and the epoch of its timers.
structure Contexts where
  epoch : Nat
  now : Nat
  families : List (Option Nat)
  members : List Member
  deriving DecidableEq, Repr

-- How a wait ends: the work is done, the context is over first, or neither
-- comes about in time.
inductive Waited where
  | ready
  | cancelled
  | abandoned
  deriving DecidableEq, Repr

-- Waiting for work that is done at an instant, or never. The context wins a tie.
def Context.await (ctx : Context) (now : Nat) (due : Option Nat) : Waited × Nat :=
  let horizon := now + patience * Timer.tick
  if ctx.isDone now then (.cancelled, now)
  else if due.any (· ≤ now) then (.ready, now)
  else
    match earliest [ctx.ending, due] with
    | none => (.abandoned, horizon)
    | some t =>
      if horizon < t then (.abandoned, horizon)
      else if ctx.isDone t then (.cancelled, t)
      else (.ready, t)

namespace Contexts

-- The timers count from where the clock starts.
def initial (clock : Nat) : Contexts := ⟨clock, clock, [none], [⟨0, none⟩]⟩

def get? (s : Contexts) (i : Nat) : Option Context :=
  s.members[i]?.map fun m => ⟨m.deadline, s.families[m.family]?.join⟩

def create (s : Contexts) : Contexts :=
  { s with families := s.families ++ [none], members := s.members ++ [⟨s.families.length, none⟩] }

-- A derived context shares the cancellation of the one it comes from.
def derive (s : Contexts) (i : Nat) (f : Context → Context) : Contexts :=
  match s.members[i]?, s.get? i with
  | some m, some ctx => { s with members := s.members ++ [{ m with deadline := (f ctx).deadline }] }
  | _, _ => s

def withTimeout? (s : Contexts) (i : Nat) (d : Duration) : Option Contexts :=
  (after? s.now d).map fun t => s.derive i (·.withDeadline t)

-- The family is cancelled at the instant, unless it is cancelled before that.
def cancelAt (s : Contexts) (i : Nat) (t : Nat) : Contexts :=
  match s.members[i]? with
  | none => s
  | some m =>
    { s with families := s.families.modify m.family fun old => earliest [old, some t] }

def advance (s : Contexts) (span : Nat) : Contexts :=
  { s with now := s.now + span }

def await (s : Contexts) (i : Nat) (due : Option Nat) : Option (Waited × Contexts) :=
  (s.get? i).map fun ctx =>
    let (result, now) := (ctx.awaited s.epoch).await s.now due
    (result, { s with now := now })

def awaitEnd (s : Contexts) (i : Nat) : Option (Bool × Contexts) :=
  (s.get? i).map fun ctx =>
    match (ctx.awaited s.epoch).await s.now none with
    | (.cancelled, now) => (true, { s with now := now })
    | (_, now) => (false, { s with now := now })

end Contexts

end SysExporter.Scrape
