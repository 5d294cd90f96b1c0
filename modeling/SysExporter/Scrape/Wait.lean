import SysExporter.Scrape.Timer
import SysExporter.Scrape.World

namespace SysExporter.Scrape

open SysExporter.Metric

-- Why work stops before it is done: it failed, or it was given up.
inductive Halt where
  | failed (e : ScrapeError)
  | abandoned
  deriving DecidableEq

inductive Goal where
  | room
  | instant (t : Nat)
  | nothing
  deriving DecidableEq, Repr

def Goal.due : Goal → Option Nat
  | .instant t => some t
  | _ => none

-- Whether the wait is over once the reader has had its turn. A place that
-- became free is of no use if the reader has gone away since.
def Goal.poll (goal : Goal) (w : World) : Option (Except ScrapeError Unit) :=
  match goal with
  | .room =>
    if w.channel.closed then some (.error .sinkClosed)
    else if w.channel.hasRoom then some (.ok ())
    else none
  | .instant t => if t ≤ w.now then some (.ok ()) else none
  | .nothing => none

namespace World

def fresh (channel : Channel) (reader : Reader) (feed : Source.Feed) : World :=
  ⟨0, patience, channel, reader, .ofFeed feed, []⟩

@[simp]
theorem turn_now (w : World) : w.turn.now = w.now := by
  fun_induction turn w <;> simp_all [record]

@[simp]
theorem turn_horizon (w : World) : w.turn.horizon = w.horizon := by
  fun_induction turn w <;> simp_all [record]

-- The reader and the clock move in turns until the wait is over. When the
-- clock reaches the end of the context, the context wins.
def suspend (ending : Option Nat) (goal : Goal) (w : World) : Except Halt Unit × World :=
  let later := w.turn
  match goal.poll later with
  | some result => (result.mapError .failed, later)
  | none =>
    match earliest [ending, goal.due, later.nextWake] with
    | none => (.error .abandoned, { later with now := max later.now later.horizon })
    | some t =>
      if _h : later.now < t ∧ t ≤ later.horizon then
        if ending.any (· ≤ t) then (.error (.failed .cancelled), { later with now := t })
        else suspend ending goal { later with now := t }
      else (.error .abandoned, { later with now := max later.now later.horizon })
termination_by w.horizon - w.now
decreasing_by
  have hn : later.now = w.now := turn_now w
  have hh : later.horizon = w.horizon := turn_horizon w
  have ht : later.horizon - t < w.horizon - w.now := by omega
  exact ht

-- Hands an observation over. Nothing is taken in once the context is over.
def push (ctx : Context) (o : Observation) (w : World) : Except Halt Unit × World :=
  if ctx.isDone w.now then (.error (.failed .cancelled), w)
  else
    let w := w.interlude
    if w.channel.closed then (.error (.failed .sinkClosed), w)
    else if w.channel.hasRoom then (.ok (), w.accept o)
    else
      match w.suspend ctx.ending .room with
      | (.ok (), later) => (.ok (), later.accept o)
      | (.error halt, later) => (.error halt, later)

def pause (ctx : Context) (ms : Nat) (w : World) : Except Halt Unit × World :=
  if ctx.isDone w.now then (.error (.failed .cancelled), w)
  else if ms = 0 then (.ok (), w)
  else w.suspend ctx.ending (.instant (w.now + ms))

def fetch (ctx : Context) (feed : Source.Feed) (w : World) :
    Except Halt (Option (Source.Item × Source.Feed)) × World :=
  if ctx.isDone w.now then (.error (.failed .cancelled), w)
  else
    match feed.fetch with
    | .item i rest => (.ok (some (i, rest)), w.record .requested)
    | .ended => (.ok none, w.record .requested)
    | .silent =>
      match (w.record .requested).suspend ctx.ending .nothing with
      | (.ok (), later) => (.ok none, later)
      | (.error halt, later) => (.error halt, later)

end World

end SysExporter.Scrape
