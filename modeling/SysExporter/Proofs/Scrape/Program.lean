import SysExporter.Proofs.Scrape.Iteration
import SysExporter.Scraper

namespace SysExporter

namespace Scrape

open SysExporter.Metric Sql

-- What a scraper does that keeps nothing from one run to the next. It may go on in
-- any way that depends on what it is told, and it is told the answers to its
-- queries, how its waits end, whether the channel is closed and how long it has
-- been running. A wait may have a limit, which counts from the start of the run.
inductive Program (α : Type) where
  | done (a : α)
  | push (limit : Option Nat) (o : Observation) (next : Except Halt Unit → Program α)
  | pause (limit : Option Nat) (ms : Nat) (next : Except Halt Unit → Program α)
  | issue (sql : String) (next : Source.Feed → Program α)
  | fetch (limit : Option Nat) (feed : Source.Feed)
      (next : Except Halt (Option (Source.Item × Source.Feed)) → Program α)
  | release (next : Program α)
  | closed (next : Bool → Program α)
  | elapsed (next : Nat → Program α)

-- A context that ends at a limit at the latest.
def Context.limited (ctx : Context) (start : Nat) : Option Nat → Context
  | none => ctx
  | some limit => ctx.withDeadline (start + limit)

namespace Program

variable {α β : Type}

def run (ctx : Context) (start : Nat) : Program α → World → α × World
  | .done a, w => (a, w)
  | .push limit o next, w =>
    run ctx start (next (w.push (ctx.limited start limit) o).1)
      (w.push (ctx.limited start limit) o).2
  | .pause limit ms next, w =>
    run ctx start (next (w.pause (ctx.limited start limit) ms).1)
      (w.pause (ctx.limited start limit) ms).2
  | .issue sql next, w => run ctx start (next w.source.feed) (w.issue sql)
  | .fetch limit feed next, w =>
    run ctx start (next (w.fetch (ctx.limited start limit) feed).1)
      (w.fetch (ctx.limited start limit) feed).2
  | .release next, w => run ctx start next w.release
  | .closed next, w => run ctx start (next w.channel.closed) w
  | .elapsed next, w => run ctx start (next (w.now - start)) w

-- One program and then another one.
def bind (p : Program α) (f : α → Program β) : Program β :=
  match p with
  | .done a => f a
  | .push limit o next => .push limit o fun result => (next result).bind f
  | .pause limit ms next => .pause limit ms fun result => (next result).bind f
  | .issue sql next => .issue sql fun feed => (next feed).bind f
  | .fetch limit feed next => .fetch limit feed fun result => (next result).bind f
  | .release next => .release (next.bind f)
  | .closed next => .closed fun isClosed => (next isClosed).bind f
  | .elapsed next => .elapsed fun ms => (next ms).bind f

theorem run_bind (ctx : Context) (start : Nat) (p : Program α) (f : α → Program β) (w : World) :
    (p.bind f).run ctx start w = (f (p.run ctx start w).1).run ctx start (p.run ctx start w).2 := by
  induction p generalizing w with
  | done a => rfl
  | push limit o next ih => exact ih _ _
  | pause limit ms next ih => exact ih _ _
  | issue sql next ih => exact ih _ _
  | fetch limit feed next ih => exact ih _ _
  | release next ih => exact ih _
  | closed next ih => exact ih _ _
  | elapsed next ih => exact ih _ _

-- A step that depends on the success of the one before.
def andThen (p : Program (Except Halt Unit)) (q : Program (Except Halt Unit)) :
    Program (Except Halt Unit) :=
  p.bind fun
    | .ok () => q
    | .error halt => .done (.error halt)

def releasing (result : Except Halt Unit) : Program (Except Halt Unit) :=
  .release (.done result)

def pushAll : List Observation → Program (Except Halt Unit)
  | [] => .done (.ok ())
  | o :: rest => andThen (.push none o .done) (pushAll rest)

def iterate (projection : Projection α) (observe : α → List Observation) (stalls : Bool) :
    Nat → List Source.Item → Program (Except Halt Unit)
  | _, [] => .fetch none ⟨[], stalls⟩ fun result => releasing (result.map fun _ => ())
  | n, item :: rest =>
    .fetch none ⟨item :: rest, stalls⟩ fun
      | .error halt => releasing (.error halt)
      | .ok _ =>
        match item with
        | .error fault => releasing (.error (.failed (.ofSource fault n)))
        | .ok row =>
          match projection.read row with
          | .error reason => releasing (.error (.failed (.decode n reason)))
          | .ok value =>
            (pushAll (observe value)).bind fun
              | .ok () => iterate projection observe stalls (n + 1) rest
              | .error halt => releasing (.error halt)

def rows (projection : Projection α) (observe : α → List Observation) :
    Program (Except Halt Unit) :=
  .issue projection.query fun feed => iterate projection observe feed.stalls 1 feed.items

end Program

end Scrape

open Scrape

end SysExporter
