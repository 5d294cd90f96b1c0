import SysExporter.Scrape.Channel
import SysExporter.Scrape.Error
import SysExporter.Scrape.Reader
import SysExporter.Source.Basic

namespace SysExporter.Scrape

open SysExporter.Metric

-- All that a running scrape touches. Work that is still blocked at the horizon
-- is given up. The history is kept with the last event first.
structure World where
  now : Nat
  horizon : Nat
  channel : Channel
  reader : Reader
  source : Source
  history : History

namespace World

def record (w : World) (event : Event) : World :=
  { w with history := ⟨w.now, event⟩ :: w.history }

def accepted (w : World) : List Observation :=
  w.history.accepted

def received (w : World) : List Observation :=
  w.history.received

def since (w earlier : World) : History :=
  w.history.take (w.history.length - earlier.history.length)

-- The reader runs until it has nothing to do at this instant.
def turn (w : World) : World :=
  if w.channel.closed then w
  else if w.reader.leaves w.history w.now then { w with channel := w.channel.abandon }
  else if w.reader.takes w.history w.now then
    match _h : w.channel.buffer with
    | [] => w
    | o :: rest =>
      turn ({ w with channel := { w.channel with buffer := rest } }.record (.received o))
  else w
termination_by w.channel.buffer.length
decreasing_by simp [record, _h]

-- The reader may have its turn although the scrape could go on.
def interlude (w : World) : World :=
  if w.reader.interrupts w.history w.now then w.turn else w

-- When the reader wakes next, if that is still to come.
def nextWake (w : World) : Option Nat :=
  if w.channel.closed then none else (w.reader.wakes w.history w.now).filter (w.now < ·)

def issue (w : World) (sql : String) : World :=
  { w with source := w.source.issue sql }.record (.issued sql)

def release (w : World) : World :=
  { w with source := w.source.release }

@[simp]
theorem release_accepted (w : World) : w.release.accepted = w.accepted := rfl

def accept (w : World) (o : Observation) : World :=
  { w with channel := w.channel.enqueue o }.record (.accepted o)

end World

end SysExporter.Scrape
