import SysExporter.Source.Feed

namespace SysExporter

-- A database that answers every query in the same way. It counts the cursors
-- that were opened and released.
structure Source where
  feed : Source.Feed
  queries : List String
  opened : Nat
  released : Nat

namespace Source

def ofFeed (feed : Feed) : Source :=
  ⟨feed, [], 0, 0⟩

-- A statement opens a cursor on the whole feed.
def issue (source : Source) (sql : String) : Source :=
  { source with queries := source.queries ++ [sql], opened := source.opened + 1 }

def release (source : Source) : Source :=
  { source with released := source.released + 1 }

def openCursors (source : Source) : Nat :=
  source.opened - source.released

-- Row streams by number. One that was dropped has no feed any more.
structure Streams where
  source : Source
  streams : List (Option Feed)

namespace Streams

def open? (s : Streams) (stream : Nat) : Option Feed :=
  s.streams[stream]?.join

def query (s : Streams) (sql : String) : Streams :=
  ⟨s.source.issue sql, s.streams ++ [some s.source.feed]⟩

-- Fetching takes the item off the stream.
def next (s : Streams) (stream : Nat) : Option Fetched × Streams :=
  match s.open? stream with
  | none => (none, s)
  | some feed =>
    match feed.fetch with
    | .item i rest => (some (.item i rest), { s with streams := s.streams.set stream (some rest) })
    | other => (some other, s)

def drop (s : Streams) (stream : Nat) : Streams :=
  match s.open? stream with
  | none => s
  | some _ => ⟨s.source.release, s.streams.set stream none⟩

end Streams

end Source

end SysExporter
