import SysExporter.Duration.Basic
import SysExporter.MySql.Column
import SysExporter.MySql.Options
import SysExporter.ServerVersion
import SysExporter.Source.Basic

namespace SysExporter.MySql

open Text

structure Refusal where
  code : Nat
  state : String
  text : String
  deriving DecidableEq, Repr

def Refusal.toFailure (r : Refusal) : Failure :=
  .database s!"{r.code} ({r.state}): {r.text}"

-- How a server answers a statement: with a refusal, or with rows that a refusal
-- may cut short.
inductive Answer where
  | refused (r : Refusal)
  | given (columns : List Column) (rows : List (List (Option Bytes))) (ending : Option Refusal)

-- A statement without columns has no rows.
def Answer.results : Answer → List (Except Failure (List Sql.Value))
  | .refused r => [.error r.toFailure]
  | .given [] _ _ => []
  | .given columns rows ending =>
    rows.map (convertRow 0 columns) ++ (ending.map fun r => .error r.toFailure).toList

-- A server answers when it is asked for its version, and to any other statement.
structure Server where
  version : Answer
  answer : Answer

-- What is found at an endpoint: a server, or the reason why there is none.
abbrev Network := Endpoint → Except String Server

-- Nothing can be reached, and there is no socket.
def Network.unreachable : Network
  | .tcp .. => .error "Network is unreachable (os error 101)"
  | .socket _ => .error "No such file or directory (os error 2)"

-- A pool of connections. It connects when it is made, or on first use.
structure Pool where
  network : Network
  options : Options
  maxConnections : UInt32
  patience : Duration
  size : Nat
  isClosed : Bool
  positive : maxConnections ≠ 0

namespace Pool

def noCapacity : String := "capacity must be non-zero"

-- Without any time to wait there is no connection.
def acquire (p : Pool) : Except Failure Server :=
  if p.isClosed then .error .poolClosed
  else if p.patience.isZero then .error .poolTimedOut
  else (p.network p.options.endpoint).mapError .io

-- A pool that has not connected yet. It needs room for one connection.
def lazily (network : Network) (url : String) (maxConnections : UInt32) (patience : Duration) :
    Except Failure (Option Pool) := do
  let options ← Options.parse url.toList
  return if h : maxConnections ≠ 0 then
    some ⟨network, options, maxConnections, patience, 0, false, h⟩
  else none

-- A pool with its first connection.
def connect (network : Network) (url : String) (maxConnections : UInt32) (patience : Duration) :
    Except Failure (Option Pool) := do
  match ← lazily network url maxConnections patience with
  | none => return none
  | some pool =>
    let _ ← pool.acquire
    return some { pool with size := 1 }

def close (p : Pool) : Pool :=
  { p with size := 0, isClosed := true }

def debug (p : Pool) : String :=
  s!"MySqlSource \x7b size: {p.size}, .. \x7d"

-- What a statement gives: rows and failures, one by one.
def items (p : Pool) : List Source.Item :=
  match p.acquire with
  | .error failure => [.error failure.toFault]
  | .ok server => server.answer.results.map fun
    | .ok values => .ok ⟨values⟩
    | .error failure => .error failure.toFault

def source (p : Pool) : Source :=
  .ofFeed ⟨p.items, false⟩

-- The first value of the first row. One that is no text counts as missing.
def firstText : List (Except Failure (List Sql.Value)) → Except Failure String
  | .ok (.text s :: _) :: _ => .ok s
  | .ok _ :: _ => .error (.columnDecode "0" "unexpected null; try decoding as an `Option`")
  | .error failure :: _ => .error failure
  | [] => .error .rowNotFound

def serverVersion (p : Pool) : Except Source.Fault ServerVersion :=
  match p.acquire.bind fun server => firstText server.version.results with
  | .error failure => .error failure.toFault
  | .ok raw =>
    (ServerVersion.parse raw).mapError fun fault =>
      .decode ("server version " ++ quote raw ++ ": " ++ fault.message)

end Pool

end SysExporter.MySql
