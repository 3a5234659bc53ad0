import Strided.Collector.Joining

/-!
# Forwarding collectors

A forwarding collector writes every chunk to a sink at once, as bytes or decoded, and holds a lock
while it writes.  The lock is released however the write ends.  A `Conduit` is such a collector for
sinks of any kind: how one takes a write is told by a function.

The sink of a `Forwarding` collector takes texts, bytes or both, and may be full after a number of
writes.  It keeps what was written, and notes for every attempt whether the lock was held.
-/

namespace Strided

/-- A lock, by how often it is held. -/
structure Lock where
  depth : Nat
  deriving DecidableEq, Repr

namespace Lock

def acquire (l : Lock) : Lock := ⟨l.depth + 1⟩
def release (l : Lock) : Lock := ⟨l.depth - 1⟩
def held (l : Lock) : Bool := l.depth != 0

/-- Runs a body with the lock held, and releases it whatever comes of the body. -/
def during {σ α : Type} (l : Lock) (body : Lock → Reply σ α) : Reply (Lock × σ) α :=
  (body l.acquire).mapState fun s => (l.acquire.release, s)

end Lock

/-- One piece of data written to a sink. -/
inductive Written where
  | text (s : String)
  | bytes (b : List UInt8)
  deriving DecidableEq, Repr

/-- What a sink takes. -/
inductive SinkKind where
  | text
  | binary
  | any
  deriving DecidableEq, Repr

/-- What chunks are written to. -/
structure Sink where
  kind : SinkKind
  /-- How many writes succeed, if not all do. -/
  capacity : Option Nat
  /-- What was written. -/
  writes : List Written
  /-- For every attempt to write, whether the lock was held. -/
  held : List Bool
  deriving DecidableEq, Repr

namespace Sink

def empty (kind : SinkKind) (capacity : Option Nat) : Sink := ⟨kind, capacity, [], []⟩

/-- The sink takes no more. -/
def full (s : Sink) : Bool := s.capacity.any (· ≤ s.writes.length)

/-- Why a sink refuses data of the wrong sort. -/
def refusal? : SinkKind → Written → Option Fault
  | .text, .bytes _ => some (.textExpected "bytes")
  | .binary, .text _ => some (.bytesExpected "str")
  | _, _ => none

/-- Writes one piece of data under a lock. -/
def write (s : Sink) (lock : Lock) (data : Written) : Reply Sink Unit :=
  let s := { s with held := s.held ++ [lock.held] }
  if s.full then .fault s .diskFull
  else
    match refusal? s.kind data with
    | some e => .fault s e
    | none => .ok { s with writes := s.writes ++ [data] } ()

end Sink

/-- A collector that forwards to a sink of any kind. -/
structure Conduit (σ : Type) where
  binary : Bool
  lock : Lock
  sink : σ

namespace Conduit

variable {σ : Type}

def prepare (c : Conduit σ) (b : List UInt8) : Except Fault Written :=
  if c.binary then .ok (.bytes b) else (decodeChunk b).map .text

/-- Forwards a chunk with the lock held, to a sink that takes a piece of data under a lock as `write`
says. -/
def onChunk (write : σ → Lock → Written → Reply σ Unit) (c : Conduit σ) (b : List UInt8) :
    Reply (Conduit σ) Unit :=
  let r := c.lock.during fun lock =>
    match c.prepare b with
    | .error e => .fault c.sink e
    | .ok data => write c.sink lock data
  r.mapState fun (lock, sink) => { c with lock := lock, sink := sink }

end Conduit

/-- A collector that forwards to a sink. -/
structure Forwarding where
  binary : Bool
  /-- The lock is the collector's own. -/
  ownLock : Bool
  lock : Lock
  sink : Sink
  deriving DecidableEq, Repr

namespace Forwarding

def conduit (c : Forwarding) : Conduit Sink := ⟨c.binary, c.lock, c.sink⟩

/-- The collector with the lock and the sink of a conduit. -/
def withConduit (c : Forwarding) (d : Conduit Sink) : Forwarding :=
  { c with lock := d.lock, sink := d.sink }

def prepare (c : Forwarding) (b : List UInt8) : Except Fault Written := c.conduit.prepare b

/-- Forwards a chunk with the lock held. -/
def onChunk (c : Forwarding) (b : List UInt8) : Reply Forwarding Unit :=
  (c.conduit.onChunk Sink.write b).mapState c.withConduit

end Forwarding

end Strided
