import Strided.Collector.Chunk
import Strided.Collector.Forwarding
import Strided.Collector.Single

/-!
# Collectors

A `Collector` takes the chunks of a producer.  `callback` is what a producer calls; a native
producer cannot receive a fault, so `nativeCallback` only reports what was dropped.
-/

namespace Strided

/-- A collector of one of the kinds. -/
inductive Collector where
  /-- A collector that takes nothing. -/
  | bare
  | joining (c : Joining)
  | single (c : Single)
  | forwarding (c : Forwarding)

namespace Collector

def className : Collector → String
  | bare => "Accumulator"
  | joining _ => "PrintAccumulator"
  | single _ => "SinglePartStringAccumulator"
  | forwarding _ => "FileAccumulator"

def onChunk (c : Collector) (b : List UInt8) : Reply Collector Unit :=
  match c with
  | bare => .fault bare .notImplemented
  | joining c => (c.onChunk b).mapState joining
  | single c => (c.onChunk b).mapState single
  | forwarding c => (c.onChunk b).mapState forwarding

def callback (c : Collector) (chunk : Chunk) : Reply Collector Unit :=
  match chunk.toBytes with
  | .ok b => c.onChunk b
  | .error e => .fault c e

/-- Takes a chunk from a native producer, and answers with the faults that it does not receive. -/
def nativeCallback (c : Collector) (chunk : Chunk) : Reply Collector (List Fault) :=
  let r := c.callback chunk
  match r.outcome with
  | .ok _ => ⟨r.state, r.log, .ok []⟩
  | .error e => ⟨r.state, r.log, .ok [e]⟩

def join (c : Collector) : Reply Collector String :=
  match c with
  | joining c => .ok (joining c) c.join
  | c => .fault c (.noAttribute c.className "join")

def take (c : Collector) : Reply Collector String :=
  match c with
  | single c => c.take.mapState single
  | c => .fault c (.noAttribute c.className "take_value")

/-- Calls back with several chunks.  The producer carries on after a fault. -/
def collect (c : Collector) : List Chunk → Collector
  | [] => c
  | chunk :: rest => collect (c.callback chunk).state rest

end Collector

end Strided
