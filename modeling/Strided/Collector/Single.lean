import Strided.Collector.Joining

/-!
# Collectors of a single chunk

For a producer that promises to call back exactly once.  A second chunk is a broken contract; the
producer may not get to know, so it is reported again to whoever takes the value.
-/

namespace Strided

/-- The value of the one chunk, whether it has come, and whether another has. -/
structure Single where
  value : String
  invoked : Bool
  violated : Bool
  deriving DecidableEq, Repr

namespace Single

def empty : Single := ⟨"", false, false⟩

/-- Takes a chunk.  The first one counts as delivered even if it is no text. -/
def onChunk (c : Single) (b : List UInt8) : Reply Single Unit :=
  if c.invoked then .violation { c with violated := true } .calledAgain
  else
    match decodeChunk b with
    | .ok s => .ok { c with invoked := true, value := s } ()
    | .error e => .fault { c with invoked := true } e

/-- Hands the value over and keeps an empty one. -/
def take (c : Single) : Reply Single String :=
  if c.violated then .fault c (.violation .calledAgain)
  else if c.invoked then .ok { c with value := "" } c.value
  else .violation c .notCalled

end Single

end Strided
