import Strided.Reply

/-!
# Joining collectors

A joining collector decodes every chunk as it comes and keeps the texts, to be joined at any time.
-/

namespace Strided

def decodeChunk (b : List UInt8) : Except Fault String :=
  (Text.Utf8.decode b).mapError Fault.malformedText

/-- The texts collected so far. -/
structure Joining where
  parts : List String
  deriving DecidableEq, Repr

namespace Joining

def empty : Joining := ⟨[]⟩

/-- Takes a chunk.  One that is no text leaves no trace. -/
def onChunk (c : Joining) (b : List UInt8) : Reply Joining Unit :=
  match decodeChunk b with
  | .ok s => .ok ⟨c.parts ++ [s]⟩ ()
  | .error e => .fault c e

def join (c : Joining) : String := String.join c.parts

end Joining

end Strided
