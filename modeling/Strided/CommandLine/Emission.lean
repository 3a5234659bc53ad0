import Strided.Reply
import Strided.Value.Stored
import Strided.View.Sequence

/-!
# Emission

What a subscript picks from an array is handed to a callback as one chunk for each element: a line
of text, or the bytes of the element under the storage type of the array.  The chunk of an element is
handed over before the next element is read, and what the callback makes of it decides whether there
is a next one.
-/

namespace Strided.CommandLine

def elementChunk (type : ElementType) (binary : Bool) (a : Value) : Except Fault (List UInt8) :=
  if binary then (a.store type).map (Element.encode type)
  else a.plain.map fun s => Text.Utf8.encode (s ++ "\n")

section Emission

variable {σ : Type} (call : σ → List UInt8 → Reply σ Unit) (checks : Bool) (type : ElementType)
  (binary : Bool)

def emitElement (s : σ) (a : Value) : Reply σ Unit :=
  match elementChunk type binary a with
  | .ok chunk => call s chunk
  | .error e => .fault s e

/-- Hands over the first `n` elements of a view from a position on, as far as there are any. -/
def emitFrom (v : View Value) : (n position : Nat) → σ → Reply σ Unit
  | 0, _, s => .ok s ()
  | n + 1, position, s =>
    (Reply.ofProbe s (v.itemAt checks position)).bind fun s item =>
      match item with
      | .error _ => .ok s ()
      | .ok a => (emitElement call type binary s a).bind fun s _ => emitFrom v n (position + 1) s

def emit (s : σ) : Selected Value → Reply σ Unit
  | .element a => emitElement call type binary s a
  | .view v => emitFrom call checks type binary v v.size 0 s

end Emission

end Strided.CommandLine
