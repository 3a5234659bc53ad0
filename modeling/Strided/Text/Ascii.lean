/-!
# ASCII

Text as bytes and back, as far as all characters are ASCII.  The first ones that are not are
reported by position.
-/

namespace Strided.Text.Ascii

def admits (c : Char) : Bool := c.toNat < 0x80

/-- Characters that are not ASCII: the first of them, and the first and last position of the run. -/
structure Foreign where
  character : Char
  first : Nat
  last : Nat
  deriving DecidableEq, Repr

def encode (s : List Char) : Except Foreign (List UInt8) :=
  match s.dropWhile admits with
  | [] => .ok (s.map fun c => UInt8.ofNat c.toNat)
  | c :: rest =>
    let first := (s.takeWhile admits).length
    .error ⟨c, first, first + (rest.takeWhile (!admits ·)).length⟩

/-- The text of bytes; the first byte that is no character is reported with its position. -/
def decode (b : List UInt8) : Except (UInt8 × Nat) (List Char) :=
  match b.dropWhile (· < 0x80) with
  | [] => .ok (b.map fun n => Char.ofNat n.toNat)
  | n :: _ => .error (n, (b.takeWhile (· < 0x80)).length)

end Strided.Text.Ascii
