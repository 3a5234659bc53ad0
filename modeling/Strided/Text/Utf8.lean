/-!
# UTF-8

`decode` reads octets one at a time.  Between two characters nothing is `Pending`; after the first
octet of a longer character the octets still owed are, with the bounds that the next one has to
keep.  The octet that breaks the bounds, or the end of the input, is reported with the place of the
character it interrupts and the number of octets that were good up to there.
-/

namespace Strided.Text.Utf8

/-- What is wrong with octets that are not UTF-8. -/
inductive Defect where
  | invalidStart
  | invalidContinuation
  | unexpectedEnd
  deriving DecidableEq, Repr

def Defect.reason : Defect → String
  | .invalidStart => "invalid start byte"
  | .invalidContinuation => "invalid continuation byte"
  | .unexpectedEnd => "unexpected end of data"

/-- Where decoding stopped: the first octet of the character, its position, and how many octets of
it were read. -/
structure Malformed where
  first : UInt8
  position : Nat
  length : Nat
  defect : Defect
  deriving DecidableEq, Repr

/-- A character of which some octets have been read. -/
structure Pending where
  /-- Its first octet. -/
  first : UInt8
  /-- Where its first octet stands. -/
  position : Nat
  /-- How many of its octets have been read. -/
  read : Nat
  /-- How many octets are owed after the next one. -/
  owed : Nat
  /-- The least value of the next octet. -/
  low : Nat
  /-- The greatest value of the next octet. -/
  high : Nat
  /-- The bits of the code point so far. -/
  bits : Nat
  deriving DecidableEq, Repr

namespace Pending

def malformed (p : Pending) (defect : Defect) : Malformed :=
  ⟨p.first, p.position, p.read, defect⟩

/-- A first octet of a longer character.  The second octet of some is bounded further, so that no
code point has two forms, none is a surrogate and none is above U+10FFFF. -/
def start? (b : UInt8) (position : Nat) : Option Pending :=
  let n := b.toNat
  if n < 0xc2 then none
  else if n < 0xe0 then some ⟨b, position, 1, 0, 0x80, 0xbf, n % 32⟩
  else if n < 0xf0 then
    let low := if n = 0xe0 then 0xa0 else 0x80
    let high := if n = 0xed then 0x9f else 0xbf
    some ⟨b, position, 1, 1, low, high, n % 16⟩
  else if n < 0xf5 then
    let low := if n = 0xf0 then 0x90 else 0x80
    let high := if n = 0xf4 then 0x8f else 0xbf
    some ⟨b, position, 1, 2, low, high, n % 8⟩
  else none

/-- The code point's bits once octet `b` is added. -/
def bitsWith (p : Pending) (b : UInt8) : Nat := p.bits * 64 + b.toNat % 64

def admits (p : Pending) (b : UInt8) : Bool := p.low ≤ b.toNat && b.toNat ≤ p.high

end Pending

/-- Decodes octets from `position` on, in the middle of a character if one is pending. -/
def decodeFrom : (position : Nat) → Option Pending → List UInt8 → Except Malformed (List Char)
  | _, none, [] => .ok []
  | _, some p, [] => .error (p.malformed .unexpectedEnd)
  | position, none, b :: rest =>
    if b.toNat < 0x80 then
      (Char.ofNat b.toNat :: ·) <$> decodeFrom (position + 1) none rest
    else
      match Pending.start? b position with
      | none => .error ⟨b, position, 1, .invalidStart⟩
      | some p => decodeFrom (position + 1) (some p) rest
  | position, some p, b :: rest =>
    if p.admits b then
      match p.owed with
      | 0 => (Char.ofNat (p.bitsWith b) :: ·) <$> decodeFrom (position + 1) none rest
      | owed + 1 =>
        let next : Pending :=
          ⟨p.first, p.position, p.read + 1, owed, 0x80, 0xbf, p.bitsWith b⟩
        decodeFrom (position + 1) (some next) rest
    else .error (p.malformed .invalidContinuation)

/-- The text whose UTF-8 form the octets are. -/
def decode (octets : List UInt8) : Except Malformed String :=
  String.ofList <$> decodeFrom 0 none octets

def encode (s : String) : List UInt8 := s.toList.flatMap String.utf8EncodeChar

theorem encode_append (s t : String) : encode (s ++ t) = encode s ++ encode t := by
  simp [encode]

end Strided.Text.Utf8
