import Strided.Number.Word
import Strided.Slice

/-!
# Chunks

What a producer hands over, and the bytes it comes to.  Bytes come as they are, as every n-th byte
of a buffer, or as a reference into native memory with a length of its own.  Any other value becomes
bytes by its own rule: a number asks for so many zeros, a list is read as byte values.
-/

namespace Strided

/-- A piece of output, as its producer hands it over. -/
inductive Chunk where
  | bytes (b : List UInt8)
  /-- The bytes of a buffer that a slice with only a step selects. -/
  | strided (b : List UInt8) (step : Int)
  /-- The first `length` bytes at an address. -/
  | reference (b : List UInt8) (length : Nat)
  | value (v : Value)

namespace Chunk

/-- The most bytes that can be had, and the most that can be asked for without being refused at
once. -/
def memoryLimit : Int := 68719476736

/-- The number of bytes above which a request is refused at once. -/
def sizeLimit : Int := Number.Word.greatest - 33

/-- So many zeros, asked for by a value of the given type. -/
def zeros (typeName : String) (n : Int) : Except Fault (List UInt8) :=
  if !Number.Word.fits n then .error (.sizeTooWide typeName)
  else if n < 0 then .error .negativeSize
  else if sizeLimit < n then .error .sizeTooLarge
  else if memoryLimit < n then .error .outOfMemory
  else .ok (List.replicate n.toNat 0)

def byteOf (v : Value) : Except Fault UInt8 :=
  match v.toIndex with
  | .ok n => if 0 ≤ n ∧ n < 256 then .ok (UInt8.ofNat n.toNat) else .error .notAByte
  | .error e => .error e

/-- The bytes of a value that is no integer. -/
def bytesOfOther : Value → Except Fault (List UInt8)
  | .list items _ => items.mapM byteOf
  | .tuple items => items.mapM byteOf
  | .dict entries _ => entries.mapM fun e => byteOf e.1
  | .scalar type e _ => .ok (e.encode type)
  | v => .error (.notBytes v.typeName)

def bytesOf (v : Value) : Except Fault (List UInt8) :=
  match v.text?, v.bytes? with
  | some _, _ => .error .needsEncoding
  | _, some b => .ok b
  | none, none =>
    match v.toIndex with
    | .ok n => zeros v.familyTypeName n
    | .error e => if e.kind.isA .type then bytesOfOther v else .error e

def toBytes : Chunk → Except Fault (List UInt8)
  | bytes b => .ok b
  | strided b step =>
    if step = 0 then .error .plainZeroStep else (Slice.mk none none (some step)).select b
  | reference b length => .ok (b.take length)
  | value v => bytesOf v

end Chunk

end Strided
