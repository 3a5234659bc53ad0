import Strided.Value.Basic

/-!
# Hash keys

`hashKey` decides which values hash alike: numbers by their residue, text and bytes by how they are
stored, tuples by their elements, objects by identity.  A handle hashes like the tuple of its
referent.  Lists, dictionaries and slices have no hash.
-/

namespace Strided

/-- What the hash of a value depends on. -/
inductive HashKey where
  | absent
  | number (n : Int)
  | octets (b : List UInt8)
  | tuple (items : List HashKey)
  | mark (m : Mark)
  | object (ref : Nat)
  | receiver

namespace HashKey

mutual

def equals : HashKey → HashKey → Bool
  | absent, absent => true
  | number m, number n => m == n
  | octets a, octets b => a == b
  | tuple a, tuple b => allEqual a b
  | mark a, mark b => a == b
  | object a, object b => a == b
  | receiver, receiver => true
  | _, _ => false

def allEqual : List HashKey → List HashKey → Bool
  | [], [] => true
  | a :: r, b :: s => equals a b && allEqual r s
  | _, _ => false

end

/-- The prime by which numbers are reduced, one less than the 61st power of two. -/
def modulus : Nat := 2305843009213693951

/-- The hash of a number with the given magnitude modulo the prime; minus one is kept for failures.
-/
def signed (negative : Bool) (residue : Nat) : HashKey :=
  let n : Int := if negative then -(residue : Int) else residue
  number (if n = -1 then -2 else n)

/-- The key of a floating-point number; equal numbers have equal keys. -/
def ofDouble (d : Number.Double) (m : Mark) : HashKey :=
  match d.parts with
  | .nan _ => mark m
  | .infinite negative => signed negative 314159
  | .finite negative m q =>
    let shift := (q % 61).toNat
    signed negative (m * Nat.pow 2 shift % modulus)

/-- How many bytes each character of a stored text takes. -/
def characterWidth (s : List Char) : Nat :=
  if s.all (·.toNat < 0x100) then 1 else if s.all (·.toNat < 0x10000) then 2 else 4

/-- The key of stored bytes; none at all hash to zero. -/
def ofOctets (b : List UInt8) : HashKey := if b.isEmpty then number 0 else octets b

def ofText (s : String) : HashKey :=
  ofOctets (s.toList.flatMap fun c => littleBytes (characterWidth s.toList) c.toNat)

end HashKey

namespace Value

mutual

/-- The hash key of a value, if it has a hash. -/
def hashKey : Value → Except Fault HashKey
  | none => .ok .absent
  | bool b => .ok (.number (if b then 1 else 0))
  | int n => .ok (.signed (n < 0) (n.natAbs % HashKey.modulus))
  | float d mark => .ok (.ofDouble d mark)
  | text s => .ok (.ofText s)
  | bytes b => .ok (.ofOctets b)
  | tuple items => (hashKeys items).map .tuple
  | scalar _ (.bool b) _ => .ok (.number (if b then 1 else 0))
  | scalar _ (.int n) _ => .ok (.signed (n < 0) (n.natAbs % HashKey.modulus))
  | scalar _ (.float d) mark => .ok (.ofDouble d mark)
  | scalar _ (.text s) _ => .ok (.ofText s)
  | scalar _ (.bytes b) _ => .ok (.ofOctets b)
  | fault _ _ mark => .ok (.mark mark)
  | index _ mark => .ok (.mark mark)
  | badIndex _ _ mark => .ok (.mark mark)
  | object _ ref => .ok (.object ref)
  | handle _ referent => (hashKey referent).map fun k => .tuple [k]
  | receiver => .ok .receiver
  | list .. => .error (.unhashable "list")
  | dict .. => .error (.unhashable "dict")
  | slice .. => .error (.unhashable "slice")

def hashKeys : List Value → Except Fault (List HashKey)
  | [] => .ok []
  | v :: rest => do
    let k ← hashKey v
    let ks ← hashKeys rest
    .ok (k :: ks)

end

end Value

end Strided
