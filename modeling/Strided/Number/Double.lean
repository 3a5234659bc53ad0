import Strided.Number.Binary

/-!
# Double precision

The floating-point numbers of this library, as patterns of 64 bits.  Comparison is by value: a NaN
differs from everything and the two zeros are equal.  Integers are compared exactly, without
rounding them first.
-/

namespace Strided.Number

/-- A number of the double format. -/
structure Double where
  bits : UInt64
  deriving DecidableEq, Repr

namespace Double

def parts (d : Double) : Parts := FloatFormat.double.decode d.bits.toNat

/-- The nearest double. -/
def ofParts (p : Parts) : Double := ⟨UInt64.ofNat (FloatFormat.double.round p)⟩

/-- The double nearest to `num / den`. -/
def ofQuotient (negative : Bool) (num den : Nat) : Double :=
  ⟨UInt64.ofNat
    (FloatFormat.double.signBit negative + FloatFormat.double.roundMagnitude num den)⟩

/-- The double nearest to an integer: infinite if there is none. -/
def ofInt (n : Int) : Double := ofQuotient (n < 0) n.natAbs 1

/-- The number that a pattern of another format stands for. -/
def ofFormat (f : FloatFormat) (bits : Nat) : Double := ofParts (f.decode bits)

/-- The nearest pattern of another format. -/
def toFormat (f : FloatFormat) (d : Double) : Nat := f.round d.parts

/-- The nearest number that another format has too. -/
def roundTo (f : FloatFormat) (d : Double) : Double := ofFormat f (d.toFormat f)

def zero : Double := ⟨0⟩
def one : Double := ofInt 1

def isNaN (d : Double) : Bool :=
  match d.parts with
  | .nan _ => true
  | _ => false

def isFinite (d : Double) : Bool :=
  match d.parts with
  | .finite .. => true
  | _ => false

def isZero (d : Double) : Bool :=
  match d.parts with
  | .finite _ 0 _ => true
  | _ => false

/-- The integer part, towards zero; a NaN and the infinities have none. -/
def truncate? (d : Double) : Option Int :=
  match d.parts with
  | .finite negative m q =>
    let n : Int := (m * Nat.pow 2 q.toNat / Nat.pow 2 (-q).toNat : Nat)
    some (if negative then -n else n)
  | _ => none

def equals (a b : Double) : Bool := !a.isNaN && (a.bits == b.bits || (a.isZero && b.isZero))

def less (a b : Double) : Bool := a.parts.less b.parts

def equalsInt (d : Double) (n : Int) : Bool :=
  match d.parts with
  | .finite negative m q =>
    m * Nat.pow 2 q.toNat == n.natAbs * Nat.pow 2 (-q).toNat
      && (m == 0 || negative == decide (n < 0))
  | _ => false

end Double

end Strided.Number
