import Strided.Attribute.Basic
import Strided.Value.Conversion

/-!
# Attributes of numbers

Integers and floating-point numbers have their real and imaginary part, and methods that take them
apart or round them.
-/

namespace Strided

namespace Number.Double

/-- The number without its sign. -/
def magnitude (d : Double) : Double :=
  match d.parts with
  | .nan _ => .ofParts (.nan false)
  | .infinite _ => .ofParts (.infinite false)
  | .finite _ m q => .ofParts (.finite false m q)

def negated (d : Double) : Double :=
  match d.parts with
  | .nan negative => .ofParts (.nan !negative)
  | .infinite negative => .ofParts (.infinite !negative)
  | .finite negative m q => .ofParts (.finite (!negative) m q)

/-- The number as a quotient in lowest terms, if it is finite. -/
def ratio? (d : Double) : Option (Int × Nat) :=
  match d.parts with
  | .finite negative m q =>
    let num := m * Nat.pow 2 q.toNat
    let den := Nat.pow 2 (-q).toNat
    let common := num.gcd den
    let n : Int := num / common
    some (if negative then -n else n, den / common)
  | _ => none

/-- The number has no fraction. -/
def isWhole (d : Double) : Bool := d.ratio?.any (·.2 == 1)

/-- The nearest integer, the even one of two, of a quotient. -/
def nearestInteger (num : Int) (den : Nat) : Int :=
  let n : Int := roundQuotient num.natAbs den
  if num < 0 then -n else n

/-- The nearest whole number, the even one of two, with the sign of the number. -/
def rounded (d : Double) : Double :=
  match d.parts with
  | .finite negative m q =>
    ofQuotient negative (roundQuotient (m * Nat.pow 2 q.toNat) (Nat.pow 2 (-q).toNat)) 1
  | _ => d

/-- The number in base sixteen: a first digit, thirteen more, and the exponent of two. -/
def hexadecimal (d : Double) : List Char :=
  match d.parts with
  | .nan _ => ['n', 'a', 'n']
  | .infinite negative => minusSign negative ++ ['i', 'n', 'f']
  | .finite negative 0 _ => minusSign negative ++ "0x0.0p+0".toList
  | .finite negative m q =>
    let first := m / Nat.pow 2 FloatFormat.double.fractionBits
    let fraction := m % Nat.pow 2 FloatFormat.double.fractionBits
    let exponent := q + FloatFormat.double.fractionBits
    minusSign negative ++ '0' :: 'x' :: Nat.digitChar first :: '.' :: Text.hexDigits 13 fraction
      ++ 'p' :: signedExponent 1 exponent

end Number.Double

namespace Attribute

def bitCount (n : Nat) : Nat :=
  (List.range (n.log2 + 1)).countP fun i => n.testBit i

def oneByte (n : Int) : Except Fault Value :=
  if n < 0 then .error .negativeByte
  else if n < 256 then .ok (.bytes [UInt8.ofNat n.toNat])
  else .error .tooBigForByte

def ofInteger? (n : Int) : String → Option Attribute
  | "real" | "numerator" => some (value (.int n))
  | "imag" => some (value (.int 0))
  | "denominator" => some (value (.int 1))
  | "conjugate" | "__index__" | "__int__" | "__pos__" | "__trunc__" | "__floor__" | "__ceil__"
  | "__round__" => some (int n)
  | "bit_length" => some (int (if n = 0 then 0 else n.natAbs.log2 + 1))
  | "bit_count" => some (int (bitCount n.natAbs))
  | "as_integer_ratio" => some (answers (.tuple [.int n, .int 1]))
  | "to_bytes" => some (method (oneByte n))
  | "from_bytes" =>
    some (fails (.argumentsMissing "from_bytes() missing required argument 'bytes' (pos 1)"))
  | "__neg__" => some (int (-n))
  | "__abs__" => some (int n.natAbs)
  | "__invert__" => some (int (-n - 1))
  | "__bool__" => some (flag (n != 0))
  | "__float__" => some (method ((Value.realOfInteger n).map fun d => .float d none))
  | _ => none

/-- A method that makes an integer of a floating-point number by `f`, given it as a quotient. -/
def whole (d : Number.Double) (f : Int → Nat → Int) : Attribute :=
  match d.ratio? with
  | some (num, den) => int (f num den)
  | none => fails (if d.isNaN then .nanToInteger else .infinityToInteger)

def ratio (d : Number.Double) : Except Fault Value :=
  match d.ratio? with
  | some (num, den) => .ok (.tuple [.int num, .int den])
  | none => .error (if d.isNaN then .nanRatio else .infiniteRatio)

/-- The attribute of a floating-point number; `self` is the number as an object. -/
def ofFloat? (d : Number.Double) (self : Value) : String → Option Attribute
  | "real" => some (value self)
  | "imag" => some (value (.float .zero none))
  | "conjugate" | "__float__" | "__pos__" => some (answers self)
  | "is_integer" => some (flag d.isWhole)
  | "as_integer_ratio" => some (method (ratio d))
  | "hex" => some (text d.hexadecimal)
  | "fromhex" => some (oneArgument "float" "fromhex")
  | "__int__" | "__trunc__" => some (whole d (fun num den => Int.tdiv num den))
  | "__floor__" => some (whole d fun num den => Int.fdiv num den)
  | "__ceil__" => some (whole d fun num den => -Int.fdiv (-num) den)
  | "__round__" => some (whole d Number.Double.nearestInteger)
  | "__neg__" => some (answers (.float d.negated none))
  | "__abs__" => some (answers (.float d.magnitude none))
  | "__bool__" => some (flag (!d.isZero))
  | _ => none

end Attribute

end Strided
