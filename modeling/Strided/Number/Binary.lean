/-!
# Binary floating point

A `FloatFormat` is given by the widths of its two fields.  `decode` reads a bit pattern as `Parts`:
a finite number is `m · 2^q` with a sign.  `round` goes back: it takes any number `m · 2^q` to the
nearest pattern of the format, ties to the even one, and what is too large to infinity.

With `q` not below the least exponent of the format, the pattern of `m · 2^q` is

    (q - least) · 2^fractionBits + m,

for normal and subnormal numbers alike: the hidden bit of a normal `m` carries into the exponent
field, and so does a significand that rounding has doubled.
-/

namespace Strided.Number

/-- A binary format: a sign bit, an exponent field and a fraction field. -/
structure FloatFormat where
  fractionBits : Nat
  exponentBits : Nat
  deriving DecidableEq, Repr

/-- What a bit pattern stands for.  A finite number is `m · 2^q`. -/
inductive Parts where
  | nan (negative : Bool)
  | infinite (negative : Bool)
  | finite (negative : Bool) (m : Nat) (q : Int)
  deriving DecidableEq, Repr

/-- The number `± m · 2^q` in units of `2^low`, for `low` not above `q`. -/
def unitsOf (negative : Bool) (m : Nat) (q low : Int) : Int :=
  let n : Int := m * Nat.pow 2 (q - low).toNat
  if negative then -n else n

/-- Less, by value.  A NaN is neither less than anything nor greater. -/
def Parts.less : Parts → Parts → Bool
  | .nan _, _ | _, .nan _ => false
  | .infinite a, .infinite b => a && !b
  | .infinite a, .finite .. => a
  | .finite .., .infinite b => !b
  | .finite a m q, .finite b n r =>
    let low := min q r
    unitsOf a m q low < unitsOf b n r low

/-- The quotient of two numbers, rounded to the nearest integer and to the even one of two. -/
def roundQuotient (num den : Nat) : Nat :=
  let q := num / den
  let r := num % den
  if den < 2 * r ∨ (2 * r = den ∧ q % 2 = 1) then q + 1 else q

/-- The greatest `k` with `2^k ≤ num / den`, for positive `num` and `den`. -/
def logQuotient (num den : Nat) : Int :=
  let k : Int := num.log2 - den.log2
  if den * Nat.pow 2 k.toNat ≤ num * Nat.pow 2 (-k).toNat then k else k - 1

namespace FloatFormat

def half : FloatFormat := ⟨10, 5⟩
def single : FloatFormat := ⟨23, 8⟩
def double : FloatFormat := ⟨52, 11⟩

/-- The exponent of the last place of the smallest numbers. -/
def leastExponent (f : FloatFormat) : Int := 2 - Nat.pow 2 (f.exponentBits - 1) - f.fractionBits

/-- The pattern of infinity, without its sign. -/
def infinityMagnitude (f : FloatFormat) : Nat :=
  (Nat.pow 2 f.exponentBits - 1) * Nat.pow 2 f.fractionBits

/-- The pattern of the quiet NaN, without its sign. -/
def nanMagnitude (f : FloatFormat) : Nat := f.infinityMagnitude + Nat.pow 2 (f.fractionBits - 1)

/-- The sign bit, if it is set. -/
def signBit (f : FloatFormat) (negative : Bool) : Nat :=
  if negative then Nat.pow 2 (f.fractionBits + f.exponentBits) else 0

def decode (f : FloatFormat) (bits : Nat) : Parts :=
  let negative := bits.testBit (f.fractionBits + f.exponentBits)
  let exponent := bits / Nat.pow 2 f.fractionBits % Nat.pow 2 f.exponentBits
  let fraction := bits % Nat.pow 2 f.fractionBits
  if exponent = Nat.pow 2 f.exponentBits - 1 then
    if fraction = 0 then .infinite negative else .nan negative
  else if exponent = 0 then .finite negative fraction f.leastExponent
  else .finite negative (Nat.pow 2 f.fractionBits + fraction) (f.leastExponent + (exponent - 1))

/-- The pattern nearest to `num / den`, without its sign. -/
def roundMagnitude (f : FloatFormat) (num den : Nat) : Nat :=
  if num = 0 then 0
  else
    let q := max f.leastExponent (logQuotient num den - f.fractionBits)
    let m := roundQuotient (num * Nat.pow 2 (-q).toNat) (den * Nat.pow 2 q.toNat)
    min f.infinityMagnitude ((q - f.leastExponent).toNat * Nat.pow 2 f.fractionBits + m)

/-- The nearest pattern of the format. -/
def round (f : FloatFormat) : Parts → Nat
  | .nan negative => f.signBit negative + f.nanMagnitude
  | .infinite negative => f.signBit negative + f.infinityMagnitude
  | .finite negative m q =>
    f.signBit negative + f.roundMagnitude (m * Nat.pow 2 q.toNat) (Nat.pow 2 (-q).toNat)

end FloatFormat

example : FloatFormat.double.decode 0x3ff8000000000000 = .finite false (3 * Nat.pow 2 51) (-52) := by
  decide
example : FloatFormat.single.round (.finite false 3 (-1)) = 0x3fc00000 := by decide

end Strided.Number
