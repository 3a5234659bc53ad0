import Strided.Number.Binary

/-!
# Shortest digits

The fewest decimal digits that read back as a given floating-point number, and of those the nearest
to it.  The numbers that read back form an interval around `m · 2^q`, half a unit to either side (a
quarter below a power of two, where the units are smaller), ends included iff `m` is even.  For one
digit, two, and so on, `shortest` tries the two neighbours of `m · 2^q` on the grid of numbers with
that many digits.

All is done on integers: four times the number and the ends of the interval are scaled by one power
of ten.
-/

namespace Strided.Number

/-- A decimal number `coefficient · 10^exponent`. -/
structure Scientific where
  coefficient : Nat
  exponent : Int
  deriving DecidableEq, Repr

/-- The decimal form of `m · 2^q`, which is exact. -/
def exactDecimal (m : Nat) (q : Int) : Scientific :=
  if 0 ≤ q then ⟨m * Nat.pow 2 q.toNat, 0⟩ else ⟨m * Nat.pow 5 (-q).toNat, q⟩

/-- An interval around a number, in one unit. -/
structure Neighbourhood where
  low : Nat
  centre : Nat
  high : Nat
  /-- The ends belong to the interval. -/
  closed : Bool

namespace Neighbourhood

def admits (i : Neighbourhood) (x : Nat) : Bool :=
  if i.closed then i.low ≤ x && x ≤ i.high else i.low < x && x < i.high

/-- The multiple of `unit` that lies in the interval, the one nearer to the centre if both
neighbours do, and the even one if they are as near. -/
def multiple? (i : Neighbourhood) (unit : Nat) : Option Nat :=
  let below := i.centre / unit * unit
  let above := below + unit
  match i.admits below, i.admits above with
  | false, false => none
  | true, false => some below
  | false, true => some above
  | true, true =>
    if i.centre - below < above - i.centre
        ∨ (i.centre - below = above - i.centre ∧ i.centre / unit % 2 = 0) then
      some below
    else some above

/-- The multiple of the greatest power of ten that lies in the interval, seventeen digits at most.
-/
def shortest (i : Neighbourhood) : Nat :=
  let size := (Nat.toDigits 10 i.centre).length
  ((List.range 17).findSome? fun n => i.multiple? (Nat.pow 10 (size - (n + 1)))).getD i.centre

end Neighbourhood

/-- The shortest decimal number that reads back as the number `m · 2^q` of the format. -/
def shortest (f : FloatFormat) (m : Nat) (q : Int) : Scientific :=
  let gap := if m = Nat.pow 2 f.fractionBits ∧ f.leastExponent < q then 1 else 2
  let scaled (n : Nat) : Nat := (exactDecimal n (q - 2)).coefficient
  let around : Neighbourhood :=
    ⟨scaled (4 * m - gap), scaled (4 * m), scaled (4 * m + 2), m % 2 = 0⟩
  ⟨around.shortest, (exactDecimal m (q - 2)).exponent⟩

end Strided.Number
