import Strided.Number.Double
import Strided.Number.Shortest

/-!
# Decimal notation

Floating-point numbers as text.  `render` writes the shortest digits under a `Layout`; `plainLayout`
is the layout of this library.  `Numeral.read?` reads a numeral: a sign, then digits with a point
and an exponent, or the name of infinity or NaN in letters of either case.
-/

namespace Strided.Number

/-- Where positional notation is used, and how the rest looks. -/
structure Layout where
  /-- Numbers from this negative power of ten on are positional, -/
  fractionPlaces : Nat
  /-- up to this power of ten. -/
  integerPlaces : Nat
  /-- What follows the last digit of an integral number written positionally. -/
  integralEnd : String
  /-- How many digits an exponent has at least. -/
  exponentWidth : Nat

/-- The number `m · 2^q` is written positionally. -/
def Layout.positional (layout : Layout) (m : Nat) (q : Int) : Bool :=
  let num := m * Nat.pow 2 q.toNat
  let den := Nat.pow 2 (-q).toNat
  den ≤ num * Nat.pow 10 layout.fractionPlaces && num < den * Nat.pow 10 layout.integerPlaces

/-- Numbers from 0.0001 up to 10^16 are positional, integral ones end in `.0`, and exponents have a
sign and two digits or more. -/
def plainLayout : Layout := ⟨4, 16, ".0", 2⟩

/-- The digits of a number, without the zeros at the end. -/
def significantDigits (n : Nat) : List Char :=
  ((Nat.toDigits 10 n).reverse.dropWhile (· == '0')).reverse

/-- A sign and at least `width` digits. -/
def signedExponent (width : Nat) (e : Int) : List Char :=
  let digits := Nat.toDigits 10 e.natAbs
  (if e < 0 then '-' else '+') :: List.replicate (width - digits.length) '0' ++ digits

/-- A positive decimal number, positionally or with an exponent. -/
def Scientific.render (layout : Layout) (positional : Bool) (s : Scientific) : List Char :=
  let digits := significantDigits s.coefficient
  let size : Int := (Nat.toDigits 10 s.coefficient).length
  let point := size + s.exponent
  if positional then
    if point ≤ 0 then '0' :: '.' :: List.replicate (-point).toNat '0' ++ digits
    else if digits.length ≤ point.toNat then
      digits ++ List.replicate (point.toNat - digits.length) '0' ++ layout.integralEnd.toList
    else digits.take point.toNat ++ '.' :: digits.drop point.toNat
  else
    let fraction := match digits.drop 1 with
      | [] => []
      | rest => '.' :: rest
    digits.take 1 ++ fraction ++ 'e' :: signedExponent layout.exponentWidth (point - 1)

def minusSign (negative : Bool) : List Char := if negative then ['-'] else []

/-- The text of what stands for `p` in the format: the shortest that reads back. -/
def Parts.render (f : FloatFormat) (layout : Layout) : Parts → String
  | .nan _ => "nan"
  | .infinite negative => String.ofList (minusSign negative ++ ['i', 'n', 'f'])
  | .finite negative 0 _ => String.ofList (minusSign negative ++ '0' :: layout.integralEnd.toList)
  | .finite negative m q =>
    let text := (shortest f m q).render layout (layout.positional m q)
    String.ofList (minusSign negative ++ text)

def Double.render (d : Double) : String := d.parts.render FloatFormat.double plainLayout

/-- A numeral that has been read. -/
inductive Numeral where
  | nan (negative : Bool)
  | infinity (negative : Bool)
  | decimal (negative : Bool) (value : Scientific)
  deriving DecidableEq, Repr

namespace Numeral

def ofDigits (digits : List Char) : Nat :=
  digits.foldl (fun n c => n * 10 + (c.toNat - '0'.toNat)) 0

/-- The exponent part of a numeral, if what is left is one. -/
def exponent? : List Char → Option Int
  | [] => some 0
  | c :: rest =>
    if c = 'e' ∨ c = 'E' then
      let (negative, digits) := match rest with
        | '-' :: r => (true, r)
        | '+' :: r => (false, r)
        | r => (false, r)
      if digits ≠ [] ∧ digits.all Char.isDigit then
        let n : Int := ofDigits digits
        some (if negative then -n else n)
      else none
    else none

def scientific? (s : List Char) : Option Scientific := do
  let whole := s.takeWhile Char.isDigit
  let (fraction, rest) := match s.dropWhile Char.isDigit with
    | '.' :: r => (r.takeWhile Char.isDigit, r.dropWhile Char.isDigit)
    | r => ([], r)
  if whole = [] ∧ fraction = [] then none
  else
    let e ← exponent? rest
    some ⟨ofDigits (whole ++ fraction), e - fraction.length⟩

/-- Reads a numeral that has no blanks around it. -/
def read? (s : List Char) : Option Numeral :=
  let (negative, rest) := match s with
    | '-' :: r => (true, r)
    | '+' :: r => (false, r)
    | r => (false, r)
  let letters := String.ofList (rest.map Char.toLower)
  if letters = "nan" then some (.nan negative)
  else if letters = "inf" ∨ letters = "infinity" then some (.infinity negative)
  else (scientific? rest).map (.decimal negative)

/-- The size of the decimal exponents beyond which every double is zero or infinite. -/
def exponentBound : Int := 400

/-- The nearest double.  An exponent far out of range is settled without computing the power. -/
def toDouble : Numeral → Double
  | .nan negative => .ofParts (.nan negative)
  | .infinity negative => .ofParts (.infinite negative)
  | .decimal negative ⟨coefficient, exponent⟩ =>
    let size : Int := (Nat.toDigits 10 coefficient).length
    if coefficient = 0 ∨ size + exponent < -exponentBound then .ofQuotient negative 0 1
    else if exponentBound < size + exponent then .ofParts (.infinite negative)
    else
      .ofQuotient negative (coefficient * Nat.pow 10 exponent.toNat) (Nat.pow 10 (-exponent).toNat)

end Numeral

/-- The double that a numeral without blanks around it stands for. -/
def Double.read? (s : String) : Option Double := (Numeral.read? s.toList).map Numeral.toDouble

end Strided.Number
