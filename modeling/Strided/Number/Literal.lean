import Strided.Number.Decimal
import Strided.Text.Blank
import Strided.Text.Digit

/-!
# Numerals of any script

A numeral may be written with the decimal digits of any script, with single underscores between
digits and with blanks around it.  `plainNumeral?` brings one into the form that `Numeral.read?`
takes.
-/

namespace Strided.Number

/-- A numeral with plain digits and without underscores, each of which has to stand between digits.
-/
def plainNumeral? : (afterDigit : Bool) → List Char → Option (List Char)
  | _, [] => some []
  | afterDigit, c :: rest =>
    if c = '_' then
      if afterDigit && rest.head?.any Text.isDigit then plainNumeral? false rest else none
    else
      match Text.digitValue? c with
      | some d => (Nat.digitChar d :: ·) <$> plainNumeral? true rest
      | none => (c :: ·) <$> plainNumeral? false rest

/-- The double that a numeral of any script stands for. -/
def Double.ofLiteral? (s : List Char) : Option Double := do
  let plain ← plainNumeral? false (Text.trim Text.isNumeralBlank s)
  let numeral ← Numeral.read? plain
  some numeral.toDouble

end Strided.Number
