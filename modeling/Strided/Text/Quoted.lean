import Strided.Text.Printable

/-!
# Quoted text

How text and bytes are shown inside a message: between single quotes, unless the text holds a single
quote and no double one; with a backslash before the quote in use and before a backslash; and with
the characters that have no printed form written as escapes.  `quote` does this for text and
`quoteBytes` for bytes, where everything outside printable ASCII is escaped.
-/

namespace Strided.Text

def hexDigit (n : Nat) : Char := Nat.digitChar (n % 16)

/-- The last `width` digits of `n` in base sixteen. -/
def hexDigits : (width n : Nat) → List Char
  | 0, _ => []
  | width + 1, n => hexDigits width (n / 16) ++ [hexDigit n]

/-- An escape by number: two, four or eight digits, the fewest of these that suffice. -/
def escapeByNumber (n : Nat) : List Char :=
  if n ≤ 0xff then '\\' :: 'x' :: hexDigits 2 n
  else if n ≤ 0xffff then '\\' :: 'u' :: hexDigits 4 n
  else '\\' :: 'U' :: hexDigits 8 n

/-- One character between quotes `mark`. -/
def escape (mark c : Char) : List Char :=
  if c = mark ∨ c = '\\' then ['\\', c]
  else if c = '\n' then ['\\', 'n']
  else if c = '\r' then ['\\', 'r']
  else if c = '\t' then ['\\', 't']
  else if isPrintable c then [c]
  else escapeByNumber c.toNat

/-- The quote to use: double only around text that holds a single one and no double one. -/
def quoteMark (s : List Char) : Char :=
  if '\'' ∈ s ∧ '"' ∉ s then '"' else '\''

def quote (s : String) : String :=
  let mark := quoteMark s.toList
  String.ofList (mark :: s.toList.flatMap (escape mark) ++ [mark])

/-- One byte between quotes `mark`: printable ASCII as text, the rest by number. -/
def escapeByte (mark : Char) (b : UInt8) : List Char :=
  if b < 0x7f then escape mark (Char.ofNat b.toNat) else escapeByNumber b.toNat

/-- Bytes between quotes, after the letter `b`. -/
def quoteBytes (s : List UInt8) : String :=
  let mark := quoteMark (s.map fun b => Char.ofNat b.toNat)
  String.ofList ('b' :: mark :: s.flatMap (escapeByte mark) ++ [mark])

end Strided.Text
