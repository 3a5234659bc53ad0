import Strided.Text.Blank
import Strided.Text.Digit

/-!
# Integer literals

An integer literal is an optional sign and decimal digits of any script, with single underscores
allowed between digits and blanks around the whole.  The information separators are no blanks here,
and literals of more than `maxDigits` digits are refused.  An integer of more digits is not written
either: only `isWritable` ones are.
-/

namespace Strided.Text

/-- The most digits that a literal may have. -/
def maxDigits : Nat := 4300

/-- Digit values of a run of digits with single underscores between them. -/
def digitRun? : List Char → Option (List Nat)
  | [] => none
  | [c] => (digitValue? c).map ([·])
  | c :: '_' :: rest => do
    let d ← digitValue? c
    let ds ← digitRun? rest
    some (d :: ds)
  | c :: rest => do
    let d ← digitValue? c
    let ds ← digitRun? rest
    some (d :: ds)

/-- The number with the given decimal digits, most significant first. -/
def ofDigits (digits : List Nat) : Nat := digits.foldl (fun n d => n * 10 + d) 0

/-- A sign, and what follows it. -/
def splitSign : List Char → Bool × List Char
  | '-' :: rest => (true, rest)
  | '+' :: rest => (false, rest)
  | rest => (false, rest)

/-- The integer that a literal without surrounding blanks stands for. -/
def bareInteger? (s : List Char) : Option Int := do
  let (negative, rest) := splitSign s
  let digits ← digitRun? rest
  if digits.length ≤ maxDigits then
    let n : Int := ofDigits digits
    some (if negative then -n else n)
  else none

def integer? (s : List Char) : Option Int := bareInteger? (trim isNumeralBlank s)

/-- How many digits a literal begins with, if they are more than a literal may have.  Whether the rest
of the text belongs to a literal does not matter then. -/
def oversize? (s : List Char) : Option Nat :=
  let rest := (splitSign (trim isNumeralBlank s)).2
  match digitRun? (rest.takeWhile fun c => isDigit c || c == '_') with
  | some digits => if maxDigits < digits.length then some digits.length else none
  | none => none

/-- The integer has no more digits than may be written. -/
def isWritable (n : Int) : Bool := n.natAbs < Nat.pow 10 maxDigits

example : integer? " -1_0 ".toList = some (-10) := by decide
example : integer? "1__0".toList = none := by decide

end Strided.Text
