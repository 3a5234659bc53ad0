import Strided.Number.Literal
import Strided.Text.IntegerLiteral
import Strided.Value.Index
import Strided.Value.Printer

/-!
# Values as numbers

`toWhole` is the integer that a value stands for, without its fraction, and `toNumber` the double.
Both read texts and bytes as literals.
-/

namespace Strided.Value

def charactersOf (b : List UInt8) : List Char := b.map fun n => Char.ofNat n.toNat

/-- How many characters of a literal a report shows. -/
def shownLength : Nat := 200

/-- The integer that an integer literal stands for; `shown` is how reports show it. -/
def readWhole (s : List Char) (shown : String) : Except Fault Int :=
  match Text.integer? s with
  | some n => .ok n
  | Option.none =>
    match Text.oversize? s with
    | some n => .error (.tooManyDigitsRead n)
    | Option.none => .error (.notADecimal (String.ofList (shown.toList.take shownLength)))

/-- The double that a numeral stands for; `shown` is how reports show it. -/
def readNumber (s : List Char) (shown : String) : Except Fault Number.Double :=
  match Number.Double.ofLiteral? s with
  | some d => .ok d
  | Option.none => .error (.notANumeral shown)

def wholePart (d : Number.Double) : Except Fault Int :=
  match d.truncate? with
  | some n => .ok n
  | Option.none => .error (if d.isNaN then .nanToInteger else .infinityToInteger)

/-- The double nearest to an integer, if there is one. -/
def realOfInteger (n : Int) : Except Fault Number.Double :=
  let d := Number.Double.ofInt n
  if d.isFinite then .ok d else .error .tooLargeForFloat

def toWhole (v : Value) : Except Fault Int :=
  match v.text?, v.bytes?, v.quantity? with
  | some s, _, _ => readWhole s.toList (Text.quote s)
  | _, some b, _ => readWhole (charactersOf b) (Text.quoteBytes b)
  | _, _, some (.float d) => wholePart d
  | _, _, some (.int n) => .ok n
  | _, _, Option.none =>
    match v.toIndex with
    | .ok n => .ok n
    | .error (.notAnInteger t) => .error (.notConvertible t)
    | .error e => .error e

/-- The double that a value stands for; what is left out is no number. -/
def toNumber (v : Value) : Except Fault Number.Double :=
  match v.text?, v.bytes?, v.quantity? with
  | some s, _, _ => readNumber s.toList (Text.quote s)
  | _, some b, _ => readNumber (charactersOf b) (Text.quoteBytes b)
  | _, _, some (.float d) => .ok d
  | _, _, some (.int n) => realOfInteger n
  | _, _, Option.none =>
    match v with
    | none => .ok (.ofParts (.nan false))
    | v =>
      match v.toIndex with
      | .ok n => realOfInteger n
      | .error (.notAnInteger t) => .error (.notANumber t)
      | .error e => .error e

end Strided.Value
