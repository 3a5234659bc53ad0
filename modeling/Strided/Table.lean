import Strided.Text.Words
import Strided.TypedArray

/-!
# Tables

A table is a text of rows of numbers.  A `#` starts a comment, lines without a field are skipped,
and all rows have as many fields.  The fields are separated by commas if there is a comma outside
the comments, and by blanks otherwise.  `parse` reads the fields of a table, row by row, as elements
of one type.
-/

namespace Strided.Table

/-- The lines of a text.  A line ends with a line feed, a carriage return, or the one after the
other. -/
def lines : List Char → List (List Char)
  | [] => [[]]
  | '\r' :: '\n' :: rest => [] :: lines rest
  | c :: rest =>
    if c = '\n' ∨ c = '\r' then [] :: lines rest
    else
      match lines rest with
      | line :: others => (c :: line) :: others
      | [] => [[c]]

def body (line : List Char) : List Char := line.takeWhile (· != '#')

def hasCommas (s : List Char) : Bool := (lines s).any fun line => (body line).contains ','

def fields (commas : Bool) (line : List Char) : List (List Char) :=
  if commas then
    match Text.splitAt ',' (body line) with
    | [[]] => []
    | fields => fields
  else Text.words Text.isBlank (body line)

def rows (s : List Char) : List (List (List Char)) :=
  ((lines s).map (fields (hasCommas s))).filter (· != [])

/-! ### Fields -/

def digits? (s : List Char) : Option Nat :=
  if s ≠ [] ∧ s.all Char.isDigit then some (Number.Numeral.ofDigits s) else none

/-- An integer with an optional sign; where no integer is negative there is no minus sign. -/
def integer? (signed : Bool) : List Char → Option Int
  | '-' :: rest => if signed then (digits? rest).map fun n => -(n : Int) else none
  | '+' :: rest => (digits? rest).map Int.ofNat
  | s => (digits? s).map Int.ofNat

def boundedInteger? (bytes : Nat) (signed : Bool) (s : List Char) : Option Int :=
  (integer? signed (Text.strip s)).filter (ElementType.holds bytes signed)

/-- A field as an element.  The narrowest floating-point numbers may be written as any numeral, the
others without underscores and in plain digits. -/
def element? (type : ElementType) (s : List Char) : Option (Element Value) :=
  match type with
  | .bool => (boundedInteger? 8 true s).map fun n => .bool (n != 0)
  | .int bytes signed _ => (boundedInteger? bytes signed s).map .int
  | .float .half _ =>
    (Number.Double.ofLiteral? s).map fun d => .float (d.roundTo FloatSize.half.format)
  | .float size _ =>
    (Number.Double.read? (String.ofList (Text.strip s))).map fun d => .float (d.roundTo size.format)
  | .text length _ => some (.text (Element.keepText length (String.ofList s)))
  | .bytes length =>
    if s.all (·.toNat < 0x100) then
      some (.bytes (Element.keep 0 length (s.map fun c => UInt8.ofNat c.toNat)))
    else none
  | .object => some (.foreign (.text (String.ofList s)))

/-- A field as an element, or the fault of not being one. -/
def element (type : ElementType) (s : List Char) : Except Fault (Element Value) :=
  match element? type s with
  | some e => .ok e
  | none => .error (.badField (String.ofList s))

/-- A type without a length gets that of the longest field. -/
def settle (type : ElementType) (fields : List (List Char)) : ElementType :=
  type.settle (fields.foldl (fun n s => max n s.length) 1)

def parse (type : ElementType) (s : String) : Except Fault TypedArray := do
  let rows := rows s.toList
  if rows.all fun row => some row.length == rows.head?.map List.length then
    let type := settle type rows.flatten
    let elements ← rows.flatten.mapM (element type)
    .ok ⟨type, elements⟩
  else .error .unevenRows

end Strided.Table
