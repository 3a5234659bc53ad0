import Strided.Slice
import Strided.Text.IntegerLiteral
import Strided.Text.Words

/-!
# Subscripts as text

A subscript is written as one integer, or as a slice: two or three fields with colons between them,
each an integer or blank.  `parse` reads one.

On a command line a slice that begins with a minus sign looks like an option.  `quoteNegativeSlices`
attaches such a slice to the name of the option that takes subscripts.
-/

namespace Strided

/-- A subscript: the index of one element, or a slice. -/
inductive Subscript where
  | index (n : Int)
  | slice (s : Slice)
  deriving DecidableEq, Repr

namespace Subscript

def toValue : Subscript → Value
  | index n => .int n
  | slice s => s.toValue

/-- A field: an integer, or nothing if it is blank. -/
def field (s : List Char) : Option (Option Int) :=
  if Text.strip s = [] then some none else (Text.integer? s).map some

/-- Reads a subscript. -/
def parse (s : String) : Except Fault Subscript :=
  let fields := Text.splitAt ':' s.toList
  if 3 < fields.length then .error (.tooManyColons s)
  else
    match fields.mapM field with
    | none => .error (.fieldsNotIntegers s)
    | some [none] => .error .emptySubscript
    | some [some n] => .ok (index n)
    | some [start, stop] => .ok (slice ⟨start, stop, none⟩)
    | some [start, stop, step] => .ok (slice ⟨start, stop, step⟩)
    | some _ => .error .emptySubscript

/-! ### Slices on a command line -/

/-- A minus sign, any number of digits and a colon. -/
def isNegativeSlice (arg : String) : Bool :=
  match arg.toList with
  | '-' :: rest => (rest.dropWhile Text.isDigit).head? == some ':'
  | _ => false

def isOptionName (arg : String) : Bool := arg == "-s" || arg == "--subscript"

/-- One more argument behind those that are quoted already.  A negative slice is attached to the
name of the option, and takes the place of a name that stands right before it. -/
def quoteNext (quoted : List String) (arg : String) : List String :=
  if isNegativeSlice arg then
    (if quoted.getLast?.any isOptionName then quoted.dropLast else quoted) ++
      ["--subscript=" ++ arg]
  else quoted ++ [arg]

/-- Attaches each negative slice to the name of the option, going through the arguments once. -/
def quoteNegativeSlices (argv : List String) : List String := argv.foldl quoteNext []

end Subscript

end Strided
