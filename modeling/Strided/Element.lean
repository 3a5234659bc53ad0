import Strided.Number.Decimal
import Strided.Number.Word
import Strided.Text.Quoted

/-!
# Array elements

An `ElementType` is the storage type of a typed array: booleans, integers and floating-point numbers
of fixed width in either byte order, texts or bytes of bounded length, or arbitrary objects.  An
`Element` is what an array of such a type yields; `ω` is the type of the objects.

`encode` and `decode` go between an element and its bytes, and `cast` converts between element
types: integers wrap around, floating-point numbers lose their fraction.
-/

namespace Strided

/-- The order of the bytes of a number. -/
inductive ByteOrder where
  | little
  | big
  deriving DecidableEq, Repr

/-- The widths of floating-point elements. -/
inductive FloatSize where
  | half
  | single
  | double
  deriving DecidableEq, Repr

namespace FloatSize

/-- How many bytes an element takes. -/
def bytes : FloatSize → Nat
  | half => 2
  | single => 4
  | double => 8

def format : FloatSize → Number.FloatFormat
  | half => .half
  | single => .single
  | double => .double

/-- How the numbers of a width are written: positionally up to as many digits as the format is sure
of, except that the widest one goes on to sixteen. -/
def layout : FloatSize → Number.Layout
  | half => { Number.plainLayout with integerPlaces := 3 }
  | single => { Number.plainLayout with integerPlaces := 6 }
  | double => Number.plainLayout

end FloatSize

/-- The storage type of the elements of an array. -/
inductive ElementType where
  | bool
  | int (bytes : Nat) (signed : Bool) (order : ByteOrder)
  | float (size : FloatSize) (order : ByteOrder)
  | text (length : Nat) (order : ByteOrder)
  | bytes (length : Nat)
  | object
  deriving DecidableEq, Repr

/-- One element of an array. -/
inductive Element (ω : Type) where
  | bool (b : Bool)
  | int (n : Int)
  | float (d : Number.Double)
  | text (s : String)
  | bytes (b : List UInt8)
  | foreign (o : ω)
  deriving DecidableEq, Repr

/-! ### Integers as bytes -/

/-- The `width` lowest digits of `n` in base 256, lowest first. -/
def littleBytes : (width n : Nat) → List UInt8
  | 0, _ => []
  | width + 1, n => UInt8.ofNat (n % 256) :: littleBytes width (n / 256)

/-- The number with the given digits in base 256, lowest first. -/
def ofLittleBytes : List UInt8 → Nat
  | [] => 0
  | b :: rest => b.toNat + 256 * ofLittleBytes rest

@[simp] theorem length_littleBytes (width n : Nat) : (littleBytes width n).length = width := by
  induction width generalizing n with
  | zero => rfl
  | succ w ih => simp [littleBytes, ih]

/-- The digits of a number give it back, up to the multiples of what they cannot hold. -/
theorem ofLittleBytes_littleBytes (width n : Nat) :
    ofLittleBytes (littleBytes width n) = n % Nat.pow 256 width := by
  induction width generalizing n with
  | zero => simp [littleBytes, ofLittleBytes, Nat.mod_one]
  | succ w ih =>
    have h : (UInt8.ofNat (n % 256)).toNat = n % 256 := by
      simp
    simp only [littleBytes, ofLittleBytes, ih, h]
    rw [show Nat.pow 256 (w + 1) = 256 * Nat.pow 256 w from Nat.mul_comm .., Nat.mod_mul]

/-- Bytes in the given order, from bytes lowest first and back. -/
def ByteOrder.arrange : ByteOrder → List UInt8 → List UInt8
  | .little, bytes => bytes
  | .big, bytes => bytes.reverse

@[simp] theorem ByteOrder.arrange_arrange (order : ByteOrder) (bytes : List UInt8) :
    order.arrange (order.arrange bytes) = bytes := by
  cases order <;> simp [arrange]

namespace ElementType

/-- How many bytes an element takes; an object is kept elsewhere. -/
def size : ElementType → Nat
  | bool => 1
  | int width _ _ => width
  | float size _ => size.bytes
  | text length _ => 4 * length
  | bytes length => length
  | object => 8

/-- The name of an integer type without its byte order. -/
def integerName (bytes : Nat) (signed : Bool) : String :=
  (if signed then "int" else "uint") ++ toString (8 * bytes)

/-- The name of a type.  Numbers in reverse byte order have the short form of the name, with a mark
for the order. -/
def name : ElementType → String
  | bool => "bool"
  | int width signed .little => integerName width signed
  | int width signed .big =>
    if width = 1 then integerName width signed
    else (if signed then ">i" else ">u") ++ toString width
  | float size .little => "float" ++ toString (8 * size.bytes)
  | float size .big => ">f" ++ toString size.bytes
  | text length .little => "<U" ++ toString length
  | text length .big => ">U" ++ toString length
  | bytes length => "|S" ++ toString length
  | object => "object"

/-- The least integer of an integer type. -/
def least (bytes : Nat) (signed : Bool) : Int := if signed then -(Nat.pow 2 (8 * bytes - 1)) else 0

/-- The greatest integer of an integer type. -/
def greatest (bytes : Nat) (signed : Bool) : Int :=
  if signed then Nat.pow 2 (8 * bytes - 1) - 1 else Nat.pow 2 (8 * bytes) - 1

def holds (bytes : Nat) (signed : Bool) (n : Int) : Bool :=
  least bytes signed ≤ n && n ≤ greatest bytes signed

/-- The integer of the type that differs from `n` by a multiple of the number of its values. -/
def wrap (bytes : Nat) (signed : Bool) (n : Int) : Int :=
  let r := n % Nat.pow 2 (8 * bytes)
  if signed ∧ Nat.pow 2 (8 * bytes - 1) ≤ r then r - Nat.pow 2 (8 * bytes) else r

/-- The full names of types, in plain byte order. -/
def byName : List (String × ElementType) :=
  [("bool", bool), ("bool_", bool), ("int8", int 1 true .little), ("byte", int 1 true .little),
    ("int16", int 2 true .little), ("short", int 2 true .little), ("int32", int 4 true .little),
    ("intc", int 4 true .little), ("int64", int 8 true .little), ("int", int 8 true .little),
    ("int_", int 8 true .little), ("intp", int 8 true .little), ("long", int 8 true .little),
    ("longlong", int 8 true .little), ("uint8", int 1 false .little), ("ubyte", int 1 false .little),
    ("uint16", int 2 false .little), ("ushort", int 2 false .little), ("uint32", int 4 false .little),
    ("uintc", int 4 false .little), ("uint64", int 8 false .little), ("uint", int 8 false .little),
    ("uintp", int 8 false .little), ("ulong", int 8 false .little),
    ("ulonglong", int 8 false .little), ("float16", float .half .little), ("half", float .half .little),
    ("float32", float .single .little), ("single", float .single .little),
    ("float64", float .double .little), ("float", float .double .little),
    ("double", float .double .little), ("object", object), ("object_", object),
    ("str", text 0 .little), ("str_", text 0 .little), ("unicode", text 0 .little),
    ("bytes", bytes 0), ("bytes_", bytes 0)]

/-- A type from the letter that stands for it alone. -/
def ofLetter? (order : ByteOrder) : Char → Option ElementType
  | '?' => some bool
  | 'b' => some (int 1 true .little)
  | 'B' => some (int 1 false .little)
  | 'h' => some (int 2 true order)
  | 'H' => some (int 2 false order)
  | 'i' => some (int 4 true order)
  | 'I' => some (int 4 false order)
  | 'l' | 'q' | 'p' | 'n' => some (int 8 true order)
  | 'L' | 'Q' | 'P' | 'N' => some (int 8 false order)
  | 'e' => some (float .half order)
  | 'f' => some (float .single order)
  | 'd' => some (float .double order)
  | 'U' => some (text 0 order)
  | 'S' | 'a' => some (bytes 0)
  | 'O' => some object
  | _ => none

/-- A type from its letter and its width in bytes, or its length. -/
def ofCode? (order : ByteOrder) : Char → Nat → Option ElementType
  | 'i', 1 => some (int 1 true .little)
  | 'u', 1 => some (int 1 false .little)
  | 'i', n => if [2, 4, 8].contains n then some (int n true order) else none
  | 'u', n => if [2, 4, 8].contains n then some (int n false order) else none
  | 'f', 2 => some (float .half order)
  | 'f', 4 => some (float .single order)
  | 'f', 8 => some (float .double order)
  | 'b', 1 => some bool
  | 'U', n => some (text n order)
  | 'S', n | 'a', n => some (bytes n)
  | 'O', 4 | 'O', 8 => some object
  | _, _ => none

/-- A width: blanks, a sign and digits. -/
def width? (s : List Char) : Option Nat :=
  let (negative, digits) := match s.dropWhile Char.isWhitespace with
    | '+' :: r => (false, r)
    | '-' :: r => (true, r)
    | r => (false, r)
  if digits ≠ [] ∧ digits.all Char.isDigit then
    let n := Number.Numeral.ofDigits digits
    if negative && n != 0 then none else some n
  else none

/-- The short form of a name: a mark for the byte order, if any, a letter and a width. -/
def ofShort? (s : List Char) : Option ElementType :=
  let (order, rest) := match s with
    | '>' :: r => (ByteOrder.big, r)
    | '<' :: r | '=' :: r | '|' :: r => (ByteOrder.little, r)
    | r => (ByteOrder.little, r)
  match rest with
  | [letter] => ofLetter? order letter
  | letter :: digits => (width? digits).bind (ofCode? order letter)
  | [] => none

def ofName? (s : String) : Option ElementType := (ofShort? s.toList).or (byName.lookup s)

/-- The type has no length of its own yet. -/
def isUnsettled : ElementType → Bool
  | text 0 _ | bytes 0 => true
  | _ => false

/-- The type with the given length, if it has none of its own. -/
def settle (length : Nat) : ElementType → ElementType
  | text 0 order => text length order
  | bytes 0 => bytes length
  | t => t

/-- The length of the longest text of an element of the type. -/
def textLength : ElementType → Nat
  | bool => 5
  | int 1 true _ => 4
  | int 1 false _ => 3
  | int 2 true _ => 6
  | int 2 false _ => 5
  | int 4 true _ => 11
  | int 4 false _ => 10
  | int _ true _ => 21
  | int _ false _ => 20
  | float _ _ => 32
  | text length _ => length
  | bytes length => length
  | object => 0

/-- The narrowest type that takes elements of both types. -/
def common : ElementType → ElementType → ElementType
  | object, _ | _, object => object
  | text m o, text n _ => text (max m n) o
  | text m o, t | t, text m o => text (max m t.textLength) o
  | bytes m, t | t, bytes m => bytes (max m t.textLength)
  | bool, t | t, bool => t
  | float a _, float b _ => float (if a.bytes < b.bytes then b else a) .little
  | float s _, int width _ _ | int width _ _, float s _ =>
    let needed := if width = 1 then 2 else if width = 2 then 4 else 8
    if s.bytes < needed then float (if needed = 4 then .single else .double) .little
    else float s .little
  | int m s _, int n t _ =>
    if s = t then int (max m n) s .little
    else
      let (wide, narrow) := if s then (m, n) else (n, m)
      if narrow < wide then int wide true .little
      else if narrow < 8 then int (2 * narrow) true .little
      else float .double .little

end ElementType

namespace Element

variable {ω : Type}

/-- What a type of a given length keeps of a text or of bytes: zeros at the end are no part of it.
-/
def keep {α : Type} [BEq α] (zero : α) (length : Nat) (s : List α) : List α :=
  ((s.take length).reverse.dropWhile (· == zero)).reverse

def keepText (length : Nat) (s : String) : String :=
  String.ofList (keep (Char.ofNat 0) length s.toList)

/-- The bytes of an element stored under a type.  An element of another sort has none. -/
def encode : ElementType → Element ω → List UInt8
  | .bool, bool b => [if b then 1 else 0]
  | .int width _ order, int n => order.arrange (littleBytes width (n % Nat.pow 256 width).toNat)
  | .float size order, float d => order.arrange (littleBytes size.bytes (d.toFormat size.format))
  | .text length order, text s =>
    let points := (s.toList.take length).map Char.toNat
    let padded := points ++ List.replicate (length - points.length) 0
    padded.flatMap fun n => order.arrange (littleBytes 4 n)
  | .bytes length, bytes b => b.take length ++ List.replicate (length - b.length) 0
  | _, _ => []

/-- The characters of a text stored in four bytes each; the zeros at the end are no part of it. -/
def textOf (order : ByteOrder) : (length : Nat) → List UInt8 → List Char
  | 0, _ => []
  | length + 1, stored =>
    Char.ofNat (ofLittleBytes (order.arrange (stored.take 4))) :: textOf order length (stored.drop 4)

def decode : ElementType → List UInt8 → Option (Element ω)
  | .bool, stored => some (bool (ofLittleBytes stored != 0))
  | .int width signed order, stored =>
    some (int (ElementType.wrap width signed (ofLittleBytes (order.arrange stored))))
  | .float size order, stored =>
    some (float (.ofFormat size.format (ofLittleBytes (order.arrange stored))))
  | .text length order, stored =>
    some (text (String.ofList (keep (Char.ofNat 0) length (textOf order length stored))))
  | .bytes length, stored => some (bytes (keep 0 length stored))
  | .object, _ => none

def render (t : ElementType) : Element ω → String
  | bool b => if b then "True" else "False"
  | int n => toString n
  | float d =>
    match t with
    | .float size _ =>
      (size.format.decode (d.toFormat size.format)).render size.format size.layout
    | _ => d.render
  | text s => s
  | bytes b => Text.quoteBytes b
  | foreign _ => ""

end Element

/-! ### Casts -/

/-- The integer that a machine conversion of `bits` bits gives: the integer part, or the least
integer of that width if it does not fit. -/
def machineInteger (bits : Nat) (d : Number.Double) : Int :=
  let least : Int := -(Nat.pow 2 (bits - 1))
  match d.truncate? with
  | some n => if least ≤ n ∧ n < -least then n else least
  | none => least

/-- A floating-point number as an integer of the given type. -/
def integerCast (bytes : Nat) (signed : Bool) (d : Number.Double) : Int :=
  let n := match bytes, signed with
    | 8, false =>
      match d.truncate? with
      | some n => if Number.Word.greatest < n then (if ElementType.holds 8 false n then n else 0)
        else machineInteger 64 d
      | none => machineInteger 64 d
    | 8, true => machineInteger 64 d
    | 4, false => machineInteger 64 d
    | _, _ => machineInteger 32 d
  ElementType.wrap bytes signed n

namespace Element

variable {ω : Type}

/-- An element of one type as an element of another, where that needs no reading or writing of
anything but numbers. -/
def cast (source target : ElementType) (e : Element ω) : Option (Element ω) :=
  match target, e with
  | .bool, bool b => some (bool b)
  | .bool, int n => some (bool (n != 0))
  | .bool, float d => some (bool (!d.isZero))
  | .int width signed _, bool b => some (int (ElementType.wrap width signed (if b then 1 else 0)))
  | .int width signed _, int n => some (int (ElementType.wrap width signed n))
  | .int width signed _, float d => some (int (integerCast width signed d))
  | .float _ _, bool b => some (float (if b then .one else .zero))
  | .float size _, int n =>
    some (float (.ofFormat size.format (size.format.round (.finite (n < 0) n.natAbs 0))))
  | .float size _, float d => some (float (d.roundTo size.format))
  | .text length _, text s => some (text (keepText length s))
  | .text _ _, bytes _ => none
  | .text length _, e => some (text (keepText length (e.render source)))
  | .bytes length, bytes b => some (bytes (keep 0 length b))
  | .object, e => some e
  | _, _ => none

end Element

end Strided
