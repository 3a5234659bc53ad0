import Strided.Number.Word
import Strided.Text.Ascii
import Strided.Value.Conversion

/-!
# Storing values

`Value.store` makes an element of a given storage type of a value.  A plain number has to fit an
integer type, and so has everything that is read as one; a number that has a storage type already is
converted between the types where the new one is not signed.  `Value.typed` makes a value that has
a storage type.
-/

namespace Strided

/-- An element that is no object, among elements that may be objects. -/
def Element.widen {ω : Type} : Element Empty → Element ω
  | .bool b => .bool b
  | .int n => .int n
  | .float d => .float d
  | .text s => .text s
  | .bytes b => .bytes b
  | .foreign o => nomatch o

namespace Value

/-- The integer passes through a machine word on its way into an integer type: a signed one, or for
the wider unsigned types a word of either sort. -/
def fitsWord (width : Nat) (signed : Bool) (n : Int) : Bool :=
  ElementType.holds 8 true n || (!signed && 4 ≤ width && ElementType.holds 8 false n)

def storeWhole (width : Nat) (signed : Bool) (n : Int) : Except Fault (Element Value) :=
  if !fitsWord width signed n then .error .tooLargeForInteger
  else if ElementType.holds width signed n then .ok (.int n)
  else .error (.outOfTypeRange n (ElementType.integerName width signed))

def asciiOf (s : String) : Except Fault (List UInt8) :=
  (Text.Ascii.encode s.toList).mapError fun f => .characterNotAscii f.character f.first f.last

def textOfAscii (b : List UInt8) : Except Fault String :=
  ((Text.Ascii.decode b).map String.ofList).mapError fun f => .byteNotAscii f.1 f.2

/-- The text under which a value is stored. -/
def storedText (v : Value) : Except Fault String :=
  match v.bytes? with
  | some b => textOfAscii b
  | Option.none => v.plain

def storedBytes (v : Value) : Except Fault (List UInt8) :=
  match v.bytes? with
  | some b => .ok b
  | Option.none => v.plain >>= asciiOf

def storePlain (type : ElementType) (v : Value) : Except Fault (Element Value) :=
  match type with
  | .bool => .ok (.bool v.truth)
  | .int width signed _ => v.toWhole >>= storeWhole width signed
  | .float size _ => (v.toNumber).map fun d => .float (d.roundTo size.format)
  | .text length _ => v.storedText.map fun s => .text (Element.keepText length s)
  | .bytes length => v.storedBytes.map fun b => .bytes (Element.keep 0 length b)
  | .object => .ok (.foreign v)

/-- A number of a storage type is converted, not read, on its way into the type. -/
def isConverted : ElementType → Bool
  | .int _ signed _ => !signed
  | .object => false
  | _ => true

/-- A value stored under an element type; what has a storage type may be converted. -/
def store (type : ElementType) (v : Value) : Except Fault (Element Value) :=
  match v with
  | scalar source e _ =>
    match isConverted type, e.cast source type with
    | true, some e => .ok e.widen
    | _, _ =>
      match type, e with
      | .bool, _ => v.toWhole.map fun n => .bool (n != 0)
      | type, _ => storePlain type v
  | v => storePlain type v

/-- How long a text of a type without a length has to be to hold a value. -/
def storedLength (v : Value) : Except Fault Nat :=
  match v with
  | scalar (.text ..) (.text s) _ => .ok s.length
  | scalar type _ _ => .ok type.textLength
  | bytes b => .ok b.length
  | v => v.plain.map String.length

/-! ### Making numbers of a storage type -/

/-- The type in plain byte order. -/
def nativeType : ElementType → ElementType
  | .int width signed _ => .int width signed .little
  | .float size _ => .float size .little
  | .text length _ => .text length .little
  | type => type

/-- An element that is no object as a value of a storage type. -/
def ofElement (type : ElementType) (mark : Mark) : Element Value → Value
  | .bool b => scalar type (.bool b) mark
  | .int n => scalar type (.int n) mark
  | .float d => scalar type (.float d) mark
  | .text s => scalar type (.text s) mark
  | .bytes b => scalar type (.bytes b) mark
  | .foreign v => v

/-- The value that a storage type makes of another.  The text of bytes is how they are shown. -/
def typed (type : ElementType) (v : Value) (mark : Mark) : Except Fault Value :=
  match type with
  | .object => .ok v
  | .bool => .ok (scalar .bool (.bool v.truth) mark)
  | .text .. => do
    let s ← v.plain
    .ok (scalar (.text s.length .little) (.text s) mark)
  | .bytes _ => do
    let b ← v.storedBytes
    .ok (scalar (.bytes b.length) (.bytes b) mark)
  | type => (v.store (nativeType type)).map (ofElement (nativeType type) mark)

end Value

end Strided
