import Strided.Slice
import Strided.Value.Nest
import Strided.Value.Stored

/-!
# Typed arrays

A `TypedArray` is one-dimensional and all its elements are of one storage type.  `ofValue` makes one
from a list or tuple: of a type that is given, or of the narrowest of the default types that takes
all elements.  Whatever the storage type, the element at an index is read as a plain value.
-/

namespace Strided

/-- A one-dimensional array of elements of one type. -/
structure TypedArray where
  type : ElementType
  elements : List (Element Value)

namespace TypedArray

def size (a : TypedArray) : Nat := a.elements.length

/-! ### Reading -/

/-- The plain value of an element that is stored as a value of its own type. -/
def valueOf : Element Value → Value
  | .bool b => .bool b
  | .int n => .int n
  | .float d => .float d none
  | .text s => .text s
  | .bytes b => .bytes b
  | .foreign v => v

/-- The plain value of an element.  Objects know no plain value unless they have a storage type. -/
def plainValue : Element Value → Except Fault Value
  | .foreign (.scalar _ (.bool b) _) => .ok (.bool b)
  | .foreign (.scalar _ (.int n) _) => .ok (.int n)
  | .foreign (.scalar _ (.float d) _) => .ok (.float d none)
  | .foreign (.scalar _ (.text s) _) => .ok (.text s)
  | .foreign (.scalar _ (.bytes b) _) => .ok (.bytes b)
  | .foreign v => .error (.noAttribute v.typeName "item")
  | e => .ok (valueOf e)

/-- The element at an index; a negative one counts from the end. -/
def read (a : TypedArray) (i : Int) : Except Fault (Element Value) :=
  if !Number.Word.fits i then .error .notAnArrayIndex
  else
    let j := if i < 0 then i + a.size else i
    if j < 0 then .error (.beyondAxis i a.size)
    else
      match a.elements[j.toNat]? with
      | some e => .ok e
      | none => .error (.beyondAxis i a.size)

/-- The elements that a slice selects. -/
def slice (a : TypedArray) (s : Slice) : Except Fault TypedArray :=
  (s.select a.elements).map fun elements => ⟨a.type, elements⟩

def toValues (a : TypedArray) : List Value := a.elements.map valueOf

def encode (a : TypedArray) : List UInt8 := a.elements.flatMap (Element.encode a.type)

/-! ### Making -/

/-- The integers among the elements are stored unsigned: none is negative, and one needs it. -/
def unsignedTogether (items : List Value) : Bool :=
  items.all (fun v => match v with
    | .int n => 0 ≤ n && ElementType.holds 8 false n
    | .bool _ => true
    | _ => false)
  && items.any (fun v => match v with
    | .int n => !ElementType.holds 8 true n
    | _ => false)

def inferType : List Value → ElementType
  | [] => .float .double .little
  | v :: rest =>
    if unsignedTogether (v :: rest) then .int 8 false .little
    else rest.foldl (fun t w => ElementType.common t w.defaultType) v.defaultType

/-- A type without a length gets that of the longest element, which is one at least. -/
def settleLength (type : ElementType) (items : List Value) : Except Fault ElementType :=
  if type.isUnsettled then do
    let lengths ← items.mapM Value.storedLength
    .ok (type.settle (lengths.foldl max 1))
  else .ok type

/-- The array with the given elements, of the given type or of the type that suits them. -/
def ofItems (type : Option ElementType) (items : List Value) : Except Fault TypedArray := do
  let type ← settleLength (type.getD (inferType items)) items
  let elements ← items.mapM (Value.store type)
  .ok ⟨type, elements⟩

/-- The array of the elements of a nest, row by row, with its extents. -/
def ofNest (type : Option ElementType) (v : Value) : Except Fault (TypedArray × List Nat) := do
  let shape ← v.evenExtents
  let a ← ofItems type v.leaves
  .ok (a, shape)

/-- The array laid out in extents, which have to come to its size.  One of them may be left open, by
being negative. -/
def inExtents (shape : List Int) (a : TypedArray) : Except Fault TypedArray :=
  let known : Int := (shape.filter (0 ≤ ·)).foldl (· * ·) 1
  let fits := match shape.filter (· < 0) with
    | [] => known == a.size
    | [_] => known != 0 && (a.size : Int) % known == 0
    | _ => false
  if fits then .ok a else .error (.wrongExtents a.size shape)

/-- The array of objects of a list.  Lists that differ in length are objects themselves. -/
def ofObjects (v : Value) : Except Fault TypedArray :=
  match v.extents with
  | ([_], _) => ofItems (some .object) (v.items?.getD [])
  | (shape, _) => .error (.wrongDimensions (min shape.length Value.maxDepth))

def ofValue (type : Option ElementType) (v : Value) : Except Fault TypedArray :=
  if type = some .object then ofObjects v
  else do
    match ← ofNest type v with
    | (a, [_]) => .ok a
    | (_, shape) => .error (.wrongDimensions shape.length)

/-! ### Converting -/

/-- An element converted to another type.  A text is read as a number, objects are stored anew. -/
def castElement (source target : ElementType) (e : Element Value) : Except Fault (Element Value) :=
  match e.cast source target with
  | some e => .ok e
  | none =>
    match target, e with
    | .bool, .text _ | .bool, .bytes _ => (valueOf e).toWhole.map fun n => .bool (n != 0)
    | target, e => (valueOf e).store target

/-- The type that elements of one type are converted to.  A text without a length keeps that of the
texts there are, and their byte order; of other elements it gets the length of the longest text. -/
def castType (a : TypedArray) (target : ElementType) : Except Fault ElementType :=
  match target, a.type with
  | .text 0 _, .text n order => .ok (.text n order)
  | target, .object => settleLength target (a.elements.map valueOf)
  | target, source => .ok (target.settle (max 1 source.textLength))

/-- The array with its elements converted to another type. -/
def cast (a : TypedArray) (target : ElementType) : Except Fault TypedArray := do
  let target ← a.castType target
  let elements ← a.elements.mapM (castElement a.type target)
  .ok ⟨target, elements⟩

end TypedArray

end Strided
