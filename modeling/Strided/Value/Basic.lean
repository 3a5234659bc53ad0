import Strided.Element
import Strided.Fault

/-!
# Values

The values that a store may hold, that a view may be searched for and that functions are called
with.

Some values are told apart even where they look alike: they carry a `mark`, the identity under which
they entered, and a value without one was made on the spot.  Numbers have one because a NaN is equal
to nothing but itself, and lists and dictionaries because they can change.
-/

namespace Strided

/-- The variants of a handle. -/
inductive Variant where
  | explicit
  | resolved
  /-- Neither of the two. -/
  | plain
  deriving DecidableEq, Repr

def Variant.name : Variant → String
  | .explicit => "Explicit"
  | .resolved => "Resolved"
  | .plain => "Defaulting"

/-- What a method of an object answers. -/
inductive Method where
  /-- A text followed by the name of the object. -/
  | introduce (lead : String)
  /-- A number. -/
  | constant (n : Int)
  deriving DecidableEq, Repr

/-- A class of objects: its name, the names of the classes above it, and its methods. -/
structure ObjectClass where
  name : String
  ancestors : List String
  methods : List (String × Method)
  deriving DecidableEq, Repr

/-- The identity of a value, if it has one of its own. -/
abbrev Mark := Option Nat

/-- A value. -/
inductive Value where
  | none
  | bool (b : Bool)
  | int (n : Int)
  | float (d : Number.Double) (mark : Mark)
  | text (s : String)
  | bytes (b : List UInt8)
  | list (items : List Value) (mark : Mark)
  | tuple (items : List Value)
  | dict (entries : List (Value × Value)) (mark : Mark)
  | slice (start stop step : Value)
  /-- A number that has a storage type. -/
  | scalar (type : ElementType) (e : Element Empty) (mark : Mark)
  /-- A fault kept as a value. -/
  | fault (kind : FaultKind) (text : String) (mark : Mark)
  /-- An object that answers to being used as an index. -/
  | index (answer : Value) (mark : Mark)
  /-- An object that fails when used as an index. -/
  | badIndex (kind : FaultKind) (text : String) (mark : Mark)
  /-- An object of the caller's. -/
  | object (cls : ObjectClass) (ref : Nat)
  /-- A handle to a value. -/
  | handle (variant : Variant) (referent : Value)
  /-- The object that a method was called on. -/
  | receiver

namespace Value

instance : Inhabited Value := ⟨.none⟩

def typeName : Value → String
  | none => "NoneType"
  | bool _ => "bool"
  | int _ => "int"
  | float .. => "float"
  | text _ => "str"
  | bytes _ => "bytes"
  | list .. => "list"
  | tuple _ => "tuple"
  | dict .. => "dict"
  | slice .. => "slice"
  | scalar (.text ..) .. => "str_"
  | scalar (.bytes ..) .. => "bytes_"
  | scalar type .. => type.name
  | fault kind .. => kind.name
  | index .. => "Index"
  | badIndex .. => "IndexRaise"
  | object cls _ => cls.name
  | handle variant _ => variant.name
  | receiver => "Module"

/-- The name of the type of a value, with the family that the storage types form. -/
def familyTypeName (v : Value) : String :=
  match v with
  | scalar .. => "numpy." ++ v.typeName
  | v => v.typeName

/-! ### Numbers -/

/-- A number, whatever form a value gives it. -/
inductive Quantity where
  | int (n : Int)
  | float (d : Number.Double)
  deriving DecidableEq, Repr

def Quantity.equals : Quantity → Quantity → Bool
  | int m, int n => m == n
  | int m, float d => d.equalsInt m
  | float d, int m => d.equalsInt m
  | float d, float e => d.equals e

def Quantity.parts : Quantity → Number.Parts
  | int n => .finite (n < 0) n.natAbs 0
  | float d => d.parts

def Quantity.less (p q : Quantity) : Bool := p.parts.less q.parts

def elementQuantity? : Element Empty → Option Quantity
  | .bool b => some (.int (if b then 1 else 0))
  | .int n => some (.int n)
  | .float d => some (.float d)
  | .text _ | .bytes _ => Option.none

def quantity? : Value → Option Quantity
  | bool b => some (.int (if b then 1 else 0))
  | int n => some (.int n)
  | float d _ => some (.float d)
  | scalar _ e _ => elementQuantity? e
  | _ => Option.none

def text? : Value → Option String
  | text s => some s
  | scalar _ (.text s) _ => some s
  | _ => Option.none

def bytes? : Value → Option (List UInt8)
  | bytes b => some b
  | scalar _ (.bytes b) _ => some b
  | _ => Option.none

/-- Whether a value counts as true: numbers other than zero, and what is not empty. -/
def truth : Value → Bool
  | none => false
  | bool b => b
  | int n => n != 0
  | float d _ => !d.isZero
  | text s => s != ""
  | bytes b => !b.isEmpty
  | list items _ => !items.isEmpty
  | tuple items => !items.isEmpty
  | dict entries _ => !entries.isEmpty
  | scalar _ (.bool b) _ => b
  | scalar _ (.int n) _ => n != 0
  | scalar _ (.float d) _ => !d.isZero
  | scalar _ (.text s) _ => s != ""
  | scalar _ (.bytes b) _ => !b.isEmpty
  | _ => true

/-- A fault as a value, made of a kind and a text.  Faults about malformed text are made of more. -/
def keptFault (kind : FaultKind) (message : String) (mark : Mark) : Except Fault Value :=
  match kind with
  | .unicodeDecode | .unicodeEncode =>
    .error (.argumentsMissing "function takes exactly 5 arguments (1 given)")
  | kind => .ok (fault kind message mark)

/-- The elements of a value that can be gone through. -/
def items? : Value → Option (List Value)
  | list items _ => some items
  | tuple items => some items
  | dict entries _ => some (entries.map (·.1))
  | v =>
    match v.text? with
    | some s => some (s.toList.map fun c => text (String.singleton c))
    | Option.none => v.bytes?.map fun b => b.map fun n => int n.toNat

/-! ### Identity -/

/-- The identity of a value, if it is told apart by one. -/
def mark? : Value → Mark
  | float _ mark => mark
  | list _ mark => mark
  | dict _ mark => mark
  | scalar _ _ mark => mark
  | fault _ _ mark => mark
  | index _ mark => mark
  | badIndex _ _ mark => mark
  | _ => Option.none

/-- The values are one object. -/
def identical (a b : Value) : Bool := a.mark?.isSome && a.mark? == b.mark?

end Value

end Strided
