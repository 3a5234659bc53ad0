import Strided.Attribute.Number
import Strided.Value.Stored

/-!
# Attributes of numbers of a storage type

A number that has a storage type is also an array of no axes.  It knows its plain value, its bytes
and its extents, and the operations that reduce an array leave it as it is.
-/

namespace Strided.Attribute

def plainOf : Element Empty → Value
  | .bool b => .bool b
  | .int n => .int n
  | .float d => .float d none
  | .text s => .text s
  | .bytes b => .bytes b

def zeroOf : Element Empty → Element Empty
  | .bool _ => .bool false
  | .int _ => .int 0
  | .float _ => .float .zero
  | .text _ => .text ""
  | .bytes _ => .bytes []

def typedFlag (b : Bool) : Value := .scalar .bool (.bool b) none

/-- The attribute that a number of a storage type has as an array. -/
def ofArrayOfOne? (type : ElementType) (e : Element Empty) (self : Value) :
    String → Option Attribute
  | "item" | "tolist" => some (answers (plainOf e))
  | "real" | "T" => some (value self)
  | "imag" => some (value (.scalar type (zeroOf e) none))
  | "conj" | "conjugate" | "copy" | "squeeze" | "transpose" | "view" | "max" | "min" =>
    some (answers self)
  | "all" | "any" => some (answers (typedFlag self.truth))
  | "size" => some (value (.int 1))
  | "ndim" => some (value (.int 0))
  | "shape" | "strides" => some (value (.tuple []))
  | "itemsize" | "nbytes" => some (value (.int type.size))
  | "tobytes" => some (answers (.bytes (e.encode type)))
  | "base" => some (value .none)
  | "__bool__" => some (flag self.truth)
  | _ => none

/-- The type in which numbers of a type are added up and multiplied: of integers the widest. -/
def totalType : ElementType → ElementType
  | .bool => .int 8 true .little
  | .int _ signed _ => .int 8 signed .little
  | type => type

/-- The type in which numbers of a type are averaged: of integers the one of double precision. -/
def averageType : ElementType → ElementType
  | .float size order => .float size order
  | _ => .float .double .little

def convertedTo (target type : ElementType) (e : Element Empty) : Value :=
  .scalar target ((e.cast type target).getD e) none

/-- How far a number is from itself: not at all, unless it is not finite. -/
def spread : Element Empty → Element Empty
  | .float d => .float (if d.isFinite then .zero else .ofParts (.nan false))
  | _ => .float .zero

/-- The attribute that a number of a storage type has as the only one of its kind. -/
def ofStatistics? (type : ElementType) (e : Element Empty) : String → Option Attribute
  | "sum" | "prod" => some (answers (convertedTo (totalType type) type e))
  | "mean" => some (answers (convertedTo (averageType type) type e))
  | "std" | "var" => some (answers (.scalar (averageType type) (spread e) none))
  | "argmax" | "argmin" => some (answers (.scalar (.int 8 true .little) (.int 0) none))
  | _ => none

/-- A number rounded to a whole one.  A flag becomes one of half precision. -/
def rounded (type : ElementType) : Element Empty → Value
  | .float d => .scalar type (.float d.rounded) none
  | .bool b => .scalar (.float .half .little) (.float (if b then .one else .zero)) none
  | e => .scalar type e none

/-- A number with its bytes in the other order. -/
def swapped (type : ElementType) (e : Element Empty) : Value :=
  .scalar type ((Element.decode type (e.encode type).reverse).getD e) none

/-- The attribute of a number of a storage type that makes another number of that type. -/
def ofChange? (type : ElementType) (e : Element Empty) : String → Option Attribute
  | "round" => some (answers (rounded type e))
  | "byteswap" => some (answers (swapped type e))
  | _ => none

/-- The attribute that a number of a storage type has as a number. -/
def ofTypedNumber? (e : Element Empty) (self : Value) (name : String) : Option Attribute :=
  match e, name with
  | .int n, "bit_count" => some (int (bitCount n.natAbs))
  | .int _, "is_integer" => some (flag true)
  | .int _, "numerator" => some (value self)
  | .int _, "denominator" => some (value (.int 1))
  | .int n, "__index__" | .int n, "__int__" => some (int n)
  | .int n, "__float__" => some (answers (.float (.ofInt n) none))
  | .float d, "is_integer" => some (flag d.isWhole)
  | .float d, "as_integer_ratio" => some (method (ratio d))
  | .float d, "__int__" => some (whole d (fun num den => Int.tdiv num den))
  | .float d, "__float__" => some (answers (.float d none))
  | .bool b, "__int__" => some (int (if b then 1 else 0))
  | .bool b, "__float__" => some (answers (.float (if b then .one else .zero) none))
  | _, _ => none

/-- The attribute of a number of a storage type.  Those of double precision are plain numbers too.
-/
def ofTyped? (type : ElementType) (e : Element Empty) (self : Value) (name : String) :
    Option Attribute :=
  let more := match type, e with
    | .float .double _, .float d =>
      if name = "hex" ∨ name = "fromhex" then ofFloat? d self name else none
    | _, _ => none
  (ofArrayOfOne? type e self name).or
    ((ofStatistics? type e name).or
      ((ofChange? type e name).or ((ofTypedNumber? e self name).or more)))

end Strided.Attribute
