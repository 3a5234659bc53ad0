import Strided.Attribute.Plain
import Strided.Defaults.Context
import Strided.Value.HashKey
import Strided.Value.Printer

/-!
# Attributes of handles

A handle has three attributes of its own: its referent, `get`, and whether it is explicit.  It is
also shown as itself.  All others are those of the referent.  Its length, equality and hash are its
own and not the referent's: two handles are equal if they are of one variant and refer to the same.
-/

namespace Strided.Defaults

/-- An object of the caller's: its class, and the attributes set on it. -/
structure ObjectState where
  cls : ObjectClass
  attributes : List (String × Value)

/-- What a method answers for an object of the given name. -/
def methodAnswer (name : Value) : Method → Value
  | .introduce lead => .text (lead ++ name.text?.getD "")
  | .constant n => .int n

/-- The attribute of an object: what is set on it comes before what its class has. -/
def ObjectState.attribute? (o : ObjectState) (name : String) : Option Attribute :=
  match o.attributes.lookup name with
  | some v => some (.value v)
  | none =>
    (o.cls.methods.lookup name).map fun m =>
      .answers (methodAnswer ((o.attributes.lookup "name").getD .none) m)

def ofHandle? (variant : Variant) (referent : Value) (name : String) : Option Attribute :=
  match variant, name with
  | _, "referent" => some (.value referent)
  | _, "get" => some (.answers referent)
  | .explicit, "is_explicit" => some (.value (.bool true))
  | .resolved, "is_explicit" => some (.value (.bool false))
  | _, "__repr__" | _, "__str__" =>
    some (.method ((Value.display (.handle variant referent)).map Value.text))
  | _, _ => none

/-- The attribute of a value.  `objects` are the caller's objects. -/
def attributeOf (objects : Nat → Option ObjectState) (name : String) :
    Value → Except Fault Attribute
  | .handle variant referent =>
    match ofHandle? variant referent name with
    | some a => .ok a
    | none => attributeOf objects name referent
  | .object cls ref =>
    match (objects ref).bind (·.attribute? name) with
    | some a => .ok a
    | none => .error (.noAttribute cls.name name)
  | v =>
    match Attribute.ofValue? v name with
    | some a => .ok a
    | none => .error (.noAttribute v.familyTypeName name)

namespace Handle

def attributeNamed (objects : Nat → Option ObjectState) (h : Handle) (name : String) :
    Except Fault Attribute :=
  attributeOf objects name h.toValue

/-- An attribute of a handle of the given variant that has no referent yet. -/
def blankAttribute (variant : Variant) (name : String) : Except Fault Attribute :=
  match variant, name with
  | .explicit, "is_explicit" => .ok (.value (.bool true))
  | .resolved, "is_explicit" => .ok (.value (.bool false))
  | _, _ => .error (.uninitialised "referent")

/-- A handle has no length. -/
def length (h : Handle) : Fault := .noLength h.variant.name

def hashesAlike (a b : Handle) : Except Fault Bool := do
  let k ← a.toValue.hashKey
  let l ← b.toValue.hashKey
  .ok (k.equals l)

end Handle

end Strided.Defaults
