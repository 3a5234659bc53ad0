import Strided.Value.Basic

/-!
# Referent types

The types of values for which there can be a current default.  A boolean is also an integer, and a
double with a storage type is also a floating-point number; an object belongs to its class and to
the classes above it.
-/

namespace Strided.Defaults

/-- A type of values. -/
inductive ReferentType where
  | integer
  | text
  | float
  | list
  | tuple
  | boolean
  | bytes
  | dict
  | absent
  | anything
  | objects (className : String)
  deriving DecidableEq, Repr

namespace ReferentType

def name : ReferentType → String
  | integer => "int"
  | text => "str"
  | float => "float"
  | list => "list"
  | tuple => "tuple"
  | boolean => "bool"
  | bytes => "bytes"
  | dict => "dict"
  | absent => "NoneType"
  | anything => "object"
  | objects className => className

def named : List ReferentType :=
  [integer, text, float, list, tuple, boolean, bytes, dict, absent, anything]

/-- The type of a given name: a class of objects, unless it is one of the others. -/
def ofName (s : String) : ReferentType := (named.find? (·.name == s)).getD (.objects s)

def admits : ReferentType → Value → Bool
  | anything, _ => true
  | absent, .none => true
  | boolean, .bool _ => true
  | integer, .bool _ => true
  | integer, .int _ => true
  | float, .float .. => true
  | float, .scalar (.float .double _) .. => true
  | text, .text _ => true
  | text, .scalar (.text ..) .. => true
  | bytes, .bytes _ => true
  | bytes, .scalar (.bytes _) .. => true
  | list, .list .. => true
  | tuple, .tuple _ => true
  | dict, .dict .. => true
  | objects className, .object cls _ => cls.name == className || cls.ancestors.contains className
  | _, _ => false

end ReferentType

end Strided.Defaults
