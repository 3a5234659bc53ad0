import Strided.Attribute.Bytes
import Strided.Attribute.Container
import Strided.Attribute.Typed

/-!
# Attributes of values

Which attribute a value has under a name, for all values that are no objects of the caller's and no
handles.
-/

namespace Strided.Attribute

def ofValue? (v : Value) (name : String) : Option Attribute :=
  match v with
  | .none => if name = "__bool__" then some (flag false) else none
  | .bool b => ofInteger? (if b then 1 else 0) name
  | .int n => ofInteger? n name
  | .float d _ => ofFloat? d v name
  | .text s => ofText? s.toList name
  | .bytes b => ofBytes? b name
  | .list items mark => ofList? items mark name
  | .tuple items => ofTuple? items name
  | .dict entries mark => ofDict? entries mark name
  | .slice start stop step => ofSlice? start stop step name
  | .scalar type (.text s) _ =>
    (ofText? s.toList name).or (ofArrayOfOne? type (.text s) v name)
  | .scalar type (.bytes b) _ =>
    (ofBytes? b name).or (ofArrayOfOne? type (.bytes b) v name)
  | .scalar type e _ => ofTyped? type e v name
  | .fault kind message _ => ofFault? kind message name
  | .index answer _ => if name = "__index__" then some (answers answer) else none
  | .badIndex kind message _ =>
    if name = "__index__" then some (fails (.raised kind message)) else none
  | _ => none

end Strided.Attribute
