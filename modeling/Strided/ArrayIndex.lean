import Strided.TypedArray
import Strided.Value.Item

/-!
# Subscripts of arrays

An array takes more subscripts than a view.  A subscript is a tuple of components, or one of them:
an index, a slice, a list of indices, a mask, a flag, or nothing at all for a new axis.  Only one
component may use up the axis that an array has; flags and new axes add axes of their own.

`TypedArray.pick` gives the elements and the extents of what comes out.  The order of the extents is
not kept where lists and new axes meet.
-/

namespace Strided

/-- A component of a subscript of an array. -/
inductive ArrayIndex where
  | position (i : Int)
  | range (s : Slice)
  /-- Indices in an array of the given extents. -/
  | positions (shape : List Nat) (indices : List Int)
  | mask (flags : List Bool)
  | flag (b : Bool)
  | newAxis
  deriving DecidableEq, Repr

namespace ArrayIndex

/-- The integers among elements, if all are. -/
def integers? (elements : List (Element Value)) : Option (List Int) :=
  elements.mapM fun
    | .int n => some n
    | _ => none

/-- The flags among elements, if all are. -/
def flags? (elements : List (Element Value)) : Option (List Bool) :=
  elements.mapM fun
    | .bool b => some b
    | _ => none

/-- A nest of lists as a component: an array of signed integers or of flags.  A list of nothing is
one of integers. -/
def ofNest (v : Value) : Except Fault ArrayIndex := do
  let (a, shape) ← TypedArray.ofNest none v
  match a.type, integers? a.elements, flags? a.elements, shape with
  | .bool, _, some flags, [_] => .ok (mask flags)
  | .bool, _, _, shape => .error (.tooManyIndices 1 shape.length)
  | .int _ _ _, some indices, _, shape => .ok (positions shape indices)
  | _, some [], _, shape => .ok (positions shape [])
  | _, _, _, _ => .error .notAnArrayIndex

def ofValue (v : Value) : Except Fault ArrayIndex :=
  match v with
  | .none => .ok newAxis
  | .bool b => .ok (flag b)
  | .scalar _ (.bool b) _ => .ok (flag b)
  | .slice start stop step => (Slice.ofPlainValues start stop step).map range
  | .list .. | .tuple _ => ofNest v
  | v =>
    match v.toIndex with
    | .ok i => .ok (position i)
    | .error _ => .error .notAnArrayIndex

def ofSubscript : Value → Except Fault (List ArrayIndex)
  | .tuple items => items.mapM ofValue
  | v => (ofValue v).map ([·])

def consumes : ArrayIndex → Bool
  | flag _ | newAxis => false
  | _ => true

/-- The extents of indices that are spread over as many flags as hold together: one or none. -/
def spread (held : Bool) (shape : List Nat) : Except Fault (List Nat) :=
  match shape.getLast? with
  | none => .ok [if held then 1 else 0]
  | some n =>
    if held || n = 0 then .ok shape
    else if n = 1 then .ok (shape.dropLast ++ [0])
    else .error .notAnArrayIndex

end ArrayIndex

/-- What a subscript picks from an array: an element, or an array of the given extents. -/
inductive Picked where
  | element (e : Element Value)
  | array (shape : List Nat) (elements : List (Element Value))

namespace TypedArray

/-- What the one component that uses up the axis picks. -/
def pickAlong (a : TypedArray) : ArrayIndex → Except Fault Picked
  | .position i => (a.read i).map .element
  | .range s => (s.select a.elements).map fun elements => .array [elements.length] elements
  | .positions shape indices => (indices.mapM a.read).map (.array shape)
  | .mask flags =>
    if flags.length = a.size then
      let elements := ((flags.zip a.elements).filter (·.1)).map (·.2)
      .ok (.array [elements.length] elements)
    else .error (.maskTooLong flags.length a.size)
  | .flag _ | .newAxis => .ok (.array [a.size] a.elements)

/-- Spreads what has been picked along the axis over the flags of a subscript. -/
def spreadFlags (along : ArrayIndex) (held : Bool) : Picked → Except Fault Picked
  | .element e => .ok (.array [if held then 1 else 0] (if held then [e] else []))
  | .array shape elements =>
    match along with
    | .positions .. | .mask _ => do
      let shape ← ArrayIndex.spread held shape
      .ok (.array shape (if held then elements else []))
    | _ => .ok (.array ((if held then 1 else 0) :: shape) (if held then elements else []))

def pick (a : TypedArray) (subscript : Value) : Except Fault Picked := do
  let components ← ArrayIndex.ofSubscript subscript
  let along ← match components.filter ArrayIndex.consumes with
    | [] => .ok (ArrayIndex.range ⟨none, none, none⟩)
    | [component] => .ok component
    | several => .error (.tooManyIndices 1 several.length)
  let picked ← a.pickAlong along
  let flags := components.filterMap fun
    | .flag b => some b
    | _ => none
  let picked ← if flags = [] then .ok picked else spreadFlags along (flags.all id) picked
  match picked, components.count .newAxis with
  | picked, 0 => .ok picked
  | .element e, n => .ok (.array (List.replicate n 1) [e])
  | .array shape elements, n => .ok (.array (List.replicate n 1 ++ shape) elements)

end TypedArray

end Strided
