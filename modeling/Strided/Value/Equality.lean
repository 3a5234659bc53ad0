import Strided.Value.HashKey
import Strided.Value.Nest

/-!
# Equality

Values compare by what they stand for: numbers by value, texts and bytes by their elements, lists,
tuples and dictionaries by their parts, objects by identity.  Inside a container one and the same
object is equal to itself, whatever it is.

A number that has a storage type compares under the rules of its type: with another one in the
narrowest type that takes both, with a plain floating-point number in its own type, and with a list
as with an array of one element.  Such a comparison may fail.
-/

namespace Strided.Value

/-! ### Numbers -/

/-- Two elements of storage types, as numbers that compare like them. -/
def typedPair (s : ElementType) (a : Element Empty) (t : ElementType) (b : Element Empty) :
    Option (Quantity × Quantity) :=
  match elementQuantity? a, elementQuantity? b with
  | some (.int m), some (.int n) => some (.int m, .int n)
  | some p, some q =>
    let type := ElementType.common s t
    match a.cast s type, b.cast t type with
    | some (.float x), some (.float y) => some (.float x, .float y)
    | _, _ => some (p, q)
  | _, _ => Option.none

/-- An element of a storage type and a plain number, as numbers that compare like them. -/
def plainPair (type : ElementType) (e : Element Empty) (q : Quantity) :
    Except Fault (Option (Quantity × Quantity)) :=
  match type, elementQuantity? e, q with
  | .float size _, some (.float x), .int n =>
    let d := Number.Double.ofInt n
    if d.isFinite then .ok (some (.float x, .float (d.roundTo size.format)))
    else .error .tooLargeForFloat
  | .float size _, some (.float x), .float d =>
    .ok (some (.float x, .float (d.roundTo size.format)))
  | _, some (.int m), .float d => .ok (some (.float (.ofInt m), .float d))
  | _, some p, q => .ok (some (p, q))
  | _, Option.none, _ => .ok Option.none

/-- Two values as numbers that compare like them, if both are numbers. -/
def pair (a b : Value) : Except Fault (Option (Quantity × Quantity)) :=
  match a, b with
  | scalar s e _, scalar t f _ => .ok (typedPair s e t f)
  | scalar t e _, b =>
    match b.quantity? with
    | some q => plainPair t e q
    | Option.none => .ok Option.none
  | a, scalar t e _ =>
    match a.quantity? with
    | some q => (plainPair t e q).map fun found => found.map Prod.swap
    | Option.none => .ok Option.none
  | a, b =>
    match a.quantity?, b.quantity? with
    | some p, some q => .ok (some (p, q))
    | _, _ => .ok Option.none

/-! ### Arrays of one element -/

/-- A plain number as an element of its default type. -/
def plainElement? : Value → Option (Element Empty)
  | bool b => some (.bool b)
  | int n => some (.int n)
  | float d _ => some (.float d)
  | _ => Option.none

/-- An element of a storage type compares equal to the one element of an array. -/
def typedEqualsLeaf (type : ElementType) (e : Element Empty) (leaf : Value) : Bool :=
  let found := match leaf with
    | scalar t f _ => typedPair type e t f
    | leaf =>
      match defaultType leaf, plainElement? leaf with
      | .object, some f => (elementQuantity? e).bind fun p => (elementQuantity? f).map (p, ·)
      | t, some f => typedPair type e t f
      | _, Option.none => Option.none
  found.any fun (p, q) => p.equals q

/-- An element of a storage type compares equal to what a list stands for: an array, of which the
answer is only known if it has one element. -/
def typedEqualsNest (type : ElementType) (e : Element Empty) (v : Value) : Except Fault Bool := do
  let _ ← evenExtents v
  match leaves v with
  | [] => .error .emptyTruth
  | [leaf] => .ok (typedEqualsLeaf type e leaf)
  | _ => .error .severalTruths

/-! ### All values -/

def isNest : Value → Bool
  | list .. | tuple _ => true
  | _ => false

/-- Values that are no containers of one kind compare equal. -/
def atomsEqual (a b : Value) : Except Fault Bool :=
  match a, b with
  | none, none => .ok true
  | object _ a, object _ b => .ok (a == b)
  | receiver, receiver => .ok true
  | a, b =>
    match a, b, a.quantity?, b.quantity? with
    | scalar t e _, v, some _, Option.none | v, scalar t e _, Option.none, some _ =>
      if v.isNest then typedEqualsNest t e v else .ok false
    | a, b, _, _ => do
      match ← pair a b with
      | some (p, q) => .ok (p.equals q)
      | Option.none =>
        match a.text?, b.text?, a.bytes?, b.bytes? with
        | some s, some t, _, _ => .ok (s == t)
        | _, _, some x, some y => .ok (x == y)
        | _, _, _, _ => .ok (identical a b)

mutual

def equals : Value → Value → Except Fault Bool
  | list a _, list b _ => if a.length = b.length then sameItems a b else .ok false
  | tuple a, tuple b => sameItems a b
  | dict a _, dict b _ => if a.length = b.length then sameEntries a b else .ok false
  | slice a b c, slice d e f => do
    if !(← if identical a d then .ok true else equals a d) then return false
    if !(← if identical b e then .ok true else equals b e) then return false
    if identical c f then .ok true else equals c f
  | handle v a, handle w b =>
    if v ≠ w then .ok false else if identical a b then .ok true else equals a b
  | a, b => atomsEqual a b

/-- The lists have the same elements, compared one by one until there is a difference. -/
def sameItems : List Value → List Value → Except Fault Bool
  | [], [] => .ok true
  | a :: r, b :: s => do
    if ← if identical a b then .ok true else equals a b then sameItems r s else .ok false
  | _, _ => .ok false

/-- Every entry of the first dictionary has its equal in the second. -/
def sameEntries : List (Value × Value) → List (Value × Value) → Except Fault Bool
  | [], _ => .ok true
  | (k, v) :: r, b => do
    let hash ← k.hashKey
    let found ← b.findM? fun e => do
      if hash.equals (← e.1.hashKey) then
        if identical k e.1 then .ok true else equals k e.1
      else .ok false
    match found with
    | some (_, w) =>
      if ← if identical v w then .ok true else equals v w then sameEntries r b else .ok false
    | Option.none => .ok false

end

/-- The values are one object or compare equal. -/
def same (a b : Value) : Except Fault Bool := if identical a b then .ok true else equals a b

end Strided.Value
