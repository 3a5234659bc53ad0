import Strided.Value.Basic

/-!
# Nests

A list or tuple may stand for an array: its items are the elements, or the rows.  `extents` is the
shape of such a nest and `leaves` are its elements, row by row.
-/

namespace Strided.Value

def commonStart : List Nat → List Nat → List Nat
  | a :: r, b :: s => if a = b then a :: commonStart r s else []
  | _, _ => []

/-- The extents of a list whose items have the given ones. -/
def joinExtents : List (List Nat × Bool) → List Nat × Bool
  | [] => ([0], true)
  | first :: rest =>
    if rest.all (· == first) then ((rest.length + 1) :: first.1, first.2)
    else ((rest.length + 1) :: rest.foldl (fun s t => commonStart s t.1) first.1, false)

mutual

/-- The extents of a nest of lists, down to where the lists at one depth differ in length or stand
beside elements, and whether there is no such place. -/
def extents : Value → List Nat × Bool
  | list items _ => joinExtents (extentsOfAll items)
  | tuple items => joinExtents (extentsOfAll items)
  | _ => ([], true)

def extentsOfAll : List Value → List (List Nat × Bool)
  | [] => []
  | v :: rest => extents v :: extentsOfAll rest

end

mutual

def leaves : Value → List Value
  | list items _ => leavesOfAll items
  | tuple items => leavesOfAll items
  | v => [v]

def leavesOfAll : List Value → List Value
  | [] => []
  | v :: rest => leaves v ++ leavesOfAll rest

end

/-- How deep a nest may be. -/
def maxDepth : Nat := 64

/-- The extents of a nest that stands for an array: it is not too deep, and the lists at one depth
have one length. -/
def evenExtents (v : Value) : Except Fault (List Nat) :=
  match extents v with
  | (shape, even) =>
    if maxDepth < shape.length then .error .tooDeep
    else if even then .ok shape
    else .error (.unevenShape shape)

/-- The narrowest default type of one element.  Integers are of 64 bits, unsigned only if they have
to be; what is not a number, a text or bytes is an object. -/
def defaultType : Value → ElementType
  | bool _ => .bool
  | int n =>
    if ElementType.holds 8 true n then .int 8 true .little
    else if ElementType.holds 8 false n then .int 8 false .little
    else .object
  | float .. => .float .double .little
  | text s => .text s.length .little
  | bytes b => .bytes b.length
  | scalar type .. => type
  | _ => .object

end Strided.Value
