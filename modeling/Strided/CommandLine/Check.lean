import Strided.ArrayIndex
import Strided.View.Sequence

/-!
# Checking a result

A result can be checked against the array that it was taken from, without a view: the array is
subscripted directly, and the two are compared by value.  A NaN equals nothing, so a result with a
NaN in it fails the check.
-/

namespace Strided.CommandLine

/-- The elements compare equal one by one; a NaN equals nothing. -/
def equalElements : List Value → List Value → Except Fault Bool
  | a :: r, b :: s => do
    if ← a.equals b then equalElements r s else .ok false
  | _, _ => .ok true

def equalLists (xs ys : List Value) : Except Fault Bool :=
  if xs.length = ys.length then equalElements xs ys else .ok false

def single : Picked → Except Fault Value
  | .element e => TypedArray.plainValue e
  | .array _ [e] => TypedArray.plainValue e
  | .array .. => .error .notASingleElement

/-- A numeric view shows what is expected: an array of one axis with equal elements.  There is room
for a list of `room` elements. -/
def viewAgrees (room : Nat) (checks : Bool) (v : View Value) (expected : Picked) : Probe Bool := do
  let elements ← v.toListWithin room checks
  match expected with
  | .array [_] others =>
    let others := others.map TypedArray.valueOf
    if ← Traced.ofExcept (equalLists elements others) then
      let shown ← Traced.ofExcept v.toArray
      .ofExcept (equalLists shown.toValues others)
    else pure false
  | _ => pure false

def agrees (room : Nat) (checks : Bool) (a : TypedArray) (subscript : Value)
    (result : Selected Value) : Probe Bool := do
  let expected ← Traced.ofExcept (a.pick subscript)
  match result with
  | .view v =>
    if v.kind = .numeric then viewAgrees room checks v expected
    else
      let _ ← Traced.ofExcept (single expected)
      pure false
  | .element x =>
    let value ← Traced.ofExcept (single expected)
    .ofExcept (x.equals value)

end Strided.CommandLine
