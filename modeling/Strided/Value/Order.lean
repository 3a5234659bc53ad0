import Strided.Value.Equality

/-!
# Order

Numbers are ordered by value, texts and bytes by their elements, lists, tuples and slices by the
first items that differ.  Other values have no order.

`sortItems` sorts in place, as it were: items move until two of them turn out to have no order, and
then stay where they are.
-/

namespace Strided.Value

/-- The first list comes before the second: at the first place where they differ, or by ending. -/
def lessList {α : Type} [BEq α] (less : α → α → Bool) : List α → List α → Bool
  | [], [] => false
  | [], _ :: _ => true
  | _ :: _, [] => false
  | a :: r, b :: s => if a == b then lessList less r s else less a b

/-- Values that are no containers are in order. -/
def atomsLess (a b : Value) : Except Fault Bool := do
  match ← pair a b with
  | some (p, q) => .ok (p.less q)
  | Option.none =>
    match a.text?, b.text?, a.bytes?, b.bytes? with
    | some s, some t, _, _ => .ok (lessList (fun c d => c.toNat < d.toNat) s.toList t.toList)
    | _, _, some x, some y => .ok (lessList (fun m n => m < n) x y)
    | _, _, _, _ => .error (.unordered a.familyTypeName b.familyTypeName)

mutual

/-- The first value is less than the second. -/
def less : Value → Value → Except Fault Bool
  | list a _, list b _ => lessItems a b
  | tuple a, tuple b => lessItems a b
  | slice a b c, slice d e f => do
    if !(← same a d) then less a d
    else if !(← same b e) then less b e
    else if !(← same c f) then less c f
    else .ok false
  | a, b => atomsLess a b

/-- The first list of items is less than the second. -/
def lessItems : List Value → List Value → Except Fault Bool
  | [], [] => .ok false
  | [], _ :: _ => .ok true
  | _ :: _, [] => .ok false
  | a :: r, b :: s => do
    if ← same a b then lessItems r s else less a b

end

/-! ### Sorting -/

/-- Whether every item goes down, or none does, for as long as that holds: the items up to there and
the rest. -/
def run (falling : Bool) (last : Value) : List Value → Except Fault (List Value × List Value)
  | [] => .ok ([], [])
  | v :: rest => do
    if (← less v last) == falling then
      let (more, others) ← run falling v rest
      .ok (v :: more, others)
    else .ok ([], v :: rest)

/-- The place of a value among sorted items, behind all that are not greater: it lies between `low`
and `high`. -/
def place (sorted : List Value) (v : Value) (low high : Nat) : Except Fault Nat :=
  if _h : low < high then
    let middle := low + (high - low) / 2
    match sorted[middle]? with
    | Option.none => .ok low
    | some w =>
      match less v w with
      | .error f => .error f
      | .ok true => place sorted v low middle
      | .ok false => place sorted v (middle + 1) high
  else .ok low
termination_by high - low
decreasing_by all_goals omega

/-- Inserts items among sorted ones, until one of them has no place. -/
def insertItems (sorted : List Value) : List Value → List Value × Option Fault
  | [] => (sorted, Option.none)
  | v :: rest =>
    match place sorted v 0 sorted.length with
    | .error f => (sorted ++ v :: rest, some f)
    | .ok i => insertItems (sorted.take i ++ v :: sorted.drop i) rest

/-- The items that a list begins with in order, or in reverse order, and the rest. -/
def firstRun : List Value → Except Fault (List Value × List Value)
  | a :: b :: rest => do
    let falling ← less b a
    let (more, others) ← run falling b rest
    .ok (if falling then (a :: b :: more).reverse else a :: b :: more, others)
  | items => .ok (items, [])

/-- Sorts items.  Equal ones keep their order.  If two of them have no order, that is the fault. -/
def sortItems (items : List Value) : List Value × Option Fault :=
  match firstRun items with
  | .error f => (items, some f)
  | .ok (sorted, rest) => insertItems sorted rest

end Strided.Value
