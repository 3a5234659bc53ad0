import Strided.View.Basic

/-!
# Views as sequences

The operations that a view has as a sequence: its length, going through it backwards, searching it,
comparing it.  They are built on the operations of `View.Basic`, and which elements they read
follows from there.

A length has to fit a machine word where it is asked for.  A view can be longer; going through it
forwards does not ask.  The room for a list of all elements is asked for at once, before any is
read.
-/

namespace Strided

/-- Elements that can be searched for. -/
class Alike (α : Type) where
  /-- The elements are one object or compare equal, which may fail to be decided. -/
  same : α → α → Except Fault Bool

instance : Alike Value := ⟨Value.same⟩

namespace View

variable {α : Type}

/-- The greatest length. -/
def maxLength : Nat := Number.Word.greatest.toNat

/-- The length, if it fits. -/
def length (v : View α) : Probe Nat :=
  if v.size ≤ maxLength then pure v.size else .fail .lengthTooWide

def nonempty (v : View α) : Probe Bool := do
  let n ← v.length
  pure (n != 0)

/-- The longest list that there is room for: eight bytes for each element, 64 GiB in all. -/
def listLimit : Nat := 8589934592

/-- All elements as a list, where there is room for a list of `room` elements. -/
def toListWithin (room : Nat) (checks : Bool) (v : View α) : Probe (List α) := do
  let n ← v.length
  if room < n then .fail .outOfMemory else v.iterate checks

def toList (checks : Bool) (v : View α) : Probe (List α) := v.toListWithin listLimit checks

/-- The elements at the positions below `n`, the last one first. -/
def descendFrom (checks : Bool) (v : View α) : (n : Nat) → Probe (List α)
  | 0 => pure []
  | n + 1 => do
    let a ← v.elementAt checks n
    let rest ← descendFrom checks v n
    pure (a :: rest)

/-- All elements, the last one first. -/
def reversed (checks : Bool) (v : View α) : Probe (List α) := do
  let n ← v.length
  v.descendFrom checks n

section Search

variable [Alike α]

/-- One of the first `n` elements from a position on is the one sought; no element behind it is
read. -/
def containsFrom (checks : Bool) (v : View α) (a : α) : (n position : Nat) → Probe Bool
  | 0, _ => pure false
  | n + 1, position => do
    match ← v.itemAt checks position with
    | .error _ => pure false
    | .ok b =>
      if ← Traced.ofExcept (Alike.same b a) then pure true
      else containsFrom checks v a n (position + 1)

def contains (checks : Bool) (v : View α) (a : α) : Probe Bool := v.containsFrom checks a v.size 0

/-- How often the element is among the first `n` ones from a position on, each of which is compared
when it is read. -/
def countFrom (checks : Bool) (v : View α) (a : α) : (n position : Nat) → Probe Nat
  | 0, _ => pure 0
  | n + 1, position => do
    match ← v.itemAt checks position with
    | .error _ => pure 0
    | .ok b =>
      let found ← Traced.ofExcept (Alike.same b a)
      let others ← countFrom checks v a n (position + 1)
      pure (if found then others + 1 else others)

/-- How often the element is in the view. -/
def count (checks : Bool) (v : View α) (a : α) : Probe Nat := v.countFrom checks a v.size 0

/-- Where no element can be read because there is none, what is sought is not found. -/
def missing {β : Type} (e : Fault) : Probe β := .fail (if e.kind.isA .index then .notFound else e)

/-- The first index not below `i` where the element is found.  The search ends before `stop`, or
where there is no element. -/
def indexFrom (checks : Bool) (v : View α) (a : α) (stop : Option Int) :
    (n : Nat) → Int → Probe Int
  | 0, _ => .fail .notFound
  | n + 1, i =>
    if stop.any (· ≤ i) then .fail .notFound
    else do
      let b ← (v.elementAt checks i).recover missing
      if ← Traced.ofExcept (Alike.same b a) then pure i
      else indexFrom checks v a stop n (i + 1)

/-- A bound of a search, counted from the end if it is negative. -/
def fromEnd (v : View α) : Option Int → Probe (Option Int)
  | some i => if i < 0 then (fun n : Nat => some (n + i)) <$> v.length else pure (some i)
  | none => pure none

/-- The index of the element between `start` and `stop`, both counted from the end if they are
negative.  A start before the first element is one at it; a `start` that is left out is no index. -/
def index (checks : Bool) (v : View α) (a : α) (start stop : Option Int) : Probe Int := do
  let start ← v.fromEnd start
  let stop ← v.fromEnd stop
  match start, stop with
  | some i, stop => v.indexFrom checks a stop (v.size + 1) (max i 0)
  | none, none => .fail (.notASubscript "NoneType")
  | none, some _ => .fail (.unordered "NoneType" "int")

/-- Two lists of one length have the same elements, compared until there is a difference. -/
def sameElements : List α → List α → Except Fault Bool
  | a :: r, b :: s => do
    if ← Alike.same a b then sameElements r s else .ok false
  | _, _ => .ok true

/-- Two lists have the same elements.  Lists that differ in length are not compared further. -/
def sameList (xs ys : List α) : Except Fault Bool :=
  if xs.length = ys.length then sameElements xs ys else .ok false

/-- The view has the elements of a list.  There is room for a list of `room` elements. -/
def equalsList (room : Nat) (checks : Bool) (v : View α) (xs : List α) : Probe Bool := do
  let elements ← v.toListWithin room checks
  .ofExcept (sameList elements xs)

/-- The views have the same elements; those of the first are read first. -/
def equalsInOrder (room : Nat) (checks : Bool) (v w : View α) : Probe Bool := do
  let elements ← v.toListWithin room checks
  let others ← w.toListWithin room checks
  .ofExcept (sameList elements others)

/-- The views have the same elements.  A plain view leaves the lead to one of a more special kind.
-/
def equalsWithin (room : Nat) (checks : Bool) (v w : View α) : Probe Bool :=
  if v.kind = .plain ∧ w.kind ≠ .plain then w.equalsInOrder room checks v
  else v.equalsInOrder room checks w

/-- The views have the same elements. -/
def equals (checks : Bool) (v w : View α) : Probe Bool := v.equalsWithin listLimit checks w

end Search

/-- The view is equal to a value: only lists and tuples can be. -/
def equalsValueWithin (room : Nat) (checks : Bool) (v : View Value) : Value → Probe Bool
  | .list items _ => v.equalsList room checks items
  | .tuple items => v.equalsList room checks items
  | _ => pure false

def equalsValue (checks : Bool) (v : View Value) (x : Value) : Probe Bool :=
  v.equalsValueWithin listLimit checks x

/-! ### What views refuse -/

/-- A view has no hash. -/
def hash (v : View α) : Fault := .unhashable v.kind.name

/-- Nothing but another view can be added to a view. -/
def addValue (v : View α) (x : Value) : Fault := .unsupportedSum v.kind.name x.familyTypeName

/-- What is added to a view: another view, or any other value. -/
inductive Addend (α : Type) where
  | view (w : View α)
  | value (x : Value)

def add (checks : Bool) (v : View α) : Addend α → Probe (List α)
  | .view w => v.concat checks w
  | .value x => .fail (v.addValue x)

/-- A view can be added to nothing but another view. -/
def addedTo (v : View α) : Value → Fault
  | .list .. => .onlyConcatenates "list" v.kind.name
  | .tuple _ => .onlyConcatenates "tuple" v.kind.name
  | .text _ => .onlyConcatenates "str" v.kind.name
  | .bytes _ => .cannotAppend v.kind.name
  | x => .unsupportedSum x.familyTypeName v.kind.name

/-! ### Peers -/

/-- What has elements to compare with those of a view: another view, a list or a tuple. -/
inductive Peer where
  | view (w : View Value)
  | list (items : List Value) (mark : Mark)
  | tuple (items : List Value)

def Addend.ofSelected : Selected Value → Addend Value
  | .element a => .value a
  | .view w => .view w

/-- Applies a subscript to what stands beside a view. -/
def Addend.get (checks : Bool) (x : Addend Value) (subscript : Value) : Probe (Addend Value) :=
  match x with
  | .view w => Addend.ofSelected <$> w.get checks subscript
  | .value x => .ofExcept (.value <$> x.subscript subscript)

namespace Peer

def operand : Peer → Addend Value
  | view w => .view w
  | list items mark => .value (.list items mark)
  | tuple items => .value (.tuple items)

/-- How many elements a peer has. -/
def size : Peer → Nat
  | view w => w.size
  | list items _ | tuple items => items.length

end Peer

def equalsPeer (room : Nat) (checks : Bool) (v : View Value) (p : Peer) : Probe Bool :=
  match p.operand with
  | .view w => v.equalsWithin room checks w
  | .value x => v.equalsValueWithin room checks x

/-- The peer on the left is equal to the view.  A list and a tuple know nothing of views and leave
the comparison to the view. -/
def Peer.equalsView (room : Nat) (checks : Bool) (p : Peer) (v : View Value) : Probe Bool :=
  match p.operand with
  | .view w => w.equalsWithin room checks v
  | .value x => v.equalsValueWithin room checks x

/-! ### Kinds of view -/

def joinTexts : (position : Nat) → List Value → Except Fault String
  | _, [] => .ok ""
  | position, v :: rest =>
    match v.text? with
    | some s => (s ++ ·) <$> joinTexts (position + 1) rest
    | none => .error (.notText position v.familyTypeName)

/-- The joined texts of a labelled view, whose elements are collected without asking for the length.
-/
def label (checks : Bool) (v : View Value) : Probe String :=
  if v.kind = .labelled then do
    let elements ← v.iterate checks
    .ofExcept (joinTexts 0 elements)
  else .fail (.noAttribute v.kind.name "label")

/-- The array that a view of a backing shows.  The backing has to be kept in an array, and the view
has to be one of its own. -/
def arrayOf (b : Backing α) (v : View α) : Except Fault TypedArray :=
  match b.array with
  | none => .error (.noAttribute b.className "as_array")
  | some a => if v.backing.id = b.id then a.slice v.window.toSlice else .error .foreignView

def toArray (v : View α) : Except Fault TypedArray :=
  if v.kind = .numeric then arrayOf v.backing v else .error (.noAttribute v.kind.name "to_numpy")

/-! ### Chains of subscripts -/

/-- Applies subscripts one after the other, those behind an element to the element. -/
def chain (checks : Bool) (v : View Value) : List Value → Probe (Selected Value)
  | [] => pure (.view v)
  | subscript :: rest => do
    match ← v.get checks subscript with
    | .view w => chain checks w rest
    | .element a => .ofExcept ((rest.foldlM Value.subscript a).map .element)

end View

/-- A backing whose elements are those of a view, which is a sequence like any other.  It tells no
more of its reads than what came of them. -/
def Backing.ofView {α : Type} (id : Nat) (className : String) (viewKind : ViewKind) (checks : Bool)
    (inner : View α) : Backing α where
  id := id
  className := className
  viewKind := viewKind
  describe := inner.length.outcome.map fun n => s!"SequenceBacking({inner.kind.name}, count={n})"
  count := inner.length.outcome
  read i := (inner.elementAt checks i).outcome
  array := none

end Strided
