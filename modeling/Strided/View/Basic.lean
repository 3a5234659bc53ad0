import Strided.Backing
import Strided.Window

/-!
# Views

A `View` looks at a backing through a window.  Nothing is copied: an integer subscript reads one
element, a slice gives another view of the same backing.  What an operation reads, and in which
order, is the trace of its `Probe`.

An operation that takes `checks` compares every linear index with the number of elements before it
reads.  An index out of bounds then is a broken contract of whoever made the window.

The signalling operations report an unusable subscript as a value, `Signalled`; `get` and
`elementAt` fail with it.
-/

namespace Strided

/-- A view of a backing. -/
structure View (α : Type) where
  kind : ViewKind
  backing : Backing α
  window : Window

/-- A result, or a fault that is reported as a value. -/
abbrev Signalled (β : Type) := Except Fault β

/-- What a subscript picks: an element, or a view of several. -/
inductive Selected (α : Type) where
  | element (a : α)
  | view (v : View α)

namespace View

variable {α : Type}

/-- How many elements the view has. -/
def size (v : View α) : Nat := v.window.length

/-- The view with the given window.  A negative length, and then a step of zero, is a broken
contract. -/
def make (kind : ViewKind) (b : Backing α) (start length step : Int) : Probe (View α) :=
  if length < 0 then Probe.violate (.negativeLength length)
  else if h : step = 0 then Probe.violate .zeroStep
  else pure ⟨kind, b, ⟨start, length.toNat, step, h⟩⟩

/-- The view of a window of the backing, of the kind that the backing prefers. -/
def derive (b : Backing α) (start length step : Int) : Probe (View α) :=
  make b.viewKind b start length step

/-- The view of all elements. -/
def full (kind : ViewKind) (b : Backing α) : Probe (View α) := do
  let n ← b.rawCount
  make kind b 0 n 1

/-- The view of all elements, of the kind that the backing prefers. -/
def ofBacking (b : Backing α) : Probe (View α) := full b.viewKind b

/-- The linear index of a position.  With checks it has to be one of the backing, which is asked for
its size only where the index is not negative. -/
def linearize (checks : Bool) (v : View α) (i : Int) : Probe Int := do
  let linear := v.window.linearIndex i
  if checks then
    if 0 ≤ linear then
      let n ← v.backing.rawCount
      if linear < n then pure linear else Probe.violate (.outOfBounds linear)
    else Probe.violate (.outOfBounds linear)
  else pure linear

/-- A linear index within the backing is found, with checks and without. -/
theorem linearize_of_mem (checks : Bool) {v : View α} {i : Int} {n : Nat}
    (hn : v.backing.count = .ok n)
    (h : 0 ≤ v.window.linearIndex i ∧ v.window.linearIndex i < n) :
    v.linearize checks i = pure (v.window.linearIndex i) := by
  cases checks with
  | false => rfl
  | true =>
    simp only [linearize, if_true, if_pos h.1, Backing.rawCount, hn, Traced.ofExcept_ok,
      Traced.pure_bind, if_pos h.2]

/-- A linear index outside the backing is a violation, with checks. -/
theorem linearize_of_not_mem {v : View α} {i : Int} {n : Nat} (hn : v.backing.count = .ok n)
    (h : ¬ (0 ≤ v.window.linearIndex i ∧ v.window.linearIndex i < n)) :
    v.linearize true i = Probe.violate (.outOfBounds (v.window.linearIndex i)) := by
  simp only [linearize, if_true]
  split
  · next hlo =>
    have hhi : ¬ v.window.linearIndex i < n := fun hhi => h ⟨hlo, hhi⟩
    simp only [Backing.rawCount, hn, Traced.ofExcept_ok, Traced.pure_bind, if_neg hhi]
  · rfl

/-- A linear index is found, and is within the backing if there are checks, or it is a violation, or
the backing cannot tell its size. -/
theorem linearize_cases (checks : Bool) (v : View α) (i : Int) :
    v.linearize checks i = pure (v.window.linearIndex i) ∧
      (checks = true → ∃ n : Nat, v.backing.count = .ok n ∧
        0 ≤ v.window.linearIndex i ∧ v.window.linearIndex i < n) ∨
    v.linearize checks i = Probe.violate (.outOfBounds (v.window.linearIndex i)) ∨
    ∃ e, v.backing.count = .error e ∧ v.linearize checks i = .fail e := by
  cases checks with
  | false => exact .inl ⟨rfl, nofun⟩
  | true =>
    cases hn : v.backing.count with
    | ok n =>
      by_cases h : 0 ≤ v.window.linearIndex i ∧ v.window.linearIndex i < n
      · exact .inl ⟨linearize_of_mem true hn h, fun _ => ⟨n, rfl, h⟩⟩
      · exact .inr (.inl (linearize_of_not_mem hn h))
    | error e =>
      simp only [linearize, if_true, Backing.rawCount, hn]
      split
      · exact .inr (.inr ⟨e, rfl, rfl⟩)
      · exact .inr (.inl rfl)

/-- The position of an index, or minus one. -/
def wrapIndex (v : View α) (i : Int) : Int := ((v.window.wrap? i).map Int.ofNat).getD (-1)

/-- Reads the element at a position. -/
def readAt (checks : Bool) (v : View α) (position : Nat) : Probe α := do
  let linear ← v.linearize checks position
  v.backing.probe linear

theorem readAt_of_mem (checks : Bool) {v : View α} {p n : Nat} (hn : v.backing.count = .ok n)
    (h : 0 ≤ v.window.linearIndex p ∧ v.window.linearIndex p < n) :
    v.readAt checks p = v.backing.probe (v.window.linearIndex p) := by
  rw [readAt, linearize_of_mem checks hn h, Traced.pure_bind]

/-- With checks, a position whose linear index is outside the backing is a violation. -/
theorem readAt_of_not_mem {v : View α} {p n : Nat} (hn : v.backing.count = .ok n)
    (h : ¬ (0 ≤ v.window.linearIndex p ∧ v.window.linearIndex p < n)) :
    v.readAt true p = Probe.violate (.outOfBounds (v.window.linearIndex p)) := by
  rw [readAt, linearize_of_not_mem hn h, Probe.violate_bind]

/-- The element at an index.  An index out of range is signalled. -/
def itemAt (checks : Bool) (v : View α) (i : Int) : Probe (Signalled α) :=
  match v.window.wrap? i with
  | none => pure (.error .indexOutOfRange)
  | some position => Except.ok <$> v.readAt checks position

/-- The element at an index. -/
def elementAt (checks : Bool) (v : View α) (i : Int) : Probe α :=
  match v.window.wrap? i with
  | none => .fail .indexOutOfRange
  | some position => v.readAt checks position

theorem itemAt_of_wrap (checks : Bool) {v : View α} {i : Int} {p : Nat}
    (h : v.window.wrap? i = some p) : v.itemAt checks i = Except.ok <$> v.readAt checks p := by
  rw [itemAt, h]

theorem itemAt_of_wrap_none (checks : Bool) {v : View α} {i : Int} (h : v.window.wrap? i = none) :
    v.itemAt checks i = pure (.error .indexOutOfRange) := by
  rw [itemAt, h]

theorem elementAt_of_wrap (checks : Bool) {v : View α} {i : Int} {p : Nat}
    (h : v.window.wrap? i = some p) : v.elementAt checks i = v.readAt checks p := by
  rw [elementAt, h]

theorem elementAt_of_wrap_none (checks : Bool) {v : View α} {i : Int}
    (h : v.window.wrap? i = none) : v.elementAt checks i = .fail .indexOutOfRange := by
  rw [elementAt, h]

/-- The view of the elements that a slice selects. -/
def slice (v : View α) (s : Slice) : Probe (Signalled (View α)) :=
  match s.normalize v.size with
  | .error e => pure (.error e)
  | .ok b =>
    Except.ok <$> derive v.backing (v.window.linearIndex b.start) b.count (v.window.step * b.step)

/-- Applies a subscript.  A subscript that is neither an integer nor a slice is signalled, and so is
a slice with unusable fields. -/
def subSlice (checks : Bool) (v : View α) (subscript : Value) : Probe (Signalled (Selected α)) :=
  match subscript with
  | .slice start stop step =>
    match Slice.ofValues start stop step with
    | .ok s => Except.map Selected.view <$> v.slice s
    | .error .fieldNotInteger => pure (.error .fieldNotInteger)
    | .error e => .fail e
  | subscript =>
    match subscript.toIndex with
    | .ok i => Except.map Selected.element <$> v.itemAt checks i
    | .error e =>
      if e.kind.isA .type then pure (.error (.notASubscript subscript.typeName)) else .fail e

/-- Applies a subscript, and fails with what is signalled. -/
def get (checks : Bool) (v : View α) (subscript : Value) : Probe (Selected α) := do
  match ← v.subSlice checks subscript with
  | .ok selected => pure selected
  | .error e => .fail e

/-- An integer subscript gives the element at that index. -/
theorem get_int (checks : Bool) (v : View α) (i : Int) :
    v.get checks (.int i) = Selected.element <$> v.elementAt checks i := by
  rw [get, subSlice]
  · simp only [Value.toIndex_int]
    cases h : v.window.wrap? i with
    | none =>
      rw [itemAt_of_wrap_none checks h, elementAt_of_wrap_none checks h]
      rfl
    | some p =>
      rw [itemAt_of_wrap checks h, elementAt_of_wrap checks h]
      simp only [map_eq_pure_bind, bind_assoc, pure_bind]
      rfl
  · intro a b c h
    cases h

/-! ### Going through the elements -/

/-- The first `n` elements from a position on, as far as there are any. -/
def takeFrom (checks : Bool) (v : View α) : (n position : Nat) → Probe (List α)
  | 0, _ => pure []
  | n + 1, position => do
    match ← v.itemAt checks position with
    | .error _ => pure []
    | .ok a =>
      let rest ← takeFrom checks v n (position + 1)
      pure (a :: rest)

/-- The first `n` elements. -/
def take (checks : Bool) (v : View α) (n : Nat) : Probe (List α) := v.takeFrom checks n 0

/-- All elements, in order. -/
def iterate (checks : Bool) (v : View α) : Probe (List α) := v.take checks v.size

/-- The `n` elements from a position on. -/
def copyFrom (checks : Bool) (v : View α) : (n position : Nat) → Probe (List α)
  | 0, _ => pure []
  | n + 1, position => do
    let a ← v.elementAt checks position
    let rest ← copyFrom checks v n (position + 1)
    pure (a :: rest)

/-- A new list of the elements of both views. -/
def concat (checks : Bool) (v w : View α) : Probe (List α) := do
  let first ← v.copyFrom checks v.size 0
  let second ← w.copyFrom checks w.size 0
  pure (first ++ second)

/-- How the view is shown in a report, which needs integers that can be written. -/
def describe (v : View α) : Probe String := do
  if !([v.window.start, v.size, v.window.step].all Text.isWritable) then throw .tooManyDigits
  let backing ← Traced.ofExcept v.backing.describe
  let window := s!"start_index={v.window.start}, length={v.size}, step={v.window.step}"
  pure s!"{v.kind.name}({window}, backing={backing})"

end View

end Strided
