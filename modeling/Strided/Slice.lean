import Strided.Value.Index

/-!
# Slices

A `Slice` has three fields, each of which may be left out.  `normalize` resolves it against a
sequence of a given length: a field left out takes its default, a negative one counts from the end,
and what lies beyond an end is moved to it.  The `Bounds` that come out select the indices `start +
k * step` for `k < count`.

`ofValues` reads the fields from values.  It looks at the step first.
-/

namespace Strided

/-- A slice: where to start, where to stop, and the step between. -/
structure Slice where
  start : Option Int
  stop : Option Int
  step : Option Int
  deriving DecidableEq, Repr

/-- A slice resolved against a length. -/
structure Bounds where
  start : Int
  stop : Int
  step : Int
  count : Nat
  deriving DecidableEq, Repr

namespace Bounds

/-- The `k`-th index selected. -/
def index (b : Bounds) (k : Nat) : Int := b.start + k * b.step

/-- The indices selected, in order. -/
def indices (b : Bounds) : List Int := (List.range b.count).map b.index

@[simp] theorem length_indices (b : Bounds) : b.indices.length = b.count := by simp [indices]

end Bounds

namespace Slice

/-- A field moved into the range from `lower` to `upper`, after a negative one is counted from the
end. -/
def clamp (field : Option Int) (default lower upper length : Int) : Int :=
  match field with
  | none => default
  | some i => if i < 0 then max (i + length) lower else min i upper

/-- How many steps of `step` lead from `start` to before `stop`, for a positive step. -/
def stepsUp (start stop step : Int) : Nat :=
  if start < stop then ((stop - start + step - 1) / step).toNat else 0

/-- Resolves a slice against a sequence of `length` elements.  The step must not be zero. -/
def normalize (s : Slice) (length : Int) : Except Fault Bounds :=
  let step := s.step.getD 1
  if step = 0 then .error .zeroStep
  else if 0 < step then
    let start := clamp s.start 0 0 length length
    let stop := clamp s.stop length 0 length length
    .ok ⟨start, stop, step, stepsUp start stop step⟩
  else
    let start := clamp s.start (length - 1) (-1) (length - 1) length
    let stop := clamp s.stop (-1) (-1) (length - 1) length
    .ok ⟨start, stop, step, stepsUp stop start (-step)⟩

/-- A slice is refused for its zero step only. -/
theorem normalize_eq_error_iff {s : Slice} {length : Int} :
    (∃ e, s.normalize length = .error e) ↔ s.step = some 0 := by
  unfold normalize
  cases h : s.step with
  | none => simp
  | some step =>
    by_cases h0 : step = 0
    · simp [h0]
    · by_cases hp : 0 < step <;> simp [h0, hp]

/-- The step of the bounds is the step asked for, and not zero. -/
theorem step_of_normalize {s : Slice} {length : Int} {b : Bounds} (h : s.normalize length = .ok b) :
    b.step = s.step.getD 1 ∧ b.step ≠ 0 := by
  unfold normalize at h
  simp only at h
  split at h
  · cases h
  · next h0 => split at h <;> (cases h; exact ⟨rfl, h0⟩)

/-- The elements that a slice selects from a list. -/
def select {α : Type} (s : Slice) (xs : List α) : Except Fault (List α) :=
  (s.normalize xs.length).map fun b => b.indices.filterMap fun i => xs[i.toNat]?

/-- An integer field: a value that is no integer is refused, and other faults of its own pass. -/
def field (v : Value) : Except Fault (Option Int) :=
  match v with
  | .none => .ok none
  | v =>
    match v.toIndex with
    | .ok n => .ok (some n)
    | .error e => if e.kind.isA .type then .error .fieldNotInteger else .error e

/-- Reads the fields of a slice, the step first. -/
def ofValues (start stop step : Value) : Except Fault Slice := do
  let step ← field step
  let start ← field start
  let stop ← field stop
  .ok ⟨start, stop, step⟩

def toValue (s : Slice) : Value :=
  let value (field : Option Int) : Value := (field.map Value.int).getD .none
  .slice (value s.start) (value s.stop) (value s.step)

end Slice

end Strided
