import Strided.Slice

/-!
# Windows

A `Window` is what a view looks through: the linear index of its first element, how many elements it
has, and the distance between neighbours, which is not zero.  Position `i` of the window is the
linear index `start + i * step`.
-/

namespace Strided

/-- A strided window. -/
structure Window where
  start : Int
  length : Nat
  step : Int
  step_ne_zero : step ≠ 0 := by omega
  deriving DecidableEq, Repr

namespace Window

def linearIndex (w : Window) (i : Int) : Int := w.start + i * w.step

/-- The position that an index stands for, negative ones counted from the end. -/
def wrap? (w : Window) (i : Int) : Option Nat :=
  let j := if i < 0 then i + w.length else i
  if 0 ≤ j ∧ j < w.length then some j.toNat else none

/-- The slice of a sequence that a window shows.  A window that goes down past the first element has
no stop: a negative one would be counted from the end. -/
def toSlice (w : Window) : Slice :=
  if w.length = 0 then ⟨some 0, some 0, none⟩
  else
    let stop := w.start + w.length * w.step
    ⟨some w.start, if 0 ≤ stop then some stop else none, some w.step⟩

/-- Every linear index of the window is below `count`. -/
def Fits (w : Window) (count : Nat) : Prop :=
  ∀ i : Nat, i < w.length → 0 ≤ w.linearIndex i ∧ w.linearIndex i < count

theorem wrap?_eq_some_iff {w : Window} {i : Int} {j : Nat} :
    w.wrap? i = some j ↔ j < w.length ∧ (i = j ∨ i = j - w.length) := by
  unfold wrap?
  by_cases h : i < 0 <;> simp only [h, if_true, if_false] <;> split <;>
    simp only [Option.some.injEq, reduceCtorEq, false_iff] <;> omega

theorem wrap?_natCast {w : Window} {j : Nat} (h : j < w.length) : w.wrap? j = some j :=
  wrap?_eq_some_iff.2 ⟨h, .inl rfl⟩

theorem wrap?_eq_none_iff {w : Window} {i : Int} :
    w.wrap? i = none ↔ i < -w.length ∨ (w.length : Int) ≤ i := by
  unfold wrap?
  by_cases h : i < 0 <;> simp only [h, if_true, if_false] <;> split <;>
    simp only [reduceCtorEq, false_iff, true_iff] <;> omega

end Window

end Strided
