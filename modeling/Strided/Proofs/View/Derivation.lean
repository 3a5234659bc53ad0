import Mathlib.Tactic.Ring
import Strided.Proofs.Slice.Positions
import Strided.View.Basic

/-!
# Views derived by slices

A slice of a view is a view of the same backing through a narrower window.  `Window.narrow` is that
window: its position `k` is the position of the old window at the `k`-th index of the bounds, by
`linearIndex_narrow`, whatever the signs of the two steps.  So a narrowed window fits wherever the
old one did, also when it is empty and starts outside.

`slice_of_normalize` says that slicing makes that view and does nothing else: it reads nothing and
breaks no contract.  `Reached` holds of the views that any number of slices lead to from the view of
everything, and `Reached.fits` is the invariant that they keep.
-/

namespace Strided

namespace Window

def whole (n : Nat) : Window := ⟨0, n, 1, by omega⟩

@[simp] theorem length_whole (n : Nat) : (whole n).length = n := rfl

@[simp] theorem linearIndex_whole (n : Nat) (i : Int) : (whole n).linearIndex i = i := by
  simp only [linearIndex, whole, Int.mul_one, Int.zero_add]

theorem fits_whole (n : Nat) : (whole n).Fits n := by
  intro i hi
  rw [linearIndex_whole]
  rw [length_whole] at hi
  omega

def narrow (w : Window) (b : Bounds) (h : b.step ≠ 0) : Window where
  start := w.linearIndex b.start
  length := b.count
  step := w.step * b.step
  step_ne_zero := Int.mul_ne_zero w.step_ne_zero h

@[simp] theorem length_narrow (w : Window) (b : Bounds) (h : b.step ≠ 0) :
    (w.narrow b h).length = b.count := rfl

theorem linearIndex_narrow (w : Window) (b : Bounds) (h : b.step ≠ 0) (k : Nat) :
    (w.narrow b h).linearIndex k = w.linearIndex (b.index k) := by
  simp only [linearIndex, narrow, Bounds.index]
  ring

theorem Fits.narrow {w : Window} {n : Nat} (hw : w.Fits n) {s : Slice} {b : Bounds}
    (hb : s.normalize w.length = .ok b) : (w.narrow b (Slice.step_of_normalize hb).2).Fits n := by
  intro k hk
  obtain ⟨p, -, hp, he⟩ := Slice.getElem?_positions hb hk
  rw [linearIndex_narrow, he]
  exact hw p hp

end Window

namespace View

variable {α : Type}

/-! ### One slice -/

def narrow (v : View α) (b : Bounds) (h : b.step ≠ 0) : View α :=
  ⟨v.backing.viewKind, v.backing, v.window.narrow b h⟩

theorem make_of_valid (kind : ViewKind) (b : Backing α) (start : Int) (length : Nat) {step : Int}
    (h : step ≠ 0) : make kind b start length step = pure ⟨kind, b, ⟨start, length, step, h⟩⟩ := by
  rw [make, if_neg (by omega), dif_neg h]
  rfl

theorem slice_of_normalize {v : View α} {s : Slice} {b : Bounds} (h : s.normalize v.size = .ok b) :
    v.slice s = pure (.ok (v.narrow b (Slice.step_of_normalize h).2)) := by
  have hstep := Int.mul_ne_zero v.window.step_ne_zero (Slice.step_of_normalize h).2
  rw [slice, h]
  simp only [derive, make_of_valid _ _ _ _ hstep, map_pure]
  rfl

theorem slice_of_error {v : View α} {s : Slice} {e : Fault} (h : s.normalize v.size = .error e) :
    v.slice s = pure (.error e) := by
  rw [slice, h]

theorem subSlice_toValue (checks : Bool) (v : View α) (s : Slice) :
    v.subSlice checks s.toValue = Except.map Selected.view <$> v.slice s := by
  obtain ⟨start, stop, step⟩ := s
  cases start <;> cases stop <;> cases step <;> rfl

theorem get_toValue (checks : Bool) {v : View α} {s : Slice} {b : Bounds}
    (h : s.normalize v.size = .ok b) :
    v.get checks s.toValue = pure (.view (v.narrow b (Slice.step_of_normalize h).2)) := by
  rw [get, subSlice_toValue, slice_of_normalize h, map_pure, pure_bind]
  rfl

theorem get_toValue_of_error (checks : Bool) {v : View α} {s : Slice} {e : Fault}
    (h : s.normalize v.size = .error e) : v.get checks s.toValue = .fail e := by
  rw [get, subSlice_toValue, slice_of_error h, map_pure, pure_bind]
  rfl

theorem eq_of_get_toValue {checks : Bool} {v : View α} {s : Slice} {x : Selected α}
    (h : (v.get checks s.toValue).outcome = .ok x) :
    ∃ b, ∃ hb : s.normalize v.size = .ok b,
      x = .view (v.narrow b (Slice.step_of_normalize hb).2) := by
  have hcases : (∃ b, s.normalize v.size = .ok b) ∨ ∃ e, s.normalize v.size = .error e := by
    cases s.normalize v.size <;> simp
  rcases hcases with ⟨b, hb⟩ | ⟨e, he⟩
  · rw [get_toValue checks hb] at h
    exact ⟨b, hb, (Except.ok.inj h).symm⟩
  · rw [get_toValue_of_error checks he] at h
    cases h

/-! ### Any number of slices -/

/-- The views that slices lead to from the view of a whole backing. -/
inductive Reached (b : Backing α) : View α → Prop
  | full {kind : ViewKind} {v : View α} : (full kind b).outcome = .ok v → Reached b v
  | slice {checks : Bool} {v w : View α} {s : Slice} : Reached b v →
      (v.get checks s.toValue).outcome = .ok (.view w) → Reached b w

theorem full_of_count (kind : ViewKind) {b : Backing α} {n : Nat} (h : b.count = .ok n) :
    full kind b = pure ⟨kind, b, Window.whole n⟩ := by
  rw [full, Traced.bind_of_ok (show b.rawCount.outcome = .ok n from h),
    make_of_valid kind b 0 n (show (1 : Int) ≠ 0 by omega)]
  rfl

theorem count_of_full {kind : ViewKind} {b : Backing α} {v : View α}
    (h : (full kind b).outcome = .ok v) : ∃ n, b.count = .ok n := by
  cases hn : b.count with
  | ok n => exact ⟨n, rfl⟩
  | error e =>
    rw [full, Traced.bind_of_error (show b.rawCount.outcome = .error e from hn)] at h
    cases h

namespace Reached

variable {b : Backing α} {v : View α}

theorem backing_eq (h : Reached b v) : v.backing = b := by
  induction h with
  | @full kind v hv =>
    obtain ⟨n, hn⟩ := count_of_full hv
    rw [full_of_count kind hn] at hv
    cases hv
    rfl
  | slice _ hw ih =>
    obtain ⟨c, _, he⟩ := eq_of_get_toValue hw
    cases he
    exact ih

/-- **Every view that slices lead to shows elements of its backing only.** -/
theorem fits (h : Reached b v) : ∃ n, b.count = .ok n ∧ v.window.Fits n := by
  induction h with
  | @full kind v hv =>
    obtain ⟨n, hn⟩ := count_of_full hv
    rw [full_of_count kind hn] at hv
    cases hv
    exact ⟨n, hn, Window.fits_whole n⟩
  | slice _ hw ih =>
    obtain ⟨n, hn, hv⟩ := ih
    obtain ⟨c, hc, he⟩ := eq_of_get_toValue hw
    cases he
    exact ⟨n, hn, hv.narrow hc⟩

end Reached

end View

end Strided
