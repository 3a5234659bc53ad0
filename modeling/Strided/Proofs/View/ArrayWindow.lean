import Strided.Proofs.View.Derivation
import Strided.View.Sequence

/-!
# A view as one slice of an array

A view of a typed array can be had as an array at once, by one slice instead of element by element.
The slice is `Window.toSlice`, and `normalize_toSlice` says that its bounds are the window again, as
long as the window fits: on the way up the stop is moved back to the end, and on the way down it is
left out where it would be before the first element.  Going either way the slice counts as many
steps as the window has positions.

So the array has the elements that the view shows, one by one (`array_agrees`).
-/

namespace Strided

namespace Window

variable {w : Window} {n : Nat}

/-! ### The bounds of the slice -/

theorem Fits.start_mem (hw : w.Fits n) (hlen : 0 < w.length) : 0 ≤ w.start ∧ w.start < n := by
  have h := hw 0 hlen
  simpa only [linearIndex, Int.natCast_zero, Int.zero_mul, Int.add_zero] using h

/-- On the way up a stop behind the end is moved back to it. -/
theorem normalize_toSlice_of_pos (hw : w.Fits n) (hlen : 0 < w.length) (hstep : 0 < w.step) :
    ∃ stop, w.toSlice.normalize n = .ok ⟨w.start, stop, w.step, w.length⟩ := by
  obtain ⟨hlo, hhi⟩ := hw.start_mem hlen
  have hwidth : 0 < (w.length : Int) * w.step := Int.mul_pos (by omega) hstep
  have hstart : Slice.clamp (some w.start) 0 0 n n = w.start := by
    rw [Slice.clamp, if_neg (by omega)]
    omega
  have hstop : Slice.clamp (some (w.start + w.length * w.step)) n 0 n n =
      min (w.start + w.length * w.step) n := by
    rw [Slice.clamp, if_neg (by omega)]
  have hcount : Slice.stepsUp w.start (min (w.start + w.length * w.step) n) w.step = w.length := by
    refine Slice.stepsUp_eq_of_lt_iff hstep fun k => ⟨fun h => ?_, fun h => ?_⟩
    · have hlt : (k : Int) * w.step < w.length * w.step := by omega
      have := Int.lt_of_mul_lt_mul_right hlt hstep.le
      omega
    · -- A position of the window is below the end: a stop that is moved back cuts nothing off.
      have hmem := hw k h
      have hlt := Int.mul_lt_mul_of_pos_right (Int.ofNat_lt.2 h) hstep
      simp only [linearIndex] at hmem
      omega
  refine ⟨min (w.start + w.length * w.step) n, ?_⟩
  rw [toSlice, if_neg (by omega)]
  simp only [if_pos (show 0 ≤ w.start + w.length * w.step by omega)]
  rw [Slice.normalize_of_pos (show 0 < (some w.step).getD 1 from hstep)]
  simp only [hstart, hstop, Option.getD_some, hcount]

/-- On the way down there is no stop once it would be before the first element. -/
theorem normalize_toSlice_of_neg (hw : w.Fits n) (hlen : 0 < w.length) (hstep : w.step < 0) :
    ∃ stop, w.toSlice.normalize n = .ok ⟨w.start, stop, w.step, w.length⟩ := by
  obtain ⟨hlo, hhi⟩ := hw.start_mem hlen
  have hwidth : (w.length : Int) * w.step < 0 := Int.mul_neg_of_pos_of_neg (by omega) hstep
  have hstart : Slice.clamp (some w.start) (n - 1) (-1) (n - 1) n = w.start := by
    rw [Slice.clamp, if_neg (by omega)]
    omega
  have hstop : Slice.clamp (if 0 ≤ w.start + w.length * w.step then
        some (w.start + w.length * w.step) else none) (-1) (-1) (n - 1) n =
      max (w.start + w.length * w.step) (-1) := by
    split
    · rw [Slice.clamp, if_neg (by omega)]
      omega
    · rw [Slice.clamp]
      omega
  have hcount : Slice.stepsUp (max (w.start + w.length * w.step) (-1)) w.start (-w.step) =
      w.length := by
    refine Slice.stepsUp_eq_of_lt_iff (by omega) fun k => ⟨fun h => ?_, fun h => ?_⟩
    · rw [Int.mul_neg] at h
      have hlt : (w.length : Int) * w.step < k * w.step := by omega
      by_contra hk
      have := Int.mul_le_mul_of_nonpos_right (Int.ofNat_le.2 (Nat.le_of_not_lt hk)) hstep.le
      omega
    · -- A position of the window is not negative: a stop that is left out cuts nothing off.
      have hmem := hw k h
      have hlt := Int.mul_lt_mul_of_neg_right (Int.ofNat_lt.2 h) hstep
      simp only [linearIndex] at hmem
      rw [Int.mul_neg]
      omega
  refine ⟨max (w.start + w.length * w.step) (-1), ?_⟩
  rw [toSlice, if_neg (by omega)]
  simp only
  rw [Slice.normalize_of_neg (show (some w.step).getD 1 < 0 from hstep)]
  simp only [hstart, hstop, Option.getD_some, hcount]

/-- **The bounds of the slice of a window are the window again.** -/
theorem normalize_toSlice (hw : w.Fits n) :
    ∃ b, w.toSlice.normalize n = .ok b ∧ b.count = w.length ∧
      ∀ k : Nat, k < w.length → b.index k = w.linearIndex k := by
  rcases Nat.eq_zero_or_pos w.length with h0 | hlen
  · refine ⟨⟨0, 0, 1, 0⟩, ?_, h0.symm, fun k hk => by omega⟩
    rw [toSlice, if_pos h0, Slice.normalize_of_pos (by decide)]
    simp only [Slice.clamp, Slice.stepsUp]
    simp
  · have hbounds : ∃ stop, w.toSlice.normalize n = .ok ⟨w.start, stop, w.step, w.length⟩ := by
      rcases Int.lt_or_gt_of_ne w.step_ne_zero with hneg | hpos
      · exact normalize_toSlice_of_neg hw hlen hneg
      · exact normalize_toSlice_of_pos hw hlen hpos
    obtain ⟨stop, h⟩ := hbounds
    exact ⟨_, h, rfl, fun k _ => rfl⟩

theorem pick_toSlice {α : Type} {xs : List α} (hw : w.Fits xs.length) :
    w.toSlice.select xs = .ok (w.toSlice.pick xs) ∧ (w.toSlice.pick xs).length = w.length ∧
      ∀ k : Nat, k < w.length →
        (w.toSlice.pick xs)[k]? = xs[(w.linearIndex k).toNat]? := by
  obtain ⟨b, hb, hcount, hindex⟩ := normalize_toSlice hw
  refine ⟨Slice.select_of_normalize hb, ?_, fun k hk => ?_⟩
  · rw [Slice.length_pick, Slice.length_positions hb, hcount]
  · rw [Slice.getElem?_pick hb (by omega), hindex k hk]

end Window

namespace TypedArray

theorem read_of_index {a : TypedArray} {i : Int} {p : Nat} {e : Element Value}
    (hi : i = p ∨ i = p - a.size) (h : a.elements[p]? = some e)
    (hsize : (a.size : Int) ≤ Number.Word.greatest) : a.read i = .ok e := by
  have hp : p < a.size := (List.getElem?_eq_some_iff.1 h).1
  have hfits : Number.Word.fits i = true :=
    Number.Word.fits_of_index hsize (by omega) (by omega)
  have hindex : (if i < 0 then i + a.size else i) = p := by
    split <;> omega
  rw [read, hfits]
  simp only [Bool.not_true, Bool.false_eq_true, if_false, hindex, show ¬ (p : Int) < 0 by omega,
    Int.toNat_natCast, h]

theorem read_natCast {a : TypedArray} {i : Nat} {e : Element Value} (h : a.elements[i]? = some e)
    (hsize : (a.size : Int) ≤ Number.Word.greatest) : a.read i = .ok e :=
  read_of_index (.inl rfl) h hsize

end TypedArray

theorem Backing.read_ofArray (id : Nat) (className : String) (kind : ViewKind) {a : TypedArray}
    {i : Int} {e : Element Value} (hi : 0 ≤ i) (h : a.elements[i.toNat]? = some e)
    (hsize : (a.size : Int) ≤ Number.Word.greatest) :
    (ofArray id className kind a).read i = TypedArray.plainValue e := by
  obtain ⟨p, rfl⟩ := Int.eq_ofNat_of_zero_le hi
  rw [Int.toNat_natCast] at h
  change a.read p >>= TypedArray.plainValue = _
  rw [TypedArray.read_natCast h hsize]
  rfl

namespace View

theorem arrayOf_of_fits {id : Nat} {className : String} {kind : ViewKind} {a : TypedArray}
    {v : View Value} (hbacking : v.backing = .ofArray id className kind a)
    (hfits : v.window.Fits a.size) :
    arrayOf (.ofArray id className kind a) v =
      .ok ⟨a.type, v.window.toSlice.pick a.elements⟩ := by
  have hid : v.backing.id = id := congrArg Backing.id hbacking
  have hselect := (Window.pick_toSlice (show v.window.Fits a.elements.length from hfits)).1
  change (if v.backing.id = id then a.slice v.window.toSlice else _) = _
  rw [if_pos hid, TypedArray.slice, hselect]
  rfl

/-- **The array of a view has the elements that the view shows.**  The view is one that slices lead
to, or any other whose window fits; the array has one element for each position, the one at its
linear index, and reading the view there gives its plain value.  A view of another backing has no
array in this one. -/
theorem array_agrees (id : Nat) (className : String) (kind : ViewKind) (a : TypedArray) :
    let b := Backing.ofArray id className kind a
    (∀ v : View Value, Reached b v ∨ (v.backing = b ∧ v.window.Fits a.size) →
      ∃ r, arrayOf b v = .ok r ∧ (v.kind = .numeric → v.toArray = .ok r) ∧
        r.type = a.type ∧ r.size = v.size ∧
        ∀ k : Nat, k < v.size → ∃ e, 0 ≤ v.window.linearIndex k ∧
          a.elements[(v.window.linearIndex k).toNat]? = some e ∧ r.elements[k]? = some e ∧
          ((a.size : Int) ≤ Number.Word.greatest → ∀ checks,
            (v.elementAt checks k).outcome = TypedArray.plainValue e)) ∧
    ∀ v : View Value, v.backing.id ≠ b.id →
      arrayOf b v = .error .foreignView ∧ Fault.foreignView.kind = .value := by
  intro b
  constructor
  · intro v hv
    have hbacking : v.backing = b := by
      rcases hv with hv | ⟨hv, -⟩
      · exact hv.backing_eq
      · exact hv
    have hfits : v.window.Fits a.size := by
      rcases hv with hv | ⟨-, hv⟩
      · obtain ⟨n, hn, hfits⟩ := hv.fits
        cases hn
        exact hfits
      · exact hv
    obtain ⟨-, hlen, hget⟩ :=
      Window.pick_toSlice (show v.window.Fits a.elements.length from hfits)
    have harray : arrayOf b v = .ok ⟨a.type, v.window.toSlice.pick a.elements⟩ :=
      arrayOf_of_fits hbacking hfits
    refine ⟨_, harray, fun hkind => ?_, rfl, hlen, fun k hk => ?_⟩
    · rw [toArray, if_pos hkind, hbacking, harray]
    · obtain ⟨hlo, hhi⟩ := hfits k hk
      have hlt : (v.window.linearIndex k).toNat < a.size := by omega
      have helement := List.getElem?_eq_getElem (show _ < a.elements.length from hlt)
      refine ⟨_, hlo, helement, (hget k hk).trans helement, fun hsize checks => ?_⟩
      have hcount : v.backing.count = .ok a.size := by rw [hbacking]; rfl
      rw [elementAt_of_wrap checks (Window.wrap?_natCast hk), readAt_of_mem checks hcount ⟨hlo, hhi⟩,
        hbacking]
      exact Backing.read_ofArray id className kind hlo helement hsize
  · intro v hv
    refine ⟨?_, rfl⟩
    change (if v.backing.id = b.id then a.slice v.window.toSlice else _) = _
    rw [if_neg hv]

/-- Down past the first element: the third one is the first, and the stop would be minus two. -/
theorem array_agrees_going_down :
    let a : TypedArray := ⟨.int 8 true .little, [.int 1, .int 2, .int 3, .int 4, .int 5]⟩
    let b := Backing.ofArray 0 "NumpyBacking" .numeric a
    let v : View Value := ⟨.numeric, b, ⟨4, 3, -2, by decide⟩⟩
    v.window.Fits a.size ∧ ∃ r, v.toArray = .ok r ∧ r.size = 3 ∧
      r.elements[2]? = some (.int 1) ∧ (v.elementAt true 2).outcome = .ok (.int 1) := by
  intro a b v
  have hfits : v.window.Fits a.size := by
    intro i (hi : i < 3)
    simp only [Window.linearIndex, v]
    have : a.size = 5 := rfl
    omega
  obtain ⟨r, -, hr, -, hsize, hget⟩ :=
    (array_agrees 0 "NumpyBacking" .numeric a).1 v (.inr ⟨rfl, hfits⟩)
  obtain ⟨e, -, he, hre, helement⟩ := hget 2 (by decide)
  cases he
  exact ⟨hfits, r, hr rfl, hsize, hre, helement (by decide) true⟩

end View

end Strided
