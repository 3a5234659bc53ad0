import Strided.Proofs.View.Contents
import Strided.Proofs.View.Subscript

/-!
# Elements of a slice of a view

An index into a slice of a view stands for an index into the view, the one that the bounds of the
slice select.  `elementAt_narrow` says that to ask for either is one and the same computation, with
the same reads, the same log records and the same outcome.  This needs nothing of the view: its
window may leave the backing, before or behind, and the backing may fail to tell how many elements
it has.  So a slice of an ill-formed view fails where the view does and in the same way.
-/

namespace Strided.View

variable {α : Type} {v : View α} {s : Slice} {b : Bounds}

theorem readAt_narrow (checks : Bool) (hstep : b.step ≠ 0) {k p : Nat} (hp : b.index k = p) :
    (v.narrow b hstep).readAt checks k = v.readAt checks p := by
  simp only [readAt, linearize, narrow, Window.linearIndex_narrow, hp]

/-- **An element of a slice is the element of the view at the index that the bounds select.** -/
theorem elementAt_narrow (checks : Bool) (hb : s.normalize v.size = .ok b) {k : Nat}
    (hk : k < b.count) :
    (v.narrow b (Slice.step_of_normalize hb).2).elementAt checks k =
      v.elementAt checks (b.index k) := by
  obtain ⟨p, -, hp, he⟩ := Slice.getElem?_positions hb hk
  rw [elementAt_of_wrap checks (Window.wrap?_natCast hk), he,
    elementAt_of_wrap checks (Window.wrap?_natCast hp), readAt_narrow checks _ he]

theorem elementAt_of_not_mem {i : Int} {p n : Nat} (hi : v.window.wrap? i = some p)
    (hn : v.backing.count = .ok n)
    (h : ¬ (0 ≤ v.window.linearIndex p ∧ v.window.linearIndex p < n)) :
    v.elementAt true i = Probe.violate (.outOfBounds (v.window.linearIndex p)) := by
  rw [elementAt_of_wrap true hi, readAt_of_not_mem hn h]

/-- **Slicing commutes with access to elements.**  Take any view, well-formed or not, and a slice of
it with fields that are left out or integers and a step other than zero.  To take the slice reads
nothing and breaks no contract.  The view `w` that comes out has as many elements as the bounds
select, and tells so if the number fits a machine word.  Each of its elements is the element of the
view at the index selected, whether there are checks or not: the same is read and logged, and the
same value or fault comes out.  Every index that is out of its range is refused. -/
theorem slice_elementAt (checks : Bool) (v : View α) {start stop step : Value} {s : Slice}
    (hstart : Slice.IsField start s.start) (hstop : Slice.IsField stop s.stop)
    (hstep : Slice.IsField step s.step) (h0 : s.step ≠ some 0) :
    ∃ b w, (Slice.ofValues start stop step >>= (·.normalize v.size)) = .ok b ∧
      v.get checks (.slice start stop step) = pure (.view w) ∧
      w.length = (if b.count ≤ maxLength then pure b.count else .fail .lengthTooWide) ∧
      (∀ j : Nat, j < b.count → 0 ≤ b.start + j * b.step ∧ b.start + j * b.step < v.size ∧
        ∀ checks', w.elementAt checks' j = v.elementAt checks' (b.start + j * b.step)) ∧
      (∀ j : Int, j < -b.count ∨ (b.count : Int) ≤ j →
        ∀ checks', w.elementAt checks' j = .fail .indexOutOfRange) ∧
      Fault.indexOutOfRange.kind = .sliceIndex := by
  obtain ⟨b, hb⟩ := Slice.exists_normalize h0 v.size
  have hs := Slice.ofValues_eq_ok_iff.2 ⟨hstart, hstop, hstep⟩
  refine ⟨b, v.narrow b (Slice.step_of_normalize hb).2, ?_, get_slice checks hs hb, rfl, ?_, ?_,
    rfl⟩
  · rw [hs]
    exact hb
  · intro j hj
    obtain ⟨hlo, hhi⟩ := Slice.index_mem hb hj
    exact ⟨hlo, hhi, fun checks' => elementAt_narrow checks' hb hj⟩
  · intro j hj checks'
    exact elementAt_of_wrap_none checks' (Window.wrap?_eq_none_iff.2 hj)

/-- Every other element, from the end, of a view of three elements that begins before and ends
behind them.  At the ends a violation comes through the slice with checks, and a read without. -/
theorem slice_elementAt_out_of_bounds :
    let b := Backing.ofSequence 0 "SequenceBacking" .plain (.list [.int 7, .int 8, .int 9] none)
    let v : View Value := ⟨.plain, b, ⟨-3, 5, 2, by decide⟩⟩
    Slice.IsField .none none ∧ Slice.IsField (.int (-2)) (some (-2)) ∧
    ∃ w, v.get true (.slice .none .none (.int (-2))) = pure (.view w) ∧ w.length = pure 3 ∧
      w.elementAt true 0 = Probe.violate (.outOfBounds 5) ∧
      w.elementAt true 1 = ⟨[.read 0 1], .ok (.int 8)⟩ ∧
      w.elementAt true 2 = Probe.violate (.outOfBounds (-3)) ∧
      w.elementAt false 2 = ⟨[.read 0 (-3)], .ok (.int 7)⟩ ∧
      w.elementAt true 3 = .fail .indexOutOfRange := by
  intro b v
  have hnone : Slice.IsField .none none := .leftOut
  have hstep : Slice.IsField (.int (-2)) (some (-2)) := .integer rfl
  refine ⟨hnone, hstep, ?_⟩
  obtain ⟨c, w, hc, hw, hlength, helement, hout, -⟩ :=
    slice_elementAt true v (s := ⟨none, none, some (-2)⟩) hnone hnone hstep (by decide)
  have hbounds : Slice.normalize ⟨none, none, some (-2)⟩ (5 : Nat) = .ok ⟨4, -1, -2, 3⟩ := by rfl
  cases hbounds.symm.trans hc
  have hfirst : v.elementAt true 4 = Probe.violate (.outOfBounds 5) :=
    elementAt_of_not_mem (p := 4) (n := 3) rfl rfl (by decide)
  have hsecond : v.elementAt true 2 = ⟨[.read 0 1], .ok (.int 8)⟩ := by
    rw [elementAt_of_wrap true (p := 2) rfl, readAt_of_mem true (n := 3) rfl (by decide)]
    rfl
  have hlast : v.elementAt true 0 = Probe.violate (.outOfBounds (-3)) :=
    elementAt_of_not_mem (p := 0) (n := 3) rfl rfl (by decide)
  refine ⟨w, hw, hlength, ?_, ?_, ?_, ?_, hout 3 (.inr le_rfl) true⟩
  · exact ((helement 0 (by decide)).2.2 true).trans hfirst
  · exact ((helement 1 (by decide)).2.2 true).trans hsecond
  · exact ((helement 2 (by decide)).2.2 true).trans hlast
  · exact (helement 2 (by decide)).2.2 false

/-- A view may have more elements than its length can tell, and so may its slices. -/
theorem slice_length_too_wide :
    let n : Nat := 9223372036854775808
    let b := Backing.ofSequence 0 "SequenceBacking" .plain (.list [] none)
    let v : View Value := ⟨.plain, b, ⟨0, n, 1, by decide⟩⟩
    ∃ c w, (Slice.ofValues .none .none .none >>= (·.normalize v.size)) = .ok c ∧ c.count = n ∧
      v.get true (.slice .none .none .none) = pure (.view w) ∧
      w.length = .fail .lengthTooWide ∧ w.length ≠ pure c.count := by
  intro n b v
  have hcount : Slice.stepsUp 0 n 1 = n := Slice.stepsUp_eq_of_lt_iff (by decide) fun k => by omega
  have hc : Slice.normalize ⟨none, none, none⟩ v.size = .ok ⟨0, n, 1, n⟩ := by
    rw [Slice.normalize_of_pos (by decide)]
    exact congrArg (fun k => Except.ok (Bounds.mk 0 n 1 k)) hcount
  have hw := get_slice true (v := v) (show Slice.ofValues .none .none .none = _ from rfl) hc
  refine ⟨_, _, hc, rfl, hw, rfl, ?_⟩
  intro h
  cases congrArg Traced.outcome h

end Strided.View
