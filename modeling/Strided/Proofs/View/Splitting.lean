import Mathlib.Algebra.BigOperators.Group.Finset.Basic
import Strided.Proofs.View.Access
import Strided.Proofs.View.Traversal

/-!
# Splitting a view

Slices cut a view into parts.  At an index there is one cut, `Slice.exists_cut`: what comes before it
and what comes from it on lie side by side, wherever the index is.  By a step there are as many parts
as the step is wide, and each position is in the part of its residue, at the place of its quotient
(`elementAt_stride`).

`splits_lose_nothing` puts the parts together again: read one after the other, or element by element,
they are the view.  Since a position of a part is read as the position of the view that it stands
for, this needs nothing of the window.
-/

namespace Strided

/-- The bounds of every `k`-th of `n` elements, from the one at `r` on. -/
def Bounds.stride (r k n : Nat) : Bounds :=
  ⟨(min r n : Nat), n, k, Slice.stepsUp (min r n : Nat) n k⟩

namespace Slice

variable {k r : Nat}

/-! ### Cuts -/

theorem stepsUp_one (a b : Nat) : stepsUp a b 1 = b - a :=
  stepsUp_eq_of_lt_iff (by decide) fun k => by omega

/-- The slice up to an index and the one from it on meet at one cut, wherever the index is. -/
theorem exists_cut (i : Int) (n : Nat) : ∃ c : Nat, c ≤ n ∧
    normalize ⟨none, some i, none⟩ n = .ok ⟨0, c, 1, c⟩ ∧
    normalize ⟨some i, none, none⟩ n = .ok ⟨c, n, 1, n - c⟩ := by
  obtain ⟨hlo, hhi⟩ : 0 ≤ clamp (some i) 0 0 n n ∧ clamp (some i) 0 0 n n ≤ n :=
    clamp_mem (some i) le_rfl le_rfl (by omega) (by omega)
  obtain ⟨c, hc⟩ := Int.eq_ofNat_of_zero_le hlo
  -- As a stop the index is moved to the same place: only a field left out takes its default.
  have hstop : clamp (some i) n 0 n n = c := hc
  refine ⟨c, by omega, ?_, ?_⟩
  · rw [normalize_of_pos (s := ⟨none, some i, none⟩) Int.one_pos]
    simp only [hstop, Option.getD_none]
    exact congrArg (fun m => Except.ok (Bounds.mk 0 c 1 m)) (stepsUp_one 0 c)
  · rw [normalize_of_pos (s := ⟨some i, none, none⟩) Int.one_pos]
    simp only [hc, Option.getD_none]
    exact congrArg (fun m => Except.ok (Bounds.mk c n 1 m)) (stepsUp_one c n)

/-! ### Residues -/

theorem normalize_stride (hr : r < k) (n : Nat) :
    normalize ⟨some r, none, some k⟩ n = .ok (.stride r k n) := by
  have hstart : clamp (some (r : Int)) 0 0 n n = (min r n : Nat) := by
    rw [clamp, if_neg (by omega)]
    omega
  rw [normalize_of_pos (s := ⟨some r, none, some k⟩) (show 0 < (k : Int) by omega)]
  simp only [hstart, Option.getD_some]
  rfl

theorem lt_count_stride_iff (hr : r < k) (n j : Nat) :
    j < (Bounds.stride r k n).count ↔ r + j * k < n := by
  rw [Bounds.stride, lt_stepsUp_iff (by omega), ← Int.natCast_mul]
  omega

theorem card_residue (hr : r < k) (n : Nat) :
    ((Finset.range n).filter (· % k = r)).card = (Bounds.stride r k n).count := by
  have hk : 0 < k := by omega
  rw [← Finset.card_range (Bounds.count _)]
  refine Finset.card_nbij' (· / k) (fun j => r + j * k) ?_ ?_ ?_ ?_
  · intro p hp
    simp only [Finset.coe_filter, Finset.mem_range, Set.mem_ofPred_eq] at hp
    obtain ⟨hlt, rfl⟩ := hp
    simp only [Finset.coe_range, Set.mem_Iio, lt_count_stride_iff hr]
    rwa [Nat.mod_add_div']
  · intro j hj
    simp only [Finset.coe_range, Set.mem_Iio, lt_count_stride_iff hr] at hj
    simp [hj, Nat.mod_eq_of_lt hr]
  · intro p hp
    simp only [Finset.coe_filter, Finset.mem_range, Set.mem_ofPred_eq] at hp
    obtain ⟨hlt, rfl⟩ := hp
    exact Nat.mod_add_div' p k
  · intro j hj
    simp [Nat.add_mul_div_right _ _ hk, Nat.div_eq_of_lt hr]

/-- The strides by `k` select as many positions as there are. -/
theorem sum_count_stride (hk : 0 < k) (n : Nat) :
    ∑ r ∈ Finset.range k, (Bounds.stride r k n).count = n := by
  have hmaps : Set.MapsTo (· % k) (Finset.range n : Set Nat) (Finset.range k : Set Nat) := by
    intro p hp
    simpa using Nat.mod_lt p hk
  rw [← Finset.sum_congr rfl fun r hr => card_residue (Finset.mem_range.1 hr) n,
    ← Finset.card_eq_sum_card_fiberwise hmaps, Finset.card_range]

/-! ### Backwards -/

theorem normalize_backwards (n : Nat) :
    normalize ⟨none, none, some (-1)⟩ n = .ok ⟨n - 1, -1, -1, n⟩ := by
  rw [normalize_of_neg (by decide)]
  simp only [clamp, Option.getD_some]
  rw [stepsUp_eq_of_lt_iff (n := n) (by decide) fun k => by omega]

end Slice

/-- Turned round twice, a window is the same again, also where it is empty and was turned to a start
before its own. -/
theorem Window.narrow_backwards (w : Window) (h : (-1 : Int) ≠ 0) :
    (w.narrow ⟨w.length - 1, -1, -1, w.length⟩ h).narrow ⟨w.length - 1, -1, -1, w.length⟩ h = w := by
  obtain ⟨start, length, step, hstep⟩ := w
  simp only [narrow, linearIndex, mk.injEq]
  exact ⟨by ring, trivial, by ring⟩

namespace View

variable {α : Type}

theorem iterate_narrow (checks : Bool) (v : View α) {b : Bounds} (h : b.step ≠ 0) {f : Nat → Nat}
    (hf : ∀ k < b.count, b.index k = f k) :
    (v.narrow b h).iterate checks = ((List.range b.count).map f).mapM (v.readAt checks) := by
  have hsize : (v.narrow b h).size = b.count := rfl
  rw [iterate_eq_mapM, List.mapM_map, hsize]
  refine mapM_congr fun k hk => ?_
  exact readAt_narrow checks h (hf k (List.mem_range.1 hk))

theorem concat_cut (checks : Bool) (v : View α) {c : Nat} (hc : c ≤ v.size) (h : (1 : Int) ≠ 0) :
    (v.narrow ⟨0, c, 1, c⟩ h).concat checks (v.narrow ⟨c, v.size, 1, v.size - c⟩ h) =
      v.iterate checks := by
  have hfront : ∀ k < c, (Bounds.mk 0 c 1 c).index k = k := fun k _ => by
    simp only [Bounds.index]
    omega
  have hback : ∀ k < v.size - c,
      (Bounds.mk c v.size 1 (v.size - c)).index k = (c + k : Nat) := fun k _ => by
    simp only [Bounds.index]
    omega
  rw [concat_eq_iterate, iterate_narrow checks v h hfront, iterate_narrow checks v h hback,
    List.map_id', iterate_eq_mapM, ← Nat.add_sub_cancel' hc, List.range_add, List.mapM_append,
    Nat.add_sub_cancel_left]

/-- An element is in the part of its residue, at the place of its quotient. -/
theorem elementAt_stride (v : View α) {i k : Nat} (hi : i < v.size) (hk : 0 < k)
    (h : (k : Int) ≠ 0) :
    i / k < (v.narrow (.stride (i % k) k v.size) h).size ∧ ∀ checks,
      (v.narrow (.stride (i % k) k v.size) h).elementAt checks (i / k : Nat) =
        v.elementAt checks i := by
  have hr := Nat.mod_lt i hk
  have hlt : i / k < (Bounds.stride (i % k) k v.size).count := by
    rwa [Slice.lt_count_stride_iff hr, Nat.mod_add_div']
  have hindex : (Bounds.stride (i % k) k v.size).index (i / k) = i := by
    simp only [Bounds.index, Bounds.stride]
    rw [Nat.min_eq_left ((Nat.mod_le i k).trans hi.le), ← Int.natCast_mul, ← Int.natCast_add,
      Nat.mod_add_div']
  refine ⟨hlt, fun checks => ?_⟩
  rw [elementAt_narrow checks (Slice.normalize_stride hr v.size) hlt, hindex]

/-- **Splitting a view loses and duplicates nothing.**

* Cut at any index, the two parts are read, one after the other, as going through the view reads it.
  So their sum is the list of all elements, where there is room for one; and of a view that stands
  for a list it is this list, with each element read once.
* Dealt out by a step, the parts have as many elements as the view, and each element of the view is
  in one of them.
* Turned round twice, the view has the same window and backing again. -/
theorem splits_lose_nothing (checks : Bool) (v : View α) :
    (∀ i : Int, ∃ a b, v.get checks (Slice.toValue ⟨none, some i, none⟩) = pure (.view a) ∧
      v.get checks (Slice.toValue ⟨some i, none, none⟩) = pure (.view b) ∧
      ∀ checks', a.concat checks' b = v.iterate checks' ∧
        (∀ room, v.size ≤ maxLength → v.size ≤ room →
          a.concat checks' b = v.toListWithin room checks') ∧
        ∀ xs, v.Shows xs →
          a.concat checks' b = ⟨(List.range xs.length).map v.readEvent, .ok xs⟩) ∧
    (∀ k : Nat, 0 < k → ∃ part : Nat → View α,
      (∀ r < k, v.get checks (Slice.toValue ⟨some r, none, some k⟩) = pure (.view (part r))) ∧
      ∑ r ∈ Finset.range k, (part r).size = v.size ∧
      ∀ i < v.size, i / k < (part (i % k)).size ∧
        ∀ checks', (part (i % k)).elementAt checks' (i / k : Nat) = v.elementAt checks' i) ∧
    ∃ a b, v.get checks (Slice.toValue ⟨none, none, some (-1)⟩) = pure (.view a) ∧
      a.get checks (Slice.toValue ⟨none, none, some (-1)⟩) = pure (.view b) ∧
      b.window = v.window ∧ b.backing = v.backing := by
  refine ⟨fun i => ?_, fun k hk => ?_, ?_⟩
  · obtain ⟨c, hc, hfront, hback⟩ := Slice.exists_cut i v.size
    refine ⟨_, _, get_toValue checks hfront, get_toValue checks hback, fun checks' => ?_⟩
    rw [concat_cut checks' v hc]
    exact ⟨rfl, fun room hlen hroom => (toListWithin_of_le checks' hlen hroom).symm,
      fun xs hxs => hxs.iterate checks'⟩
  · have hstep : (k : Int) ≠ 0 := by omega
    refine ⟨fun r => v.narrow (.stride r k v.size) hstep, fun r hr => ?_,
      Slice.sum_count_stride hk v.size, fun i hi => elementAt_stride v hi hk hstep⟩
    exact get_toValue checks (Slice.normalize_stride hr v.size)
  · have hback := Slice.normalize_backwards v.size
    have hagain : Slice.normalize ⟨none, none, some (-1)⟩
        (v.narrow _ (Slice.step_of_normalize hback).2).size = _ := hback
    exact ⟨_, _, get_toValue checks hback, get_toValue checks hagain,
      v.window.narrow_backwards (by decide), rfl⟩

/-- Seven elements, cut before the last three and dealt out by three. -/
theorem splits_lose_nothing_of_seven :
    let xs := (List.range 7).map fun n : Nat => Value.int n
    let b := Backing.ofSequence 0 "SequenceBacking" .plain (.list xs none)
    let v : View Value := ⟨.plain, b, Window.whole 7⟩
    v.Shows xs ∧ 7 ≤ maxLength ∧
    (∃ a c, v.get true (Slice.toValue ⟨none, some (-3), none⟩) = pure (.view a) ∧
      v.get true (Slice.toValue ⟨some (-3), none, none⟩) = pure (.view c) ∧
      a.concat true c = v.toListWithin 7 true ∧ (a.concat true c).outcome = .ok xs) ∧
    ∃ part : Nat → View Value,
      v.get true (Slice.toValue ⟨some 1, none, some 3⟩) = pure (.view (part 1)) ∧
      (part 0).size + (part 1).size + (part 2).size = 7 ∧
      (part 1).elementAt true 1 = v.elementAt true 4 := by
  intro xs b v
  have hb : b.Holds xs := Backing.holds_ofSequence 0 "SequenceBacking" .plain rfl rfl (by decide)
  have hv : v.Shows xs := shows_full .plain hb
  have hlen : 7 ≤ maxLength := by decide +kernel
  obtain ⟨hcut, hdeal, -⟩ := splits_lose_nothing true v
  obtain ⟨a, c, ha, hc, hconcat⟩ := hcut (-3)
  obtain ⟨part, hpart, hsum, helement⟩ := hdeal 3 (by decide)
  refine ⟨hv, hlen, ⟨a, c, ha, hc, (hconcat true).2.1 7 hlen le_rfl, ?_⟩, part,
    hpart 1 (by decide), ?_, (helement 4 (by decide)).2 true⟩
  · rw [(hconcat true).2.2 xs hv]
  · rw [Finset.sum_range_succ, Finset.sum_range_succ, Finset.sum_range_one] at hsum
    exact hsum

end View

end Strided
