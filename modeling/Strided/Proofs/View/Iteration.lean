import Strided.Proofs.View.Contents

/-!
# How going through a view ends

The loop that goes through a view does not know how long the view is: it probes until it is
signalled that there is no element.  With checks it comes to an end all the same, after no more reads
than the view has positions and the backing has elements.  For the linear indices of a window run in
one direction, so only so many positions from the first one on are inside the backing
(`Window.le_of_inside`), and the first one outside is a violation.

`iterate_complete_or_fails` says which elements come, for any window.  Either all positions are
inside and all elements come, or the elements before the first position outside come and then a
fault.  Such a fault is the violation, unless the linear index has more digits than can be written
(`iterate_leaves_wide_violation`).
-/

namespace Strided

namespace Window

variable {w : Window} {count k : Nat}

/-- The position shows one of `count` elements. -/
def Inside (w : Window) (count i : Nat) : Prop :=
  0 ≤ w.linearIndex i ∧ w.linearIndex i < count

instance (w : Window) (count : Nat) : DecidablePred (w.Inside count) := fun i =>
  inferInstanceAs (Decidable (0 ≤ w.linearIndex i ∧ w.linearIndex i < count))

theorem le_of_inside (h : ∀ i < k, w.Inside count i) : k ≤ count := by
  rcases Nat.eq_zero_or_pos k with rfl | hk
  · exact Nat.zero_le count
  · obtain ⟨hfirst, hfirst'⟩ := h 0 hk
    obtain ⟨hlast, hlast'⟩ := h (k - 1) (by omega)
    simp only [linearIndex] at hfirst hfirst' hlast hlast'
    -- The last position is at least `k - 1` away from the first, whatever the direction.
    have hdistance := Int.natCast_nonneg (k - 1)
    rcases Int.lt_or_gt_of_ne w.step_ne_zero with hneg | hpos
    · have := Int.mul_le_mul_of_nonneg_left (show w.step ≤ -1 by omega) hdistance
      omega
    · have := Int.mul_le_mul_of_nonneg_left (show 1 ≤ w.step by omega) hdistance
      omega

/-- There is a first position outside, or none is. -/
theorem exists_reach (w : Window) (count : Nat) :
    ∃ k ≤ w.length, (∀ i < k, w.Inside count i) ∧ (k < w.length → ¬ w.Inside count k) := by
  by_cases h : w.Fits count
  · exact ⟨w.length, le_rfl, h, fun hlt => absurd hlt (Nat.lt_irrefl _)⟩
  · have hout : ∃ i, i < w.length ∧ ¬ w.Inside count i := by
      simpa only [Fits, Inside, not_forall, exists_prop] using h
    obtain ⟨hlt, hfirst⟩ := Nat.find_spec hout
    refine ⟨Nat.find hout, hlt.le, fun i hi => ?_, fun _ => hfirst⟩
    by_contra hin
    exact Nat.find_min hout hi ⟨hi.trans hlt, hin⟩

end Window

namespace View

variable {α : Type} {v : View α} {xs : List α} {k m : Nat}

theorem readAt_of_inside (h : v.backing.Holds xs) {p : Nat} (hp : v.window.Inside xs.length p) :
    ∃ a, xs[(v.window.linearIndex p).toNat]? = some a ∧
      v.readAt true p = ⟨[v.readEvent p], .ok a⟩ := by
  have hlt : (v.window.linearIndex p).toNat < xs.length := by
    obtain ⟨hlo, hhi⟩ := hp
    omega
  have ha := List.getElem?_eq_getElem hlt
  have hread := h.read _ _ ha
  rw [Int.toNat_of_nonneg hp.1] at hread
  refine ⟨_, ha, ?_⟩
  rw [readAt_of_mem true h.count hp, Backing.probe, hread]
  rfl

theorem exists_take_of_inside (h : v.backing.Holds xs) (hk : k ≤ v.size)
    (hin : ∀ i < k, v.window.Inside xs.length i) :
    ∃ ys : List α, ys.length = k ∧
      (∀ i < k, ys[i]? = xs[(v.window.linearIndex i).toNat]?) ∧
      ∀ m ≤ k, v.take true m = ⟨(List.range m).map v.readEvent, .ok (ys.take m)⟩ := by
  have hmem : ∀ p ∈ List.range k, ∃ a, (v.readAt true p).outcome = .ok a ∧
      (xs[(v.window.linearIndex p).toNat]? = some a ∧
        v.readAt true p = ⟨[v.readEvent p], .ok a⟩) := by
    intro p hp
    obtain ⟨a, ha, hread⟩ := readAt_of_inside h (hin p (List.mem_range.1 hp))
    exact ⟨a, congrArg Traced.outcome hread, ha, hread⟩
  obtain ⟨ys, -, hys⟩ := exists_mapM_eq_ok hmem
  have hlength : ys.length = k := by rw [← hys.length_eq, List.length_range]
  refine ⟨ys, hlength, fun i hi => ?_, fun m hm => ?_⟩
  · have hget := hys.get (i := i) (by rwa [List.length_range]) (by rwa [hlength])
    simp only [List.get_eq_getElem, List.getElem_range] at hget
    rw [hget.1, List.getElem?_eq_getElem]
  · have htake := List.forall₂_take m hys
    rw [List.take_range, Nat.min_eq_left hm] at htake
    rw [take_eq_mapM, Nat.min_eq_left (hm.trans hk)]
    exact Traced.mapM_of_forall₂ (htake.imp fun _ _ h => h.2)

/-- The first position outside is the end: a violation, as long as it can be written down. -/
theorem take_of_outside {n : Nat} (hn : v.backing.count = .ok n) (hk : k < v.size)
    (hout : ¬ v.window.Inside n k) {events : List Event} {ys : List α}
    (hbefore : v.take true k = ⟨events, .ok ys⟩) (hm : k < m) :
    v.take true m =
      if Text.isWritable (v.window.linearIndex k) then
        ⟨events ++ [.log (Violation.outOfBounds (v.window.linearIndex k)).record],
          .error (.violation (.outOfBounds (v.window.linearIndex k)))⟩
      else ⟨events, .error .tooManyDigits⟩ := by
  have hread := readAt_of_not_mem hn hout
  have hlt : k < min m v.size := lt_min hm hk
  rw [take_eq_mapM, Nat.min_eq_left hk.le] at hbefore
  rw [take_eq_mapM]
  split
  · next hw =>
    have hread : v.readAt true k =
        ⟨[.log (Violation.outOfBounds (v.window.linearIndex k)).record],
          .error (.violation (.outOfBounds (v.window.linearIndex k)))⟩ := hread.trans (if_pos hw)
    rw [Traced.mapM_range_of_error hlt hbefore (congrArg Traced.outcome hread), hread]
  · next hw =>
    have hread : v.readAt true k = .fail .tooManyDigits := hread.trans (if_neg hw)
    rw [Traced.mapM_range_of_error hlt hbefore (congrArg Traced.outcome hread), hread,
      Traced.events_fail, List.append_nil]

theorem length_reads_range (v : View α) (k : Nat) (records : List Log.Record)
    (outcome : Except Fault (List α)) :
    (Probe.reads ⟨(List.range k).map v.readEvent ++ records.map .log, outcome⟩).length = k := by
  simp [Probe.reads, readEvent, List.filterMap_map, Function.comp_def]

/-- The course that the loop takes: elements up to the first position outside, and from there on, if
there is such a position, always the same fault. -/
theorem exists_course (h : v.backing.Holds xs) :
    ∃ k ≤ min v.size xs.length, ∃ ys : List α,
      (∀ i < k, v.window.Inside xs.length i) ∧
      (k < v.size → ¬ v.window.Inside xs.length k) ∧
      ys.length = k ∧ (∀ i < k, ys[i]? = xs[(v.window.linearIndex i).toNat]?) ∧
      (∀ m ≤ k, v.take true m = ⟨(List.range m).map v.readEvent, .ok (ys.take m)⟩) ∧
      (k < v.size → ∀ m, k < m → v.take true m =
        if Text.isWritable (v.window.linearIndex k) then
          ⟨(List.range k).map v.readEvent ++
              [.log (Violation.outOfBounds (v.window.linearIndex k)).record],
            .error (.violation (.outOfBounds (v.window.linearIndex k)))⟩
        else ⟨(List.range k).map v.readEvent, .error .tooManyDigits⟩) := by
  obtain ⟨k, hk, hin, hout⟩ := v.window.exists_reach xs.length
  replace hk : k ≤ v.size := hk
  obtain ⟨ys, hlength, hys, hbefore⟩ := exists_take_of_inside h hk hin
  exact ⟨k, le_min hk (Window.le_of_inside hin), ys, hin, hout, hlength, hys, hbefore,
    fun hlt m hm => take_of_outside h.count hlt (hout hlt) (hbefore k le_rfl) hm⟩

theorem length_reads_take_le (h : v.backing.Holds xs) (m : Nat) :
    (Probe.reads (v.take true m)).length ≤ min v.size xs.length := by
  obtain ⟨k, hk, ys, -, -, -, -, hbefore, hbehind⟩ := exists_course h
  have hread : ∀ n ≤ k, (Probe.reads (v.take true n)).length = n := fun n hn => by
    rw [hbefore n hn]
    simpa using length_reads_range v n [] (.ok (ys.take n))
  refine le_trans ?_ hk
  rcases Nat.lt_or_ge k m with hm | hm
  · rcases Nat.eq_or_lt_of_le (hk.trans (Nat.min_le_left ..)) with rfl | hlt
    · rw [take_of_size_le true hm.le, ← take_of_size_le true le_rfl]
      exact (hread _ le_rfl).le
    · rw [hbehind hlt m hm]
      split
      · exact (length_reads_range v k [_] _).le
      · simpa using (length_reads_range v k [] (.error .tooManyDigits)).le
  · exact (hread m hm).le.trans hm

theorem exists_iterate_iff (h : v.backing.Holds xs) :
    (∃ zs, (v.iterate true).outcome = .ok zs) ↔ v.window.Fits xs.length := by
  obtain ⟨k, hk, ys, hin, hout, -, -, hbefore, hbehind⟩ := exists_course h
  constructor
  · rintro ⟨zs, hzs⟩
    rcases Nat.eq_or_lt_of_le (hk.trans (Nat.min_le_left ..)) with rfl | hlt
    · exact hin
    · rw [iterate, hbehind hlt v.size hlt] at hzs
      split at hzs <;> cases hzs
  · intro hfits
    have hall : v.size ≤ k := Nat.le_of_not_lt fun hlt => hout hlt (hfits k hlt)
    exact ⟨_, congrArg Traced.outcome (hbefore v.size hall)⟩

/-- **Going through a view is complete or fails, and always ends.**  With checks, take a view with
any window, over a backing that holds its elements; these may be anything, faults that are kept as
values too.  Let `k` be the first position outside the backing, or the number of positions if none
is outside.

* As long as `m` is at most `k`, the first `m` elements come, each with one read.
* To ask for more, if there is a position outside, is to come to the violation behind the first `k`
  elements; or to a fault in its place if its linear index is too long to be written.
* To ask for more than all elements is to go through the view, which ends after no more reads than
  there are positions and elements.
* All elements come just if all positions are inside, and there are never fewer without a fault. -/
theorem iterate_complete_or_fails (h : v.backing.Holds xs) :
    (∃ k ≤ min v.size xs.length, ∃ ys : List α,
      (∀ i < k, v.window.Inside xs.length i) ∧
      (k < v.size → ¬ v.window.Inside xs.length k) ∧
      ys.length = k ∧ (∀ i < k, ys[i]? = xs[(v.window.linearIndex i).toNat]?) ∧
      (∀ m ≤ k, v.take true m = ⟨(List.range m).map v.readEvent, .ok (ys.take m)⟩) ∧
      (k < v.size → ∀ m, k < m → v.take true m =
        if Text.isWritable (v.window.linearIndex k) then
          ⟨(List.range k).map v.readEvent ++
              [.log (Violation.outOfBounds (v.window.linearIndex k)).record],
            .error (.violation (.outOfBounds (v.window.linearIndex k)))⟩
        else ⟨(List.range k).map v.readEvent, .error .tooManyDigits⟩)) ∧
    (∀ m, v.size ≤ m → v.take true m = v.iterate true) ∧
    (∀ m, (Probe.reads (v.take true m)).length ≤ min v.size xs.length) ∧
    ((∃ zs, (v.iterate true).outcome = .ok zs) ↔ ∀ i < v.size, v.window.Inside xs.length i) ∧
    (∀ zs, (v.iterate true).outcome = .ok zs → zs.length = v.size) ∧
    ∀ i, (Fault.violation (.outOfBounds i)).kind = .contractViolation :=
  ⟨exists_course h, fun _ hm => take_of_size_le true hm, length_reads_take_le h,
    exists_iterate_iff h, fun _ hzs => length_of_iterate hzs, fun _ => rfl⟩

/-- Of three elements, one of which is a fault, every other one from the end, in a window that goes
on below the first. -/
theorem iterate_complete_or_fails_below_start :
    let xs : List Value := [.fault .sliceIndex "index out of range" none, .int 2, .int 3]
    let b := Backing.ofSequence 0 "SequenceBacking" .plain (.list xs none)
    let v : View Value := ⟨.plain, b, ⟨2, 1000000000000000000000000000000, -2, by decide⟩⟩
    b.Holds xs ∧
      v.take true 2 = ⟨[.read 0 2, .read 0 0],
        .ok [.int 3, .fault .sliceIndex "index out of range" none]⟩ ∧
      v.iterate true = ⟨[.read 0 2, .read 0 0, .log (Violation.outOfBounds (-2)).record],
        .error (.violation (.outOfBounds (-2)))⟩ := by
  intro xs b v
  have hb : b.Holds xs := Backing.holds_ofSequence 0 "SequenceBacking" .plain rfl rfl (by decide)
  obtain ⟨⟨k, hk, ys, hin, hout, hlength, hys, hbefore, hbehind⟩, hall, -⟩ :=
    iterate_complete_or_fails (v := v) hb
  have hsize : 2 < v.size := by decide +kernel
  obtain rfl : k = 2 := by
    have hlt : k < v.size := lt_of_le_of_lt (hk.trans (Nat.min_le_right ..)) (by decide +kernel)
    have hle : k ≤ 2 := Nat.le_of_not_lt fun h => absurd (hin 2 h) (by decide)
    have hne : k ≠ 0 := fun h => absurd (h ▸ hout hlt) (by decide)
    have hne' : k ≠ 1 := fun h => absurd (h ▸ hout hlt) (by decide)
    omega
  have hwritable : Text.isWritable (v.window.linearIndex (2 : Nat)) = true := by decide +kernel
  refine ⟨hb, ?_, ?_⟩
  · rw [hbefore 2 le_rfl]
    match ys, hlength with
    | [x, y], _ =>
      cases hys 0 (by decide)
      cases hys 1 (by decide)
      rfl
  · rw [iterate, hbehind hsize v.size hsize, if_pos hwritable]
    rfl

/-- The second position is outside, at a linear index of 4301 digits, but no violation comes of
it. -/
theorem iterate_leaves_wide_violation :
    let b := Backing.ofSequence 0 "SequenceBacking" .plain (.list [.int 1, .int 2] none)
    let step : Nat := Nat.pow 10 4300 - 1
    let v : View Value := ⟨.plain, b, ⟨1, 2, step, by decide +kernel⟩⟩
    b.Holds [.int 1, .int 2] ∧ v.window.Inside 2 0 ∧ ¬ v.window.Inside 2 1 ∧
      v.iterate true = ⟨[.read 0 1], .error .tooManyDigits⟩ ∧
      Fault.tooManyDigits.kind ≠ .contractViolation := by
  intro b step v
  have hb : b.Holds [.int 1, .int 2] :=
    Backing.holds_ofSequence 0 "SequenceBacking" .plain rfl rfl (by decide)
  have hfirst : v.window.linearIndex (0 : Nat) = 1 := by
    rw [Window.linearIndex, Int.natCast_zero, Int.zero_mul]
    rfl
  have hin : v.window.Inside 2 0 := by
    rw [Window.Inside, hfirst]
    decide
  have hout : ¬ v.window.Inside 2 1 := by decide +kernel
  have hwide : Text.isWritable (v.window.linearIndex (1 : Nat)) = false := by decide +kernel
  have hread : v.readAt true 0 = ⟨[.read 0 1], .ok (.int 2)⟩ := by
    rw [readAt_of_mem true hb.count hin, hfirst]
    rfl
  have hone : v.take true 1 = ⟨[.read 0 1], .ok [.int 2]⟩ := by
    rw [take_eq_mapM, show List.range (min 1 v.size) = [0] from rfl, List.mapM_cons, hread]
    rfl
  have hsize : 1 < v.size := by decide
  refine ⟨hb, hin, hout, ?_, by decide⟩
  rw [iterate, take_of_outside hb.count hsize hout hone hsize, hwide]
  rfl

end View

end Strided
