import Mathlib.Data.List.Sort
import Mathlib.Tactic.Linarith
import Strided.Slice

/-!
# The positions that a slice names

`Slice.normalize` resolves a slice into a start, a stop and a number of elements, moving what lies
beyond an end back to it and dividing to get the number.  `Slice.positions` says which elements are
meant without any of that: the positions of the sequence that lie between start and stop and are a
multiple of the step away from the start, in the direction of the step.

`indices_eq_positions` joins the two: the indices that the bounds of a slice select are the
positions that it names.  So `select` is `pick`, which takes the elements at those positions, and
what is proved of bounds afterwards speaks about plain lists.
-/

namespace Strided

namespace Slice

/-! ### What a slice means -/

/-- An index into `n` elements, negative ones counted from the end. -/
def fromStart (n : Nat) (i : Int) : Int := if i < 0 then i + n else i

/-- An index in range stands for a position, from the start or from the end. -/
theorem exists_fromStart {n : Nat} {i : Int} (hlo : -n ≤ i) (hhi : i < n) :
    ∃ k : Nat, fromStart n i = k ∧ k < n ∧ (i = k ∨ i = k - n) := by
  refine ⟨(fromStart n i).toNat, ?_⟩
  unfold fromStart
  split <;> omega

/-- The positions among `n` elements that a slice names, in the order in which it names them.  A
start before the first position is moved to it, for a negative step one behind the last. -/
def positions (s : Slice) (n : Nat) : List Nat :=
  let step := s.step.getD 1
  if 0 < step then
    let start := max (fromStart n (s.start.getD 0)) 0
    (List.range n).filter fun p : Nat =>
      start ≤ (p : Int) ∧ step ∣ p - start ∧ s.stop.all fun stop => (p : Int) < fromStart n stop
  else
    let start := min (fromStart n (s.start.getD (n - 1))) (n - 1)
    ((List.range n).filter fun p : Nat =>
      (p : Int) ≤ start ∧ step ∣ p - start ∧ s.stop.all fun stop => fromStart n stop < (p : Int)).reverse

def pick {α : Type} (s : Slice) (xs : List α) : List α :=
  (s.positions xs.length).filterMap fun p => xs[p]?

/-! ### Counting steps -/

theorem lt_stepsUp_iff {start stop step : Int} (hstep : 0 < step) (k : Nat) :
    k < stepsUp start stop step ↔ start + k * step < stop := by
  unfold stepsUp
  by_cases h : start < stop
  · rw [if_pos h, Int.lt_toNat, ← Int.add_one_le_iff, Int.le_ediv_iff_mul_le hstep, Int.add_mul]
    omega
  · have hk : 0 ≤ (k : Int) * step := Int.mul_nonneg (by omega) hstep.le
    rw [if_neg h]
    omega

theorem stepsUp_eq_of_lt_iff {start stop step : Int} {n : Nat} (hstep : 0 < step)
    (h : ∀ k : Nat, start + k * step < stop ↔ k < n) : stepsUp start stop step = n := by
  refine eq_of_forall_lt_iff fun k => ?_
  rw [lt_stepsUp_iff hstep, h]

/-! ### Bounds select the positions -/

/-- Steps up from a start reach what is a multiple of the step away from it. -/
theorem exists_step_up_iff {start step i : Int} (hstep : 0 < step) :
    (∃ k : Nat, start + k * step = i) ↔ start ≤ i ∧ step ∣ i - start := by
  constructor
  · rintro ⟨k, rfl⟩
    have hpos : 0 ≤ (k : Int) * step := Int.mul_nonneg (by omega) hstep.le
    rw [show start + k * step - start = k * step by omega]
    exact ⟨by omega, Int.dvd_mul_left ..⟩
  · rintro ⟨hle, c, hc⟩
    have hc0 : 0 ≤ c := by
      by_contra hneg
      have := Int.mul_lt_mul_of_pos_left (show c < 0 by omega) hstep
      omega
    refine ⟨c.toNat, ?_⟩
    rw [Int.toNat_of_nonneg hc0, Int.mul_comm c]
    omega

/-- Steps down are steps up, seen from the other side. -/
theorem exists_step_down_iff {start step i : Int} (hstep : step < 0) :
    (∃ k : Nat, start + k * step = i) ↔ i ≤ start ∧ step ∣ i - start := by
  have hup := @exists_step_up_iff (-start) (-step) (-i) (by omega)
  have hdvd : -step ∣ -i - -start ↔ step ∣ i - start := by
    rw [Int.neg_dvd, ← Int.dvd_neg, show -(-i - -start) = i - start by omega]
  rw [hdvd] at hup
  constructor
  · rintro ⟨k, hk⟩
    obtain ⟨hle, h⟩ := hup.1 ⟨k, by rw [Int.mul_neg]; omega⟩
    exact ⟨by omega, h⟩
  · rintro ⟨hle, h⟩
    obtain ⟨k, hk⟩ := hup.2 ⟨by omega, h⟩
    rw [Int.mul_neg] at hk
    exact ⟨k, by omega⟩

/-- Steps up from a start, as the positions between start and stop. -/
theorem steps_up {start stop step : Int} {n : Nat} (hstep : 0 < step) (hstart : 0 ≤ start)
    (hstop : stop ≤ n) :
    (List.range (stepsUp start stop step)).map (fun k : Nat => start + k * step) =
      ((List.range n).filter fun p : Nat =>
        start ≤ (p : Int) ∧ step ∣ p - start ∧ (p : Int) < stop).map (Nat.cast : Nat → Int) := by
  apply List.Pairwise.eq_of_mem_iff (r := (· < ·))
  · rw [List.pairwise_map]
    refine List.pairwise_lt_range.imp fun {j k} hjk => ?_
    have := Int.mul_lt_mul_of_pos_right (Int.ofNat_lt.2 hjk) hstep
    omega
  · rw [List.pairwise_map]
    exact (List.pairwise_lt_range.filter _).imp fun hjk => Int.ofNat_lt.2 hjk
  · intro i
    simp only [List.mem_map, List.mem_filter, List.mem_range, lt_stepsUp_iff hstep,
      decide_eq_true_eq]
    constructor
    · rintro ⟨k, hk, rfl⟩
      obtain ⟨hle, hdvd⟩ := (exists_step_up_iff hstep).1 ⟨k, rfl⟩
      have hcast : ((start + k * step).toNat : Int) = start + k * step :=
        Int.toNat_of_nonneg (by omega)
      rw [← hcast] at hdvd
      exact ⟨(start + k * step).toNat, ⟨by omega, by omega, hdvd, by omega⟩, hcast⟩
    · rintro ⟨p, ⟨-, hle, hdvd, hlt⟩, rfl⟩
      obtain ⟨k, hk⟩ := (exists_step_up_iff hstep).2 ⟨hle, hdvd⟩
      exact ⟨k, by omega, hk⟩

/-- Steps down from a start, as the positions between stop and start, the last one first. -/
theorem steps_down {start stop step : Int} {n : Nat} (hstep : step < 0) (hstart : start < n)
    (hstop : -1 ≤ stop) :
    (List.range (stepsUp stop start (-step))).map (fun k : Nat => start + k * step) =
      ((List.range n).filter fun p : Nat =>
        (p : Int) ≤ start ∧ step ∣ p - start ∧ stop < (p : Int)).reverse.map
        (Nat.cast : Nat → Int) := by
  apply List.Pairwise.eq_of_mem_iff (r := (· > ·))
  · rw [List.pairwise_map]
    refine List.pairwise_lt_range.imp fun {j k} hjk => ?_
    have := Int.mul_lt_mul_of_neg_right (Int.ofNat_lt.2 hjk) hstep
    omega
  · rw [List.pairwise_map, List.pairwise_reverse]
    exact (List.pairwise_lt_range.filter _).imp fun hjk => Int.ofNat_lt.2 hjk
  · intro i
    simp only [List.mem_map, List.mem_reverse, List.mem_filter, List.mem_range,
      lt_stepsUp_iff (show 0 < -step by omega), Int.mul_neg, decide_eq_true_eq]
    constructor
    · rintro ⟨k, hk, rfl⟩
      obtain ⟨hle, hdvd⟩ := (exists_step_down_iff hstep).1 ⟨k, rfl⟩
      have hcast : ((start + k * step).toNat : Int) = start + k * step :=
        Int.toNat_of_nonneg (by omega)
      rw [← hcast] at hdvd
      exact ⟨(start + k * step).toNat, ⟨by omega, by omega, hdvd, by omega⟩, hcast⟩
    · rintro ⟨p, ⟨-, hle, hdvd, hlt⟩, rfl⟩
      obtain ⟨k, hk⟩ := (exists_step_down_iff hstep).2 ⟨hle, hdvd⟩
      exact ⟨k, by omega, hk⟩

theorem clamp_mem (field : Option Int) {default lower upper length : Int} (h0 : lower ≤ 0)
    (hlo : lower ≤ default) (hup : default ≤ upper) (hlen : length - 1 ≤ upper) :
    lower ≤ clamp field default lower upper length ∧
      clamp field default lower upper length ≤ upper := by
  cases field with
  | none => exact ⟨hlo, hup⟩
  | some i =>
    simp only [clamp]
    split <;> omega

/-- Moving a field into the range does not change which positions are before it. -/
theorem lt_clamp_stop_iff (field : Option Int) {n p : Nat} (hp : p < n) :
    (p : Int) < clamp field n 0 n n ↔ field.all fun stop => (p : Int) < fromStart n stop := by
  cases field with
  | none => simpa [clamp] using hp
  | some i =>
    by_cases hi : i < 0 <;>
      simp only [clamp, fromStart, hi, if_true, if_false, Option.all_some, decide_eq_true_eq] <;>
      omega

theorem clamp_stop_lt_iff (field : Option Int) {n p : Nat} (hp : p < n) :
    clamp field (-1) (-1) (n - 1) n < p ↔ field.all fun stop => fromStart n stop < (p : Int) := by
  cases field with
  | none =>
    simp only [clamp, Option.all_none, iff_true]
    omega
  | some i =>
    by_cases hi : i < 0 <;>
      simp only [clamp, fromStart, hi, if_true, if_false, Option.all_some, decide_eq_true_eq] <;>
      omega

theorem clamp_start_up (field : Option Int) (n : Nat) :
    clamp field 0 0 n n = min (max (fromStart n (field.getD 0)) 0) n := by
  cases field with
  | none => simp [clamp, fromStart]
  | some i =>
    simp only [clamp, fromStart, Option.getD_some]
    split <;> omega

theorem clamp_start_down (field : Option Int) (n : Nat) :
    clamp field (n - 1) (-1) (n - 1) n =
      max (min (fromStart n (field.getD (n - 1))) (n - 1)) (-1) := by
  cases field with
  | none =>
    simp only [clamp, fromStart, Option.getD_none]
    split <;> omega
  | some i =>
    simp only [clamp, fromStart, Option.getD_some]
    split <;> omega

theorem normalize_of_pos {s : Slice} (hstep : 0 < s.step.getD 1) (n : Int) :
    s.normalize n =
      let start := clamp s.start 0 0 n n
      let stop := clamp s.stop n 0 n n
      .ok ⟨start, stop, s.step.getD 1, stepsUp start stop (s.step.getD 1)⟩ := by
  simp only [normalize, if_neg hstep.ne', if_pos hstep]

theorem normalize_of_neg {s : Slice} (hstep : s.step.getD 1 < 0) (n : Int) :
    s.normalize n =
      let start := clamp s.start (n - 1) (-1) (n - 1) n
      let stop := clamp s.stop (-1) (-1) (n - 1) n
      .ok ⟨start, stop, s.step.getD 1, stepsUp stop start (-s.step.getD 1)⟩ := by
  simp only [normalize, if_neg hstep.ne, if_neg (show ¬ 0 < s.step.getD 1 by omega)]

theorem positions_of_pos {s : Slice} (hstep : 0 < s.step.getD 1) (n : Nat) :
    (List.range (stepsUp (clamp s.start 0 0 n n) (clamp s.stop n 0 n n) (s.step.getD 1))).map
        (fun k : Nat => clamp s.start 0 0 n n + k * s.step.getD 1) =
      (s.positions n).map (Nat.cast : Nat → Int) := by
  have hstart : 0 ≤ clamp s.start 0 0 n n :=
    (clamp_mem s.start le_rfl le_rfl (by omega) (by omega)).1
  have hstop : clamp s.stop n 0 n n ≤ n :=
    (clamp_mem s.stop le_rfl (by omega) le_rfl (by omega)).2
  rw [steps_up hstep hstart hstop]
  simp only [positions, if_pos hstep]
  congr 1
  refine List.filter_congr fun p hp => ?_
  have hpn := List.mem_range.1 hp
  rw [decide_eq_decide, lt_clamp_stop_iff s.stop hpn, clamp_start_up]
  -- A start beyond the end names nothing, wherever it is counted from.
  rcases Int.le_total (max (fromStart n (s.start.getD 0)) 0) n with hle | hge
  · rw [min_eq_left hle]
  · rw [min_eq_right hge]
    constructor <;> (rintro ⟨hstart, -⟩; omega)

theorem positions_of_neg {s : Slice} (hstep : s.step.getD 1 < 0) (n : Nat) :
    (List.range (stepsUp (clamp s.stop (-1) (-1) (n - 1) n)
        (clamp s.start (n - 1) (-1) (n - 1) n) (-s.step.getD 1))).map
        (fun k : Nat => clamp s.start (n - 1) (-1) (n - 1) n + k * s.step.getD 1) =
      (s.positions n).map (Nat.cast : Nat → Int) := by
  have hstart : clamp s.start (n - 1) (-1) (n - 1) n ≤ n - 1 :=
    (clamp_mem s.start (by omega) (by omega) le_rfl le_rfl).2
  have hstop : -1 ≤ clamp s.stop (-1) (-1) (n - 1) n :=
    (clamp_mem s.stop (by omega) le_rfl (by omega) le_rfl).1
  rw [steps_down hstep (Int.lt_of_le_sub_one hstart) hstop]
  simp only [positions, if_neg (show ¬ 0 < s.step.getD 1 by omega)]
  congr 2
  refine List.filter_congr fun p hp => ?_
  have hpn := List.mem_range.1 hp
  rw [decide_eq_decide, clamp_stop_lt_iff s.stop hpn, clamp_start_down]
  rcases Int.le_total (min (fromStart n (s.start.getD (n - 1))) (n - 1)) (-1) with hle | hge
  · rw [max_eq_right hle]
    constructor <;> (rintro ⟨hstart, -⟩; omega)
  · rw [max_eq_left hge]

/-- **The bounds of a slice select the positions that it names.** -/
theorem indices_eq_positions {s : Slice} {n : Nat} {b : Bounds} (h : s.normalize n = .ok b) :
    b.indices = (s.positions n).map (Nat.cast : Nat → Int) := by
  obtain ⟨hstep, h0⟩ := step_of_normalize h
  rw [hstep] at h0
  rcases Int.lt_or_gt_of_ne h0 with hneg | hpos
  · rw [normalize_of_neg hneg] at h
    cases h
    exact positions_of_neg hneg n
  · rw [normalize_of_pos hpos] at h
    cases h
    exact positions_of_pos hpos n

theorem length_positions {s : Slice} {n : Nat} {b : Bounds} (h : s.normalize n = .ok b) :
    (s.positions n).length = b.count := by
  have := congrArg List.length (indices_eq_positions h)
  simpa only [Bounds.length_indices, List.length_map] using this.symm

theorem length_positions_le (s : Slice) (n : Nat) : (s.positions n).length ≤ n := by
  unfold positions
  simp only
  split
  · exact (List.length_filter_le ..).trans List.length_range.le
  · rw [List.length_reverse]
    exact (List.length_filter_le ..).trans List.length_range.le

theorem lt_of_mem_positions {s : Slice} {n p : Nat} (hp : p ∈ s.positions n) : p < n := by
  unfold positions at hp
  simp only at hp
  split at hp
  · exact List.mem_range.1 (List.mem_filter.1 hp).1
  · exact List.mem_range.1 (List.mem_filter.1 (List.mem_reverse.1 hp)).1

theorem getElem?_positions {s : Slice} {n : Nat} {b : Bounds} (h : s.normalize n = .ok b) {k : Nat}
    (hk : k < b.count) : ∃ p, (s.positions n)[k]? = some p ∧ p < n ∧ b.index k = p := by
  have hlen : k < (s.positions n).length := by rw [length_positions h]; exact hk
  refine ⟨(s.positions n)[k], List.getElem?_eq_getElem hlen,
    lt_of_mem_positions (List.getElem_mem hlen), ?_⟩
  have := congrArg (·[k]?) (indices_eq_positions h)
  simpa [Bounds.indices, hk, hlen] using this

/-- The indices that the bounds of a slice select are positions of the sequence. -/
theorem index_mem {s : Slice} {n : Nat} {b : Bounds} (h : s.normalize n = .ok b) {k : Nat}
    (hk : k < b.count) : 0 ≤ b.index k ∧ b.index k < n := by
  obtain ⟨p, -, hp, he⟩ := getElem?_positions h hk
  omega

/-! ### What a slice selects -/

theorem normalize_of_zero {s : Slice} (hs : s.step = some 0) (n : Int) :
    s.normalize n = .error .zeroStep := by
  rw [normalize, hs]
  rfl

theorem exists_normalize {s : Slice} (hs : s.step ≠ some 0) (n : Int) :
    ∃ b, s.normalize n = .ok b := by
  cases h : s.normalize n with
  | ok b => exact ⟨b, rfl⟩
  | error e => exact absurd (normalize_eq_error_iff.1 ⟨e, h⟩) hs

/-- **A slice that can be resolved selects the elements at the positions that it names.** -/
theorem select_of_normalize {α : Type} {s : Slice} {xs : List α} {b : Bounds}
    (h : s.normalize xs.length = .ok b) : s.select xs = .ok (s.pick xs) := by
  rw [select, h, pick, Except.map, indices_eq_positions h, List.filterMap_map]
  rfl

theorem length_pick {α : Type} (s : Slice) (xs : List α) :
    (s.pick xs).length = (s.positions xs.length).length := by
  refine List.filterMap_length_eq_length.2 fun p hp => ?_
  rw [List.getElem?_eq_getElem (lt_of_mem_positions hp)]
  rfl

theorem pick_map {α β : Type} (f : α → β) (s : Slice) (xs : List α) :
    s.pick (xs.map f) = (s.pick xs).map f := by
  rw [pick, pick, List.length_map, List.map_filterMap]
  simp only [List.getElem?_map]

theorem mem_of_mem_pick {α : Type} {s : Slice} {xs : List α} {x : α} (h : x ∈ s.pick xs) :
    x ∈ xs := by
  obtain ⟨p, -, hp⟩ := List.mem_filterMap.1 h
  exact List.mem_of_getElem? hp

theorem length_pick_le {α : Type} (s : Slice) (xs : List α) : (s.pick xs).length ≤ xs.length := by
  rw [length_pick]
  exact length_positions_le s xs.length

theorem getElem?_filterMap_getElem? {α : Type} {xs : List α} :
    ∀ {ps : List Nat}, (∀ p ∈ ps, p < xs.length) → ∀ k : Nat,
      (ps.filterMap fun p => xs[p]?)[k]? = ps[k]?.bind fun p => xs[p]? := by
  intro ps
  induction ps with
  | nil => intro _ k; simp
  | cons p ps ih =>
    intro h k
    have hp : p < xs.length := h p (List.mem_cons_self ..)
    have ih := ih fun q hq => h q (List.mem_cons_of_mem p hq)
    rw [List.filterMap_cons_some (List.getElem?_eq_getElem hp)]
    cases k with
    | zero => simp [hp]
    | succ k => simpa using ih k

theorem getElem?_pick {α : Type} {s : Slice} {xs : List α} {b : Bounds}
    (h : s.normalize xs.length = .ok b) {k : Nat} (hk : k < b.count) :
    (s.pick xs)[k]? = xs[(b.index k).toNat]? := by
  obtain ⟨p, hp, -, he⟩ := getElem?_positions h hk
  rw [pick, getElem?_filterMap_getElem? fun q hq => lt_of_mem_positions hq, hp, he]
  rfl

end Slice

end Strided
