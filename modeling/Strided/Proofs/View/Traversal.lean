import Strided.Proofs.Outcome
import Strided.View.Sequence

/-!
# Going through views

To go through a view is to read its positions in order, `List.mapM` of `View.readAt`.  Two loops do
so.  The one that probes asks for one element after the other until it is signalled that there is
none; the one that counts takes as many elements as the view has.  `take_eq_mapM` and
`copyFrom_eq_mapM` say that they read the same positions, whatever the window of the view and
whatever comes of the reads.

So adding two views is making a list of each, first of the one and then of the other
(`concat_eq_toList`).  The two differ in one thing: a list of all elements asks for its room at once,
and is refused it before anything is read, while a sum grows as the elements come
(`concat_without_room`).
-/

namespace Strided

/-! ### Computations in sequence -/

namespace Traced

variable {ε α β : Type}

theorem outcome_bind (x : Traced ε α) (f : α → Traced ε β) :
    (x >>= f).outcome = x.outcome >>= fun a => (f a).outcome := by
  cases h : x.outcome with
  | ok a =>
    rw [bind_of_ok h]
    rfl
  | error e =>
    rw [bind_of_error h]
    rfl

theorem outcome_mapM (f : α → Traced ε β) (l : List α) :
    (l.mapM f).outcome = l.mapM fun a => (f a).outcome := by
  induction l with
  | nil => rfl
  | cons a rest ih =>
    rw [List.mapM_cons, List.mapM_cons, outcome_bind]
    congr 1
    funext b
    rw [outcome_bind, ih]
    rfl

theorem outcome_findM? (f : α → Traced ε Bool) (l : List α) :
    (l.findM? f).outcome = l.findM? fun a => (f a).outcome := by
  induction l with
  | nil => rfl
  | cons a rest ih =>
    rw [List.findM?, List.findM?, outcome_bind]
    congr 1
    funext found
    cases found with
    | true => rfl
    | false => exact ih

theorem mapM_of_forall₂ {f : α → Traced ε β} {event : α → ε} {l : List α} {bs : List β}
    (h : List.Forall₂ (fun a b => f a = ⟨[event a], .ok b⟩) l bs) :
    l.mapM f = ⟨l.map event, .ok bs⟩ := by
  induction h with
  | nil => rfl
  | cons ha _ ih =>
    rw [List.mapM_cons, ha, ok_bind, ih, ok_bind, events_pure, List.append_nil]
    rfl

theorem mapM_range_of_error {f : Nat → Traced ε β} {k n : Nat} (hk : k < n) {events : List ε}
    {bs : List β} {e : Fault} (hbefore : (List.range k).mapM f = ⟨events, .ok bs⟩)
    (hf : (f k).outcome = .error e) :
    (List.range n).mapM f = ⟨events ++ (f k).events, .error e⟩ := by
  obtain ⟨j, rfl⟩ := Nat.exists_eq_add_of_lt hk
  rw [Nat.add_assoc, List.range_add, List.range_succ_eq_map, List.map_cons, Nat.add_zero,
    List.mapM_append, hbefore, ok_bind, List.mapM_cons, bind_assoc, bind_of_error hf]

/-- Computations with one event each have all of the events, in order, or those up to the first
computation that fails. -/
theorem mapM_range_cases {f : Nat → Traced ε β} {event : Nat → ε} {n : Nat}
    (h : ∀ p < n, (f p).events = [event p]) :
    (∃ bs, bs.length = n ∧ (List.range n).mapM f = ⟨(List.range n).map event, .ok bs⟩) ∨
    ∃ p < n, ∃ e, (f p).outcome = .error e ∧
      (List.range n).mapM f = ⟨(List.range (p + 1)).map event, .error e⟩ := by
  induction n with
  | zero => exact .inl ⟨[], rfl, rfl⟩
  | succ n ih =>
    have hlast : (f n).events = [event n] := h n (Nat.lt_succ_self n)
    rcases ih fun p hp => h p (Nat.lt_succ_of_lt hp) with
      ⟨bs, hlength, hbs⟩ | ⟨p, hp, e, he, hfail⟩
    · cases hf : (f n).outcome with
      | ok b =>
        refine .inl ⟨bs ++ [b], by simp [hlength], ?_⟩
        rw [List.range_succ, List.mapM_append, hbs, ok_bind, List.mapM_cons, bind_assoc,
          bind_of_ok hf, hlast]
        simp
      | error e =>
        refine .inr ⟨n, Nat.lt_succ_self n, e, hf, ?_⟩
        rw [mapM_range_of_error (Nat.lt_succ_self n) hbs hf, hlast, List.range_succ, List.map_append]
        rfl
    · refine .inr ⟨p, Nat.lt_succ_of_lt hp, e, he, ?_⟩
      rw [List.range_succ, List.mapM_append, hfail, bind_of_error rfl]

end Traced

namespace View

variable {α : Type}

/-! ### Positions -/

theorem itemAt_of_lt (checks : Bool) {v : View α} {p : Nat} (hp : p < v.size) :
    v.itemAt checks p = Except.ok <$> v.readAt checks p :=
  itemAt_of_wrap checks (Window.wrap?_natCast hp)

theorem elementAt_of_lt (checks : Bool) {v : View α} {p : Nat} (hp : p < v.size) :
    v.elementAt checks p = v.readAt checks p :=
  elementAt_of_wrap checks (Window.wrap?_natCast hp)

theorem itemAt_of_size_le (checks : Bool) {v : View α} {p : Nat} (hp : v.size ≤ p) :
    v.itemAt checks p = pure (.error .indexOutOfRange) :=
  itemAt_of_wrap_none checks (Window.wrap?_eq_none_iff.2 (.inr (Int.ofNat_le.2 hp)))

theorem elementAt_of_size_le (checks : Bool) {v : View α} {p : Nat} (hp : v.size ≤ p) :
    v.elementAt checks p = .fail .indexOutOfRange :=
  elementAt_of_wrap_none checks (Window.wrap?_eq_none_iff.2 (.inr (Int.ofNat_le.2 hp)))

/-! ### Two loops -/

theorem takeFrom_eq_mapM (checks : Bool) (v : View α) (n p : Nat) :
    v.takeFrom checks n p = (List.range' p (min n (v.size - p))).mapM (v.readAt checks) := by
  induction n generalizing p with
  | zero =>
    rw [Nat.zero_min]
    rfl
  | succ n ih =>
    by_cases hp : p < v.size
    · have hlen : min (n + 1) (v.size - p) = min n (v.size - (p + 1)) + 1 := by omega
      rw [takeFrom, itemAt_of_lt checks hp, bind_map_left, hlen, List.range'_succ, List.mapM_cons]
      simp only [ih]
    · -- Here the loop is signalled that there is no element.
      have hp := Nat.le_of_not_lt hp
      rw [takeFrom, itemAt_of_size_le checks hp, pure_bind, Nat.sub_eq_zero_of_le hp, Nat.min_zero]
      rfl

theorem take_eq_mapM (checks : Bool) (v : View α) (n : Nat) :
    v.take checks n = (List.range (min n v.size)).mapM (v.readAt checks) := by
  rw [take, takeFrom_eq_mapM, Nat.sub_zero, List.range_eq_range']

theorem iterate_eq_mapM (checks : Bool) (v : View α) :
    v.iterate checks = (List.range v.size).mapM (v.readAt checks) := by
  rw [iterate, take_eq_mapM, Nat.min_self]

/-- The probing loop ends by itself: to ask for more elements than there are is to ask for all. -/
theorem take_of_size_le (checks : Bool) {v : View α} {n : Nat} (h : v.size ≤ n) :
    v.take checks n = v.iterate checks := by
  rw [take_eq_mapM, iterate_eq_mapM, Nat.min_eq_right h]

theorem copyFrom_eq_mapM (checks : Bool) (v : View α) {n p : Nat} (h : p + n ≤ v.size) :
    v.copyFrom checks n p = (List.range' p n).mapM (v.readAt checks) := by
  induction n generalizing p with
  | zero => rfl
  | succ n ih =>
    have hp : p < v.size := by omega
    rw [copyFrom, elementAt_of_lt checks hp, List.range'_succ, List.mapM_cons, ih (by omega)]

/-- To count through all elements is to probe for them. -/
theorem copyFrom_size (checks : Bool) (v : View α) :
    v.copyFrom checks v.size 0 = v.iterate checks := by
  have hfits : 0 + v.size ≤ v.size := by omega
  rw [copyFrom_eq_mapM checks v hfits, iterate_eq_mapM, List.range_eq_range']

theorem length_of_iterate {checks : Bool} {v : View α} {xs : List α}
    (h : (v.iterate checks).outcome = .ok xs) : xs.length = v.size := by
  rw [iterate_eq_mapM, Traced.outcome_mapM, mapM_range_eq_ok_iff] at h
  exact h.1

/-! ### Sums of views -/

theorem concat_eq_iterate (checks : Bool) (v w : View α) :
    v.concat checks w =
      (do
        let xs ← v.iterate checks
        let ys ← w.iterate checks
        pure (xs ++ ys)) := by
  rw [concat, copyFrom_size, copyFrom_size]

theorem toListWithin_of_le (checks : Bool) {v : View α} {room : Nat} (hlen : v.size ≤ maxLength)
    (hroom : v.size ≤ room) : v.toListWithin room checks = v.iterate checks := by
  rw [toListWithin, View.length, if_pos hlen, pure_bind, if_neg (Nat.not_lt.2 hroom)]

theorem toListWithin_of_lt (checks : Bool) {v : View α} {room : Nat} (hlen : v.size ≤ maxLength)
    (hroom : room < v.size) : v.toListWithin room checks = .fail .outOfMemory := by
  rw [toListWithin, View.length, if_pos hlen, pure_bind, if_pos hroom]

/-- **A sum of two views is a list of the one and a list of the other, joined.**  The views may be
well-formed or not, of one backing or of two, and looked through with checks or without.  If there is
room for both lists, then the sum reads and logs what making the lists does, in the same order, and
comes to the same elements, as many as both views have, or to the same fault.  A list without room
is refused: that of the first view before anything is read, and that of the second behind the
elements of the first. -/
theorem concat_eq_toList (checks : Bool) {v w : View α} (hv : v.size ≤ maxLength)
    (hw : w.size ≤ maxLength) (room : Nat) :
    let lists : Probe (List α) := do
      let xs ← v.toListWithin room checks
      let ys ← w.toListWithin room checks
      pure (xs ++ ys)
    v.add checks (.view w) = v.concat checks w ∧
    (v.size ≤ room → w.size ≤ room → v.concat checks w = lists) ∧
    (∀ zs, (v.concat checks w).outcome = .ok zs →
      zs.length = v.size + w.size ∧ v.length = pure v.size ∧ w.length = pure w.size) ∧
    (room < v.size → lists = .fail .outOfMemory) ∧
    (v.size ≤ room → room < w.size →
      lists = v.iterate checks >>= fun _ => .fail .outOfMemory) := by
  intro lists
  refine ⟨rfl, fun hvroom hwroom => ?_, fun zs hzs => ?_, fun hvroom => ?_,
    fun hvroom hwroom => ?_⟩
  · simp only [lists, concat_eq_iterate, toListWithin_of_le checks hv hvroom,
      toListWithin_of_le checks hw hwroom]
  · rw [concat_eq_iterate, Traced.outcome_bind] at hzs
    obtain ⟨xs, hxs, hzs⟩ := exists_of_bind_eq_ok hzs
    rw [Traced.outcome_bind] at hzs
    obtain ⟨ys, hys, hzs⟩ := exists_of_bind_eq_ok hzs
    obtain rfl : xs ++ ys = zs := Except.ok.inj hzs
    refine ⟨?_, if_pos hv, if_pos hw⟩
    rw [List.length_append, length_of_iterate hxs, length_of_iterate hys]
  · simp only [lists, toListWithin_of_lt checks hv hvroom, Traced.fail_bind]
  · simp only [lists, toListWithin_of_le checks hv hvroom, toListWithin_of_lt checks hw hwroom,
      Traced.fail_bind]

/-- A list from the end and, without checks, a tuple from its second element to beyond its last. -/
theorem concat_eq_toList_beyond_end :
    let b := Backing.ofSequence 0 "SequenceBacking" .plain (.list [.int 1, .int 2, .int 3] none)
    let c := Backing.ofSequence 1 "SequenceBacking" .plain (.tuple [.int 7, .int 8])
    let v : View Value := ⟨.plain, b, ⟨2, 3, -1, by decide⟩⟩
    let w : View Value := ⟨.plain, c, ⟨1, 3, 1, by decide⟩⟩
    v.size ≤ maxLength ∧ w.size ≤ maxLength ∧
      (do
        let xs ← v.toListWithin 3 false
        let ys ← w.toListWithin 3 false
        pure (xs ++ ys)) = v.add false (.view w) ∧
      v.add false (.view w) = ⟨[.read 0 2, .read 0 1, .read 0 0, .read 1 1, .read 1 2],
        .error (.beyondSequence .tuple)⟩ := by
  intro b c v w
  have hv : v.size ≤ maxLength := by decide +kernel
  have hw : w.size ≤ maxLength := by decide +kernel
  obtain ⟨hadd, hlists, -⟩ := concat_eq_toList false hv hw 3
  refine ⟨hv, hw, (hlists (Nat.le_refl _) (Nat.le_refl _)).symm.trans hadd.symm, ?_⟩
  simp only [b, c, v, w]
  rfl

/-- A view of `2 ^ 60` elements of a list that has three.  There is no room for a list of them, and
nothing is read; a sum reads the three elements and comes to the violation behind them. -/
theorem concat_without_room :
    let b := Backing.ofSequence 0 "SequenceBacking" .plain (.list [.int 1, .int 2, .int 3] none)
    let v : View Value := ⟨.plain, b, ⟨0, 1152921504606846976, 1, by decide⟩⟩
    v.size ≤ maxLength ∧
    (do
      let xs ← v.toList true
      let ys ← v.toList true
      pure (xs ++ ys)) = (.fail .outOfMemory : Probe (List Value)) ∧
    v.concat true v = ⟨[.read 0 0, .read 0 1, .read 0 2, .log (Violation.outOfBounds 3).record],
      .error (.violation (.outOfBounds 3))⟩ ∧
    Fault.outOfMemory.kind ≠ (Fault.violation (.outOfBounds 3)).kind := by
  intro b v
  have hv : v.size ≤ maxLength := by decide +kernel
  refine ⟨hv, ?_, ?_, by decide⟩
  · rw [toList, toListWithin_of_lt true hv (by decide +kernel)]
    rfl
  · have hwritable : (Violation.outOfBounds 3).isWritable = true := by decide +kernel
    have hthree : (List.range 3).mapM (v.readAt true) =
        ⟨[.read 0 0, .read 0 1, .read 0 2], .ok [.int 1, .int 2, .int 3]⟩ := rfl
    have hfourth : v.readAt true 3 = ⟨[.log (Violation.outOfBounds 3).record],
        .error (.violation (.outOfBounds 3))⟩ := by
      rw [readAt_of_not_mem (n := 3) rfl (by decide)]
      exact if_pos hwritable
    have hiterate := Traced.mapM_range_of_error (show 3 < v.size by decide +kernel) hthree
      (congrArg Traced.outcome hfourth)
    rw [← iterate_eq_mapM, hfourth] at hiterate
    rw [concat_eq_iterate, hiterate]
    rfl

end View

end Strided
