import Strided.Proofs.View.Derivation
import Strided.Proofs.View.Traversal

/-!
# What a view shows

`View.Shows v xs` says that the view `v` stands for the list `xs`: it has that many elements, its
window fits its backing, and the backing holds the `k`-th element of the list at the linear index of
position `k`.  The view of a backing shows what the backing holds, and a slice of a view shows what
the slice picks from the list (`Shows.slice`), so that one step of slicing is one step of list
slicing.

From there every operation is read off the list: `Shows.iterate` gives the elements that going
through a view yields and the reads that it takes, and `slices_compose` joins any number of slices
with the list slices that they stand for.
-/

namespace Strided.View

variable {α : Type}

/-- The view stands for a list. -/
structure Shows (v : View α) (xs : List α) : Prop where
  size : v.size = xs.length
  fits : ∃ n, v.backing.count = .ok n ∧ v.window.Fits n
  read : ∀ (k : Nat) (a : α), xs[k]? = some a → v.backing.read (v.window.linearIndex k) = .ok a

def readEvent (v : View α) (k : Nat) : Event := .read v.backing.id (v.window.linearIndex k)

/-! ### Where views come from -/

theorem shows_full (kind : ViewKind) {b : Backing α} {xs : List α} (h : b.Holds xs) :
    Shows ⟨kind, b, Window.whole xs.length⟩ xs where
  size := rfl
  fits := ⟨xs.length, h.count, Window.fits_whole xs.length⟩
  read := by
    intro k a ha
    rw [Window.linearIndex_whole]
    exact h.read k a ha

/-- **A slice of a view shows what the slice picks.** -/
theorem Shows.slice {v : View α} {xs : List α} (h : v.Shows xs) {s : Slice} {b : Bounds}
    (hb : s.normalize v.size = .ok b) :
    (v.narrow b (Slice.step_of_normalize hb).2).Shows (s.pick xs) := by
  have hb' : s.normalize xs.length = .ok b := by rw [← h.size]; exact hb
  have hlen : (s.pick xs).length = b.count := by
    rw [Slice.length_pick, Slice.length_positions hb']
  refine ⟨hlen.symm, ?_, ?_⟩
  · obtain ⟨n, hn, hfits⟩ := h.fits
    exact ⟨n, hn, hfits.narrow hb⟩
  · intro k a ha
    have hk : k < b.count := by
      rw [← hlen]
      exact (List.getElem?_eq_some_iff.1 ha).1
    obtain ⟨hlo, -⟩ := Slice.index_mem hb' hk
    rw [Slice.getElem?_pick hb' hk] at ha
    have hread := h.read _ a ha
    rwa [Int.toNat_of_nonneg hlo, ← v.window.linearIndex_narrow b (Slice.step_of_normalize hb).2]
      at hread

/-! ### Reading what is shown -/

theorem Shows.lt_length {v : View α} {xs : List α} (h : v.Shows xs) {k : Nat} {a : α}
    (ha : xs[k]? = some a) : k < v.window.length := by
  rw [show v.window.length = xs.length from h.size]
  exact (List.getElem?_eq_some_iff.1 ha).1

theorem Shows.readAt {v : View α} {xs : List α} (h : v.Shows xs) (checks : Bool) {k : Nat} {a : α}
    (ha : xs[k]? = some a) : v.readAt checks k = ⟨[v.readEvent k], .ok a⟩ := by
  obtain ⟨n, hn, hfits⟩ := h.fits
  rw [readAt_of_mem checks hn (hfits k (h.lt_length ha)), Backing.probe, h.read k a ha]
  rfl

theorem Shows.iterate {v : View α} {xs : List α} (h : v.Shows xs) (checks : Bool) :
    v.iterate checks = ⟨(List.range xs.length).map v.readEvent, .ok xs⟩ := by
  rw [iterate_eq_mapM, h.size]
  refine Traced.mapM_of_forall₂ (List.forall₂_iff_get.2 ⟨List.length_range, fun k _ hk => ?_⟩)
  simpa using h.readAt checks (List.getElem?_eq_getElem hk)

theorem Shows.length {v : View α} {xs : List α} (h : v.Shows xs) (hlen : xs.length ≤ maxLength) :
    v.length = pure xs.length := by
  rw [View.length, h.size, if_pos hlen]

theorem Shows.toListWithin {v : View α} {xs : List α} (h : v.Shows xs)
    (hlen : xs.length ≤ maxLength) (checks : Bool) {room : Nat} (hroom : xs.length ≤ room) :
    v.toListWithin room checks = ⟨(List.range xs.length).map v.readEvent, .ok xs⟩ := by
  rw [toListWithin_of_le checks (h.size.trans_le hlen) (h.size.trans_le hroom), h.iterate]

theorem Shows.get_int {v : View α} {xs : List α} (h : v.Shows xs) (checks : Bool) {k : Nat} {a : α}
    (ha : xs[k]? = some a) {i : Int} (hi : i = k ∨ i = k - xs.length) :
    v.get checks (.int i) = ⟨[v.readEvent k], .ok (.element a)⟩ := by
  have hsize : v.window.length = xs.length := h.size
  have hk := h.lt_length ha
  have hwrap : v.window.wrap? i = some k := Window.wrap?_eq_some_iff.2 (by omega)
  rw [View.get_int, elementAt_of_wrap checks hwrap, h.readAt checks ha]
  rfl

theorem Shows.get_int_out {v : View α} {xs : List α} (h : v.Shows xs) (checks : Bool) {i : Int}
    (hi : i < -xs.length ∨ (xs.length : Int) ≤ i) :
    v.get checks (.int i) = .fail .indexOutOfRange := by
  have hsize : v.window.length = xs.length := h.size
  have hwrap : v.window.wrap? i = none := Window.wrap?_eq_none_iff.2 (by omega)
  rw [View.get_int, elementAt_of_wrap_none checks hwrap]
  rfl

/-! ### Any number of slices -/

/-- What every slice keeps up, any number of slices keep up: to take one slice after the other from a
view is to go, slice by slice, from what holds of it. -/
theorem exists_chain {β : Type} {P : View Value → β → Prop} {f : β → Slice → β}
    (hslice : ∀ {u : View Value} {y : β} {s : Slice} {b : Bounds}
      (hb : s.normalize u.size = .ok b), P u y →
        P (u.narrow b (Slice.step_of_normalize hb).2) (f y s))
    (checks : Bool) {ss : List Slice} (hss : ∀ s ∈ ss, s.step ≠ some 0) {v : View Value} {y : β}
    (h : P v y) :
    ∃ w, v.chain checks (ss.map Slice.toValue) = pure (.view w) ∧ P w (ss.foldl f y) := by
  induction ss generalizing v y with
  | nil => exact ⟨v, rfl, h⟩
  | cons s ss ih =>
    obtain ⟨b, hb⟩ := Slice.exists_normalize (hss s (List.mem_cons_self ..)) v.size
    obtain ⟨w, hw, hlast⟩ := ih (fun t ht => hss t (List.mem_cons_of_mem s ht)) (hslice hb h)
    refine ⟨w, ?_, hlast⟩
    rw [List.map_cons, View.chain, get_toValue checks hb, Traced.pure_bind]
    exact hw

/-- Slicing a view again and again is slicing the list that it shows again and again. -/
theorem Shows.chain {v : View Value} {xs : List Value} (h : v.Shows xs) (checks : Bool)
    {ss : List Slice} (hss : ∀ s ∈ ss, s.step ≠ some 0) :
    ∃ w, v.chain checks (ss.map Slice.toValue) = pure (.view w) ∧
      w.Shows (ss.foldl (fun ys s => s.pick ys) xs) :=
  exists_chain (fun hb h => h.slice hb) checks hss h

theorem length_foldl_pick_le (ss : List Slice) (xs : List α) :
    (ss.foldl (fun ys s => s.pick ys) xs).length ≤ xs.length := by
  induction ss generalizing xs with
  | nil => exact le_rfl
  | cons s ss ih => exact (ih (s.pick xs)).trans (s.length_pick_le xs)

/-- **Slicing composes to any depth.**  Slices of a view, one after the other, show what the slices
pick from the list that the backing holds: the length, the elements in order, all of them as a list
where there is room for it, and the element at every index. -/
theorem slices_compose {b : Backing Value} {xs : List Value} (hb : b.Holds xs)
    (hlen : xs.length ≤ maxLength) {ss : List Slice} (hss : ∀ s ∈ ss, s.step ≠ some 0)
    (checks : Bool) :
    ∃ v₀ v, ofBacking b = pure v₀ ∧ v₀.chain checks (ss.map Slice.toValue) = pure (.view v) ∧
      let ys := ss.foldl (fun ys s => s.pick ys) xs
      v.length = pure ys.length ∧
      (v.iterate checks).outcome = .ok ys ∧
      (∀ room, ys.length ≤ room → (v.toListWithin room checks).outcome = .ok ys) ∧
      (∀ (k : Nat) (a : Value), ys[k]? = some a →
        (v.get checks (.int k)).outcome = .ok (.element a) ∧
        (v.get checks (.int (k - ys.length))).outcome = .ok (.element a)) ∧
      (∀ i : Int, i < -ys.length ∨ (ys.length : Int) ≤ i →
        (v.get checks (.int i)).outcome = .error .indexOutOfRange) ∧
      Fault.indexOutOfRange.kind = .sliceIndex := by
  obtain ⟨v, hv, hshows⟩ := (shows_full b.viewKind hb).chain checks hss
  have hle := (length_foldl_pick_le ss xs).trans hlen
  refine ⟨_, v, full_of_count b.viewKind hb.count, hv, ?_⟩
  refine ⟨hshows.length hle, ?_, ?_, ?_, ?_, rfl⟩
  · rw [hshows.iterate]
  · intro room hroom
    rw [hshows.toListWithin hle checks hroom]
  · intro k a ha
    exact ⟨by rw [hshows.get_int checks ha (.inl rfl)], by rw [hshows.get_int checks ha (.inr rfl)]⟩
  · intro i hi
    rw [hshows.get_int_out checks hi]
    rfl

/-- Of seven elements all but the first, of these every other one, and of these, from the end, all
behind a first one that is counted from the end as well. -/
theorem slices_compose_of_seven :
    let b := Backing.ofSequence 0 "SequenceBacking" .plain
      (.list ((List.range 7).map fun n : Nat => Value.int n) none)
    let ss : List Slice := [⟨some 1, none, none⟩, ⟨none, none, some 2⟩, ⟨none, some (-3), some (-1)⟩]
    (∀ s ∈ ss, s.step ≠ some 0) ∧
    ∃ v₀ v, ofBacking b = pure v₀ ∧ v₀.chain true (ss.map Slice.toValue) = pure (.view v) ∧
      v.length = pure 2 ∧ (v.toListWithin 2 true).outcome = .ok [.int 5, .int 3] ∧
      (v.get true (.int (-1))).outcome = .ok (.element (.int 3)) ∧
      (v.get true (.int 2)).outcome = .error .indexOutOfRange := by
  intro b ss
  have hss : ∀ s ∈ ss, s.step ≠ some 0 := by decide
  refine ⟨hss, ?_⟩
  have hb : b.Holds ((List.range 7).map fun n : Nat => Value.int n) :=
    Backing.holds_ofSequence 0 "SequenceBacking" .plain rfl rfl (by decide)
  obtain ⟨v₀, v, h₀, hv, hlength, -, hlist, hget, hout, -⟩ :=
    slices_compose hb (by decide) hss true
  exact ⟨v₀, v, h₀, hv, hlength, hlist 2 (by decide), (hget 1 _ rfl).2, hout 2 (by decide)⟩

end Strided.View
