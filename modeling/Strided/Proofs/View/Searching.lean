import Strided.Proofs.View.Equality
import Strided.Proofs.View.Splitting

/-!
# Searching a view

To look for an element in a view is to read its positions, one after the other, and to compare what
is read with what is sought (`View.sameAt`).  Three loops do so, and each of them is a plain search
of a list of positions: `containsFrom_eq_anyM` and `countFrom_eq_mapM`, whatever the view, and
`Shows.indexFrom_eq_findM?` for one that stands for a list.

A list is searched in the same way, but it holds the objects themselves: one that is sought is found
where it is, without a comparison.  `Search` says what is sought in which list and where in it this
very object is.  A view may read a new object each time, so the two agree as long as each element is
the same as itself (`sequence_agrees_with_list`).
-/

namespace Strided

/-! ### Positions between two bounds -/

namespace Slice

/-- Where a search of `n` elements ends that is to stop before an index. -/
def limit (stop : Option Int) (n : Nat) : Nat :=
  stop.elim n fun j => min (fromStart n j).toNat n

theorem lt_limit_iff {stop : Option Int} {n k : Nat} :
    k < limit stop n ↔ (stop.map (fromStart n)).any (· ≤ (k : Int)) = false ∧ k < n := by
  cases stop with
  | none => simp [limit]
  | some j =>
    simp only [limit, Option.elim_some, Option.map_some, Option.any_some, decide_eq_false_iff_not]
    omega

/-- The positions between two bounds lie side by side. -/
theorem positions_between (start : Int) (stop : Option Int) (n : Nat) :
    positions ⟨some start, stop, none⟩ n =
      List.range' (max (fromStart n start) 0).toNat
        (limit stop n - (max (fromStart n start) 0).toNat) := by
  simp only [positions, Option.getD_some, Option.getD_none, if_pos Int.one_pos]
  refine List.Pairwise.eq_of_mem_iff (r := (· < ·)) (List.pairwise_lt_range.filter _)
    (List.pairwise_lt_range' 1) ?_
  intro p
  rw [List.mem_filter, List.mem_range, List.mem_range'_1, decide_eq_true_iff]
  cases stop with
  | none =>
    simp only [limit, Option.elim_none, Option.all_none, isUnit_one, IsUnit.dvd, and_true]
    omega
  | some j =>
    simp only [limit, Option.elim_some, Option.all_some, decide_eq_true_iff, isUnit_one, IsUnit.dvd,
      true_and]
    omega

end Slice

namespace View

variable {α : Type}

/-! ### Going backwards -/

theorem descendFrom_eq_mapM (checks : Bool) (v : View α) {n : Nat} (hn : n ≤ v.size) :
    v.descendFrom checks n = (List.range n).reverse.mapM (v.readAt checks) := by
  induction n with
  | zero => rfl
  | succ n ih =>
    rw [descendFrom, elementAt_of_lt checks hn, ih (Nat.le_of_succ_le hn), List.range_succ,
      List.reverse_append, List.reverse_singleton, List.singleton_append, List.mapM_cons]

/-- Going backwards through a view is going through the view turned round. -/
theorem reversed_eq_iterate (checks : Bool) {v : View α} (hv : v.size ≤ maxLength)
    (h : (-1 : Int) ≠ 0) :
    v.reversed checks = (v.narrow ⟨v.size - 1, -1, -1, v.size⟩ h).iterate checks := by
  have hindex : ∀ k < v.size,
      (Bounds.mk (v.size - 1) (-1) (-1) v.size).index k = (v.size - 1 - k : Nat) := by
    intro k hk
    simp only [Bounds.index]
    omega
  rw [iterate_narrow checks v h hindex, reversed, View.length, if_pos hv, pure_bind,
    descendFrom_eq_mapM checks v le_rfl, List.range_eq_range', List.reverse_range']
  simp only [Nat.zero_add, List.range_eq_range']

theorem pick_backwards (xs : List α) : Slice.pick ⟨none, none, some (-1)⟩ xs = xs.reverse := by
  have hb := Slice.normalize_backwards xs.length
  have hlen : (Slice.pick ⟨none, none, some (-1)⟩ xs).length = xs.length := by
    rw [Slice.length_pick, Slice.length_positions hb]
  refine List.ext_getElem? fun k => ?_
  by_cases hk : k < xs.length
  · rw [Slice.getElem?_pick hb hk, List.getElem?_reverse hk]
    congr 1
    simp only [Bounds.index]
    omega
  · rw [List.getElem?_eq_none (by omega), List.getElem?_eq_none (by rw [List.length_reverse]; omega)]

/-! ### Three loops -/

theorem fromEnd_eq {v : View α} {n : Nat} (hsize : v.size = n) (hn : n ≤ maxLength)
    (i : Option Int) : v.fromEnd i = pure (i.map (Slice.fromStart n)) := by
  cases i with
  | none => rfl
  | some i =>
    rw [fromEnd, View.length, hsize, if_pos hn, map_pure, Option.map_some, Slice.fromStart]
    by_cases hi : i < 0
    · rw [if_pos hi, if_pos hi, Int.add_comm]
    · rw [if_neg hi, if_neg hi]

section Loops

variable [Alike α]

def sameAt (checks : Bool) (v : View α) (a : α) (p : Nat) : Probe Bool := do
  let b ← v.readAt checks p
  .ofExcept (Alike.same b a)

theorem containsFrom_eq_anyM (checks : Bool) (v : View α) (a : α) (n p : Nat) :
    v.containsFrom checks a n p =
      (List.range' p (min n (v.size - p))).anyM (v.sameAt checks a) := by
  induction n generalizing p with
  | zero =>
    rw [Nat.zero_min, List.range'_zero, List.anyM_nil]
    rfl
  | succ n ih =>
    by_cases hp : p < v.size
    · have hlen : min (n + 1) (v.size - p) = min n (v.size - (p + 1)) + 1 := by omega
      rw [containsFrom, itemAt_of_lt checks hp, bind_map_left, hlen, List.range'_succ,
        List.anyM_cons, sameAt, bind_assoc]
      simp only [ih]
    · have hp := Nat.le_of_not_lt hp
      rw [containsFrom, itemAt_of_size_le checks hp, pure_bind, Nat.sub_eq_zero_of_le hp,
        Nat.min_zero, List.range'_zero, List.anyM_nil]

theorem countFrom_eq_mapM (checks : Bool) (v : View α) (a : α) (n p : Nat) :
    v.countFrom checks a n p =
      List.count true <$> (List.range' p (min n (v.size - p))).mapM (v.sameAt checks a) := by
  induction n generalizing p with
  | zero =>
    rw [Nat.zero_min]
    rfl
  | succ n ih =>
    by_cases hp : p < v.size
    · have hlen : min (n + 1) (v.size - p) = min n (v.size - (p + 1)) + 1 := by omega
      rw [countFrom, itemAt_of_lt checks hp, bind_map_left, hlen, List.range'_succ,
        List.mapM_cons, sameAt, bind_assoc, map_bind]
      simp only [ih, map_bind, map_pure, bind_map_left, List.count_cons]
      refine congrArg _ (funext fun b => congrArg _ (funext fun found => ?_))
      cases found <;> rfl
    · have hp := Nat.le_of_not_lt hp
      rw [countFrom, itemAt_of_size_le checks hp, pure_bind, Nat.sub_eq_zero_of_le hp, Nat.min_zero]
      rfl

theorem Shows.indexFrom_eq_findM? {v : View α} {xs : List α} (h : v.Shows xs) (checks : Bool) (a : α)
    (stop : Option Int) {n k : Nat} (hn : xs.length < k + n) :
    v.indexFrom checks a (stop.map (Slice.fromStart xs.length)) n k =
      (do
        match ← (List.range' k (Slice.limit stop xs.length - k)).findM? (v.sameAt checks a) with
        | some p => pure (p : Int)
        | none => .fail .notFound) := by
  induction n generalizing k with
  | zero =>
    have hk : ¬ k < Slice.limit stop xs.length := by
      rw [Slice.lt_limit_iff]
      omega
    rw [Nat.sub_eq_zero_of_le (Nat.le_of_not_lt hk)]
    rfl
  | succ n ih =>
    rw [indexFrom]
    by_cases hk : k < Slice.limit stop xs.length
    · obtain ⟨hstop, hlt⟩ := Slice.lt_limit_iff.1 hk
      have hread := h.readAt checks (List.getElem?_eq_getElem hlt)
      have hrecover : (v.elementAt checks k).recover missing = v.readAt checks k := by
        rw [elementAt_of_lt checks (hlt.trans_eq h.size.symm), hread]
        rfl
      have hlen : Slice.limit stop xs.length - k = Slice.limit stop xs.length - (k + 1) + 1 := by
        omega
      rw [hstop, if_neg (by simp), hrecover, hlen, List.range'_succ, List.findM?, sameAt,
        bind_assoc, bind_assoc]
      refine congrArg _ (funext fun b => congrArg _ (funext fun found => ?_))
      cases found with
      | true => rfl
      | false => exact ih (k := k + 1) (by omega)
    · rw [Nat.sub_eq_zero_of_le (Nat.le_of_not_lt hk), List.range'_zero, List.findM?, pure_bind]
      by_cases hstop : (stop.map (Slice.fromStart xs.length)).any (· ≤ (k : Int)) = true
      · rw [if_pos hstop]
      · -- Here it is the view that has no element any more.
        have hlt : ¬ k < xs.length := by
          intro hlt
          exact hk (Slice.lt_limit_iff.2 ⟨by simpa using hstop, hlt⟩)
        have hbeyond : v.size ≤ k := h.size.trans_le (Nat.le_of_not_lt hlt)
        rw [if_neg hstop, elementAt_of_size_le checks hbeyond]
        rfl

/-- The search for an index asks at the positions between its bounds. -/
theorem Shows.index_eq_findM? {v : View α} {xs : List α} (h : v.Shows xs)
    (hlen : xs.length ≤ maxLength) (checks : Bool) (a : α) (start : Int) (stop : Option Int) :
    v.index checks a (some start) stop =
      (do
        match ← (Slice.positions ⟨some start, stop, none⟩ xs.length).findM? (v.sameAt checks a) with
        | some p => pure (p : Int)
        | none => .fail .notFound) := by
  obtain ⟨k, hk⟩ := Int.eq_ofNat_of_zero_le (le_max_right (Slice.fromStart xs.length start) 0)
  rw [index, fromEnd_eq h.size hlen, fromEnd_eq h.size hlen, pure_bind, pure_bind,
    Slice.positions_between, hk]
  simp only [Option.map_some, hk]
  refine h.indexFrom_eq_findM? checks a stop ?_
  rw [h.size]
  omega

end Loops

end View

/-! ### Searching a list -/

/-- A search of a list of objects: the object that is sought, and where in the list this very object
is. -/
structure Search (α : Type) where
  elements : List α
  object : α
  itself : Nat → Bool
  eq_object : ∀ p a, itself p = true → elements[p]? = some a → a = object

namespace Search

variable {α : Type} [Alike α]

/-- At a position there is the object sought, or one that is the same. -/
def found (q : Search α) (p : Nat) : Except Fault Bool :=
  match q.elements[p]? with
  | some a => if q.itself p then .ok true else Alike.same a q.object
  | none => .ok false

def count (q : Search α) : Except Fault Nat :=
  List.count true <$> (List.range q.elements.length).mapM q.found

def contains (q : Search α) : Except Fault Bool := (List.range q.elements.length).anyM q.found

/-- The first position between two bounds, which are those of a slice, where the object is found. -/
def index (q : Search α) (start : Int) (stop : Option Int) : Except Fault (Option Nat) :=
  (Slice.positions ⟨some start, stop, none⟩ q.elements.length).findM? q.found

/-- There is an index just if the object is found. -/
theorem contains_eq_index (q : Search α) : q.contains = Option.isSome <$> q.index 0 none := by
  rw [contains, anyM_eq_findM?, index, Slice.positions_between, List.range_eq_range']
  rfl

theorem exists_index (q : Search α) (start : Int) (stop : Option Int)
    (h : ∀ a ∈ q.elements, ∃ r, Alike.same a q.object = .ok r) :
    ∃ found, q.index start stop = .ok found := by
  refine exists_findM? ?_
  intro p hp
  have hlt := Slice.lt_of_mem_positions hp
  rw [found, List.getElem?_eq_getElem hlt]
  simp only
  split
  · exact ⟨true, rfl⟩
  · exact h _ (List.getElem_mem hlt)

end Search

namespace View

variable {α : Type} [Alike α] {v : View α} {q : Search α}

/-- A view finds the object where the list does: where it is the very object, what is read is the
same as itself. -/
theorem outcome_sameAt (h : v.Shows q.elements) (hself : ∀ a ∈ q.elements, Same a a) (checks : Bool)
    {p : Nat} (hp : p < q.elements.length) :
    (v.sameAt checks q.object p).outcome = q.found p := by
  have ha := List.getElem?_eq_getElem hp
  rw [sameAt, h.readAt checks ha, Traced.ok_bind, Search.found, ha]
  cases hitself : q.itself p with
  | true =>
    have hobject := q.eq_object p _ hitself ha
    rw [← hobject]
    exact hself _ (List.getElem_mem hp)
  | false => rfl

theorem outcome_count (h : v.Shows q.elements) (hself : ∀ a ∈ q.elements, Same a a) (checks : Bool) :
    (v.count checks q.object).outcome = q.count := by
  rw [View.count, countFrom_eq_mapM, Nat.sub_zero, Nat.min_self, h.size, Traced.outcome_map,
    Traced.outcome_mapM, ← List.range_eq_range', Search.count]
  refine congrArg _ (mapM_congr fun p hp => ?_)
  exact outcome_sameAt h hself checks (List.mem_range.1 hp)

theorem outcome_contains (h : v.Shows q.elements) (hself : ∀ a ∈ q.elements, Same a a)
    (checks : Bool) : (v.contains checks q.object).outcome = q.contains := by
  rw [View.contains, containsFrom_eq_anyM, Nat.sub_zero, Nat.min_self, h.size, anyM_eq_findM?,
    Traced.outcome_map, Traced.outcome_findM?, ← List.range_eq_range', Search.contains,
    anyM_eq_findM?]
  refine congrArg _ (findM?_congr fun p hp => ?_)
  exact outcome_sameAt h hself checks (List.mem_range.1 hp)

theorem outcome_index (h : v.Shows q.elements) (hlen : q.elements.length ≤ maxLength)
    (hself : ∀ a ∈ q.elements, Same a a) (checks : Bool) (start : Int) (stop : Option Int) :
    (v.index checks q.object (some start) stop).outcome =
      q.index start stop >>= fun found =>
        match found with
        | some p => .ok (p : Int)
        | none => .error .notFound := by
  rw [h.index_eq_findM? hlen, Traced.outcome_bind, Traced.outcome_findM?, Search.index]
  congr 1
  · refine findM?_congr fun p hp => ?_
    exact outcome_sameAt h hself checks (Slice.lt_of_mem_positions hp)
  · funext found
    cases found <;> rfl

/-- **As a sequence a view agrees with the list that it stands for.**  Let the elements be as many as
a length can say, and each of them the same as itself, or one object at every read.

* Going backwards yields the list reversed, with the reads that making a list of the view turned
  round takes, where there is room for one.
* An object is counted as often as in the list, and it is in the view if it is in the list.
* The index between any two bounds, of any size, is the one in the list; if there is none it is not
  found.  A comparison that fails ends the search of the view and that of the list alike.
* So an object is in the view just if it has an index, and if all comparisons are decided, just if
  the search for its index does not end with a fault of the kind of a value. -/
theorem sequence_agrees_with_list (checks : Bool) {v : View α} {xs : List α} (h : v.Shows xs)
    (hlen : xs.length ≤ maxLength) (hself : ∀ a ∈ xs, Same a a) :
    (∀ room, xs.length ≤ room → (v.toListWithin room checks).outcome = .ok xs) ∧
    (∃ w, v.get checks (Slice.toValue ⟨none, none, some (-1)⟩) = pure (.view w) ∧
      (∀ room, xs.length ≤ room → v.reversed checks = w.toListWithin room checks) ∧
      (v.reversed checks).outcome = .ok xs.reverse ∧
      sameList xs.reverse xs.reverse = .ok true) ∧
    ∀ q : Search α, q.elements = xs →
      (v.count checks q.object).outcome = q.count ∧
      (v.contains checks q.object).outcome = q.contains ∧
      (∀ start stop, (v.index checks q.object (some start) stop).outcome =
        q.index start stop >>= fun found =>
          match found with
          | some p => .ok (p : Int)
          | none => .error .notFound) ∧
      ((v.contains checks q.object).outcome = .ok true ↔
        ∃ i, (v.index checks q.object (some 0) none).outcome = .ok i) ∧
      ((∀ a ∈ xs, ∃ r, Alike.same a q.object = .ok r) →
        ((v.contains checks q.object).outcome = .ok true ↔
          ∀ e, (v.index checks q.object (some 0) none).outcome = .error e →
            e.kind.isA .value = false)) := by
  refine ⟨fun room hroom => ?_, ?_, ?_⟩
  · rw [h.toListWithin hlen checks hroom]
  · have hback := Slice.normalize_backwards v.size
    have hstep := (Slice.step_of_normalize hback).2
    have hw : (v.narrow _ hstep).Shows xs.reverse := by
      rw [← pick_backwards]
      exact h.slice hback
    have hreversed := reversed_eq_iterate checks (h.size.trans_le hlen) hstep
    refine ⟨_, get_toValue checks hback, ?_, ?_, ?_⟩
    · intro room hroom
      have hlen := h.size.trans_le hlen
      have hroom := h.size.trans_le hroom
      rw [hreversed]
      exact (toListWithin_of_le checks (v := v.narrow _ hstep) hlen hroom).symm
    · rw [hreversed, hw.iterate]
    · refine sameList_eq_true_iff.2 (List.forall₂_same.2 ?_)
      intro a ha
      exact hself a (List.mem_reverse.1 ha)
  · rintro q rfl
    have hcontains := outcome_contains h hself checks
    have hindex := outcome_index h hlen hself checks
    rw [hcontains, hindex 0 none, q.contains_eq_index]
    refine ⟨outcome_count h hself checks, rfl, hindex, ?_, ?_⟩
    · cases q.index 0 none with
      | error e => exact ⟨nofun, nofun⟩
      | ok found =>
        cases found with
        | none => exact ⟨nofun, nofun⟩
        | some p => exact ⟨fun _ => ⟨p, rfl⟩, fun _ => rfl⟩
    · intro hdecided
      obtain ⟨found, hfound⟩ := q.exists_index 0 none hdecided
      rw [hfound]
      cases found with
      | none => exact ⟨nofun, fun hnone => nomatch hnone .notFound rfl⟩
      | some p => exact ⟨fun _ => nofun, fun _ => rfl⟩

/-- Four objects, of which two are the number five, the second one the very object sought.  `True` is
found as the number one; between the second element and the last but one there is no five. -/
theorem sequence_agrees_with_list_of_four :
    let xs : List Value := [.int 5, .bool true, .int 5, .none]
    let b := Backing.ofSequence 0 "SequenceBacking" .plain (.tuple xs)
    let v : View Value := ⟨.plain, b, Window.whole 4⟩
    v.Shows xs ∧ xs.length ≤ maxLength ∧ (∀ a ∈ xs, Same a a) ∧
    (v.reversed true).outcome = .ok xs.reverse ∧
    (v.count true (.int 5)).outcome = .ok 2 ∧
    (v.contains true (.int 1)).outcome = .ok true ∧
    (v.index true (.int 5) (some (-3)) (some 99999999999999999999)).outcome = .ok 2 ∧
    (v.index true (.int 5) (some 1) (some (-2))).outcome = .error .notFound := by
  intro xs b v
  have hb : b.Holds xs := Backing.holds_ofSequence 0 "SequenceBacking" .plain rfl rfl (by decide)
  have hv : v.Shows xs := shows_full .plain hb
  have hlen : xs.length ≤ maxLength := by decide +kernel
  have hself : ∀ a ∈ xs, Same a a := by
    simp only [xs, List.forall_mem_cons]
    exact ⟨by rfl, by rfl, by rfl, by rfl, nofun⟩
  let five : Search Value := ⟨xs, .int 5, (· == 2), by
    intro p a hp ha
    obtain rfl : p = 2 := by simpa using hp
    exact (Option.some.inj ha).symm⟩
  let one : Search Value := ⟨xs, .int 1, fun _ => false, nofun⟩
  obtain ⟨-, ⟨w, -, -, hreversed, -⟩, hsearch⟩ := sequence_agrees_with_list true hv hlen hself
  obtain ⟨hcount, -, hindex, -⟩ := hsearch five rfl
  obtain ⟨-, hcontains, -⟩ := hsearch one rfl
  refine ⟨hv, hlen, hself, hreversed, hcount.trans ?_, hcontains.trans ?_, ?_, ?_⟩
  · rfl
  · rfl
  · exact (hindex (-3) (some 99999999999999999999)).trans rfl
  · exact (hindex 1 (some (-2))).trans rfl

end View

end Strided
