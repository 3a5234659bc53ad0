import Strided.Proofs.View.Access

/-!
# Views that are equal

A view is compared with a peer by making a list of each and comparing these, element by element.
What the lists are made of can be told without them: `Peer.Yields` says which element there is at a
position, of a view by reading it, and two peers agree (`Peer.Agree`) if they are of one size and
yield elements that are the same at every position.  `equalsPeer_eq_true_iff` says that the
comparison, written either way, finds just that, where there is room for the lists.

Both sides are observed by their size and by what they yield and by nothing else.  So what agrees
still does when it is subscripted: a slice has the same bounds on both sides, and yields at each
position what the whole does at the index that the bounds select (`Peer.exists_slice`).
-/

namespace Strided

namespace View

/-! ### Lists -/

section Lists

variable {α : Type} [Alike α]

/-- The first element is the object that the second is, or equal to it. -/
def Same (a b : α) : Prop := Alike.same a b = .ok true

theorem sameElements_eq_true_iff {xs ys : List α} (hlen : xs.length = ys.length) :
    sameElements xs ys = .ok true ↔ List.Forall₂ Same xs ys := by
  induction xs generalizing ys with
  | nil =>
    obtain rfl : ys = [] := List.eq_nil_of_length_eq_zero hlen.symm
    exact ⟨fun _ => .nil, fun _ => rfl⟩
  | cons a xs ih =>
    cases ys with
    | nil => cases hlen
    | cons b ys =>
      have ih := ih (Nat.succ.inj hlen)
      rw [List.forall₂_cons, ← ih, sameElements, Same]
      rcases Alike.same a b with e | _ | _
      · exact ⟨nofun, fun h => nomatch h.1⟩
      · exact ⟨nofun, fun h => nomatch h.1⟩
      · exact ⟨fun h => ⟨rfl, h⟩, fun h => h.2⟩

theorem sameList_eq_true_iff {xs ys : List α} :
    sameList xs ys = .ok true ↔ List.Forall₂ Same xs ys := by
  rw [sameList]
  by_cases hlen : xs.length = ys.length
  · rw [if_pos hlen, sameElements_eq_true_iff hlen]
  · rw [if_neg hlen]
    exact ⟨nofun, fun h => absurd h.length_eq hlen⟩

theorem exists_sameElements {xs ys : List α}
    (h : ∀ (k : Nat) (a b : α), xs[k]? = some a → ys[k]? = some b → ∃ r, Alike.same a b = .ok r) :
    ∃ r, sameElements xs ys = .ok r := by
  induction xs generalizing ys with
  | nil => exact ⟨true, by cases ys <;> rfl⟩
  | cons a xs ih =>
    cases ys with
    | nil => exact ⟨true, rfl⟩
    | cons b ys =>
      obtain ⟨r, hr⟩ := h 0 a b rfl rfl
      rw [sameElements, hr]
      cases r with
      | false => exact ⟨false, rfl⟩
      | true => exact ih fun k c d hc hd => h (k + 1) c d hc hd

theorem exists_sameList {xs ys : List α}
    (h : xs.length = ys.length → ∀ (k : Nat) (a b : α), xs[k]? = some a → ys[k]? = some b →
      ∃ r, Alike.same a b = .ok r) : ∃ r, sameList xs ys = .ok r := by
  rw [sameList]
  by_cases hlen : xs.length = ys.length
  · rw [if_pos hlen]
    exact exists_sameElements (h hlen)
  · rw [if_neg hlen]
    exact ⟨false, rfl⟩

end Lists

/-! ### Elements of peers -/

namespace Peer

variable {checks : Bool}

/-- The element of a peer at a position, of a view by reading it. -/
def Yields (checks : Bool) : Peer → Nat → Value → Prop
  | view w, k, a => (w.readAt checks k).outcome = .ok a
  | list items _, k, a | tuple items, k, a => items[k]? = some a

def elements (checks : Bool) : Peer → Except Fault (List Value)
  | view w => (w.iterate checks).outcome
  | list items _ | tuple items => .ok items

/-- The elements of a peer are those that it yields at its positions. -/
theorem elements_eq_ok_iff {p : Peer} {xs : List Value} :
    p.elements checks = .ok xs ↔
      xs.length = p.size ∧ ∀ (k : Nat) (a : Value), xs[k]? = some a → p.Yields checks k a := by
  have hplain : ∀ items : List Value, (Except.ok items : Except Fault (List Value)) = .ok xs ↔
      xs.length = items.length ∧ ∀ (k : Nat) (a : Value), xs[k]? = some a → items[k]? = some a := by
    intro items
    constructor
    · intro h
      cases h
      exact ⟨rfl, fun _ _ h => h⟩
    · rintro ⟨hlen, hitems⟩
      refine congrArg _ (List.ext_getElem hlen.symm fun k hk hk' => ?_)
      have hk := hitems k xs[k] (List.getElem?_eq_getElem hk')
      exact (List.getElem?_eq_some_iff.1 hk).2
  cases p with
  | view w =>
    rw [elements, iterate_eq_mapM, Traced.outcome_mapM, mapM_range_eq_ok_iff]
    rfl
  | list items mark => exact hplain items
  | tuple items => exact hplain items

theorem exists_elements (checks : Bool) {p : Peer} (h : ∀ k < p.size, ∃ a, p.Yields checks k a) :
    ∃ xs, p.elements checks = .ok xs := by
  cases p with
  | view w =>
    rw [elements, iterate_eq_mapM, Traced.outcome_mapM]
    exact exists_mapM fun k hk => h k (List.mem_range.1 hk)
  | list items mark => exact ⟨items, rfl⟩
  | tuple items => exact ⟨items, rfl⟩

theorem Yields.unique {p : Peer} {k : Nat} {a b : Value} (ha : p.Yields checks k a)
    (hb : p.Yields checks k b) : a = b := by
  cases p with
  | view w => exact Except.ok.inj (ha.symm.trans hb)
  | list items mark => exact Option.some.inj (ha.symm.trans hb)
  | tuple items => exact Option.some.inj (ha.symm.trans hb)

/-- The peers have as many elements, and at each position elements that are the same. -/
def Agree (checks : Bool) (p q : Peer) : Prop :=
  p.size = q.size ∧ ∀ k < p.size, ∃ a b, p.Yields checks k a ∧ q.Yields checks k b ∧ Same a b

/-- It makes no difference, of two elements at one position, which of them is compared with the
other. -/
def Symmetric (checks : Bool) (p q : Peer) : Prop :=
  p.size = q.size → ∀ k < p.size, ∀ a b, p.Yields checks k a → q.Yields checks k b →
    (Same a b ↔ Same b a)

theorem Symmetric.symm {p q : Peer} (h : Symmetric checks p q) : Symmetric checks q p := by
  intro hsize k hk b a hb ha
  exact (h hsize.symm k (by omega) a b ha hb).symm

theorem Agree.symm {p q : Peer} (hagree : Agree checks p q) (hsym : Symmetric checks p q) :
    Agree checks q p := by
  obtain ⟨hsize, hsame⟩ := hagree
  refine ⟨hsize.symm, ?_⟩
  intro k hk
  have hk : k < p.size := by omega
  obtain ⟨a, b, ha, hb, hab⟩ := hsame k hk
  exact ⟨b, a, hb, ha, (hsym hsize k hk a b ha hb).1 hab⟩

theorem Symmetric.agree_iff {p q : Peer} (h : Symmetric checks p q) :
    Agree checks q p ↔ Agree checks p q :=
  ⟨fun hagree => hagree.symm h.symm, fun hagree => hagree.symm h⟩

/-! ### Comparisons -/

def compare (checks : Bool) (p q : Peer) : Except Fault Bool := do
  let xs ← p.elements checks
  let ys ← q.elements checks
  sameList xs ys

theorem compare_eq_true_iff {p q : Peer} : compare checks p q = .ok true ↔ Agree checks p q := by
  constructor
  · intro h
    obtain ⟨xs, hxs, h⟩ := exists_of_bind_eq_ok h
    obtain ⟨ys, hys, h⟩ := exists_of_bind_eq_ok h
    obtain ⟨hxlen, hx⟩ := elements_eq_ok_iff.1 hxs
    obtain ⟨hylen, hy⟩ := elements_eq_ok_iff.1 hys
    obtain ⟨hlen, hsame⟩ := List.forall₂_iff_get.1 (sameList_eq_true_iff.1 h)
    refine ⟨by omega, ?_⟩
    intro k hk
    have hkx : k < xs.length := by omega
    have hky : k < ys.length := by omega
    exact ⟨xs[k], ys[k], hx k _ (List.getElem?_eq_getElem hkx),
      hy k _ (List.getElem?_eq_getElem hky), hsame k hkx hky⟩
  · rintro ⟨hsize, hsame⟩
    obtain ⟨xs, hxs⟩ := exists_elements checks (p := p) fun k hk => by
      obtain ⟨a, -, ha, -, -⟩ := hsame k hk
      exact ⟨a, ha⟩
    obtain ⟨ys, hys⟩ := exists_elements checks (p := q) fun k hk => by
      obtain ⟨-, b, -, hb, -⟩ := hsame k (by omega)
      exact ⟨b, hb⟩
    obtain ⟨hxlen, hx⟩ := elements_eq_ok_iff.1 hxs
    obtain ⟨hylen, hy⟩ := elements_eq_ok_iff.1 hys
    have hlists : List.Forall₂ Same xs ys := by
      refine List.forall₂_iff_get.2 ⟨by omega, ?_⟩
      intro k hkx hky
      obtain ⟨a, b, ha, hb, hab⟩ := hsame k (by omega)
      rw [List.get_eq_getElem, List.get_eq_getElem,
        (hx k _ (List.getElem?_eq_getElem hkx)).unique ha,
        (hy k _ (List.getElem?_eq_getElem hky)).unique hb]
      exact hab
    rw [compare, hxs, hys]
    exact sameList_eq_true_iff.2 hlists

theorem exists_compare {p q : Peer} (hp : ∀ k < p.size, ∃ a, p.Yields checks k a)
    (hq : ∀ k < q.size, ∃ b, q.Yields checks k b)
    (hdecided : p.size = q.size → ∀ k < p.size, ∀ a b, p.Yields checks k a →
      q.Yields checks k b → ∃ r, Alike.same a b = .ok r) :
    ∃ r, compare checks p q = .ok r := by
  obtain ⟨xs, hxs⟩ := exists_elements checks hp
  obtain ⟨ys, hys⟩ := exists_elements checks hq
  obtain ⟨hxlen, hx⟩ := elements_eq_ok_iff.1 hxs
  obtain ⟨hylen, hy⟩ := elements_eq_ok_iff.1 hys
  rw [compare, hxs, hys]
  refine exists_sameList ?_
  intro hlen k a b ha hb
  have hk := (List.getElem?_eq_some_iff.1 ha).1
  exact hdecided (by omega) k (by omega) a b (hx k a ha) (hy k b hb)

end Peer

section Comparisons

variable {room : Nat} {checks : Bool} {v : View Value} {p : Peer}

/-- There is room for a list of the elements, if a list has to be made of them. -/
def Peer.HasRoom (room : Nat) : Peer → Prop
  | .view w => w.size ≤ maxLength ∧ w.size ≤ room
  | .list .. | .tuple _ => True

theorem outcome_toListWithin (checks : Bool) {w : View Value} (hw : (Peer.view w).HasRoom room) :
    (w.toListWithin room checks).outcome = (Peer.view w).elements checks := by
  rw [toListWithin_of_le checks hw.1 hw.2]
  rfl

theorem outcome_equalsInOrder (checks : Bool) {w : View Value} (hv : (Peer.view v).HasRoom room)
    (hw : (Peer.view w).HasRoom room) :
    (v.equalsInOrder room checks w).outcome = Peer.compare checks (.view v) (.view w) := by
  rw [equalsInOrder, Traced.outcome_bind, outcome_toListWithin checks hv]
  simp only [Traced.outcome_bind, outcome_toListWithin checks hw]
  rfl

theorem outcome_equalsList (checks : Bool) (hv : (Peer.view v).HasRoom room)
    (items : List Value) :
    (v.equalsList room checks items).outcome =
      (Peer.view v).elements checks >>= fun xs => sameList xs items := by
  rw [equalsList, Traced.outcome_bind, outcome_toListWithin checks hv]
  rfl

/-- Whichever side the view is on, its elements are compared with those of the peer, or the other way
round. -/
theorem outcome_equalsPeer_cases (checks : Bool) (hv : (Peer.view v).HasRoom room) (hp : p.HasRoom room) :
    ((v.equalsPeer room checks p).outcome = Peer.compare checks (.view v) p ∨
      (v.equalsPeer room checks p).outcome = Peer.compare checks p (.view v)) ∧
    ((p.equalsView room checks v).outcome = Peer.compare checks (.view v) p ∨
      (p.equalsView room checks v).outcome = Peer.compare checks p (.view v)) := by
  cases p with
  | view w =>
    have hvw := outcome_equalsInOrder checks hv hp
    have hwv := outcome_equalsInOrder checks hp hv
    refine ⟨?_, ?_⟩
    · change (v.equalsWithin room checks w).outcome = _ ∨ (v.equalsWithin room checks w).outcome = _
      rw [equalsWithin]
      split
      · exact .inr hwv
      · exact .inl hvw
    · change (w.equalsWithin room checks v).outcome = _ ∨ (w.equalsWithin room checks v).outcome = _
      rw [equalsWithin]
      split
      · exact .inl hvw
      · exact .inr hwv
  | list items mark =>
    exact ⟨.inl (outcome_equalsList checks hv items), .inl (outcome_equalsList checks hv items)⟩
  | tuple items =>
    exact ⟨.inl (outcome_equalsList checks hv items), .inl (outcome_equalsList checks hv items)⟩

/-- **A view is equal to a peer just if the two agree**, on whichever side it is written. -/
theorem equalsPeer_eq_true_iff (hv : (Peer.view v).HasRoom room) (hp : p.HasRoom room)
    (hsym : Peer.Symmetric checks (.view v) p) :
    ((v.equalsPeer room checks p).outcome = .ok true ↔ Peer.Agree checks (.view v) p) ∧
    ((p.equalsView room checks v).outcome = .ok true ↔ Peer.Agree checks (.view v) p) := by
  obtain ⟨hleft, hright⟩ := outcome_equalsPeer_cases checks hv hp
  refine ⟨?_, ?_⟩
  · rcases hleft with h | h
    · rw [h, Peer.compare_eq_true_iff]
    · rw [h, Peer.compare_eq_true_iff, hsym.agree_iff]
  · rcases hright with h | h
    · rw [h, Peer.compare_eq_true_iff]
    · rw [h, Peer.compare_eq_true_iff, hsym.agree_iff]

/-- Where the elements can be read and compared there is an answer, the same on either side. -/
theorem exists_equalsPeer (hv : (Peer.view v).HasRoom room) (hp : p.HasRoom room)
    (hsym : Peer.Symmetric checks (.view v) p)
    (hvread : ∀ k < v.size, ∃ a, (Peer.view v).Yields checks k a)
    (hpread : ∀ k < p.size, ∃ b, p.Yields checks k b)
    (hdecided : v.size = p.size → ∀ k < v.size, ∀ a b, (Peer.view v).Yields checks k a →
      p.Yields checks k b → (∃ r, Alike.same a b = .ok r) ∧ ∃ r, Alike.same b a = .ok r) :
    ∃ r, (v.equalsPeer room checks p).outcome = .ok r ∧ (p.equalsView room checks v).outcome = .ok r := by
  obtain ⟨r, hr⟩ : ∃ r, Peer.compare checks (.view v) p = .ok r := by
    refine Peer.exists_compare hvread hpread ?_
    intro hsize k hk a b ha hb
    exact (hdecided hsize k hk a b ha hb).1
  obtain ⟨r', hr'⟩ : ∃ r, Peer.compare checks p (.view v) = .ok r := by
    refine Peer.exists_compare hpread hvread ?_
    intro hsize k hk b a hb ha
    have hsize : v.size = p.size := hsize.symm
    exact (hdecided hsize k (by omega) a b ha hb).2
  have hsame : r' = r := by
    have hiff := hsym.agree_iff
    rw [← Peer.compare_eq_true_iff, ← Peer.compare_eq_true_iff, hr, hr'] at hiff
    exact Bool.eq_iff_iff.2 (by simpa using hiff)
  subst hsame
  obtain ⟨hleft, hright⟩ := outcome_equalsPeer_cases checks hv hp
  refine ⟨r', ?_, ?_⟩
  · rcases hleft with h | h <;> rw [h] <;> assumption
  · rcases hright with h | h <;> rw [h] <;> assumption

end Comparisons

/-! ### Subscripts -/

section Subscripts

variable {checks : Bool} {start stop step : Value} {s : Slice}

/-- A slice of a view yields what the view does at the indices that its bounds select. -/
theorem exists_slice (checks : Bool) (v : View Value)
    (hs : Slice.ofValues start stop step = .ok s) (h0 : s.step ≠ some 0) :
    ∃ b w, s.normalize v.size = .ok b ∧
      v.get checks (.slice start stop step) = pure (.view w) ∧ w.size = b.count ∧
      ∀ k < b.count, ∀ a, (Peer.view w).Yields checks k a ↔
        (Peer.view v).Yields checks (b.index k).toNat a := by
  obtain ⟨b, hb⟩ := Slice.exists_normalize h0 v.size
  refine ⟨b, _, hb, get_slice checks hs hb, rfl, ?_⟩
  intro k hk a
  have hindex : b.index k = ((b.index k).toNat : Nat) :=
    (Int.toNat_of_nonneg (Slice.index_mem hb hk).1).symm
  rw [Peer.Yields, Peer.Yields, readAt_narrow checks _ hindex]

namespace Peer

theorem get_view_eq_value_iff {w : View Value} {subscript a : Value} :
    ((view w).operand.get checks subscript).outcome = .ok (.value a) ↔
      (w.get checks subscript).outcome = .ok (.element a) := by
  rw [operand, Addend.get, Traced.outcome_map, map_eq_ok_iff]
  constructor
  · rintro ⟨x, hx, ha⟩
    cases x with
    | element b =>
      cases ha
      exact hx
    | view u => cases ha
  · intro h
    exact ⟨.element a, h, rfl⟩

theorem get_list (checks : Bool) (items : List Value) (mark : Mark) (subscript : Value) :
    (list items mark).operand.get checks subscript =
      .ofExcept (.value <$> Value.subscriptSequence .list items subscript) := rfl

theorem get_tuple (checks : Bool) (items : List Value) (subscript : Value) :
    (tuple items).operand.get checks subscript =
      .ofExcept (.value <$> Value.subscriptSequence .tuple items subscript) := rfl

theorem exists_slice (checks : Bool) (p : Peer) (hs : Slice.ofValues start stop step = .ok s)
    (h0 : s.step ≠ some 0) :
    ∃ b, ∃ q : Peer, s.normalize p.size = .ok b ∧
      p.operand.get checks (.slice start stop step) = pure q.operand ∧ q.size = b.count ∧
      ∀ k < b.count, ∀ a, q.Yields checks k a ↔ p.Yields checks (b.index k).toNat a := by
  cases p with
  | view v =>
    obtain ⟨b, w, hb, hget, hsize, hyields⟩ := v.exists_slice checks hs h0
    refine ⟨b, .view w, hb, ?_, hsize, hyields⟩
    rw [operand, Addend.get, hget, map_pure]
    rfl
  | list items mark =>
    obtain ⟨b, ys, hb, hget, hsize, hyields⟩ := Value.exists_subscriptSequence .list items hs h0
    refine ⟨b, .list ys none, hb, ?_, hsize, ?_⟩
    · rw [get_list, hget]
      rfl
    · intro k hk a
      rw [Yields, Yields, hyields k hk]
  | tuple items =>
    obtain ⟨b, ys, hb, hget, hsize, hyields⟩ := Value.exists_subscriptSequence .tuple items hs h0
    refine ⟨b, .tuple ys, hb, ?_, hsize, ?_⟩
    · rw [get_tuple, hget]
      rfl
    · intro k hk a
      rw [Yields, Yields, hyields k hk]

/-- The kind of fault that an index out of range is. -/
def rangeFault : Peer → FaultKind
  | view _ => .sliceIndex
  | list .. | tuple _ => .index

end Peer

variable {subscript : Value} {i : Int}

theorem get_eq_element_iff {v : View Value} (hi : subscript.toIndex = .ok i) {k : Nat}
    (hk : k < v.size) (hik : i = k ∨ i = k - v.size) (a : Value) :
    (v.get checks subscript).outcome = .ok (.element a) ↔ (Peer.view v).Yields checks k a := by
  rw [get_of_toIndex checks v hi, elementAt_of_wrap checks (Window.wrap?_eq_some_iff.2 ⟨hk, hik⟩),
    Traced.outcome_map, Peer.Yields, map_eq_ok_iff]
  simp

theorem get_of_outside {v : View Value} (hi : subscript.toIndex = .ok i)
    (hout : i < -v.size ∨ (v.size : Int) ≤ i) :
    v.get checks subscript = .fail .indexOutOfRange := by
  rw [get_of_toIndex checks v hi, elementAt_of_wrap_none checks (Window.wrap?_eq_none_iff.2 hout)]
  rfl

namespace Peer

theorem get_eq_value_iff {p : Peer} (hp : p.size ≤ maxLength) (hi : subscript.toIndex = .ok i)
    {k : Nat} (hk : k < p.size) (hik : i = k ∨ i = k - p.size) (a : Value) :
    (p.operand.get checks subscript).outcome = .ok (.value a) ↔ p.Yields checks k a := by
  have hplain : ∀ (kind : SequenceKind) (items : List Value), items.length ≤ maxLength →
      k < items.length → i = k ∨ i = k - items.length →
      ((Addend.value <$> Value.subscriptSequence kind items subscript :
        Except Fault (Addend Value)) = .ok (.value a) ↔ items[k]? = some a) := by
    intro kind items hlen hk hik
    have hgreatest : (maxLength : Int) = Number.Word.greatest := rfl
    have hlen : (items.length : Int) ≤ Number.Word.greatest := by omega
    rw [Value.subscriptSequence_of_toIndex kind items hi, map_eq_ok_iff,
      ← Value.elementOf_eq_ok_iff kind subscript.familyTypeName hlen hk hik a]
    simp
  cases p with
  | view v =>
    rw [get_view_eq_value_iff, get_eq_element_iff hi hk hik a]
  | list items mark => exact hplain .list items hp hk hik
  | tuple items => exact hplain .tuple items hp hk hik

theorem exists_get_eq_fail (p : Peer) (hi : subscript.toIndex = .ok i)
    (hout : i < -p.size ∨ (p.size : Int) ≤ i) :
    ∃ e, p.operand.get checks subscript = .fail e ∧ e.kind = p.rangeFault := by
  cases p with
  | view v =>
    refine ⟨.indexOutOfRange, ?_, rfl⟩
    rw [operand, Addend.get, get_of_outside hi hout]
    rfl
  | list items mark =>
    obtain ⟨e, he, hkind⟩ := Value.exists_elementOf_eq_error .list subscript.familyTypeName hout
    refine ⟨e, ?_, hkind⟩
    rw [get_list, Value.subscriptSequence_of_toIndex .list items hi, he]
    rfl
  | tuple items =>
    obtain ⟨e, he, hkind⟩ := Value.exists_elementOf_eq_error .tuple subscript.familyTypeName hout
    refine ⟨e, ?_, hkind⟩
    rw [get_tuple, Value.subscriptSequence_of_toIndex .tuple items hi, he]
    rfl

end Peer

end Subscripts

/-! ### Equality as a congruence -/

section Congruence

variable {checks : Bool} {v : View Value} {p : Peer}

theorem Peer.hasRoom_of_size_le {room : Nat} (hmax : p.size ≤ maxLength) (hp : p.size ≤ room) :
    p.HasRoom room := by
  cases p with
  | view w => exact ⟨hmax, hp⟩
  | list items mark => trivial
  | tuple items => trivial

theorem Peer.Agree.slice (h : Peer.Agree checks (.view v) p)
    (hsym : Peer.Symmetric checks (.view v) p) {start stop step : Value} {s : Slice}
    (hs : Slice.ofValues start stop step = .ok s) (h0 : s.step ≠ some 0) :
    ∃ (w : View Value) (q : Peer), v.get checks (.slice start stop step) = pure (.view w) ∧
      p.operand.get checks (.slice start stop step) = pure q.operand ∧ w.size ≤ v.size ∧
      Peer.Agree checks (.view w) q ∧ Peer.Symmetric checks (.view w) q := by
  obtain ⟨hsize, hsame⟩ := h
  obtain ⟨b, w, hb, hw, hwsize, hwyields⟩ := v.exists_slice checks hs h0
  obtain ⟨c, q, hc, hq, hqsize, hqyields⟩ := p.exists_slice checks hs h0
  -- Both are resolved against one length, so both have the same bounds.
  have hbounds : c = b := by
    rw [← hsize] at hc
    exact Except.ok.inj (hc.symm.trans hb)
  subst c
  have hindex : ∀ k < b.count, (b.index k).toNat < v.size := by
    intro k hk
    have := Slice.index_mem hb hk
    omega
  refine ⟨w, q, hw, hq, ?_, ⟨hwsize.trans hqsize.symm, ?_⟩, ?_⟩
  · rw [hwsize, ← Slice.length_positions hb]
    exact s.length_positions_le v.size
  · intro k hk
    have hk : k < b.count := hwsize ▸ hk
    obtain ⟨a, d, ha, hd, had⟩ := hsame _ (hindex k hk)
    exact ⟨a, d, (hwyields k hk a).2 ha, (hqyields k hk d).2 hd, had⟩
  · intro _ k hk a d ha hd
    have hk : k < b.count := hwsize ▸ hk
    exact hsym hsize _ (hindex k hk) a d ((hwyields k hk a).1 ha) ((hqyields k hk d).1 hd)

/-- At an index what agrees has elements that are the same, or the index is out of range. -/
theorem Peer.Agree.index (h : Peer.Agree checks (.view v) p) (hv : v.size ≤ maxLength)
    {subscript : Value} {i : Int} (hi : subscript.toIndex = .ok i) :
    (∃ a b, (v.get checks subscript).outcome = .ok (.element a) ∧
      (p.operand.get checks subscript).outcome = .ok (.value b) ∧ Same a b) ∨
    v.get checks subscript = .fail .indexOutOfRange ∧
      ∃ e, p.operand.get checks subscript = .fail e ∧ e.kind = p.rangeFault := by
  obtain ⟨hsize, hsame⟩ := h
  have hsize : v.size = p.size := hsize
  by_cases hin : -(v.size : Int) ≤ i ∧ i < v.size
  · obtain ⟨k, -, hk, hik⟩ := Slice.exists_fromStart hin.1 hin.2
    obtain ⟨a, b, ha, hb, hab⟩ := hsame k hk
    refine .inl ⟨a, b, (get_eq_element_iff hi hk hik a).2 ha, ?_, hab⟩
    rw [hsize] at hv hk hik
    exact (Peer.get_eq_value_iff hv hi hk hik b).2 hb
  · have hout : i < -v.size ∨ (v.size : Int) ≤ i := by omega
    refine .inr ⟨get_of_outside hi hout, ?_⟩
    rw [hsize] at hout
    exact p.exists_get_eq_fail hi hout

end Congruence

/-- **Equality of views is symmetric, and subscripting keeps it.**  Take a view and a peer: another
view, with any window and store of its own, a list or a tuple.  Let there be room for the lists that
are made of views, and let it make no difference, of two elements at one index, which of them is
compared with the other.

* It makes no difference on which side the view is written: it is equal to the peer just if both
  have as many elements and those at each index are the same.
* What is equal stays so under every slice with a step other than zero, and at every index: either
  there are elements on both sides, and they are the same, or the index is out of range on both.
* If all elements can be read and compared, then there is an answer, and it is the same on either
  side. -/
theorem equality_is_congruence (room : Nat) (checks : Bool) {v : View Value} {p : Peer}
    (hv : (Peer.view v).HasRoom room) (hp : p.HasRoom room)
    (hsym : ∀ (i : Int) (a b : Value), (v.get checks (.int i)).outcome = .ok (.element a) →
      (p.operand.get checks (.int i)).outcome = .ok (.value b) → (Same a b ↔ Same b a)) :
    ((v.equalsPeer room checks p).outcome = .ok true ↔ (p.equalsView room checks v).outcome = .ok true) ∧
    ((v.equalsPeer room checks p).outcome = .ok true ↔ v.size = p.size ∧ ∀ k : Nat, k < v.size →
      ∃ a b, (v.get checks (.int k)).outcome = .ok (.element a) ∧
        (p.operand.get checks (.int k)).outcome = .ok (.value b) ∧ Same a b) ∧
    ((v.equalsPeer room checks p).outcome = .ok true →
      (∀ start stop step s, Slice.ofValues start stop step = .ok s → s.step ≠ some 0 →
        ∃ (w : View Value) (q : Peer), v.get checks (.slice start stop step) = pure (.view w) ∧
          p.operand.get checks (.slice start stop step) = pure q.operand ∧
          (w.equalsPeer room checks q).outcome = .ok true ∧
          (q.equalsView room checks w).outcome = .ok true) ∧
      ∀ subscript (i : Int), subscript.toIndex = .ok i →
        (∃ a b, (v.get checks subscript).outcome = .ok (.element a) ∧
          (p.operand.get checks subscript).outcome = .ok (.value b) ∧ Same a b) ∨
        v.get checks subscript = .fail .indexOutOfRange ∧
          ∃ e, p.operand.get checks subscript = .fail e ∧ e.kind = p.rangeFault) ∧
    ((∀ k : Nat, k < v.size → ∃ a, (v.get checks (.int k)).outcome = .ok (.element a)) →
      (∀ k : Nat, k < p.size → ∃ b, (p.operand.get checks (.int k)).outcome = .ok (.value b)) →
      (∀ (k : Nat) (a b : Value), (v.get checks (.int k)).outcome = .ok (.element a) →
        (p.operand.get checks (.int k)).outcome = .ok (.value b) →
        (∃ r, Alike.same a b = .ok r) ∧ ∃ r, Alike.same b a = .ok r) →
      ∃ r, (v.equalsPeer room checks p).outcome = .ok r ∧ (p.equalsView room checks v).outcome = .ok r) := by
  have hvmax : v.size ≤ maxLength := hv.1
  -- Which elements there are is told by subscripts, as long as the sizes are the same.
  have hvk : ∀ k : Nat, k < v.size → ∀ a,
      (v.get checks (.int k)).outcome = .ok (.element a) ↔ (Peer.view v).Yields checks k a :=
    fun k hk => get_eq_element_iff (Value.toIndex_int k) hk (.inl rfl)
  have hpk : v.size = p.size → ∀ k : Nat, k < v.size → ∀ b,
      (p.operand.get checks (.int k)).outcome = .ok (.value b) ↔ p.Yields checks k b := by
    intro hsize k hk
    exact Peer.get_eq_value_iff (hsize ▸ hvmax) (Value.toIndex_int k) (hsize ▸ hk) (.inl rfl)
  have hsymmetric : Peer.Symmetric checks (.view v) p := by
    intro hsize k hk a b ha hb
    exact hsym k a b ((hvk k hk a).2 ha) ((hpk hsize k hk b).2 hb)
  obtain ⟨hleft, hright⟩ := equalsPeer_eq_true_iff hv hp hsymmetric
  refine ⟨hleft.trans hright.symm, hleft.trans ⟨?_, ?_⟩, ?_, ?_⟩
  · rintro ⟨hsize, hsame⟩
    refine ⟨hsize, ?_⟩
    intro k hk
    obtain ⟨a, b, ha, hb, hab⟩ := hsame k hk
    exact ⟨a, b, (hvk k hk a).2 ha, (hpk hsize k hk b).2 hb, hab⟩
  · rintro ⟨hsize, hsame⟩
    refine ⟨hsize, ?_⟩
    intro k hk
    obtain ⟨a, b, ha, hb, hab⟩ := hsame k hk
    exact ⟨a, b, (hvk k hk a).1 ha, (hpk hsize k hk b).1 hb, hab⟩
  · intro hequal
    have hagree := hleft.1 hequal
    refine ⟨?_, fun subscript i hi => hagree.index hvmax hi⟩
    intro start stop step s hs h0
    obtain ⟨w, q, hw, hq, hwsize, hwq, hwsym⟩ := hagree.slice hsymmetric hs h0
    have hwroom : (Peer.view w).HasRoom room := ⟨hwsize.trans hvmax, hwsize.trans hv.2⟩
    have hqroom : q.HasRoom room :=
      Peer.hasRoom_of_size_le (hwq.1.symm.trans_le hwroom.1) (hwq.1.symm.trans_le hwroom.2)
    obtain ⟨hwleft, hwright⟩ := equalsPeer_eq_true_iff hwroom hqroom hwsym
    exact ⟨w, q, hw, hq, hwleft.2 hwq, hwright.2 hwq⟩
  · intro hvread hpread hdecided
    refine exists_equalsPeer hv hp hsymmetric ?_ ?_ ?_
    · intro k hk
      obtain ⟨a, ha⟩ := hvread k hk
      exact ⟨a, (hvk k hk a).1 ha⟩
    · intro k hk
      cases p with
      | view w =>
        obtain ⟨b, hb⟩ := hpread k hk
        have hb := Peer.get_view_eq_value_iff.1 hb
        exact ⟨b, (get_eq_element_iff (Value.toIndex_int k) hk (.inl rfl) b).1 hb⟩
      | list items mark => exact ⟨items[k], List.getElem?_eq_getElem hk⟩
      | tuple items => exact ⟨items[k], List.getElem?_eq_getElem hk⟩
    · intro hsize k hk a b ha hb
      exact hdecided k a b ((hvk k hk a).2 ha) ((hpk hsize k hk b).2 hb)

/-- Every other of five numbers, and a list of three with `True` for the number one: they are equal,
and stay so turned round and at each index.  To a tuple with another number in the middle the view is
not equal. -/
theorem equality_is_congruence_of_three :
    let b := Backing.ofSequence 0 "SequenceBacking" .plain
      (.tuple [.int 1, .int 7, .int 2, .int 8, .int 4])
    let v : View Value := ⟨.plain, b, ⟨0, 3, 2, by decide⟩⟩
    let p : Peer := .list [.bool true, .int 2, .int 4] none
    (Peer.view v).HasRoom 3 ∧ p.HasRoom 3 ∧
    (v.equalsPeer 3 true p).outcome = .ok true ∧ (p.equalsView 3 true v).outcome = .ok true ∧
    (∃ (w : View Value) (q : Peer), v.get true (.slice .none .none (.int (-1))) = pure (.view w) ∧
      p.operand.get true (.slice .none .none (.int (-1))) = pure q.operand ∧
      (w.equalsPeer 3 true q).outcome = .ok true ∧ (q.equalsView 3 true w).outcome = .ok true) ∧
    (∃ a c, (v.get true (.int (-2))).outcome = .ok (.element a) ∧
      (p.operand.get true (.int (-2))).outcome = .ok (.value c) ∧ Same a c) ∧
    (Peer.equalsView 3 true (.tuple [.int 1, .int 3, .int 4]) v).outcome = .ok false := by
  intro b v p
  have hv : (Peer.view v).HasRoom 3 := ⟨by decide +kernel, le_rfl⟩
  have hroom : p.HasRoom 3 := trivial
  have hwide : p.size ≤ maxLength := by decide +kernel
  have hyields : ∀ k < 3, ∃ a c, (Peer.view v).Yields true k a ∧ p.Yields true k c ∧
      Same a c ∧ Same c a := by
    intro k hk
    have hk : k = 0 ∨ k = 1 ∨ k = 2 := by omega
    rcases hk with rfl | rfl | rfl
    · exact ⟨.int 1, .bool true, by rfl, by rfl, by rfl, by rfl⟩
    · exact ⟨.int 2, .int 2, by rfl, by rfl, by rfl, by rfl⟩
    · exact ⟨.int 4, .int 4, by rfl, by rfl, by rfl, by rfl⟩
  have hget : ∀ (i : Int) (k : Nat), k < 3 → i = k ∨ i = k - (3 : Nat) → ∀ x y,
      ((v.get true (.int i)).outcome = .ok (.element x) ↔ (Peer.view v).Yields true k x) ∧
      ((p.operand.get true (.int i)).outcome = .ok (.value y) ↔ p.Yields true k y) := by
    intro i k hk hik x y
    exact ⟨get_eq_element_iff (Value.toIndex_int i) hk hik x,
      Peer.get_eq_value_iff hwide (Value.toIndex_int i) hk hik y⟩
  have hsym : ∀ (i : Int) (a c : Value), (v.get true (.int i)).outcome = .ok (.element a) →
      (p.operand.get true (.int i)).outcome = .ok (.value c) → (Same a c ↔ Same c a) := by
    intro i a c ha hc
    by_cases hin : -(3 : Nat) ≤ i ∧ i < (3 : Nat)
    · obtain ⟨k, -, hk, hik⟩ := Slice.exists_fromStart hin.1 hin.2
      obtain ⟨a', c', ha', hc', hac, hca⟩ := hyields k hk
      obtain rfl := ((hget i k hk hik a c).1.1 ha).unique ha'
      obtain rfl := ((hget i k hk hik a c).2.1 hc).unique hc'
      exact ⟨fun _ => hca, fun _ => hac⟩
    · have hout : i < -v.size ∨ (v.size : Int) ≤ i := by
        change i < -(3 : Nat) ∨ ((3 : Nat) : Int) ≤ i
        omega
      rw [get_of_outside (Value.toIndex_int i) hout] at ha
      cases ha
  obtain ⟨hside, helements, hkept, -⟩ := equality_is_congruence 3 true hv hroom hsym
  have hequal : (v.equalsPeer 3 true p).outcome = .ok true := by
    refine helements.2 ⟨rfl, ?_⟩
    intro k hk
    obtain ⟨a, c, ha, hc, hac, -⟩ := hyields k hk
    exact ⟨a, c, (hget k k hk (.inl rfl) a c).1.2 ha, (hget k k hk (.inl rfl) a c).2.2 hc, hac⟩
  obtain ⟨hslices, hindices⟩ := hkept hequal
  refine ⟨hv, hroom, hequal, hside.1 hequal, ?_, ?_, ?_⟩
  · exact hslices .none .none (.int (-1)) ⟨none, none, some (-1)⟩ rfl (by decide)
  · rcases hindices (.int (-2)) (-2) rfl with helement | ⟨hout, -⟩
    · exact helement
    · rw [get_of_toIndex true v (Value.toIndex_int (-2)),
        elementAt_of_wrap true (show v.window.wrap? (-2) = some 1 by decide)] at hout
      cases hout
  · simp only [v, b]
    rfl

/-- A view of more elements than a list can have.  All of them are the same, and so the view has the
elements of itself, but it is not found to be equal to itself; nor is it found to differ from a list
that is shorter. -/
theorem equality_too_wide :
    let b : Backing Value :=
      { id := 0, className := "CTypesBacking", viewKind := .plain, describe := .ok "CTypesBacking",
        count := .ok 9223372036854775808, read := fun _ => .ok (.int 0), array := none }
    let v : View Value := ⟨.plain, b, Window.whole 9223372036854775808⟩
    (∃ n, b.count = .ok n ∧ v.window.Fits n) ∧
    (∀ i j a c, b.read i = .ok a → b.read j = .ok c → (Same a c ↔ Same c a)) ∧
    (v.size = (Peer.view v).size ∧ ∀ k : Nat, k < v.size →
      ∃ a c, (v.get true (.int k)).outcome = .ok (.element a) ∧
        ((Peer.view v).operand.get true (.int k)).outcome = .ok (.value c) ∧ Same a c) ∧
    (∀ room, (v.equalsPeer room true (.view v)).outcome = .error .lengthTooWide) ∧
    v.size ≠ (Peer.list [] none).size ∧
    ∀ room, (v.equalsPeer room true (.list [] none)).outcome = .error .lengthTooWide := by
  intro b v
  have hfits : v.window.Fits 9223372036854775808 := Window.fits_whole _
  have hwide : v.length = .fail .lengthTooWide := by
    rw [View.length]
    exact if_neg (by decide +kernel)
  have hlist : ∀ room, v.toListWithin room true = .fail .lengthTooWide := by
    intro room
    rw [toListWithin, hwide]
    rfl
  have hread : ∀ k : Nat, k < v.size → (Peer.view v).Yields true k (.int 0) := by
    intro k hk
    rw [Peer.Yields, readAt_of_mem true (n := 9223372036854775808) rfl (hfits k hk)]
    rfl
  refine ⟨⟨_, rfl, hfits⟩, ?_, ⟨rfl, ?_⟩, ?_, ?_, ?_⟩
  · intro i j a c ha hc
    cases ha
    cases hc
    exact Iff.rfl
  · intro k hk
    have hget := (get_eq_element_iff (Value.toIndex_int k) hk (.inl rfl) _).2 (hread k hk)
    exact ⟨.int 0, .int 0, hget, Peer.get_view_eq_value_iff.2 hget, rfl⟩
  · intro room
    change (v.equalsWithin room true v).outcome = _
    rw [equalsWithin, if_neg (by decide), equalsInOrder, hlist]
    rfl
  · decide
  · intro room
    change (v.equalsList room true []).outcome = _
    rw [equalsList, hlist]
    rfl

end View

end Strided
