import Strided.Proofs.Outcome
import Strided.Proofs.Slice.Positions
import Strided.Value.Item

/-!
# Slices with any values as fields

A slice describes a range of indices into a sequence.  `Slice.range` says where it begins and where
it ends, by moving each bound to the nearest place that the range can begin or end at.  The bounds
of a slice are this range (`range_of_normalize`), with the number of indices that come before its
stop (`before_index_iff`).

The fields of a slice may be any values.  `normalize_values` says what comes of them.  If each of
them is left out or an integer, and the step is not zero, then the slice has bounds, and else it is
refused, with one exception: an object may fail with a fault of its own when it is asked for its
integer, and this fault is what comes of the slice if the fields that are looked at before are in
order.

A list, a tuple, a text and bytes are subscripted in the same way, with messages of their own: what
is a slice of a view is one of them too (`ofPlainValues_of_ofValues`), and its bounds select the
same (`Value.exists_subscriptSequence`).
-/

namespace Strided

namespace Bounds

/-- The index is before the stop, in the direction of the step. -/
def Before (b : Bounds) (i : Int) : Prop := if 0 < b.step then i < b.stop else b.stop < i

end Bounds

namespace Slice

/-! ### The range that a slice describes -/

/-- The range of indices into `n` elements that a slice describes: where it begins, where it ends,
and the step.  A bound is moved to the nearest place between the first and the last one in the
direction of the step, and a bound that is left out is the first or the last one itself. -/
def range (s : Slice) (n : Nat) : Int × Int × Int :=
  let step := s.step.getD 1
  let first : Int := if 0 < step then 0 else n - 1
  let last : Int := if 0 < step then n else -1
  let nearest (i : Int) : Int := max (min first last) (min (max first last) (fromStart n i))
  ((s.start.map nearest).getD first, (s.stop.map nearest).getD last, step)

/-- A negative field is moved only up and any other only down, as neither could pass the other
bound. -/
theorem clamp_eq_nearest (field : Option Int) (default : Int) {lower upper : Int} {n : Nat}
    (hlo : lower ≤ 0) (hup : (n : Int) - 1 ≤ upper) (hle : lower ≤ upper) :
    clamp field default lower upper n =
      (field.map fun i => max lower (min upper (fromStart n i))).getD default := by
  cases field with
  | none => rfl
  | some i =>
    simp only [clamp, fromStart, Option.map_some, Option.getD_some]
    split <;> omega

theorem range_of_normalize {s : Slice} {n : Nat} {b : Bounds} (h : s.normalize n = .ok b) :
    (b.start, b.stop, b.step) = s.range n := by
  obtain ⟨hstep, h0⟩ := step_of_normalize h
  rw [hstep] at h0
  rcases Int.lt_or_gt_of_ne h0 with hneg | hpos
  · rw [normalize_of_neg hneg] at h
    cases h
    have hends : (-1 : Int) ≤ n - 1 := by omega
    simp only [range, if_neg (show ¬ 0 < s.step.getD 1 by omega), min_eq_right hends,
      max_eq_left hends]
    rw [clamp_eq_nearest _ _ (by omega) le_rfl hends, clamp_eq_nearest _ _ (by omega) le_rfl hends]
  · rw [normalize_of_pos hpos] at h
    cases h
    have hends : (0 : Int) ≤ n := by omega
    simp only [range, if_pos hpos, min_eq_left hends, max_eq_right hends]
    rw [clamp_eq_nearest _ _ le_rfl (by omega) hends, clamp_eq_nearest _ _ le_rfl (by omega) hends]

/-- The bounds select as many indices as there are before the stop. -/
theorem before_index_iff {s : Slice} {n : Int} {b : Bounds} (h : s.normalize n = .ok b) (k : Nat) :
    b.Before (b.index k) ↔ k < b.count := by
  obtain ⟨hstep, h0⟩ := step_of_normalize h
  rw [hstep] at h0
  rcases Int.lt_or_gt_of_ne h0 with hneg | hpos
  · rw [normalize_of_neg hneg] at h
    cases h
    simp only [Bounds.Before, Bounds.index, if_neg (show ¬ 0 < s.step.getD 1 by omega)]
    rw [lt_stepsUp_iff (show 0 < -s.step.getD 1 by omega), Int.mul_neg]
    omega
  · rw [normalize_of_pos hpos] at h
    cases h
    simp only [Bounds.Before, Bounds.index, if_pos hpos]
    rw [lt_stepsUp_iff hpos]

/-! ### Values as fields -/

/-- The value is a field: it is left out, or it is an integer. -/
inductive IsField : Value → Option Int → Prop where
  | leftOut : IsField .none none
  | integer {v : Value} {i : Int} : v.toIndex = .ok i → IsField v (some i)

/-- Of the values, in order, the first one that is no field fails with a fault of its own. -/
def OwnFault (values : List Value) (e : Fault) : Prop :=
  ∃ before v after, values = before ++ v :: after ∧ (∀ w ∈ before, ∃ i, IsField w i) ∧
    v.toIndex = .error e ∧ e.kind.isA .type = false

theorem field_eq_ok_iff {v : Value} {i : Option Int} : field v = .ok i ↔ IsField v i := by
  constructor
  · intro h
    unfold field at h
    split at h
    · cases h
      exact .leftOut
    · split at h
      next n hn =>
        cases h
        exact .integer hn
      · split at h <;> cases h
  · rintro (_ | hv)
    · rfl
    · unfold field
      split
      · cases hv
      · rw [hv]

theorem eq_of_field_eq_error {v : Value} {e : Fault} (h : field v = .error e) :
    e = .fieldNotInteger ∨ v.toIndex = .error e ∧ e.kind.isA .type = false := by
  unfold field at h
  split at h
  · cases h
  · split at h
    · cases h
    next f hf =>
      split at h
      · cases h
        exact .inl rfl
      next hkind =>
        cases h
        exact .inr ⟨hf, by simpa using hkind⟩

theorem field_eq_error_of_own {v : Value} {e : Fault} (hv : v.toIndex = .error e)
    (he : e.kind.isA .type = false) : field v = .error e := by
  unfold field
  split
  · cases hv
    cases he
  · rw [hv]
    exact if_neg (by simp [he])

variable {start stop step : Value} {e : Fault}

theorem ofValues_eq_ok_iff {s : Slice} :
    ofValues start stop step = .ok s ↔
      IsField start s.start ∧ IsField stop s.stop ∧ IsField step s.step := by
  obtain ⟨i, j, k⟩ := s
  simp only [← field_eq_ok_iff, ofValues]
  cases field step <;> cases field start <;> cases field stop <;>
    simp [bind, Except.bind, and_comm, and_left_comm]

/-- The step is looked at first. -/
theorem ofValues_eq_error_iff :
    ofValues start stop step = .error e ↔ [step, start, stop].mapM field = .error e := by
  simp only [ofValues, List.mapM_cons, List.mapM_nil]
  cases field step <;> cases field start <;> cases field stop <;>
    simp [bind, Except.bind, pure, Except.pure]

theorem ofValues_of_ownFault (h : OwnFault [step, start, stop] e) :
    ofValues start stop step = .error e := by
  obtain ⟨before, v, after, hsplit, hbefore, hv, he⟩ := h
  rw [ofValues_eq_error_iff, mapM_eq_error_iff]
  refine ⟨before, v, after, hsplit, fun w hw => ?_, field_eq_error_of_own hv he⟩
  obtain ⟨i, hi⟩ := hbefore w hw
  exact ⟨i, field_eq_ok_iff.2 hi⟩

theorem eq_of_ofValues_eq_error (h : ofValues start stop step = .error e)
    (hown : ¬ OwnFault [step, start, stop] e) :
    e = .fieldNotInteger ∧ ∃ v ∈ [step, start, stop], ∀ i, ¬ IsField v i := by
  rw [ofValues_eq_error_iff, mapM_eq_error_iff] at h
  obtain ⟨before, v, after, hsplit, hbefore, hv⟩ := h
  rcases eq_of_field_eq_error hv with he | ⟨hv', he⟩
  · refine ⟨he, v, hsplit ▸ List.mem_append_right _ (List.mem_cons_self ..), fun i hi => ?_⟩
    cases (field_eq_ok_iff.2 hi).symm.trans hv
  · refine absurd ⟨before, v, after, hsplit, fun w hw => ?_, hv', he⟩ hown
    obtain ⟨i, hi⟩ := hbefore w hw
    exact ⟨i, field_eq_ok_iff.1 hi⟩

/-! ### Fields of plain sequences -/

/-- What is read as a field of a slice of a view is one of a slice of a plain sequence too. -/
theorem plainField_of_field {v : Value} {x : Option Int} (h : field v = .ok x) :
    plainField v = .ok x := by
  unfold field at h
  split at h
  · exact h
  · next hv =>
    unfold plainField
    split
    · exact absurd rfl hv
    · split at h
      · next hn =>
        rw [hn]
        exact h
      · split at h <;> cases h

theorem ofPlainValues_of_ofValues {s : Slice} (h : ofValues start stop step = .ok s)
    (hs : s.step ≠ some 0) : ofPlainValues start stop step = .ok s := by
  obtain ⟨z, hz, h⟩ := exists_of_bind_eq_ok h
  obtain ⟨x, hx, h⟩ := exists_of_bind_eq_ok h
  obtain ⟨y, hy, h⟩ := exists_of_bind_eq_ok h
  cases h
  rw [ofPlainValues, plainField_of_field hz, plainField_of_field hx, plainField_of_field hy]
  change (if z = some 0 then _ else _) = _
  rw [if_neg hs]
  rfl

/-! ### Any values -/

/-- **What comes of a slice whose fields are any values.**

* If each field is left out or an integer and the step is not zero, then the slice has bounds.  They
  are the range that it describes; as many indices are selected as come before the stop, and all of
  them are indices of elements.
* If the first value that is no field, in the order of step, start and stop, fails with a fault of
  its own, then this is what comes of the slice, and no refusal of the subscript.
* Otherwise the subscript is refused just if some value is no field or the step is zero. -/
theorem normalize_values (start stop step : Value) (n : Nat) :
    let r := ofValues start stop step >>= (·.normalize n)
    (∀ s : Slice, IsField start s.start → IsField stop s.stop → IsField step s.step →
      s.step ≠ some 0 → ∃ b, r = .ok b ∧ (b.start, b.stop, b.step) = s.range n ∧
        (∀ k : Nat, b.Before (b.index k) ↔ k < b.count) ∧
        ∀ k < b.count, 0 ≤ b.index k ∧ b.index k < n) ∧
    (∀ e, OwnFault [step, start, stop] e → r = .error e ∧ e.kind ≠ .subscriptType) ∧
    ((∀ e, ¬ OwnFault [step, start, stop] e) →
      ((∃ e, r = .error e ∧ e.kind = .subscriptType) ↔
        (∃ v ∈ [step, start, stop], ∀ i, ¬ IsField v i) ∨ IsField step (some 0))) := by
  intro r
  have hbind : r = ofValues start stop step >>= (·.normalize n) := rfl
  refine ⟨fun s hstart hstop hstep h0 => ?_, fun e he => ?_, fun hown => ⟨?_, fun h => ?_⟩⟩
  · rw [hbind, ofValues_eq_ok_iff.2 ⟨hstart, hstop, hstep⟩]
    obtain ⟨b, hb⟩ := exists_normalize h0 n
    exact ⟨b, hb, range_of_normalize hb, before_index_iff hb, fun k hk => index_mem hb hk⟩
  · rw [hbind, ofValues_of_ownFault he]
    refine ⟨rfl, fun hkind => ?_⟩
    obtain ⟨-, v, -, -, -, -, htype⟩ := he
    rw [hkind] at htype
    cases htype
  · rintro ⟨e, hr, -⟩
    rw [hbind] at hr
    cases hs : ofValues start stop step with
    | error f => exact .inl (eq_of_ofValues_eq_error hs (hown f)).2
    | ok s =>
      rw [hs] at hr
      have hzero : s.step = some 0 := normalize_eq_error_iff.1 ⟨e, hr⟩
      exact .inr (hzero ▸ (ofValues_eq_ok_iff.1 hs).2.2)
  · rw [hbind]
    cases hs : ofValues start stop step with
    | error f =>
      obtain ⟨rfl, -⟩ := eq_of_ofValues_eq_error hs (hown f)
      exact ⟨_, rfl, rfl⟩
    | ok s =>
      -- All values are fields, so it is for the step that the subscript is refused.
      obtain ⟨hstart, hstop, hstep⟩ := ofValues_eq_ok_iff.1 hs
      rcases h with ⟨v, hv, hnone⟩ | hzero
      · simp only [List.mem_cons, List.not_mem_nil, or_false] at hv
        rcases hv with rfl | rfl | rfl
        · exact absurd hstep (hnone _)
        · exact absurd hstart (hnone _)
        · exact absurd hstop (hnone _)
      · have hstep' : s.step = some 0 :=
          Except.ok.inj ((field_eq_ok_iff.2 hstep).symm.trans (field_eq_ok_iff.2 hzero))
        exact ⟨.zeroStep, normalize_of_zero hstep' n, rfl⟩

/-- From the last element but one down, by three and to the front; a step that fails on its own,
before a start that is no integer is looked at; and such a start with a step of zero. -/
theorem normalize_values_going_down :
    let last : Value := .index (.int (-2)) none
    let failing : Value := .badIndex .runtime "boom" none
    (IsField last (some (-2)) ∧ IsField .none none ∧ IsField (.int (-3)) (some (-3)) ∧
      ∃ b, (ofValues last .none (.int (-3)) >>= (·.normalize 7)) = .ok b ∧
        (b.start, b.stop, b.step) = (5, -1, -3) ∧ b.count = 2) ∧
    (OwnFault [failing, .text "x", .none] (.raised .runtime "boom") ∧
      (ofValues (.text "x") .none failing >>= (·.normalize 7)) =
        .error (.raised .runtime "boom")) ∧
    ((∀ e, ¬ OwnFault [.int 0, .text "x", .none] e) ∧
      ∃ e, (ofValues (.text "x") .none (.int 0) >>= (·.normalize 7)) = .error e ∧
        e.kind = .subscriptType) := by
  intro last failing
  refine ⟨?_, ?_, ?_⟩
  · have hlast : IsField last (some (-2)) := .integer rfl
    have hstep : IsField (.int (-3)) (some (-3)) := .integer rfl
    obtain ⟨b, hb, hrange, hcount, -⟩ := (normalize_values last .none (.int (-3)) 7).1
      ⟨some (-2), none, some (-3)⟩ hlast .leftOut hstep (by decide)
    have hbounds : (b.start, b.stop, b.step) = (5, -1, -3) := hrange.trans (by decide)
    refine ⟨hlast, .leftOut, hstep, b, hb, hbounds, ?_⟩
    simp only [Prod.mk.injEq] at hbounds
    obtain ⟨hstart, hstop, hbstep⟩ := hbounds
    simp only [Bounds.Before, Bounds.index, hstart, hstop, hbstep] at hcount
    have h1 := hcount 1
    have h2 := hcount 2
    norm_num at h1 h2
    omega
  · have hown : OwnFault [failing, .text "x", .none] (.raised .runtime "boom") :=
      ⟨[], failing, _, rfl, nofun, rfl, by decide⟩
    exact ⟨hown, ((normalize_values (.text "x") .none failing 7).2.1 _ hown).1⟩
  · have hown : ∀ e, ¬ OwnFault [.int 0, .text "x", .none] e := by
      rintro e ⟨_ | ⟨w, _ | ⟨w', before⟩⟩, v, after, hsplit, hbefore, hv, he⟩
      · cases hsplit
        cases hv
      · cases hsplit
        cases hv
        cases he
      · simp only [List.cons_append, List.cons.injEq] at hsplit
        obtain ⟨-, rfl, -⟩ := hsplit
        obtain ⟨i, hi⟩ := hbefore _ (List.mem_cons_of_mem _ (List.mem_cons_self ..))
        cases hi with
        | integer h => cases h
    have hzero : IsField (.int 0) (some 0) := .integer rfl
    exact ⟨hown, ((normalize_values (.text "x") .none (.int 0) 7).2.2 hown).2 (.inr hzero)⟩

/-- A start that is no integer does not always lead to a refusal of the subscript: the fault of the
step comes first. -/
theorem normalize_fails_with_step :
    let r := ofValues (.text "x") .none (.badIndex .runtime "boom" none) >>= (·.normalize 5)
    (∀ i, ¬ IsField (.text "x") i) ∧ r = .error (.raised .runtime "boom") ∧
      ∀ e, r = .error e → e.kind ≠ .subscriptType := by
  intro r
  have hr : r = .error (.raised .runtime "boom") := rfl
  refine ⟨nofun, hr, fun e he => ?_⟩
  cases hr.symm.trans he
  decide

end Slice

/-! ### Subscripts of plain sequences -/

namespace Value

/-- A slice of a plain sequence has the elements at the indices that its bounds select. -/
theorem exists_subscriptSequence (kind : SequenceKind) (items : List Value)
    {start stop step : Value} {s : Slice} (hs : Slice.ofValues start stop step = .ok s)
    (h0 : s.step ≠ some 0) :
    ∃ b ys, s.normalize items.length = .ok b ∧
      subscriptSequence kind items (.slice start stop step) = .ok (ofItems kind ys) ∧
      ys.length = b.count ∧ ∀ k < b.count, ys[k]? = items[(b.index k).toNat]? := by
  obtain ⟨b, hb⟩ := Slice.exists_normalize h0 items.length
  refine ⟨b, s.pick items, hb, ?_, ?_, ?_⟩
  · rw [subscriptSequence, Slice.ofPlainValues_of_ofValues hs h0]
    change (s.select items).map _ = _
    rw [Slice.select_of_normalize hb]
    rfl
  · rw [Slice.length_pick, Slice.length_positions hb]
  · intro k hk
    exact Slice.getElem?_pick hb hk

theorem subscriptSequence_of_toIndex (kind : SequenceKind) (items : List Value) {subscript : Value}
    {i : Int} (hi : subscript.toIndex = .ok i) :
    subscriptSequence kind items subscript = elementOf kind items subscript.familyTypeName i := by
  unfold subscriptSequence
  split
  · cases hi
  · rw [hi]

theorem elementOf_eq_ok_iff (kind : SequenceKind) {items : List Value} (typeName : String) {i : Int}
    {k : Nat} (hlen : (items.length : Int) ≤ Number.Word.greatest) (hk : k < items.length)
    (hi : i = k ∨ i = k - items.length) (a : Value) :
    elementOf kind items typeName i = .ok a ↔ items[k]? = some a := by
  have hfits : Number.Word.fits i = true :=
    Number.Word.fits_of_index hlen (by omega) (by omega)
  have hj : (if i < 0 then i + items.length else i) = k := by
    split <;> omega
  rw [elementOf, hfits]
  simp only [Bool.not_true, Bool.false_eq_true, if_false, hj, show ¬ (k : Int) < 0 by omega,
    Int.toNat_natCast]
  cases items[k]? with
  | none =>
    constructor
    · intro h
      cases h
    · intro h
      cases h
  | some b => rw [Except.ok.injEq, Option.some.injEq]

theorem exists_elementOf_eq_error (kind : SequenceKind) {items : List Value} (typeName : String)
    {i : Int} (hi : i < -items.length ∨ (items.length : Int) ≤ i) :
    ∃ e, elementOf kind items typeName i = .error e ∧ e.kind = .index := by
  rw [elementOf]
  by_cases hfits : Number.Word.fits i = true
  · refine ⟨.beyondSequence kind, ?_, rfl⟩
    have hj : (if i < 0 then i + items.length else i) < 0 ∨
        (items.length : Int) ≤ if i < 0 then i + items.length else i := by
      split <;> omega
    simp only [hfits, Bool.not_true, Bool.false_eq_true, if_false]
    generalize (if i < 0 then i + items.length else i) = j at hj
    rcases hj with hneg | hbeyond
    · rw [if_pos hneg]
    · rw [if_neg (by omega), List.getElem?_eq_none (by omega)]
  · exact ⟨.indexTooWide typeName, if_pos (by simpa using hfits), rfl⟩

end Value

end Strided
