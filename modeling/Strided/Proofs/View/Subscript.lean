import Strided.Proofs.Slice.Fields
import Strided.Proofs.View.Derivation

/-!
# Subscripts of a view

What can come of a subscript is gone through once, in `subscript_cases`.  It is an integer, or a
slice with bounds, or it fails with a fault of its own when it is asked for its integers
(`FailsWith`), or it is `Unusable`.  Which of these it is does not depend on the view, and there is
one lemma for what `View.subSlice` does with each.
-/

namespace Strided

namespace View

variable {α : Type}

/-! ### What a subscript is -/

/-- The subscript, or a field of it, fails with a fault of its own when it is asked for its
integer. -/
inductive FailsWith : Value → Fault → Prop where
  | field {start stop step : Value} {e : Fault} :
      Slice.OwnFault [step, start, stop] e → FailsWith (.slice start stop step) e
  | integer {subscript : Value} {e : Fault} :
      subscript.toIndex = .error e → e.kind.isA .type = false → FailsWith subscript e

/-- The subscript is neither an integer nor a slice, or it is a slice with a value that is no field,
or with a step of zero. -/
inductive Unusable : Value → Prop where
  | noSubscript {subscript : Value} : (∀ start stop step, subscript ≠ .slice start stop step) →
      (∀ i, subscript.toIndex ≠ .ok i) → Unusable subscript
  | noField {start stop step v : Value} : v ∈ [step, start, stop] →
      (∀ i, ¬ Slice.IsField v i) → Unusable (.slice start stop step)
  | zeroStep {start stop step : Value} : Slice.IsField step (some 0) →
      Unusable (.slice start stop step)

/-- A subscript is an integer, or a slice with bounds, or fails with a fault of its own, or is
unusable. -/
theorem subscript_cases (subscript : Value) :
    (∃ i, subscript.toIndex = .ok i) ∨
    (∃ start stop step s, subscript = .slice start stop step ∧
      Slice.ofValues start stop step = .ok s ∧ s.step ≠ some 0) ∨
    (∃ e, FailsWith subscript e) ∨ Unusable subscript ∧ ∀ e, ¬ FailsWith subscript e := by
  by_cases hown : ∃ e, FailsWith subscript e
  · exact .inr (.inr (.inl hown))
  rw [not_exists] at hown
  cases hi : subscript.toIndex with
  | ok i => exact .inl ⟨i, rfl⟩
  | error e =>
    by_cases hslice : ∃ start stop step, subscript = .slice start stop step
    · obtain ⟨start, stop, step, rfl⟩ := hslice
      cases hs : Slice.ofValues start stop step with
      | error f =>
        obtain ⟨-, v, hv, hnone⟩ :=
          Slice.eq_of_ofValues_eq_error hs fun h => hown f (.field h)
        exact .inr (.inr (.inr ⟨.noField hv hnone, hown⟩))
      | ok s =>
        by_cases h0 : s.step = some 0
        · have hstep := (Slice.ofValues_eq_ok_iff.1 hs).2.2
          exact .inr (.inr (.inr ⟨.zeroStep (h0 ▸ hstep), hown⟩))
        · exact .inr (.inl ⟨start, stop, step, s, rfl, hs, h0⟩)
    · simp only [not_exists] at hslice
      refine .inr (.inr (.inr ⟨.noSubscript hslice fun i h => ?_, hown⟩))
      cases hi.symm.trans h

/-! ### What comes of it -/

theorem get_eq_bind (checks : Bool) (v : View α) (subscript : Value) :
    v.get checks subscript = v.subSlice checks subscript >>= Traced.ofExcept := by
  rw [get]
  refine congrArg _ (funext fun x => ?_)
  cases x <;> rfl

theorem subSlice_of_toIndex (checks : Bool) (v : View α) {subscript : Value} {i : Int}
    (h : subscript.toIndex = .ok i) :
    v.subSlice checks subscript = Except.map Selected.element <$> v.itemAt checks i := by
  unfold subSlice
  split
  · cases h
  · rw [h]

theorem get_of_toIndex (checks : Bool) (v : View α) {subscript : Value} {i : Int}
    (h : subscript.toIndex = .ok i) :
    v.get checks subscript = Selected.element <$> v.elementAt checks i := by
  rw [← get_int, get_eq_bind, get_eq_bind, subSlice_of_toIndex checks v h,
    subSlice_of_toIndex checks v (Value.toIndex_int i)]

theorem subSlice_of_ofValues (checks : Bool) {v : View α} {start stop step : Value} {s : Slice}
    {b : Bounds} (hs : Slice.ofValues start stop step = .ok s) (hb : s.normalize v.size = .ok b) :
    v.subSlice checks (.slice start stop step) =
      pure (.ok (.view (v.narrow b (Slice.step_of_normalize hb).2))) := by
  rw [subSlice, hs]
  simp only [slice_of_normalize hb, map_pure]
  rfl

theorem get_slice (checks : Bool) {v : View α} {start stop step : Value} {s : Slice} {b : Bounds}
    (hs : Slice.ofValues start stop step = .ok s) (hb : s.normalize v.size = .ok b) :
    v.get checks (.slice start stop step) =
      pure (.view (v.narrow b (Slice.step_of_normalize hb).2)) := by
  rw [get_eq_bind, subSlice_of_ofValues checks hs hb, pure_bind, Traced.ofExcept_ok]

theorem subSlice_of_failsWith (checks : Bool) (v : View α) {subscript : Value} {e : Fault}
    (h : FailsWith subscript e) : v.subSlice checks subscript = .fail e := by
  cases h with
  | @field start stop step e h =>
    have hs := Slice.ofValues_of_ownFault h
    obtain ⟨-, f, -, -, -, -, he⟩ := h
    rw [subSlice, hs]
    split
    next h => cases h
    next h =>
      -- What is refused as no integer is of a kind that no fault of its own has.
      cases h
      cases he
    next h =>
      cases h
      rfl
  | integer h he =>
    unfold subSlice
    split
    · cases h
      cases he
    · rw [h]
      exact if_neg (by simp [he])

/-- A slice without bounds and without a fault of its own is refused for a value that is no
integer. -/
theorem subSlice_of_ofValues_error (checks : Bool) (v : View α) {start stop step : Value}
    {e : Fault} (hs : Slice.ofValues start stop step = .error e)
    (hown : ∀ e, ¬ FailsWith (.slice start stop step) e) :
    v.subSlice checks (.slice start stop step) = pure (.error .fieldNotInteger) := by
  obtain ⟨rfl, -⟩ := Slice.eq_of_ofValues_eq_error hs fun h => hown e (.field h)
  rw [subSlice, hs]

/-- An unusable subscript is signalled as one, whatever the view, and nothing is read. -/
theorem exists_subSlice_of_unusable {subscript : Value} (h : Unusable subscript)
    (hown : ∀ e, ¬ FailsWith subscript e) :
    ∃ e, e.kind = .subscriptType ∧
      ∀ (checks : Bool) (v : View α), v.subSlice checks subscript = pure (.error e) := by
  cases h with
  | noSubscript hslice hindex =>
    refine ⟨.notASubscript subscript.typeName, rfl, fun checks v => ?_⟩
    unfold subSlice
    split
    · exact absurd rfl (hslice _ _ _)
    · cases hi : subscript.toIndex with
      | ok i => exact absurd hi (hindex i)
      | error e =>
        have he : e.kind.isA .type = true := by
          by_contra he
          exact hown e (.integer hi (by simpa using he))
        exact if_pos he
  | @noField start stop step w hw hnone =>
    cases hs : Slice.ofValues start stop step with
    | error f =>
      exact ⟨.fieldNotInteger, rfl, fun checks v => subSlice_of_ofValues_error checks v hs hown⟩
    | ok s =>
      obtain ⟨hstart, hstop, hstep⟩ := Slice.ofValues_eq_ok_iff.1 hs
      simp only [List.mem_cons, List.not_mem_nil, or_false] at hw
      rcases hw with rfl | rfl | rfl
      · exact absurd hstep (hnone _)
      · exact absurd hstart (hnone _)
      · exact absurd hstop (hnone _)
  | @zeroStep start stop step hzero =>
    cases hs : Slice.ofValues start stop step with
    | error f =>
      exact ⟨.fieldNotInteger, rfl, fun checks v => subSlice_of_ofValues_error checks v hs hown⟩
    | ok s =>
      have hstep := (Slice.ofValues_eq_ok_iff.1 hs).2.2
      have h0 : s.step = some 0 :=
        Except.ok.inj ((Slice.field_eq_ok_iff.2 hstep).symm.trans (Slice.field_eq_ok_iff.2 hzero))
      refine ⟨.zeroStep, rfl, fun checks v => ?_⟩
      rw [subSlice, hs]
      simp only [slice_of_error (Slice.normalize_of_zero h0 v.size), map_pure]
      rfl

end View

end Strided
